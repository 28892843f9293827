import VirtualShell.Console
import VirtualShell.Proofs.History
import VirtualShell.Proofs.Session.Effect
/-!
Scripts: lines that are run one at a time on one session, until one of them logs
out. What they answer does not depend on the history of the session, since no
command reads it.
-/

namespace VirtualShell

namespace Session

variable {session after : Session} {line : String} {outcome : Outcome}

theorem mapHistory_resetBrowse (h : session.history.browse = none) :
    session.mapHistory History.resetBrowse = session := by
  rw [mapHistory, History.resetBrowse, ← h]

/-- No line begins to browse. -/
theorem Executed.browse (h : Executed session line after outcome)
    (hBrowse : session.history.browse = none) : after.history.browse = none := by
  cases h with
  | blank hBlank => exact hBrowse
  | failed | moved | wrote | read => rw [history_mapHistory, History.browse_push]

/-! What a session answers does not depend on its history. -/

theorem mapHistory_const (session : Session) (history : History) (change : History → History) :
    (session.mapHistory fun _ => history).mapHistory change =
      (session.mapHistory change).mapHistory fun _ => change history := rfl

/-- With another history a line does the same, but for the history itself. -/
theorem execute_of_history (session : Session) (history : History) (line : String) :
    ∃ later : History, (session.mapHistory fun _ => history).execute line =
      ((session.execute line).1.mapHistory fun _ => later, (session.execute line).2) := by
  cases hParse : Command.parse line with
  | none =>
      rw [execute_of_parse_none hParse, execute_of_parse_none hParse]
      exact ⟨history, rfl⟩
  | some command =>
      have hOther := Command.run_mapHistory command session fun _ => history
      cases hRun : command.run session with
      | error fault =>
          rw [hRun] at hOther
          refine ⟨history.push command.raw, ?_⟩
          rw [execute_of_run_error hParse hRun, execute_of_run_error hParse hOther,
            echo_mapHistory, mapHistory_const]
      | ok result =>
          rw [hRun] at hOther
          refine ⟨history.push command.raw, ?_⟩
          rw [execute_of_run_ok hParse hRun, execute_of_run_ok hParse hOther,
            echo_mapHistory, mapHistory_const]

/-- With another history a line shows the same texts. -/
theorem runOnce_of_history (session : Session) (history : History) (renderer : Renderer)
    (line : String) :
    ∃ later : History, (session.mapHistory fun _ => history).runOnce renderer line =
      ((session.runOnce renderer line).1.mapHistory fun _ => later,
        (session.runOnce renderer line).2) := by
  obtain ⟨later, hExecute⟩ := execute_of_history session history line
  refine ⟨later, ?_⟩
  rw [runOnce, runOnce, hExecute]
  cases session.execute line with
  | mk after outcome => rfl

/-- How a line is shown makes no difference to the session. -/
theorem session_runOnce (session : Session) (renderer : Renderer) (line : String) :
    (session.runOnce renderer line).1 = (session.execute line).1 := by
  rw [runOnce]

/-- Run lines one at a time, up to and including the first one that logs out. -/
def runScript (session : Session) (renderer : Renderer) : List String → Session × List String
  | [] => (session, [])
  | line :: rest =>
    let (after, texts) := session.runOnce renderer line
    if (session.execute line).2.effect = some .logout then (after, texts)
    else
      let (last, more) := after.runScript renderer rest
      (last, texts ++ more)

theorem runScript_cons (session : Session) (renderer : Renderer) (line : String)
    (rest : List String) :
    session.runScript renderer (line :: rest) =
      let once := session.runOnce renderer line
      if Command.builtinOf line = some .logout then once
      else ((once.1.runScript renderer rest).1, once.2 ++ (once.1.runScript renderer rest).2) := by
  rw [runScript, effect_execute]
  simp only [Command.effectOf_logout]

/-- A script shows the same texts whatever was recorded before. -/
theorem runScript_of_history (session : Session) (history : History) (renderer : Renderer)
    (lines : List String) :
    ((session.mapHistory fun _ => history).runScript renderer lines).2 =
      (session.runScript renderer lines).2 := by
  induction lines generalizing session history with
  | nil => rfl
  | cons line rest ih =>
      obtain ⟨later, hOnce⟩ := runOnce_of_history session history renderer line
      rw [runScript_cons, runScript_cons, hOnce]
      generalize session.runOnce renderer line = once
      by_cases hLogout : Command.builtinOf line = some .logout
      · rw [if_pos hLogout, if_pos hLogout]
      · rw [if_neg hLogout, if_neg hLogout]
        exact congrArg (once.2 ++ ·) (ih once.1 later)

/-- Sessions that begin on the same seed differ in their histories alone. -/
theorem eq_mapHistory_of_start {seed : Seed} {user : String} {limit limit' : Option Nat}
    {session' : Session} (h : start seed user limit = .ok session)
    (h' : start seed user limit' = .ok session') :
    session' = session.mapHistory fun _ => session'.history := by
  obtain ⟨store, hTree, rfl⟩ := eq_of_start h
  obtain ⟨store', hTree', rfl⟩ := eq_of_start h'
  rw [hTree] at hTree'
  cases hTree'
  rfl

/-- Nobody browses in a session that has just started. -/
theorem browse_of_start {seed : Seed} {user : String} {limit : Option Nat}
    (h : start seed user limit = .ok session) : session.history.browse = none := by
  obtain ⟨store, _, rfl⟩ := eq_of_start h
  cases limit <;> rfl

end Session

end VirtualShell
