import VirtualShell.Proofs.Session.Effect
import VirtualShell.Proofs.Session.Replay
/-!
What a session keeps to itself. The user, the contacts and the history of a
session show in the answers of three commands and nowhere else. Of two sessions
that stand in the same place of the same store nobody can tell one from the
other without these commands, and not even they make the sessions part.
-/

namespace VirtualShell

namespace Command

/-- A line that calls a command which answers with what it knows of the user or
the contacts, in whatever letter case. -/
def Confides (line : String) : Prop :=
  ∃ builtin : Builtin, builtin.confides = true ∧ ∃ args, Calls line builtin.name args

variable {line : String} {command : Command}

/-- Whether a line confides can be told from its command. -/
theorem confides_iff (hParse : parse line = some command) :
    Confides line ↔ ∃ builtin : Builtin, command.kind = .builtin builtin ∧ builtin.confides = true := by
  have hCalls {builtin : Builtin} (hConfides : builtin.confides = true) :
      (∃ args, Calls line builtin.name args) ↔ command.kind = .builtin builtin := by
    have hImport : builtin ≠ .importFile := by
      rintro rfl
      cases hConfides
    have hBuiltin : builtinOf line = command.builtin? := by
      rw [builtinOf, hParse, Option.bind_some]
    rw [← builtin?_eq_some_iff, ← hBuiltin, builtinOf_eq_some_iff]
    simp [hImport]
  constructor
  · rintro ⟨builtin, hConfides, hCall⟩
    exact ⟨builtin, (hCalls hConfides).mp hCall, hConfides⟩
  · rintro ⟨builtin, hKind, hConfides⟩
    exact ⟨builtin, hConfides, (hCalls hConfides).mpr hKind⟩

theorem not_confides_of_blank (hLine : Text.allBlank line = true) : ¬ Confides line := by
  rintro ⟨builtin, _, args, hCall⟩
  exact not_calls_of_blank hLine builtin.name args hCall

end Command

/-- Commands that confide always go through, and change nothing. -/
theorem Builtin.exists_run_of_confides {builtin : Builtin} (h : builtin.confides = true)
    (args : List String) (session : Session) :
    ∃ outcome, builtin.run args session = .ok (session, outcome) := by
  cases builtin with
  | whoami | comms | logout => exact ⟨_, rfl⟩
  | _ => cases h

namespace Session

/-- Two sessions that stand in the same place of the same store. -/
structure Alike (left right : Session) : Prop where
  store : left.store = right.store
  cursor : left.cursor = right.cursor

variable {left right : Session} {line : String} {command : Command}

theorem alike_mapPerson (session : Session) (user : String → String)
    (contacts : List Contact → List Contact) (history : History → History) :
    Alike session (session.mapPerson user contacts history) :=
  ⟨rfl, rfl⟩

/-- One of two sessions that are alike is the other one with another person. -/
theorem Alike.eq_mapPerson (h : Alike left right) :
    right = left.mapPerson (fun _ => right.user) (fun _ => right.contacts)
      fun _ => right.history := by
  rw [mapPerson, h.store, h.cursor]

theorem Alike.mapHistory (h : Alike left right) (mine yours : History → History) :
    Alike (left.mapHistory mine) (right.mapHistory yours) :=
  ⟨h.store, h.cursor⟩

/-- A command is echoed alike, for the prompt shows where one is and not who. -/
theorem Alike.echo (h : Alike left right) (command : Command) :
    left.echo command = right.echo command := by
  rw [Session.echo, Session.echo, h.cursor]

/-- How much the outcomes of a line on two sessions that are alike have in
common. -/
structure Discreet (line : String) (mine yours : Outcome) : Prop where
  effect : mine.effect = yours.effect
  /-- All lines are the same unless the command confides, -/
  lines : ¬ Command.Confides line → mine.lines = yours.lines
  /-- and then the echo is, and neither shows an error. -/
  confided : Command.Confides line → ∃ echo mineRest yoursRest,
    echo.kind = .input ∧ mine.lines = echo :: mineRest ∧ yours.lines = echo :: yoursRest ∧
      ¬ mine.Fails ∧ ¬ yours.Fails

/-- A line that does not confide has the same outcome on both sessions. -/
theorem Alike.execute_of_not_confides (h : Alike left right) (hLine : ¬ Command.Confides line) :
    Alike (left.execute line).1 (right.execute line).1 ∧
      (left.execute line).2 = (right.execute line).2 := by
  cases hParse : Command.parse line with
  | none =>
      rw [execute_of_parse_none hParse, execute_of_parse_none hParse]
      exact ⟨h, rfl⟩
  | some command =>
      have hOther : command.run right = (command.run left).map fun result =>
          (result.1.mapPerson (fun _ => right.user) (fun _ => right.contacts)
            fun _ => right.history, result.2) := by
        conv_lhs => rw [h.eq_mapPerson]
        cases hKind : command.kind with
        | unknown word =>
            rw [Command.run, Command.run, hKind]
            rfl
        | builtin builtin =>
            rw [Command.run_of_builtin hKind, Command.run_of_builtin hKind]
            apply Builtin.run_mapPerson
            intro hConfides
            exact absurd ((Command.confides_iff hParse).mpr ⟨builtin, hKind, hConfides⟩) hLine
      cases hRun : command.run left with
      | error fault =>
          rw [hRun] at hOther
          rw [execute_of_run_error hParse hRun, execute_of_run_error hParse hOther, h.echo]
          exact ⟨h.mapHistory (·.push command.raw) (·.push command.raw), rfl⟩
      | ok result =>
          rw [hRun] at hOther
          rw [execute_of_run_ok hParse hRun, execute_of_run_ok hParse hOther, h.echo]
          have hAfter := alike_mapPerson result.1 (fun _ => right.user) (fun _ => right.contacts)
            fun _ => right.history
          exact ⟨hAfter.mapHistory (·.push command.raw) (·.push command.raw), rfl⟩

/-- A line that confides leaves both sessions in their place, shows the same
echo first and goes through. -/
theorem Alike.execute_of_confides (h : Alike left right) (hLine : Command.Confides line) :
    Alike (left.execute line).1 (right.execute line).1 ∧
      ∃ echo mineRest yoursRest, echo.kind = .input ∧
        (left.execute line).2.lines = echo :: mineRest ∧
        (right.execute line).2.lines = echo :: yoursRest ∧
        ¬ (left.execute line).2.Fails ∧ ¬ (right.execute line).2.Fails := by
  cases hParse : Command.parse line with
  | none => exact absurd hLine (Command.not_confides_of_blank (Command.parse_eq_none_iff.mp hParse))
  | some command =>
      obtain ⟨builtin, hKind, hConfides⟩ := (Command.confides_iff hParse).mp hLine
      obtain ⟨mine, hMine⟩ := Builtin.exists_run_of_confides hConfides command.args left
      obtain ⟨yours, hYours⟩ := Builtin.exists_run_of_confides hConfides command.args right
      have hMineGoes := (execute_of_builtin_run_ok hParse hKind hMine).1
      have hYoursGoes := (execute_of_builtin_run_ok hParse hKind hYours).1
      rw [← Command.run_of_builtin hKind] at hMine hYours
      refine ⟨?_, left.echo command, mine.lines, yours.lines, rfl, ?_, ?_, hMineGoes, hYoursGoes⟩
      · rw [execute_of_run_ok hParse hMine, execute_of_run_ok hParse hYours]
        exact h.mapHistory (·.push command.raw) (·.push command.raw)
      · rw [execute_of_run_ok hParse hMine]
      · rw [execute_of_run_ok hParse hYours, h.echo]

/-- One line leaves sessions alike, and gives away no more than it may. -/
theorem Alike.execute (h : Alike left right) (line : String) :
    Alike (left.execute line).1 (right.execute line).1 ∧
      Discreet line (left.execute line).2 (right.execute line).2 := by
  have hEffect : (left.execute line).2.effect = (right.execute line).2.effect := by
    rw [effect_execute, effect_execute]
  by_cases hLine : Command.Confides line
  · obtain ⟨hAfter, hConfided⟩ := h.execute_of_confides hLine
    exact ⟨hAfter, hEffect, fun hNot => absurd hLine hNot, fun _ => hConfided⟩
  · obtain ⟨hAfter, hSame⟩ := h.execute_of_not_confides hLine
    exact ⟨hAfter, hEffect, fun _ => by rw [hSame], fun hConfides => absurd hConfides hLine⟩

/-- Any lines in order leave sessions alike. -/
theorem Alike.executeAll (h : Alike left right) (lines : List String) :
    Alike (left.executeAll lines).1 (right.executeAll lines).1 := by
  induction lines generalizing left right with
  | nil => exact h
  | cons line rest ih =>
      rw [executeAll_cons, executeAll_cons]
      exact ih (h.execute line).1

/-- Two sessions that stand in the same place of the same store, whoever uses
them, whomever they can reach and whatever was typed before, go the same way
through the same lines: after each line they are still alike, and their outcomes
differ in nothing but the answers of commands that confide. -/
theorem executeAll_discreet (h : Alike left right) (lines : List String) :
    (∀ n, Alike (left.executeAll (lines.take n)).1 (right.executeAll (lines.take n)).1) ∧
      ∀ (n : Nat) (line : String), lines[n]? = some line →
        ∃ mine yours, (left.executeAll lines).2[n]? = some mine ∧
          (right.executeAll lines).2[n]? = some yours ∧ Discreet line mine yours := by
  refine ⟨fun n => h.executeAll (lines.take n), ?_⟩
  induction lines generalizing left right with
  | nil => nofun
  | cons first rest ih =>
      obtain ⟨hAfter, hFirst⟩ := h.execute first
      rw [executeAll_cons, executeAll_cons]
      intro n line hLine
      cases n with
      | zero =>
          cases hLine
          exact ⟨_, _, rfl, rfl, hFirst⟩
      | succ n => exact ih hAfter n line hLine

/-- A guest and somebody of the highest clearance are told different things when
they ask who they are, and the same before and after. -/
theorem executeAll_discreet_small :
    let docs : Directory := ⟨"docs", .file "a" ⟨"a", "first", true⟩ .nil⟩
    let store : Store := ⟨⟨rootName, Entries.nil.insert "docs" (.dir docs)⟩⟩
    let agent : Contact := ⟨"AG-1", "Agent", "Operative", .online, .three, "", ""⟩
    let guest : Session := { store, user := "guest", history := ⟨["ls"], some 1, some 0⟩ }
    let observer : Session := { store, user := " OMEGA ", contacts := [agent] }
    let lines := ["CD docs", "WhoAmI", "touch a"]
    Alike guest observer ∧ (guest.executeAll lines).2 ≠ (observer.executeAll lines).2 ∧
      (∀ n, Alike (guest.executeAll (lines.take n)).1 (observer.executeAll (lines.take n)).1) ∧
      ∀ (n : Nat) (line : String), lines[n]? = some line →
        ∃ mine yours, (guest.executeAll lines).2[n]? = some mine ∧
          (observer.executeAll lines).2[n]? = some yours ∧ Discreet line mine yours := by
  intro docs store agent guest observer lines
  have hAlike : Alike guest observer := ⟨rfl, rfl⟩
  exact ⟨hAlike, by decide, executeAll_discreet hAlike lines⟩

end Session

end VirtualShell
