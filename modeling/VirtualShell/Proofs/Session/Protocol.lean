import VirtualShell.Proofs.Session.Replay
import VirtualShell.Proofs.Session.Run
/-!
What a line reports. Its echo comes first, with the place at which it was typed,
and the line is recorded before its command runs. A command that is refused adds
one error line, and then nothing else is shown and nothing else happens.
-/

namespace VirtualShell

namespace Session

variable {session after : Session} {line : String} {command : Command} {shown : Line}

/-- The error lines with which a line can be refused: the fault of its command,
signed with the name of the command, or its first word in lower case if that
names no command. -/
inductive Refused (session : Session) (line : String) : Line → Prop where
  | fault {word : String} {args : List String} {builtin : Builtin} {fault : Fault}
      (hWords : Command.wordsOf line = word :: args)
      (hNamed : Builtin.named (Text.lowercase word) = some builtin)
      (hRun : builtin.run args session = .error fault) :
      Refused session line (Line.error (builtin.name ++ ": " ++ fault.message))
  | unknown {word : String} {args : List String} (hWords : Command.wordsOf line = word :: args)
      (hNamed : Builtin.named (Text.lowercase word) = none) :
      Refused session line (Line.error ("unknown command: " ++ Text.lowercase word))

/-- Lines are refused by faults of their commands and in no other way. -/
theorem refused_iff :
    Refused session line shown ↔
      ∃ command fault, Command.parse line = some command ∧ command.run session = .error fault ∧
        shown = command.errorLine fault := by
  constructor
  · intro hRefused
    cases hRefused with
    | @fault word args builtin fault hWords hNamed hRun =>
        have hKind := Command.kindOf_eq_builtin_iff.mpr hNamed
        refine ⟨⟨Command.kindOf word, Text.trim line, args⟩, fault,
          Command.parse_eq_some_iff.mpr ⟨word, args, hWords, rfl⟩,
          (Command.run_of_builtin hKind).trans hRun, ?_⟩
        rw [Command.errorLine, hKind]
    | @unknown word args hWords hNamed =>
        have hKind := Command.kindOf_of_named_none hNamed
        refine ⟨⟨Command.kindOf word, Text.trim line, args⟩,
          Fault.unknownCommand (Text.lowercase word),
          Command.parse_eq_some_iff.mpr ⟨word, args, hWords, rfl⟩, ?_, ?_⟩
        · rw [Command.run, hKind]
        · rw [Command.errorLine, hKind]
          rfl
  · rintro ⟨command, fault, hParse, hRun, rfl⟩
    obtain ⟨word, args, hWords, rfl⟩ := Command.parse_eq_some_iff.mp hParse
    cases hNamed : Builtin.named (Text.lowercase word) with
    | some builtin =>
        have hKind := Command.kindOf_eq_builtin_iff.mpr hNamed
        rw [Command.run_of_builtin hKind] at hRun
        rw [Command.errorLine, hKind]
        exact .fault hWords hNamed hRun
    | none =>
        have hKind := Command.kindOf_of_named_none hNamed
        rw [Command.run, hKind] at hRun
        cases hRun
        rw [Command.errorLine, hKind]
        exact .unknown hWords hNamed

/-- The echo of a line that is not blank. -/
def echoOf (session : Session) (line : String) : Line :=
  Line.input (Text.trim line) session.cursor.promptPath

theorem echo_of_parse (hParse : Command.parse line = some command) :
    session.echo command = session.echoOf line := by
  rw [echo, echoOf, Command.raw_of_parse hParse]

/-- A command that goes through with whatever operands shows its answers behind the
echo of its line. -/
theorem outcome_of_builtinOf {builtin : Builtin} {outcome : Outcome}
    (h : Command.builtinOf line = some builtin)
    (hRun : ∀ args, builtin.run args session = .ok (after, outcome)) :
    (session.execute line).2 = ⟨session.echoOf line :: outcome.lines, outcome.effect⟩ := by
  obtain ⟨command, hParse, hBuiltin⟩ := Option.bind_eq_some_iff.mp h
  have hKind := Command.builtin?_eq_some_iff.mp hBuiltin
  rw [execute_of_run_ok hParse ((Command.run_of_builtin hKind).trans (hRun _)),
    echo_of_parse hParse]

/-- A line that is refused shows its echo and why. -/
theorem outcome_of_refused (h : Refused session line shown) :
    (session.execute line).2 = .ofLines [session.echoOf line, shown] := by
  obtain ⟨command, fault, hParse, hRun, rfl⟩ := refused_iff.mp h
  rw [execute_of_run_error hParse hRun, echo_of_parse hParse]

/-- A line that is neither blank nor refused shows its echo and then answers. -/
theorem outcome_of_not_refused (hLine : ¬ Text.allBlank line = true)
    (h : ∀ shown, ¬ Refused session line shown) :
    ∃ answers, (session.execute line).2.lines = session.echoOf line :: answers ∧
      ∀ answer ∈ answers, answer.IsAnswer := by
  cases hParse : Command.parse line with
  | none => exact absurd (Command.parse_eq_none_iff.mp hParse) hLine
  | some command =>
      cases hRun : command.run session with
      | error fault => exact absurd (refused_iff.mpr ⟨command, fault, hParse, hRun, rfl⟩) (h _)
      | ok result =>
          refine ⟨result.2.lines, ?_, ?_⟩
          · rw [execute_of_run_ok hParse hRun, echo_of_parse hParse]
          · cases hKind : command.kind with
            | builtin builtin =>
                rw [Command.run_of_builtin hKind] at hRun
                exact Builtin.isAnswer_of_run hRun
            | unknown word =>
                rw [Command.run, hKind] at hRun
                cases hRun

/-- Any line but a blank one is echoed first and once. -/
theorem echo_execute (hLine : ¬ Text.allBlank line = true) :
    ∃ answers, (session.execute line).2.lines = session.echoOf line :: answers ∧
      ∀ answer ∈ answers, answer.kind ≠ .input := by
  by_cases hRefused : ∃ shown, Refused session line shown
  · obtain ⟨shown, hRefused⟩ := hRefused
    refine ⟨[shown], by rw [outcome_of_refused hRefused]; rfl, ?_⟩
    intro answer hAnswer
    rw [List.mem_singleton.mp hAnswer]
    cases hRefused <;> exact nofun
  · obtain ⟨answers, hLines, hAnswers⟩ :=
      outcome_of_not_refused hLine (not_exists.mp hRefused)
    exact ⟨answers, hLines, fun answer hAnswer => (hAnswers answer hAnswer).1⟩

/-- Error lines are shown for refusals and for nothing else. -/
theorem error_mem_execute_iff :
    (shown ∈ (session.execute line).2.lines ∧ shown.kind = .error) ↔
      Refused session line shown := by
  constructor
  · rintro ⟨hShown, hError⟩
    by_cases hLine : Text.allBlank line = true
    · rw [execute_of_blank session hLine] at hShown
      cases hShown
    -- neither the echo nor an answer is an error line, so only a refusal is left
    by_cases hRefused : ∃ other, Refused session line other
    · obtain ⟨other, hRefused⟩ := hRefused
      rw [outcome_of_refused hRefused, Outcome.ofLines, List.mem_pair] at hShown
      rcases hShown with rfl | rfl
      · cases hError
      · exact hRefused
    · obtain ⟨answers, hLines, hAnswers⟩ :=
        outcome_of_not_refused hLine (not_exists.mp hRefused)
      rw [hLines, List.mem_cons] at hShown
      rcases hShown with rfl | hShown
      · cases hError
      · exact absurd hError (hAnswers shown hShown).2
  · intro hRefused
    rw [outcome_of_refused hRefused]
    refine ⟨List.mem_cons_of_mem _ (List.mem_singleton_self shown), ?_⟩
    cases hRefused <;> rfl

/-- What a line does to the output and to the history. -/
structure Reported (before : Session) (line : String) (after : Session) (outcome : Outcome) :
    Prop where
  blank : Text.allBlank line = true → after = before ∧ outcome = .nothing
  /-- The echo comes first, with the prompt before, and there is no other. -/
  echo : ¬ Text.allBlank line = true →
    ∃ answers, outcome.lines = Line.input (Text.trim line) before.cursor.promptPath :: answers ∧
      ∀ answer ∈ answers, answer.kind ≠ .input
  history : ¬ Text.allBlank line = true → after.history = before.history.push line
  newest : ¬ Text.allBlank line = true → before.history.limit ≠ some 0 →
    after.history.recent 0 = some (Text.trim line)
  live : ¬ Text.allBlank line = true → after.history.browse = none
  /-- An error line is shown for a refusal and for nothing else, -/
  error : ∀ shown, (shown ∈ outcome.lines ∧ shown.kind = .error) ↔ Refused before line shown
  /-- and it is the last of two lines. -/
  refused : ∀ shown, Refused before line shown →
    outcome.lines = [Line.input (Text.trim line) before.cursor.promptPath, shown] ∧
      outcome.effect = none

/-- One line is reported as it should be, in every session. -/
theorem reported_execute (session : Session) (line : String) :
    Reported session line (session.execute line).1 (session.execute line).2 where
  blank hLine := by
    rw [execute_of_blank session hLine]
    exact ⟨rfl, rfl⟩
  echo := echo_execute
  history hLine := (execute_executed session line).history hLine
  newest hLine hLimit := by
    rw [(execute_executed session line).history hLine, History.recent_push hLimit hLine]
  live hLine := by
    rw [(execute_executed session line).history hLine, History.browse_push]
  error _ := error_mem_execute_iff
  refused _ hRefused := by
    rw [outcome_of_refused hRefused]
    exact ⟨rfl, rfl⟩

/-! Histories have room for a line. -/

theorem history_keptOnFault {result : Except Fault Session}
    (h : ∀ after, result = .ok after → after.history = session.history) :
    (session.keptOnFault result).history = session.history := by
  cases result with
  | error fault => rfl
  | ok after => exact h after rfl

theorem history_of_changeDirectory {target : String}
    (h : session.changeDirectory target = .ok after) : after.history = session.history := by
  rw [changeDirectory] at h
  cases hMove : session.cursor.move session.store target <;> rw [hMove] at h <;> cases h
  rfl

theorem history_of_writeFile {name content : String}
    (h : session.writeFile name content = .ok after) : after.history = session.history := by
  rw [writeFile] at h
  cases hInsert : session.store.insertFile session.cursor.path name content <;>
    rw [hInsert] at h <;> cases h
  rfl

theorem history_of_call {builtin : Builtin} {args : List String}
    (h : (builtin.run args session).map (·.1) = .ok after) : after.history = session.history := by
  cases hRun : builtin.run args session with
  | error fault =>
      rw [hRun] at h
      cases h
  | ok result =>
      obtain ⟨after, outcome⟩ := result
      rw [hRun] at h
      cases h
      cases Builtin.ran_of_run hRun with
      | moved | wrote | read => rfl

/-- No line changes the limit of the history. -/
theorem limit_execute (session : Session) (line : String) :
    (session.execute line).1.history.limit = session.history.limit := by
  by_cases hLine : Text.allBlank line = true
  · rw [execute_of_blank session hLine]
  · rw [(execute_executed session line).history hLine, History.limit_push]

theorem limit_perform (session : Session) (action : Action) :
    (session.perform action).history.limit = session.history.limit := by
  cases action with
  | execute line =>
      rw [perform]
      exact limit_execute session line
  | call builtin args =>
      exact congrArg History.limit (history_keptOnFault fun _ => history_of_call)
  | changeDirectory target =>
      exact congrArg History.limit (history_keptOnFault fun _ => history_of_changeDirectory)
  | writeFile name content | importFile name content =>
      exact congrArg History.limit (history_keptOnFault fun _ => history_of_writeFile)
  | push line => exact History.limit_push session.history line
  | older => exact History.limit_older session.history
  | newer => exact History.limit_newer session.history
  | resetBrowse => rfl
  | addContact contact => rfl
  | deleteContact id => rfl

/-- A session that was reached keeps at least one line. -/
theorem limit_ne_zero_of_start {seed : Seed} {user : String} {limit : Option Nat}
    {fresh : Session} (h : start seed user limit = .ok fresh) (actions : List Action) :
    (fresh.performAll actions).history.limit ≠ some 0 := by
  have hLimit : (fresh.performAll actions).history.limit = fresh.history.limit := by
    induction actions using List.reverseRecOn with
    | nil => rfl
    | append_singleton actions action ih =>
        rw [performAll, List.foldl_concat, limit_perform]
        exact ih
  obtain ⟨store, _, rfl⟩ := eq_of_start h
  rw [hLimit]
  exact History.limit_withLimit_ne_zero limit

/-- Every line on every session is reported in this way. A history without a
limit gets all lines that are not blank, those that were refused among them; and
no limit of a session that was reached leaves out the newest line. -/
theorem execute_reported (session : Session) :
    (∀ line, Reported session line (session.execute line).1 (session.execute line).2) ∧
      (session.history.limit = none → ∀ lines,
        (session.executeAll lines).1.history.entries =
          session.history.entries ++ (spoken lines).map Text.trim) ∧
      ∀ (seed : Seed) (user : String) (limit : Option Nat) (fresh : Session)
        (actions : List Action), start seed user limit = .ok fresh →
          session = fresh.performAll actions → session.history.limit ≠ some 0 := by
  refine ⟨reported_execute session, entries_executeAll, ?_⟩
  rintro seed user limit fresh actions hStart rfl
  exact limit_ne_zero_of_start hStart actions

end Session

end VirtualShell
