import VirtualShell.Proofs.History
import VirtualShell.Proofs.Session.Frame
/-!
Replays. A history holds what has been typed up to white space at the ends of
lines, and no command can see that white space; and blank lines, which it does
not hold, have done nothing. So the lines of a history do again what the session
did.
-/

namespace VirtualShell

namespace Session

variable {session after : Session} {line : String} {outcome : Outcome}

/-- Blanks around a line make no difference to what it does. -/
theorem execute_trim (session : Session) (line : String) :
    session.execute (Text.trim line) = session.execute line := by
  rw [execute, execute, Command.parse_trim]

/-- A blank line does nothing. -/
theorem execute_of_blank (session : Session) (hLine : Text.allBlank line = true) :
    session.execute line = (session, .nothing) :=
  execute_of_parse_none (Command.parse_eq_none_iff.mpr hLine)

/-- A line that is not blank is recorded, whatever becomes of its command. -/
theorem Executed.history (h : Executed session line after outcome)
    (hLine : ¬ Text.allBlank line = true) : after.history = session.history.push line := by
  cases h with
  | blank hBlank => exact absurd hBlank hLine
  | failed hParse | moved hParse | wrote hParse | read hParse =>
      rw [history_mapHistory, Command.raw_of_parse hParse, History.push_trim]

/-- Run lines in order and collect what each of them gives. -/
def executeAll (session : Session) : List String → Session × List Outcome
  | [] => (session, [])
  | line :: rest =>
    let (after, outcome) := session.execute line
    let (last, outcomes) := after.executeAll rest
    (last, outcome :: outcomes)

theorem executeAll_cons (session : Session) (line : String) (rest : List String) :
    session.executeAll (line :: rest) =
      (((session.execute line).1.executeAll rest).1,
        (session.execute line).2 :: ((session.execute line).1.executeAll rest).2) := by
  rw [executeAll]

/-- The lines that are not blank. -/
def spoken (lines : List String) : List String :=
  lines.filter fun line => !Text.allBlank line

/-- What the lines that are not blank gave, of all that lines gave. -/
def answered (lines : List String) (outcomes : List Outcome) : List Outcome :=
  ((lines.zip outcomes).filter fun pair => !Text.allBlank pair.1).map (·.2)

theorem spoken_cons_of_blank (hLine : Text.allBlank line = true) (rest : List String) :
    spoken (line :: rest) = spoken rest := by
  simp [spoken, hLine]

theorem spoken_cons_of_not_blank (hLine : ¬ Text.allBlank line = true) (rest : List String) :
    spoken (line :: rest) = line :: spoken rest := by
  simp [spoken, hLine]

/-- Blank lines may be left out. -/
theorem executeAll_spoken (session : Session) (lines : List String) :
    session.executeAll (spoken lines) =
      ((session.executeAll lines).1, answered lines (session.executeAll lines).2) := by
  induction lines generalizing session with
  | nil => rfl
  | cons line rest ih =>
      by_cases hLine : Text.allBlank line = true
      · rw [spoken_cons_of_blank hLine, ih, executeAll_cons, execute_of_blank session hLine]
        simp [answered, hLine]
      · rw [spoken_cons_of_not_blank hLine, executeAll_cons, executeAll_cons, ih]
        simp [answered, hLine]

/-- Blanks around its lines make no difference to a run. -/
theorem executeAll_map_trim (session : Session) (lines : List String) :
    session.executeAll (lines.map Text.trim) = session.executeAll lines := by
  induction lines generalizing session with
  | nil => rfl
  | cons line rest ih => rw [List.map_cons, executeAll_cons, executeAll_cons, execute_trim, ih]

/-- A history without a limit has all lines that are not blank. -/
theorem entries_executeAll (hLimit : session.history.limit = none) (lines : List String) :
    (session.executeAll lines).1.history.entries =
      session.history.entries ++ (spoken lines).map Text.trim := by
  induction lines generalizing session with
  | nil => simp [executeAll, spoken]
  | cons line rest ih =>
      rw [executeAll_cons]
      by_cases hLine : Text.allBlank line = true
      · rw [execute_of_blank session hLine, spoken_cons_of_blank hLine]
        exact ih hLimit
      · have hHistory := (execute_executed session line).history hLine
        rw [History.push_of_not_blank hLimit hLine] at hHistory
        have hLater : (session.execute line).1.history.limit = none := by
          rw [hHistory]
          exact hLimit
        rw [ih hLater, hHistory, spoken_cons_of_not_blank hLine, List.map_cons, List.append_assoc]
        rfl

/-- A history without a limit is a script of its session. On another session
that began on the same seed its lines, oldest first, lead to the same session,
the history included, and give what they gave before. -/
theorem executeAll_history {seed : Seed} {user : String} {fresh : Session}
    (hStart : start seed user none = .ok session) (hFresh : start seed user none = .ok fresh)
    (lines : List String) :
    fresh.executeAll (session.executeAll lines).1.history.entries =
      ((session.executeAll lines).1, answered lines (session.executeAll lines).2) := by
  rw [hStart] at hFresh
  cases hFresh
  obtain ⟨store, _, hSession⟩ := eq_of_start hStart
  have hLimit : session.history.limit = none := by rw [hSession]; rfl
  have hEntries : session.history.entries = [] := by rw [hSession]; rfl
  rw [entries_executeAll hLimit, hEntries, List.nil_append, executeAll_map_trim, executeAll_spoken]

theorem executeAll_history_small :
    let seed : Seed := ⟨⟨rootName, .dir "docs" "docs" .nil .nil⟩, []⟩
    let session : Session := { store := ⟨seed.tree⟩, user := "guest" }
    let lines := ["  touch a\t", " ", "CD  docs", "frobnicate", "touch \u3000b"]
    start seed "guest" none = .ok session ∧
      session.executeAll (session.executeAll lines).1.history.entries =
        ((session.executeAll lines).1, answered lines (session.executeAll lines).2) := by
  intro seed session lines
  have hStart : start seed "guest" none = .ok session := rfl
  exact ⟨hStart, executeAll_history hStart hStart lines⟩

end Session

end VirtualShell
