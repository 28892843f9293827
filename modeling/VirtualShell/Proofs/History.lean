import Mathlib.Data.List.DropRight
import VirtualShell.History
import VirtualShell.Proofs.Text.Blank
/-!
Histories against the list of all lines that were ever recorded. What a history
keeps is an end of that list, and somebody who browses stands at a place of what
is kept: forgetting cannot move the place outside, since every line that is
recorded ends browsing.
-/

namespace VirtualShell

namespace History

variable {history : History} {line : String} {limit : Option Nat} {lines : List String}

/-! Recording -/

theorem push_trim (history : History) (line : String) :
    history.push (Text.trim line) = history.push line := by
  rw [push, push, Text.trim_trim]

/-- Recording ends browsing. -/
@[simp] theorem browse_push (history : History) (line : String) :
    (history.push line).browse = none := by
  rw [push]
  split <;> rfl

@[simp] theorem limit_push (history : History) (line : String) :
    (history.push line).limit = history.limit := by
  rw [push]
  split <;> rfl

theorem entries_push_of_blank (hLine : Text.allBlank line = true) :
    (history.push line).entries = history.entries := by
  rw [push, if_pos (Text.trim_eq_empty_iff.mpr hLine)]

/-- Any other line is recorded trimmed, and the oldest give way to the limit. -/
theorem entries_push_of_not_blank (hLine : ¬ Text.allBlank line = true) :
    (history.push line).entries = newest history.limit (history.entries ++ [Text.trim line]) := by
  rw [push, if_neg (mt Text.trim_eq_empty_iff.mp hLine)]

/-- Without a limit nothing is ever forgotten. -/
theorem push_of_not_blank (hLimit : history.limit = none) (hLine : ¬ Text.allBlank line = true) :
    history.push line =
      { history with entries := history.entries ++ [Text.trim line], browse := none } := by
  simp only [push, mt Text.trim_eq_empty_iff.mp hLine, if_false, newest, hLimit]

/-- What has been forgotten before makes no difference to what is kept. -/
theorem newest_newest_append (limit : Option Nat) (lines : List String) (line : String) :
    newest limit (newest limit lines ++ [line]) = newest limit (lines ++ [line]) := by
  cases limit with
  | none => rfl
  | some most =>
      have hDropped : lines.drop (lines.length - most) ++ [line] =
          (lines ++ [line]).drop (lines.length - most) :=
        (List.drop_append_of_le_length (Nat.sub_le _ _)).symm
      rw [newest, newest, newest, hDropped, List.drop_drop]
      congr 1
      simp only [List.length_drop, List.length_append, List.length_singleton]
      omega

/-- Every limit but none at all leaves the newest line. -/
theorem exists_newest_append (hLimit : limit ≠ some 0) (lines : List String) (line : String) :
    ∃ kept, newest limit (lines ++ [line]) = kept ++ [line] := by
  cases limit with
  | none => exact ⟨lines, rfl⟩
  | some most =>
      have hMost : most ≠ 0 := fun h => hLimit (congrArg some h)
      refine ⟨lines.drop (lines.length + 1 - most), ?_⟩
      rw [newest, List.length_append, List.length_singleton]
      exact List.drop_append_of_le_length (by omega)

/-- A line that is not blank is the newest one as soon as it is recorded. -/
theorem recent_push (hLimit : history.limit ≠ some 0) (hLine : ¬ Text.allBlank line = true) :
    (history.push line).recent 0 = some (Text.trim line) := by
  obtain ⟨kept, hKept⟩ := exists_newest_append hLimit history.entries (Text.trim line)
  rw [recent, entries_push_of_not_blank hLine, hKept, List.reverse_concat]
  rfl

/-! Steps -/

/-- Places count from the newest line, which is the last entry. -/
theorem recent_of_add {n i : Nat} (h : i + n + 1 = history.entries.length) :
    history.recent n = some history.entries[i] := by
  have hPlace : history.entries.length - 1 - n = i := by omega
  rw [recent, List.getElem?_reverse (by omega), hPlace, List.getElem?_eq_getElem]

theorem recent_of_lt {n : Nat} (h : n < history.entries.length) :
    history.recent n = some history.entries[history.entries.length - 1 - n] :=
  recent_of_add (by omega)

theorem recent_of_le {n : Nat} (h : history.entries.length ≤ n) : history.recent n = none := by
  rw [recent, List.getElem?_eq_none]
  rwa [List.length_reverse]

theorem older_of_nil (h : history.entries = []) : history.older = (none, history) := by
  rw [older, h]
  rfl

/-- Whoever does not browse yet steps back to the newest line. -/
theorem older_of_live (hEntries : history.entries ≠ []) (hBrowse : history.browse = none) :
    history.older = (history.recent 0, { history with browse := some 0 }) := by
  simp only [older, List.isEmpty_iff, hEntries, if_false, hBrowse]

/-- Whoever browses steps one line further back, and stays at the oldest. -/
theorem older_of_browse {i : Nat} (hEntries : history.entries ≠ [])
    (hBrowse : history.browse = some i) :
    history.older =
      (history.recent (min (i + 1) (history.entries.length - 1)),
        { history with browse := some (min (i + 1) (history.entries.length - 1)) }) := by
  simp only [older, List.isEmpty_iff, hEntries, if_false, hBrowse, length]

@[simp] theorem limit_older (history : History) : history.older.2.limit = history.limit := by
  rw [older]
  split <;> rfl

@[simp] theorem limit_newer (history : History) : history.newer.2.limit = history.limit := by
  rw [newer.eq_def]
  split <;> rfl

/-- A limit of zero is raised to one. -/
theorem limit_withLimit_ne_zero (limit : Option Nat) : (withLimit limit).limit ≠ some 0 := by
  cases limit with
  | none => exact nofun
  | some most =>
      intro hZero
      have hMost : max most 1 = 0 := Option.some.inj hZero
      omega

/-- All that a step of somebody at a place inside can show and do. -/
inductive Stepped (history : History) : Direction → Option String × History → Prop where
  | empty (hEntries : history.entries = []) : Stepped history .older (none, history)
  | back {i : Nat} (hPlace : i < history.entries.length) :
      Stepped history .older (some history.entries[history.entries.length - 1 - i],
        { history with browse := some i })
  | idle (hBrowse : history.browse = none) : Stepped history .newer (none, history)
  | live (hBrowse : history.browse = some 0) :
      Stepped history .newer (some "", { history with browse := none })
  | forth {i : Nat} (hBrowse : history.browse = some (i + 1))
      (hPlace : i < history.entries.length) :
      Stepped history .newer (some history.entries[history.entries.length - 1 - i],
        { history with browse := some i })

/-- Both steps are such, for anybody at a place inside. -/
theorem stepped (hInside : ∀ i, history.browse = some i → i < history.entries.length)
    (direction : Direction) : Stepped history direction (history.step direction) := by
  cases direction with
  | older =>
      rw [step]
      by_cases hEntries : history.entries = []
      · rw [older_of_nil hEntries]
        exact .empty hEntries
      · have hLength : 0 < history.entries.length := List.length_pos_iff.mpr hEntries
        cases hBrowse : history.browse with
        | none =>
            rw [older_of_live hEntries hBrowse, recent_of_lt hLength]
            exact .back hLength
        | some i =>
            have hPlace : min (i + 1) (history.entries.length - 1) < history.entries.length := by
              omega
            rw [older_of_browse hEntries hBrowse, recent_of_lt hPlace]
            exact .back hPlace
  | newer =>
      match hBrowse : history.browse with
      | none =>
          rw [step, newer, hBrowse]
          exact .idle hBrowse
      | some 0 =>
          rw [step, newer, hBrowse]
          exact .live hBrowse
      | some (i + 1) =>
          have hPlace : i < history.entries.length :=
            Nat.lt_of_succ_lt (hInside (i + 1) hBrowse)
          rw [step, newer, hBrowse]
          show Stepped history .newer (history.recent i, _)
          rw [recent_of_lt hPlace]
          exact .forth hBrowse hPlace

namespace Stepped

variable {direction : Direction} {result : Option String × History} {text : String}

/-- A step that shows nothing does nothing. -/
theorem eq_of_none (h : Stepped history direction result) (hNone : result.1 = none) :
    result.2 = history := by
  cases h with
  | empty | idle => rfl
  | back | forth | live => cases hNone

/-- A step shows the line at the place to which it leads, or else the empty
input that lies behind the newest line. -/
theorem shows_of_some (h : Stepped history direction result) (hText : result.1 = some text) :
    (∃ i, ∃ _ : i < history.entries.length,
      text = history.entries[history.entries.length - 1 - i] ∧
        result.2 = { history with browse := some i }) ∨
    (direction = .newer ∧ history.browse = some 0 ∧ text = "" ∧
      result.2 = { history with browse := none }) := by
  cases h with
  | empty | idle => cases hText
  | back hPlace | forth _ hPlace =>
      cases hText
      exact .inl ⟨_, hPlace, rfl, rfl⟩
  | live hBrowse =>
      cases hText
      exact .inr ⟨rfl, hBrowse, rfl, rfl⟩

/-- The way back shows nothing only in a history without lines. -/
theorem none_iff_of_older (h : Stepped history .older result) :
    result.1 = none ↔ history.entries = [] := by
  cases h with
  | empty hEntries => exact iff_of_true rfl hEntries
  | back hPlace =>
      refine iff_of_false (Option.some_ne_none _) ?_
      intro hEntries
      rw [hEntries] at hPlace
      exact Nat.not_lt_zero _ hPlace

/-- The way forth shows nothing only to those who do not browse. -/
theorem none_iff_of_newer (h : Stepped history .newer result) :
    result.1 = none ↔ history.browse = none := by
  cases h with
  | idle hBrowse => exact iff_of_true rfl hBrowse
  | live hBrowse | forth hBrowse =>
      refine iff_of_false (Option.some_ne_none _) ?_
      rw [hBrowse]
      exact Option.some_ne_none _

end Stepped

/-! Runs -/

inductive Operation where
  | push (line : String)
  | step (direction : Direction)
  | recent (n : Nat)
  | resetBrowse

/-- The text that an operation shows, if it shows one, and the history after it. -/
def perform (history : History) : Operation → Option String × History
  | .push line => (none, history.push line)
  | .step direction => history.step direction
  | .recent n => (history.recent n, history)
  | .resetBrowse => (none, history.resetBrowse)

/-- The history after operations in order. -/
def performAll (history : History) (operations : List Operation) : History :=
  operations.foldl (fun history operation => (history.perform operation).2) history

/-- The text that an operation records: a line that is not blank, trimmed. -/
def Operation.recorded? : Operation → Option String
  | .push line => if Text.allBlank line then none else some (Text.trim line)
  | .step _ | .recent _ | .resetBrowse => none

/-- All texts that operations record, oldest first. -/
def recorded (operations : List Operation) : List String :=
  operations.filterMap Operation.recorded?

/-- The invariant of a run, against the list of all texts that were recorded. -/
structure Holds (limit : Option Nat) (lines : List String) (history : History) : Prop where
  limit_eq : history.limit = limit
  entries_eq : history.entries = newest limit lines
  inside : ∀ i, history.browse = some i → i < history.entries.length

/-- The invariant leaves open at which place somebody browses. -/
theorem Holds.withBrowse {place : Option Nat} (h : Holds limit lines history)
    (hInside : ∀ i, place = some i → i < history.entries.length) :
    Holds limit lines { history with browse := place } :=
  ⟨h.limit_eq, h.entries_eq, hInside⟩

/-- A step changes the place alone, and keeps it inside. -/
theorem Holds.of_stepped {direction : Direction} {result : Option String × History}
    (h : Holds limit lines history) (hStep : Stepped history direction result) :
    Holds limit lines result.2 := by
  cases hStep with
  | empty | idle => exact h
  | live => exact h.withBrowse fun i hi => by cases hi
  | back hPlace | forth _ hPlace => exact h.withBrowse fun i hi => by cases hi; exact hPlace

/-- A recorded line comes after all earlier ones, and then the limit is kept to. -/
theorem Holds.push (h : Holds limit lines history) (line : String) :
    Holds limit (lines ++ (Operation.push line).recorded?.toList) (history.push line) := by
  refine ⟨(limit_push history line).trans h.limit_eq, ?_, fun i hi => ?_⟩
  · by_cases hLine : Text.allBlank line = true
    · rw [entries_push_of_blank hLine, h.entries_eq, Operation.recorded?, if_pos hLine]
      simp only [Option.toList_none, List.append_nil]
    · rw [entries_push_of_not_blank hLine, h.entries_eq, h.limit_eq, newest_newest_append,
        Operation.recorded?, if_neg hLine, Option.toList_some]
  · rw [browse_push] at hi
    cases hi

/-- Every operation keeps the invariant, over the line that it records if any. -/
theorem Holds.perform (h : Holds limit lines history) (operation : Operation) :
    Holds limit (lines ++ operation.recorded?.toList) (history.perform operation).2 := by
  cases operation with
  | push line => exact h.push line
  | step direction =>
      rw [Operation.recorded?, Option.toList_none, List.append_nil]
      exact h.of_stepped (stepped h.inside direction)
  | recent n =>
      rw [Operation.recorded?, Option.toList_none, List.append_nil]
      exact h
  | resetBrowse =>
      rw [Operation.recorded?, Option.toList_none, List.append_nil]
      exact h.withBrowse fun i hi => by cases hi

/-- The invariant holds after any operations, over all lines that they record. -/
theorem Holds.performAll (h : Holds limit lines history) (operations : List Operation) :
    Holds limit (lines ++ recorded operations) (history.performAll operations) := by
  -- the lines so far take in what each operation records
  induction operations generalizing lines history with
  | nil =>
      rw [recorded, List.filterMap_nil, List.append_nil]
      exact h
  | cons operation rest ih =>
      have hRest := ih (h.perform operation)
      rw [List.append_assoc] at hRest
      have hRecorded : recorded (operation :: rest) =
          operation.recorded?.toList ++ recorded rest := by
        cases hOne : operation.recorded? <;> simp [recorded, hOne]
      rw [hRecorded]
      exact hRest

theorem holds_withLimit (limit : Option Nat) :
    Holds (limit.map (max · 1)) [] (withLimit limit) := by
  cases limit with
  | none => exact ⟨rfl, rfl, fun i hi => by cases hi⟩
  | some most => exact ⟨rfl, (List.drop_nil).symm, fun i hi => by cases hi⟩

/-! Walks: steps in one direction -/

/-- The text that the last of so many steps in a direction shows, and the
history after them. -/
def walk (direction : Direction) : Nat → History → Option String × History
  | 0, history => (none, history)
  | count + 1, history => (walk direction count history).2.step direction

/-- Steps to older lines from live input get to the oldest line at most. -/
theorem walk_older (hBrowse : history.browse = none) (hEntries : history.entries ≠ [])
    (count : Nat) :
    walk .older (count + 1) history =
      (history.recent (min count (history.entries.length - 1)),
        { history with browse := some (min count (history.entries.length - 1)) }) := by
  induction count with
  | zero =>
      rw [walk, walk, Nat.zero_min]
      exact older_of_live hEntries hBrowse
  | succ count ih =>
      have hPlace : min (min count (history.entries.length - 1) + 1) (history.entries.length - 1) =
          min (count + 1) (history.entries.length - 1) := by omega
      rw [walk, ih]
      refine (@older_of_browse { history with browse := some _ } _ hEntries rfl).trans ?_
      simp only [hPlace, recent]

/-- Steps to newer lines, as far as there are such lines. -/
theorem walk_newer (history : History) (place count : Nat) :
    walk .newer (count + 1) { history with browse := some (place + (count + 1)) } =
      (history.recent place, { history with browse := some place }) := by
  induction count generalizing place with
  | zero => rfl
  | succ count ih =>
      have hPlace : place + (count + 1 + 1) = place + 1 + (count + 1) := by omega
      rw [walk, hPlace, ih]
      rfl

/-- One step further than the newest line is live input. -/
theorem walk_newer_live (history : History) (place : Nat) :
    walk .newer (place + 1) { history with browse := some place } =
      (some "", { history with browse := none }) := by
  cases place with
  | zero => rfl
  | succ count =>
      have hNewest := walk_newer history 0 count
      rw [Nat.zero_add] at hNewest
      rw [walk, hNewest]
      rfl

/-- Whoever has left the history stays out of it, however often they step forth. -/
theorem walk_newer_behind (history : History) (place count : Nat) :
    walk .newer (place + 1 + (count + 1)) { history with browse := some place } =
      (none, { history with browse := none }) := by
  induction count with
  | zero =>
      rw [walk, walk_newer_live]
      rfl
  | succ count ih =>
      rw [← Nat.add_assoc, walk, ih]
      rfl

/-- So many steps lead back from live input to the line that is the so many
newest, or to the oldest if there are fewer. -/
theorem walk_back (hBrowse : history.browse = none) {k : Nat} (hSteps : 0 < k)
    (hLength : 0 < history.entries.length) :
    walk .older k history =
      (some history.entries[history.entries.length - min k history.entries.length],
        { history with browse := some (min k history.entries.length - 1) }) := by
  obtain ⟨count, rfl⟩ := Nat.exists_eq_add_one.mpr hSteps
  have hPlace : min count (history.entries.length - 1) =
      min (count + 1) history.entries.length - 1 := by omega
  have hText : history.entries.length - min (count + 1) history.entries.length +
      (min (count + 1) history.entries.length - 1) + 1 = history.entries.length := by omega
  rw [walk_older hBrowse (List.length_pos_iff.mp hLength), hPlace, recent_of_add hText]

theorem snd_walk_back (hBrowse : history.browse = none) {k : Nat} (hSteps : 0 < k)
    (hLength : 0 < history.entries.length) :
    (walk .older k history).2 =
      { history with browse := some (min k history.entries.length - 1) } :=
  congrArg Prod.snd (walk_back hBrowse hSteps hLength)

/-! What a history is to somebody who browses it -/

/-- The lines are the newest of those that were recorded, as many as the limit
leaves. Whoever browses them is at a place inside, every step shows the line at
the place to which it leads, and so many steps back are undone by as many steps
forth, the last of which shows the empty input. -/
structure Faithful (limit : Option Nat) (lines : List String) (history : History) : Prop where
  all : limit = none → history.entries = lines
  newest : ∀ most, limit = some most → history.entries = lines.rtake (max most 1)
  inside : ∀ i, history.browse = some i → i < history.entries.length
  recent : ∀ n (_ : n < history.entries.length),
    history.recent n = some history.entries[history.entries.length - 1 - n]
  beyond : ∀ n, history.entries.length ≤ n → history.recent n = none
  older_none : (history.step .older).1 = none ↔ history.entries = []
  newer_none : (history.step .newer).1 = none ↔ history.browse = none
  stays : ∀ direction, (history.step direction).1 = none →
    (history.step direction).2 = history
  shows : ∀ direction text, (history.step direction).1 = some text →
    (∃ i, ∃ _ : i < history.entries.length,
      text = history.entries[history.entries.length - 1 - i] ∧
        (history.step direction).2 = { history with browse := some i }) ∨
    (direction = .newer ∧ history.browse = some 0 ∧ text = "" ∧
      (history.step direction).2 = { history with browse := none })
  back : ∀ k, history.browse = none → ∀ (_ : 0 < history.entries.length) (_ : 0 < k),
    walk .older k history =
      (some history.entries[history.entries.length - min k history.entries.length],
        { history with browse := some (min k history.entries.length - 1) })
  forth : ∀ k j, history.browse = none → ∀ (_ : 0 < j) (_ : j < min k history.entries.length),
    walk .newer j (walk .older k history).2 =
      (some history.entries[history.entries.length - (min k history.entries.length - j)],
        { history with browse := some (min k history.entries.length - j - 1) })
  live : ∀ k, history.browse = none → 0 < history.entries.length → 0 < k →
    walk .newer (min k history.entries.length) (walk .older k history).2 = (some "", history)
  behind : ∀ k j, history.browse = none → 0 < history.entries.length → 0 < k →
    min k history.entries.length < j →
    walk .newer j (walk .older k history).2 = (none, history)
  push : ∀ line, (history.push line).browse = none

/-- All that is asked of a history follows from the invariant. -/
theorem Holds.faithful (h : Holds (limit.map (max · 1)) lines history) :
    Faithful limit lines history where
  all hLimit := by
    rw [h.entries_eq, hLimit]
    rfl
  newest most hLimit := by
    rw [h.entries_eq, hLimit]
    rfl
  inside := h.inside
  recent _ hPlace := recent_of_lt hPlace
  beyond _ hPlace := recent_of_le hPlace
  older_none := (stepped h.inside .older).none_iff_of_older
  newer_none := (stepped h.inside .newer).none_iff_of_newer
  stays direction := (stepped h.inside direction).eq_of_none
  shows direction _ := (stepped h.inside direction).shows_of_some
  back _ hBrowse hLength hSteps := walk_back hBrowse hSteps hLength
  forth k j hBrowse hSteps hPlace := by
    obtain ⟨count, rfl⟩ := Nat.exists_eq_add_one.mpr hSteps
    have hBack : min k history.entries.length - 1 =
        min k history.entries.length - (count + 1) - 1 + (count + 1) := by omega
    have hText : history.entries.length - (min k history.entries.length - (count + 1)) +
        (min k history.entries.length - (count + 1) - 1) + 1 = history.entries.length := by omega
    rw [snd_walk_back hBrowse (by omega) (by omega), hBack, walk_newer, recent_of_add hText]
  live k hBrowse hLength hSteps := by
    obtain ⟨place, hPlace⟩ := Nat.exists_eq_add_one.mpr
      (show 0 < min k history.entries.length by omega)
    rw [snd_walk_back hBrowse hSteps hLength, hPlace, Nat.add_sub_cancel, walk_newer_live,
      ← hBrowse]
  behind k j hBrowse hLength hSteps hBehind := by
    obtain ⟨place, hPlace⟩ := Nat.exists_eq_add_one.mpr
      (show 0 < min k history.entries.length by omega)
    obtain ⟨count, rfl⟩ := Nat.exists_eq_add_of_lt hBehind
    rw [snd_walk_back hBrowse hSteps hLength, hPlace, Nat.add_sub_cancel, Nat.add_assoc,
      walk_newer_behind, ← hBrowse]
  push line := browse_push history line

/-- All that is recorded and browsed, in any order and under any limit, leaves a
history that is faithful to what was recorded. -/
theorem faithful_performAll (limit : Option Nat) (operations : List Operation) :
    Faithful limit (recorded operations) ((withLimit limit).performAll operations) :=
  ((holds_withLimit limit).performAll operations).faithful

example :
    walk .older 5 ((withLimit (some 0)).performAll [.push "ls", .push "\t", .push " pwd "]) =
      (some "pwd", ⟨["pwd"], some 1, some 0⟩) := by
  decide

end History

end VirtualShell
