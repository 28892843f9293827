import Mathlib.Data.List.DropRight
import VirtualShell.Scrollback
/-!
A scrollback against the list of all lines that were written since it was cleared.
The oldest line goes when as many are kept as there may be, not when there are too
many; so that there never are too many is an invariant of all that is done to a
scrollback, and what is kept is always an end of that list.
-/

namespace VirtualShell

namespace Scrollback

inductive Operation where
  | push (line : Line)
  | clear
  | absorb (outcome : Outcome)

namespace Operation

/-- The lines that an operation writes. -/
def lines : Operation → List Line
  | push line => [line]
  | clear => []
  | absorb outcome => outcome.lines

/-- Whether an operation takes all lines away, those that it writes too. -/
def clears : Operation → Bool
  | push _ => false
  | clear => true
  | absorb outcome => outcome.effect = some .clearScrollback

end Operation

/-- All lines that were written since the last clearing, oldest first. -/
def written (operations : List Operation) : List Line :=
  (operations.rtakeWhile fun operation => !operation.clears).flatMap Operation.lines

def perform (scrollback : Scrollback) : Operation → Scrollback
  | .push line => scrollback.push line
  | .clear => scrollback.clear
  | .absorb outcome => (scrollback.absorb outcome).2

/-- The scrollback after operations in order. -/
def performAll (scrollback : Scrollback) (operations : List Operation) : Scrollback :=
  operations.foldl perform scrollback

/-- An effect is handed back as it came. -/
@[simp] theorem effect_absorb (scrollback : Scrollback) (outcome : Outcome) :
    (scrollback.absorb outcome).1.effect = outcome.effect := rfl

theorem performAll_concat (scrollback : Scrollback) (operations : List Operation)
    (operation : Operation) :
    scrollback.performAll (operations ++ [operation]) =
      (scrollback.performAll operations).perform operation := by
  simp [performAll]

/-- An operation adds its lines to those written before, or does away with them all. -/
theorem written_concat (operations : List Operation) (operation : Operation) :
    written (operations ++ [operation]) =
      if operation.clears then [] else written operations ++ operation.lines := by
  rw [written, List.rtakeWhile_concat]
  cases operation.clears <;> simp [written]

/-- The invariant of a run, against the list of all lines since the last clearing. -/
structure Holds (capacity : Nat) (lines : List Line) (scrollback : Scrollback) : Prop where
  capacity_eq : scrollback.capacity = capacity
  lines_eq : scrollback.lines = lines.rtake capacity

variable {scrollback : Scrollback} {capacity : Nat} {lines : List Line}

theorem length_rtake (lines : List Line) (count : Nat) :
    (lines.rtake count).length = min count lines.length := by
  rw [List.rtake, List.length_drop]
  omega

/-- There are never more lines than the capacity. -/
theorem Holds.length_eq (h : Holds capacity lines scrollback) :
    scrollback.lines.length = min capacity lines.length := by
  rw [h.lines_eq, length_rtake]

/-- One more line pushes out the oldest if there is no more room, and none otherwise. -/
theorem Holds.push (h : Holds capacity lines scrollback) (hCapacity : 0 < capacity)
    (line : Line) : Holds capacity (lines ++ [line]) (scrollback.push line) := by
  refine ⟨h.capacity_eq, ?_⟩
  rw [Scrollback.push, h.capacity_eq, h.length_eq, h.lines_eq]
  change (if _ then _ else _) ++ [line] = _
  rw [List.rtake, List.rtake, List.length_append, List.length_singleton]
  split
  · next hFull =>
      have hPlace : lines.length - capacity + 1 = lines.length + 1 - capacity := by omega
      rw [List.drop_drop, hPlace, List.drop_append_of_le_length (by omega)]
  · next hRoom =>
      have hNone : lines.length - capacity = 0 := by omega
      have hNone' : lines.length + 1 - capacity = 0 := by omega
      rw [hNone, hNone', List.drop_zero, List.drop_zero]

/-- More lines in order are one line after the other. -/
theorem Holds.pushAll (h : Holds capacity lines scrollback) (hCapacity : 0 < capacity)
    (more : List Line) : Holds capacity (lines ++ more) (scrollback.pushAll more) := by
  induction more generalizing scrollback lines with
  | nil => rwa [List.append_nil]
  | cons line rest ih =>
      rw [List.append_cons]
      exact ih (h.push hCapacity line)

theorem Holds.clear (h : Holds capacity lines scrollback) :
    Holds capacity [] scrollback.clear :=
  ⟨h.capacity_eq, (List.rtake_nil capacity).symm⟩

/-- Every operation keeps the invariant, over the lines that were written then. -/
theorem Holds.perform (h : Holds capacity lines scrollback) (hCapacity : 0 < capacity)
    (operation : Operation) :
    Holds capacity (if operation.clears then [] else lines ++ operation.lines)
      (scrollback.perform operation) := by
  cases operation with
  | push line => exact h.push hCapacity line
  | clear => exact h.clear
  | absorb outcome =>
      have hWritten := h.pushAll hCapacity outcome.lines
      simp only [Operation.clears, decide_eq_true_eq, Scrollback.perform, absorb, apply]
      split
      · exact hWritten.clear
      · exact hWritten

/-- The invariant holds after any operations on a new scrollback. -/
theorem holds_performAll (capacity : Nat) (operations : List Operation) :
    Holds (max capacity 1) (written operations) ((ofCapacity capacity).performAll operations) := by
  induction operations using List.reverseRecOn with
  | nil => exact ⟨rfl, (List.rtake_nil _).symm⟩
  | append_singleton operations operation ih =>
      rw [performAll_concat, written_concat]
      exact ih.perform (by omega) operation

/-- What a scrollback keeps of the lines that were written: the newest, in order, and
as many as there may be. -/
structure Keeps (capacity : Nat) (lines : List Line) (scrollback : Scrollback) : Prop where
  newest : scrollback.lines = lines.rtake capacity
  bounded : scrollback.lines.length ≤ capacity
  /-- Nothing is lost before there are more lines than may be kept, -/
  all : lines.length ≤ capacity → scrollback.lines = lines
  /-- and then the oldest are, and there is no more room. -/
  lost : ∃ old, lines = old ++ scrollback.lines ∧
    (old ≠ [] → scrollback.lines.length = capacity)

/-- All that is asked of a scrollback follows from the invariant. -/
theorem Holds.keeps (h : Holds capacity lines scrollback) : Keeps capacity lines scrollback := by
  have hLength := h.length_eq
  refine ⟨h.lines_eq, by omega, ?_, lines.take (lines.length - capacity), ?_, ?_⟩
  · intro hRoom
    rw [h.lines_eq, List.rtake, Nat.sub_eq_zero_of_le hRoom, List.drop_zero]
  · rw [h.lines_eq, List.rtake, List.take_append_drop]
  · intro hOld
    rw [List.ne_nil_iff_length_pos, List.length_take] at hOld
    omega

/-- Whatever is written to a scrollback of whatever capacity, and however often it is
cleared in between, it keeps the newest of the lines since it was last cleared; and
every outcome that it absorbs comes back with the effect that it had. -/
theorem keeps_performAll (capacity : Nat) (operations : List Operation) :
    Keeps (max capacity 1) (written operations) ((ofCapacity capacity).performAll operations) ∧
      ∀ outcome,
        (((ofCapacity capacity).performAll operations).absorb outcome).1.effect =
          outcome.effect :=
  ⟨(holds_performAll capacity operations).keeps, effect_absorb _⟩

/-- With room for one line, a clearing in the middle of an overflow. -/
example :
    let a := Line.output "a"
    let b := Line.output "b"
    ((ofCapacity 0).performAll
      [.push a, .absorb ⟨[a, b], some .clearScrollback⟩, .push b, .absorb ⟨[b, a], none⟩]).lines =
      [a] := by
  decide

end Scrollback

end VirtualShell
