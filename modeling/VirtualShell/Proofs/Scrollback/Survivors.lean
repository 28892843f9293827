import Mathlib.Data.List.Infix
import VirtualShell.Proofs.Scrollback
/-!
What a scrollback hands back of an outcome, against what it keeps of it. An outcome with
more lines than may be kept pushes out its own first lines, yet these are handed back
with the others. So what is handed back is what survives only as long as there is room
for the whole outcome, or if all lines are taken away.
-/

namespace VirtualShell

namespace Scrollback

variable {scrollback : Scrollback} {capacity count : Nat} {lines : List Line} {outcome : Outcome}

/-- Of older lines and newer ones, the newest are those of the newer ones, and of the
older ones as many as there is room for. -/
theorem rtake_append (older newer : List Line) (count : Nat) :
    (older ++ newer).rtake count = older.rtake (count - newer.length) ++ newer.rtake count := by
  simp [List.rtake_eq_reverse_take_reverse, List.take_append]

theorem rtake_eq_self_iff : lines.rtake count = lines ↔ lines.length ≤ count := by
  rw [List.rtake_eq_reverse_take_reverse, List.reverse_eq_iff, List.take_eq_self_iff,
    List.length_reverse]

/-- The lines of an outcome that are still there when it has been absorbed. Every line is
added at the end, so they are the last ones, and no more than the outcome has. -/
def survivors (scrollback : Scrollback) (outcome : Outcome) : List Line :=
  (scrollback.absorb outcome).2.lines.rtake outcome.lines.length

/-- What comes back of an outcome when it is absorbed, and what is left of it. -/
structure HandsBack (capacity : Nat) (scrollback : Scrollback) (outcome : Outcome) : Prop where
  /-- The survivors stand behind lines from before, and while there is one of these no
  line of the outcome is lost. -/
  kept : ∃ older, (scrollback.absorb outcome).2.lines = older ++ scrollback.survivors outcome ∧
    older <:+ scrollback.lines ∧ (older ≠ [] → scrollback.survivors outcome = outcome.lines)
  newest : scrollback.survivors outcome =
    if outcome.effect = some .clearScrollback then [] else outcome.lines.rtake capacity
  /-- All lines are handed back, also those that are lost, or none at all. -/
  shown : (scrollback.absorb outcome).1.lines =
    if outcome.effect = some .clearScrollback then [] else outcome.lines
  survivors_iff : (scrollback.absorb outcome).1.lines = scrollback.survivors outcome ↔
    outcome.effect = some .clearScrollback ∨ outcome.lines.length ≤ capacity
  suffix_iff : (scrollback.absorb outcome).1.lines <:+ (scrollback.absorb outcome).2.lines ↔
    outcome.effect = some .clearScrollback ∨ outcome.lines.length ≤ capacity

theorem lines_absorb_of_clear (scrollback : Scrollback)
    (hClear : outcome.effect = some .clearScrollback) :
    (scrollback.absorb outcome).1.lines = [] ∧ (scrollback.absorb outcome).2.lines = [] := by
  rw [absorb, apply, if_pos hClear]
  exact ⟨rfl, rfl⟩

/-- Any other outcome has all its lines shown. What is kept are the newest of them,
behind as many earlier lines as there is room for. -/
theorem Holds.lines_absorb (h : Holds capacity lines scrollback) (hCapacity : 0 < capacity)
    (hClear : outcome.effect ≠ some .clearScrollback) :
    (scrollback.absorb outcome).1.lines = outcome.lines ∧
      (scrollback.absorb outcome).2.lines =
        lines.rtake (capacity - outcome.lines.length) ++ outcome.lines.rtake capacity := by
  rw [absorb, apply, if_neg hClear, ← rtake_append]
  exact ⟨rfl, (h.pushAll hCapacity outcome.lines).lines_eq⟩

/-- No line survives a clearing outcome, and none is handed back. -/
theorem handsBack_of_clear (scrollback : Scrollback) (capacity : Nat)
    (hClear : outcome.effect = some .clearScrollback) :
    HandsBack capacity scrollback outcome := by
  obtain ⟨hShown, hLines⟩ := lines_absorb_of_clear scrollback hClear
  have hNone : scrollback.survivors outcome = [] := by
    rw [survivors, hLines, List.rtake_nil]
  refine ⟨⟨[], ?_, List.nil_suffix, absurd rfl⟩, ?_, ?_, ?_, ?_⟩
  · rw [hLines, hNone, List.append_nil]
  · rw [hNone, if_pos hClear]
  · rw [hShown, if_pos hClear]
  · rw [hShown, hNone]
    exact iff_of_true rfl (.inl hClear)
  · rw [hShown]
    exact iff_of_true List.nil_suffix (.inl hClear)

/-- When all lines of an outcome have room they survive, and are handed back rightly. -/
theorem Holds.handsBack_of_room (h : Holds capacity lines scrollback) (hCapacity : 0 < capacity)
    (hClear : outcome.effect ≠ some .clearScrollback) (hRoom : outcome.lines.length ≤ capacity) :
    HandsBack capacity scrollback outcome := by
  obtain ⟨hShown, hLines⟩ := h.lines_absorb hCapacity hClear
  have hAll : outcome.lines.rtake capacity = outcome.lines := rtake_eq_self_iff.mpr hRoom
  rw [hAll] at hLines
  have hSurvivors : scrollback.survivors outcome = outcome.lines := by
    rw [survivors, hLines, rtake_append, Nat.sub_self, List.rtake_zero, List.nil_append,
      rtake_eq_self_iff]
  refine ⟨⟨_, hSurvivors ▸ hLines, ?_, fun _ => hSurvivors⟩, ?_, ?_, ?_, ?_⟩
  · rw [h.lines_eq]
    exact List.drop_suffix_drop_left lines (by omega)
  · rw [hSurvivors, if_neg hClear, hAll]
  · rw [hShown, if_neg hClear]
  · rw [hShown, hSurvivors]
    exact iff_of_true rfl (.inr hRoom)
  · rw [hShown, hLines]
    exact iff_of_true (List.suffix_append _ _) (.inr hRoom)

/-- When they have no room the oldest of them are lost, and handed back nevertheless. -/
theorem Holds.handsBack_of_overflow (h : Holds capacity lines scrollback)
    (hCapacity : 0 < capacity) (hClear : outcome.effect ≠ some .clearScrollback)
    (hOverflow : capacity < outcome.lines.length) : HandsBack capacity scrollback outcome := by
  obtain ⟨hShown, hLines⟩ := h.lines_absorb hCapacity hClear
  rw [Nat.sub_eq_zero_of_le hOverflow.le, List.rtake_zero, List.nil_append] at hLines
  have hLength := length_rtake outcome.lines capacity
  have hSurvivors : scrollback.survivors outcome = outcome.lines.rtake capacity := by
    rw [survivors, hLines, rtake_eq_self_iff]
    omega
  have hNeither : ¬(outcome.effect = some .clearScrollback ∨ outcome.lines.length ≤ capacity) :=
    not_or.mpr ⟨hClear, hOverflow.not_ge⟩
  refine ⟨⟨[], ?_, List.nil_suffix, absurd rfl⟩, ?_, ?_, ?_, ?_⟩
  · rw [hLines, hSurvivors, List.nil_append]
  · rw [hSurvivors, if_neg hClear]
  · rw [hShown, if_neg hClear]
  · rw [hShown, hSurvivors, eq_comm, rtake_eq_self_iff]
    exact iff_of_false hOverflow.not_ge hNeither
  · rw [hShown, hLines]
    refine iff_of_false (fun hSuffix => ?_) hNeither
    -- what is kept of an outcome that does not fit is shorter than all of it
    have hShort := hSuffix.length_le
    omega

/-- On whatever has been written to a scrollback of whatever capacity, all lines of an
outcome are handed back, or none if it clears the scrollback. They are the survivors, and
an end of what is kept, exactly if there is room for the whole outcome or it clears. -/
theorem handsBack_performAll (capacity : Nat) (operations : List Operation) (outcome : Outcome) :
    HandsBack (max capacity 1) ((ofCapacity capacity).performAll operations) outcome := by
  have hHolds := holds_performAll capacity operations
  have hCapacity : 0 < max capacity 1 := by omega
  by_cases hClear : outcome.effect = some .clearScrollback
  · exact handsBack_of_clear _ _ hClear
  · rcases Nat.lt_or_ge (max capacity 1) outcome.lines.length with hOverflow | hRoom
    · exact hHolds.handsBack_of_overflow hCapacity hClear hOverflow
    · exact hHolds.handsBack_of_room hCapacity hClear hRoom

/-- A line that is handed back, though the next line has pushed it out. -/
theorem absorb_shows_lost :
    let scrollback := ofCapacity 1
    let outcome : Outcome := .ofLines [.output "a", .output "b"]
    (scrollback.absorb outcome).1.lines = [.output "a", .output "b"] ∧
      (scrollback.absorb outcome).2.lines = [.output "b"] ∧
      (scrollback.absorb outcome).1.lines ≠ scrollback.survivors outcome ∧
      ¬(scrollback.absorb outcome).1.lines <:+ (scrollback.absorb outcome).2.lines := by
  decide

end Scrollback

end VirtualShell
