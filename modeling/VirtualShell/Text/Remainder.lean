/-!
What reading leaves of a list of characters. A reader gives what it has found at the
front, if anything, and the characters behind it. As long as these are fewer than
before, one reader after the other comes to the end of any list.
-/

namespace VirtualShell.Text

variable {α β : Type} {bound more : Nat} {found : Option (α × List Char)} {value : α}
  {rest : List Char}

/-- Whether fewer characters than a bound were left, if anything was found. -/
def LeavesBelow (bound : Nat) (found : Option (α × List Char)) : Prop :=
  ∀ value rest, found = some (value, rest) → rest.length < bound

namespace LeavesBelow

/-- Where nothing was found, nothing was left either. -/
theorem none : LeavesBelow bound (none : Option (α × List Char)) :=
  nofun

theorem some (h : rest.length < bound) : LeavesBelow bound (some (value, rest)) := by
  rintro _ _ ⟨⟩
  exact h

/-- A reader that was given fewer characters leaves fewer. -/
theorem mono (h : LeavesBelow bound found) (hLe : bound ≤ more) : LeavesBelow more found :=
  fun value rest hFound => Nat.lt_of_lt_of_le (h value rest hFound) hLe

/-- To find more in front of what was found leaves the same. -/
theorem map (h : LeavesBelow bound found) (change : α → β) :
    LeavesBelow bound (found.map fun result => (change result.1, result.2)) := by
  intro value rest hMapped
  obtain ⟨⟨before, after⟩, hFound, hSame⟩ := Option.map_eq_some_iff.mp hMapped
  cases hSame
  exact h before after hFound

/-- Something else may be made of what was found. -/
theorem of_found (h : LeavesBelow bound found) (hFound : found = Option.some (value, rest))
    (other : β) (hLe : bound ≤ more) : LeavesBelow more (Option.some (other, rest)) :=
  some (Nat.lt_of_lt_of_le (h value rest hFound) hLe)

end LeavesBelow

end VirtualShell.Text
