import VirtualShell.Json.Record
import Mathlib.Data.List.Basic
/-!
What a value is made of, as far as readers of records ask: how deep its parts
nest, whether they are sound, and which of them a record takes for its fields.
-/

namespace VirtualShell.Json

theorem itemsDepth_le_iff {items : List Json} {levels : Nat} :
    itemsDepth items ≤ levels ↔ ∀ item ∈ items, item.depth ≤ levels := by
  induction items with
  | nil => simp [itemsDepth]
  | cons item rest ih => rw [itemsDepth, Nat.max_le, ih, List.forall_mem_cons]

theorem fieldsDepth_le_iff {fields : List (String × Json)} {levels : Nat} :
    fieldsDepth fields ≤ levels ↔ ∀ field ∈ fields, field.2.depth ≤ levels := by
  induction fields with
  | nil => simp [fieldsDepth]
  | cons field rest ih =>
      obtain ⟨key, value⟩ := field
      rw [fieldsDepth, Nat.max_le, ih, List.forall_mem_cons]

/-- Whatever was read in a list was read from one of its items. -/
theorem exists_of_mem_mapM {α β : Type} {read : α → Option β} {xs : List α} {ys : List β}
    (h : xs.mapM read = some ys) {y : β} (hy : y ∈ ys) : ∃ x ∈ xs, read x = some y := by
  induction xs generalizing ys with
  | nil =>
      cases h
      cases hy
  | cons x xs ih =>
      simp only [List.mapM_cons, Option.bind_eq_bind, Option.bind_eq_some_iff] at h
      obtain ⟨first, hFirst, rest, hRest, hSame⟩ := h
      cases hSame
      rcases List.mem_cons.mp hy with rfl | hLater
      · exact ⟨x, List.mem_cons_self, hFirst⟩
      · obtain ⟨x', hx', hRead⟩ := ih hRest hLater
        exact ⟨x', List.mem_cons_of_mem _ hx', hRead⟩

/-- What is read back one by one is read back as a list. -/
theorem asList?_map {α : Type} {read : Json → Option α} {write : α → Json}
    (h : ∀ x, read (write x) = some x) (xs : List α) :
    asList? read (.array (xs.map write)) = some xs := by
  have hRead : read ∘ write = fun x => pure x := funext h
  rw [asList?, List.mapM_map, hRead]
  simpa using List.mapM_pure (m := Option) (l := xs) (f := id)

/-- A record is a container, and its fields are parts of it. -/
theorem depth_of_record? {slots : List (List String)} {value : Json} {found : List (Option Json)}
    (h : record? slots value = some found) :
    1 ≤ value.depth ∧ ∀ part, some part ∈ found → part.depth + 1 ≤ value.depth := by
  cases value with
  | object fields =>
      refine ⟨by rw [depth]; omega, fun part hPart => ?_⟩
      obtain ⟨labels, _, hSlot⟩ := exists_of_mem_mapM h hPart
      have hMem : part ∈ labelled labels fields := by
        split at hSlot
        · cases hSlot
        · next hOnly =>
            cases hSlot
            rw [hOnly]
            exact List.mem_singleton_self part
        · cases hSlot
      obtain ⟨field, hField, rfl⟩ := List.mem_map.mp hMem
      have hDepth := fieldsDepth_le_iff.mp (Nat.le_refl _) field (List.mem_of_mem_filter hField)
      rw [depth]
      omega
  | array items =>
      refine ⟨by rw [depth]; omega, fun part hPart => ?_⟩
      rw [record?] at h
      split at h
      · cases h
        have hMem : part ∈ items := by simpa using hPart
        have hDepth := itemsDepth_le_iff.mp (Nat.le_refl _) part hMem
        rw [depth]
        omega
      · cases h
  | _ => cases h

end VirtualShell.Json
