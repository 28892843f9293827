import VirtualShell.Proofs.Store.Insert
/-!
The search for a flaw finds one exactly when there is one. So the stores that
can be built on a tree are those whose trees are well formed, and writing a file
leads from one of them to another.
-/

namespace VirtualShell

namespace Entries

variable {entries : Entries} {parent key name : String}

/-- Nothing is wrong with a valid key that is the name of its node. -/
theorem keyFlaw?_eq_none_iff :
    keyFlaw? parent key name = none ↔ key = name ∧ validName key = true := by
  rw [keyFlaw?]
  split
  · next hOther => simp [hOther]
  · next hSame => simp [not_not.mp hSame]

/-- A tree without a flaw is well formed, and the other way round. -/
theorem firstFlaw?_eq_none_iff : entries.firstFlaw? parent = none ↔ entries.WellFormed := by
  induction entries generalizing parent with
  | nil => exact iff_of_true rfl trivial
  | file key f rest ihRest =>
      rw [firstFlaw?, Option.or_eq_none_iff, keyFlaw?_eq_none_iff, ihRest, WellFormed]
  | dir key name children rest ihChildren ihRest =>
      rw [firstFlaw?, Option.or_eq_none_iff, Option.or_eq_none_iff, keyFlaw?_eq_none_iff,
        ihChildren, ihRest, WellFormed, and_assoc]

theorem WellFormed.of_mem_toList (h : entries.WellFormed) {node : Node}
    (hMem : (key, node) ∈ entries.toList) : key = node.name ∧ validName key = true := by
  induction entries using consInduction with
  | nil => cases hMem
  | cons other held rest ih =>
      obtain ⟨hOther, _, hRest⟩ := wellFormed_cons.mp h
      rw [toList_cons, List.mem_cons] at hMem
      rcases hMem with hSame | hMem
      · cases hSame
        exact hOther
      · exact ih hRest hMem

end Entries

theorem Directory.firstFlaw?_eq_none_iff {d : Directory} :
    d.firstFlaw? = none ↔ d.WellFormed := by
  rw [firstFlaw?, WellFormed]
  split
  · next hOther => simp [hOther]
  · next hSame => simp [not_not.mp hSame, Entries.firstFlaw?_eq_none_iff]

namespace Store

/-- A store is made of a well formed tree, and of nothing else. -/
theorem ofTree_eq_ok_iff {root : Directory} {store : Store} :
    ofTree root = .ok store ↔ root.WellFormed ∧ store = ⟨root⟩ := by
  rw [ofTree, ← Directory.firstFlaw?_eq_none_iff]
  cases root.firstFlaw? with
  | none => simp [eq_comm]
  | some flaw => simp

/-- In a well-formed store, whatever directory a path leads to, its entries are
found under their own names, and these are names that an entry may have. -/
theorem entryName_of_wellFormed {store : Store} (h : store.root.WellFormed) {path : List String}
    {d : Directory} (hReach : store.resolve? path = some (.dir d)) {key : String} {node : Node}
    (hMem : (key, node) ∈ d.entries.toList) : key = node.name ∧ EntryName key := by
  obtain ⟨names, rfl⟩ := exists_names_of_resolve? hReach
  have hRoot : (Node.dir store.root).WellFormed := h.2
  have hEntries : d.entries.WellFormed := hRoot.of_descend? hReach
  obtain ⟨hName, hValid⟩ := hEntries.of_mem_toList hMem
  exact ⟨hName, validName_iff.mp hValid⟩

/-- An insertion leaves a store well formed. -/
theorem wellFormed_of_insertFile {store after : Store} {path : List String}
    {name content : String} (h : store.insertFile path name content = .ok after)
    (hStore : store.root.WellFormed) : after.root.WellFormed := by
  obtain ⟨hName, names, _, hWrite⟩ := exists_write_of_insertFile h
  refine ⟨?_, Directory.wellFormed_of_write hWrite hName hStore.2⟩
  rw [Directory.name_of_write hWrite]
  exact hStore.1

end Store

end VirtualShell
