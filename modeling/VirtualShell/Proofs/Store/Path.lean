import VirtualShell.Cursor
import VirtualShell.Proofs.Store.Entries
/-!
Paths step by step. A path that is taken in two parts leads where the second
part leads from where the first one ends.
-/

namespace VirtualShell

theorem belowRoot?_eq_some_iff {path names : List String} :
    belowRoot? path = some names ↔ path = rootName :: names := by
  cases path with
  | nil => simp [belowRoot?]
  | cons first rest => by_cases hFirst : first = rootName <;> simp [belowRoot?, hFirst]

theorem exists_names_of_rooted {path : List String} (h : path.head? = some rootName) :
    ∃ names, path = rootName :: names := by
  cases path with
  | nil => cases h
  | cons first rest => exact ⟨rest, by rw [Option.some.inj h]⟩

theorem belowRoot?_of_not_rooted {path : List String} (h : path.head? ≠ some rootName) :
    belowRoot? path = none := by
  rw [Option.eq_none_iff_forall_ne_some]
  intro names hNames
  rw [belowRoot?_eq_some_iff.mp hNames] at h
  exact h rfl

namespace Node

@[simp] theorem descend?_nil (node : Node) : node.descend? [] = some node := by
  cases node <;> rfl

theorem descend?_dir_cons (d : Directory) (name : String) (rest : List String) :
    (dir d).descend? (name :: rest) = (d.child? name).bind (·.descend? rest) := by
  rw [descend?]
  cases d.child? name <;> rfl

/-- A path that goes on from another one is followed from where that one led. -/
theorem descend?_append (node : Node) (first second : List String) :
    node.descend? (first ++ second) = (node.descend? first).bind (·.descend? second) := by
  induction first generalizing node with
  | nil => rw [List.nil_append, descend?_nil, Option.bind_some]
  | cons name rest ih =>
      cases node with
      | file f => rfl
      | dir d =>
          rw [List.cons_append, descend?_dir_cons, descend?_dir_cons, Option.bind_assoc]
          congr 1
          funext child
          exact ih child

/-- On the way to a directory there are only directories. -/
theorem dir_of_descend?_append {node : Node} {first second : List String} {d : Directory}
    (h : node.descend? (first ++ second) = some (.dir d)) :
    ∃ e, node.descend? first = some (.dir e) := by
  rw [descend?_append, Option.bind_eq_some_iff] at h
  obtain ⟨middle, hMiddle, hRest⟩ := h
  cases middle with
  | dir e => exact ⟨e, hMiddle⟩
  | file f => cases second <;> cases hRest

/-- What every directory hands on to its entries, a node hands on to all that
names lead to from it. -/
theorem of_descend? {P : Node → Prop} {node reached : Node} {names : List String}
    (hChild : ∀ (d : Directory) (name : String) (child : Node),
      d.child? name = some child → P (dir d) → P child)
    (hReach : node.descend? names = some reached) (h : P node) : P reached := by
  induction names generalizing node with
  | nil =>
      rw [descend?_nil] at hReach
      cases hReach
      exact h
  | cons name rest ih =>
      cases node with
      | file f => cases hReach
      | dir d =>
          rw [descend?_dir_cons, Option.bind_eq_some_iff] at hReach
          obtain ⟨child, hFound, hRest⟩ := hReach
          exact ih hRest (hChild d name child hFound h)

/-- Whatever is reached in a tree in order is in order. -/
theorem Ordered.of_descend? {node reached : Node} {names : List String} (h : node.Ordered)
    (hReach : node.descend? names = some reached) : reached.Ordered := by
  refine Node.of_descend? ?_ hReach h
  intro d name child hFound hd
  exact Entries.Ordered.of_find? hd hFound

theorem WellFormed.of_descend? {node reached : Node} {names : List String} (h : node.WellFormed)
    (hReach : node.descend? names = some reached) : reached.WellFormed := by
  refine Node.of_descend? ?_ hReach h
  intro d name child hFound hd
  exact (Entries.WellFormed.of_find? hd hFound).2

end Node

namespace Directory

/-- The walk to the deepest directory goes on from every directory that it reaches. -/
theorem deepest_append {d reached : Directory} {names : List String}
    (h : (Node.dir d).descend? names = some (.dir reached)) (rest : List String) :
    d.deepest (names ++ rest) = reached.deepest rest := by
  induction names generalizing d with
  | nil =>
      rw [Node.descend?_nil] at h
      cases h
      rfl
  | cons name names ih =>
      rw [Node.descend?_dir_cons, Option.bind_eq_some_iff] at h
      obtain ⟨child, hChild, hRest⟩ := h
      cases child with
      | file f => cases names <;> cases hRest
      | dir e => simpa only [List.cons_append, deepest, hChild] using ih hRest

/-- It arrives wherever the names lead to a directory, -/
theorem deepest_eq_of_descend? {d reached : Directory} {names : List String}
    (h : (Node.dir d).descend? names = some (.dir reached)) : d.deepest names = reached := by
  rw [← List.append_nil names, deepest_append h, deepest]

/-- and stops where the next name is not that of a directory. -/
theorem deepest_of_obstructed {d reached : Directory} {names : List String}
    (h : (Node.dir d).descend? names = some (.dir reached)) {segment : String}
    (hBad : ∀ child, reached.child? segment ≠ some (.dir child)) (rest : List String) :
    d.deepest (names ++ segment :: rest) = reached := by
  rw [deepest_append h, deepest]
  split
  · next child hChild => exact absurd hChild (hBad child)
  · rfl

end Directory

namespace Store

theorem resolve?_rootName (store : Store) (names : List String) :
    store.resolve? (rootName :: names) = (Node.dir store.root).descend? names := rfl

theorem resolve?_of_not_rooted (store : Store) {path : List String}
    (h : path.head? ≠ some rootName) : store.resolve? path = none := by
  rw [resolve?, belowRoot?_of_not_rooted h]

theorem exists_names_of_resolve? {store : Store} {path : List String} {node : Node}
    (h : store.resolve? path = some node) : ∃ names, path = rootName :: names := by
  by_contra hNone
  rw [resolve?_of_not_rooted store (mt exists_names_of_rooted hNone)] at h
  cases h

theorem resolve?_append (store : Store) {path : List String} (h : path ≠ [])
    (rest : List String) :
    store.resolve? (path ++ rest) = (store.resolve? path).bind (·.descend? rest) := by
  obtain ⟨first, names, rfl⟩ := List.exists_cons_of_ne_nil h
  by_cases hFirst : first = rootName
  · subst hFirst
    exact Node.descend?_append _ _ _
  · have hHead : ∀ more, (first :: more : List String).head? ≠ some rootName := by
      simpa using hFirst
    rw [List.cons_append, resolve?_of_not_rooted store (hHead _),
      resolve?_of_not_rooted store (hHead _), Option.bind_none]

/-- One segment more is the entry of that name. -/
theorem resolve?_child {store : Store} {path : List String} {d : Directory}
    (h : store.resolve? path = some (.dir d)) (name : String) :
    store.resolve? (path ++ [name]) = d.child? name := by
  have hPath : path ≠ [] := by
    rintro rfl
    cases h
  rw [resolve?_append store hPath, h, Option.bind_some, Node.descend?_dir_cons]
  cases d.child? name <;> simp

/-- With ascending entries, every directory that a path leads to has such. -/
theorem ordered_of_resolve? {store : Store} (h : store.root.entries.Ordered) {path : List String}
    {d : Directory} (hReach : store.resolve? path = some (.dir d)) : d.entries.Ordered := by
  obtain ⟨names, rfl⟩ := exists_names_of_resolve? hReach
  have hRoot : (Node.dir store.root).Ordered := h
  exact hRoot.of_descend? hReach

/-- With ascending entries, the entries of a directory are what its path and
one segment more leads to. -/
theorem resolve?_entry {store : Store} (h : store.root.entries.Ordered) {path : List String}
    {d : Directory} (hReach : store.resolve? path = some (.dir d)) {key : String} {node : Node}
    (hMem : (key, node) ∈ d.entries.toList) : store.resolve? (path ++ [key]) = some node := by
  rw [resolve?_child hReach]
  exact (ordered_of_resolve? h hReach).find?_of_mem_toList hMem

/-- Only a directory has anything below it. -/
theorem dir_of_resolve?_append {store : Store} {place more : List String} {node : Node}
    (hPlace : place ≠ []) (hMore : more ≠ []) (h : store.resolve? (place ++ more) = some node) :
    ∃ d, store.resolve? place = some (.dir d) := by
  rw [resolve?_append store hPlace, Option.bind_eq_some_iff] at h
  obtain ⟨middle, hMiddle, hRest⟩ := h
  cases middle with
  | dir d => exact ⟨d, hMiddle⟩
  | file f =>
      obtain ⟨first, rest, rfl⟩ := List.exists_cons_of_ne_nil hMore
      cases hRest

/-- Every prefix of a path to a directory leads to a directory. -/
theorem dir_of_prefix {store : Store} {path place : List String} {d : Directory}
    (h : store.resolve? path = some (.dir d)) (hPlace : place ≠ []) (hPrefix : place <+: path) :
    ∃ e, store.resolve? place = some (.dir e) := by
  obtain ⟨names, rfl⟩ := exists_names_of_resolve? h
  obtain ⟨first, more, rfl⟩ := List.exists_cons_of_ne_nil hPlace
  obtain ⟨rfl, rest, rfl⟩ := List.cons_prefix_cons.mp hPrefix
  exact Node.dir_of_descend?_append h

theorem resolveDir?_eq_some_iff {store : Store} {path : List String} {d : Directory} :
    store.resolveDir? path = some d ↔ store.resolve? path = some (.dir d) := by
  rw [resolveDir?]
  cases store.resolve? path with
  | none => simp
  | some node => cases node <;> simp

end Store

end VirtualShell
