import VirtualShell.Store.Validation
import Mathlib.Data.String.Basic
/-!
Entries as a map from keys to nodes. The two kinds of entry behave alike in all
of this, so the laws are stated over `cons` and proved by induction on it.
Reading after an insertion needs no order; only that an insertion keeps the
order does.
-/

namespace VirtualShell

namespace Node

/-- The entries below a node ascend at every depth. -/
def Ordered : Node → Prop
  | file _ => True
  | dir d => d.entries.Ordered

/-- The keys below a node are the names of their nodes, at every depth. -/
def WellFormed : Node → Prop
  | file _ => True
  | dir d => d.entries.WellFormed

end Node

namespace Entries

/-- Entries are built from nothing by `cons`. Unlike the recursor this does
not descend into the directories. -/
@[elab_as_elim]
theorem consInduction {motive : Entries → Prop} (nil : motive .nil)
    (cons : ∀ key node rest, motive rest → motive (.cons key node rest)) :
    ∀ entries, motive entries
  | .nil => nil
  | .file key f rest => cons key (.file f) rest (consInduction nil cons rest)
  | .dir key name children rest =>
    cons key (.dir ⟨name, children⟩) rest (consInduction nil cons rest)

/-- Whole trees are built by `cons`, of nodes below which there are trees or
nothing. -/
@[elab_as_elim]
theorem treeInduction {motive : Entries → Prop} (nil : motive .nil)
    (cons : ∀ key node rest, (∀ d, node = Node.dir d → motive d.entries) → motive rest →
      motive (.cons key node rest)) : ∀ entries, motive entries
  | .nil => nil
  | .file key f rest => cons key (.file f) rest nofun (treeInduction nil cons rest)
  | .dir key name children rest =>
    have hChildren : motive children := treeInduction nil cons children
    cons key (.dir ⟨name, children⟩) rest (fun _ hSame => Node.dir.inj hSame ▸ hChildren)
      (treeInduction nil cons rest)

@[simp] theorem find?_nil (wanted : String) : nil.find? wanted = none := rfl

@[simp] theorem find?_cons (key : String) (node : Node) (rest : Entries) (wanted : String) :
    (cons key node rest).find? wanted = if key = wanted then some node else rest.find? wanted := by
  cases node <;> rfl

@[simp] theorem toList_cons (key : String) (node : Node) (rest : Entries) :
    (cons key node rest).toList = (key, node) :: rest.toList := by
  cases node <;> rfl

@[simp] theorem keys_nil : nil.keys = [] := rfl

@[simp] theorem keys_cons (key : String) (node : Node) (rest : Entries) :
    (cons key node rest).keys = key :: rest.keys := by
  simp [keys]

theorem insert_nil (key : String) (node : Node) : nil.insert key node = cons key node nil := rfl

theorem insert_cons (key : String) (node : Node) (other : String) (held : Node) (rest : Entries) :
    (cons other held rest).insert key node =
      if key = other then cons key node rest
      else if key < other then cons key node (cons other held rest)
      else cons other held (rest.insert key node) := by
  cases held <;> rfl

/-- In entries that are in order the first key is before all others, and so on in every
directory below. -/
theorem ordered_cons {key : String} {node : Node} {rest : Entries} :
    (cons key node rest).Ordered ↔ (∀ k ∈ rest.keys, key < k) ∧ node.Ordered ∧ rest.Ordered := by
  cases node with
  | file f => simp [cons, Ordered, Node.Ordered]
  | dir d => rfl

theorem wellFormed_cons {key : String} {node : Node} {rest : Entries} :
    (cons key node rest).WellFormed ↔
      (key = node.name ∧ validName key = true) ∧ node.WellFormed ∧ rest.WellFormed := by
  cases node with
  | file f => simp [cons, WellFormed, Node.WellFormed, Node.name]
  | dir d => rfl

/-- Whether entries are in order can be found out by going through them. -/
def decidableOrdered : (entries : Entries) → Decidable entries.Ordered
  | nil => isTrue trivial
  | file _ _ rest => @instDecidableAnd _ _ inferInstance rest.decidableOrdered
  | dir _ _ children rest =>
    @instDecidableAnd _ _ inferInstance
      (@instDecidableAnd _ _ children.decidableOrdered rest.decidableOrdered)

instance (entries : Entries) : Decidable entries.Ordered :=
  entries.decidableOrdered

/-- What was inserted is found under its key, and everything else as before. -/
theorem find?_insert (entries : Entries) (key : String) (node : Node) (wanted : String) :
    (entries.insert key node).find? wanted =
      if key = wanted then some node else entries.find? wanted := by
  induction entries using consInduction with
  | nil => rw [insert_nil, find?_cons]
  | cons other held rest ih =>
      rw [insert_cons, find?_cons]
      split
      · next hSame =>
          rw [find?_cons, hSame]
          split <;> rfl
      · next hOther =>
          split
          · rw [find?_cons, find?_cons]
          · rw [find?_cons, ih]
            split
            · next hHeld => rw [if_neg (fun hKey => hOther (hKey.trans hHeld.symm))]
            · rfl

/-- An insertion adds its own key and drops none. -/
theorem mem_keys_insert {entries : Entries} {key : String} {node : Node} {k : String} :
    k ∈ (entries.insert key node).keys ↔ k = key ∨ k ∈ entries.keys := by
  induction entries using consInduction with
  | nil => rw [insert_nil, keys_cons, List.mem_cons]
  | cons other held rest ih =>
      rw [insert_cons]
      split
      · next hSame => simp [hSame]
      · split
        · rw [keys_cons, List.mem_cons]
        · rw [keys_cons, keys_cons, List.mem_cons, List.mem_cons, ih]
          exact or_left_comm

theorem find?_eq_none_iff {entries : Entries} {key : String} :
    entries.find? key = none ↔ key ∉ entries.keys := by
  induction entries using consInduction with
  | nil => simp
  | cons other held rest ih =>
      rw [find?_cons, keys_cons, List.mem_cons, not_or, ← ih]
      split
      · next hSame => simp [hSame]
      · next hOther => simp [Ne.symm hOther]

theorem mem_keys_of_find? {entries : Entries} {key : String} {node : Node}
    (h : entries.find? key = some node) : key ∈ entries.keys := by
  by_contra hAbsent
  rw [← find?_eq_none_iff, h] at hAbsent
  exact Option.some_ne_none node hAbsent

theorem mem_toList_of_find? {entries : Entries} {key : String} {node : Node}
    (h : entries.find? key = some node) : (key, node) ∈ entries.toList := by
  induction entries using consInduction with
  | nil => cases h
  | cons other held rest ih =>
      rw [find?_cons] at h
      rw [toList_cons, List.mem_cons]
      split at h
      · next hSame =>
          cases h
          exact .inl (by rw [hSame])
      · exact .inr (ih h)

/-- A node may replace another, or come in new, without any harm to the order. -/
theorem Ordered.insert {entries : Entries} (h : entries.Ordered) (key : String) {node : Node}
    (hNode : node.Ordered) : (entries.insert key node).Ordered := by
  induction entries using consInduction with
  | nil => exact ordered_cons.mpr ⟨by simp, hNode, trivial⟩
  | cons other held rest ih =>
      obtain ⟨hFirst, hHeld, hRest⟩ := ordered_cons.mp h
      rw [insert_cons]
      split
      · next hSame => exact ordered_cons.mpr ⟨hSame ▸ hFirst, hNode, hRest⟩
      · next hOther =>
          split
          · next hLess =>
              refine ordered_cons.mpr ⟨fun k hk => ?_, hNode, h⟩
              rw [keys_cons, List.mem_cons] at hk
              rcases hk with rfl | hk
              · exact hLess
              · exact hLess.trans (hFirst k hk)
          · next hNotLess =>
              have hGreater : other < key := (lt_or_gt_of_ne hOther).resolve_left hNotLess
              refine ordered_cons.mpr ⟨fun k hk => ?_, hHeld, ih hRest⟩
              rcases mem_keys_insert.mp hk with rfl | hk
              · exact hGreater
              · exact hFirst k hk

/-- A node that is inserted under its own valid name leaves the entries well formed. -/
theorem WellFormed.insert {entries : Entries} (h : entries.WellFormed) {key : String}
    {node : Node} (hKey : key = node.name) (hValid : validName key = true)
    (hNode : node.WellFormed) : (entries.insert key node).WellFormed := by
  induction entries using consInduction with
  | nil => exact wellFormed_cons.mpr ⟨⟨hKey, hValid⟩, hNode, trivial⟩
  | cons other held rest ih =>
      obtain ⟨hOther, hHeld, hRest⟩ := wellFormed_cons.mp h
      rw [insert_cons]
      split
      · exact wellFormed_cons.mpr ⟨⟨hKey, hValid⟩, hNode, hRest⟩
      · split
        · exact wellFormed_cons.mpr ⟨⟨hKey, hValid⟩, hNode, h⟩
        · exact wellFormed_cons.mpr ⟨hOther, hHeld, ih hRest⟩

/-- What is found in ascending entries has ascending entries below it. -/
theorem Ordered.of_find? {entries : Entries} (h : entries.Ordered) {key : String} {node : Node}
    (hFind : entries.find? key = some node) : node.Ordered := by
  induction entries using consInduction with
  | nil => cases hFind
  | cons other held rest ih =>
      obtain ⟨_, hHeld, hRest⟩ := ordered_cons.mp h
      rw [find?_cons] at hFind
      split at hFind
      · cases hFind
        exact hHeld
      · exact ih hRest hFind

/-- Ascending keys differ, so every entry is found under its key. -/
theorem Ordered.find?_of_mem_toList {entries : Entries} (h : entries.Ordered) {key : String}
    {node : Node} (hMem : (key, node) ∈ entries.toList) : entries.find? key = some node := by
  induction entries using consInduction with
  | nil => cases hMem
  | cons other held rest ih =>
      obtain ⟨hFirst, _, hRest⟩ := ordered_cons.mp h
      rw [toList_cons, List.mem_cons] at hMem
      rw [find?_cons]
      rcases hMem with hSame | hLater
      · cases hSame
        rw [if_pos rfl]
      · have hLess : other < key := hFirst key (List.mem_map_of_mem hLater)
        rw [if_neg hLess.ne, ih hRest hLater]

/-- Behind the first of ascending entries there is no other one of its key. -/
theorem Ordered.find?_rest {key : String} {node : Node} {rest : Entries}
    (h : (cons key node rest).Ordered) : rest.find? key = none := by
  rw [find?_eq_none_iff]
  exact fun hKey => lt_irrefl key ((ordered_cons.mp h).1 key hKey)

/-- The first key is the least under which something is found. -/
theorem Ordered.le_of_find? {key wanted : String} {node found : Node} {rest : Entries}
    (h : (cons key node rest).Ordered) (hFind : (cons key node rest).find? wanted = some found) :
    key ≤ wanted := by
  have hMem := mem_keys_of_find? hFind
  rw [keys_cons, List.mem_cons] at hMem
  rcases hMem with rfl | hLater
  · exact le_refl wanted
  · exact le_of_lt ((ordered_cons.mp h).1 wanted hLater)

/-- Ascending entries are nothing more than the map from keys to nodes. -/
theorem Ordered.ext {a b : Entries} (ha : a.Ordered) (hb : b.Ordered)
    (h : ∀ key, a.find? key = b.find? key) : a = b := by
  induction a using consInduction generalizing b with
  | nil =>
      cases b using consInduction with
      | nil => rfl
      | cons key node rest =>
          have hFirst := h key
          simp at hFirst
  | cons key node rest ih =>
      cases b using consInduction with
      | nil =>
          have hFirst := h key
          simp at hFirst
      | cons key' node' rest' =>
          -- each of the two first keys is found among the entries of the other
          have hLeft : (cons key' node' rest').find? key = some node := by
            rw [← h, find?_cons, if_pos rfl]
          have hRight : (cons key node rest).find? key' = some node' := by
            rw [h, find?_cons, if_pos rfl]
          obtain rfl := le_antisymm (ha.le_of_find? hRight) (hb.le_of_find? hLeft)
          rw [find?_cons, if_pos rfl] at hLeft
          cases hLeft
          have hRest : rest = rest' := by
            refine ih (ordered_cons.mp ha).2.2 (ordered_cons.mp hb).2.2 fun wanted => ?_
            by_cases hSame : key = wanted
            · rw [← hSame, ha.find?_rest, hb.find?_rest]
            · simpa [hSame] using h wanted
          rw [hRest]

/-- Putting a node where it is already changes nothing. -/
theorem Ordered.insert_of_find? {entries : Entries} (h : entries.Ordered) {key : String}
    {node : Node} (hFind : entries.find? key = some node) : entries.insert key node = entries := by
  apply (h.insert key (h.of_find? hFind)).ext h
  intro wanted
  rw [find?_insert]
  split
  · next hSame => rw [← hSame, hFind]
  · rfl

theorem Ordered.pairwise_keys {entries : Entries} (h : entries.Ordered) :
    entries.keys.Pairwise (· < ·) := by
  induction entries using consInduction with
  | nil => exact .nil
  | cons key node rest ih =>
      obtain ⟨hFirst, _, hRest⟩ := ordered_cons.mp h
      rw [keys_cons]
      exact .cons hFirst (ih hRest)

/-- An insertion leaves all entries of other keys in their order. -/
theorem filter_toList_insert (entries : Entries) (key : String) (node : Node) :
    ((entries.insert key node).toList.filter fun entry => entry.1 ≠ key) =
      entries.toList.filter fun entry => entry.1 ≠ key := by
  induction entries using consInduction with
  | nil => simp [insert_nil, toList]
  | cons other held rest ih =>
      rw [insert_cons]
      split
      · next hSame => simp [hSame]
      · split
        · simp
        · rw [toList_cons, toList_cons, List.filter_cons, List.filter_cons, ih]

/-- An insertion brings in one entry, and all others were there. -/
theorem mem_toList_insert {entries : Entries} {key k : String} {node m : Node}
    (h : (k, m) ∈ (entries.insert key node).toList) :
    (k = key ∧ m = node) ∨ (k, m) ∈ entries.toList := by
  induction entries using consInduction with
  | nil => simpa [insert_nil, toList] using h
  | cons other held rest ih =>
      rw [insert_cons] at h
      rw [toList_cons, List.mem_cons]
      split at h
      · rw [toList_cons, List.mem_cons] at h
        rcases h with hSame | hLater
        · exact .inl (by simpa using hSame)
        · exact .inr (.inr hLater)
      · split at h
        · rw [toList_cons, toList_cons, List.mem_cons, List.mem_cons] at h
          rcases h with hSame | hOld
          · exact .inl (by simpa using hSame)
          · exact .inr hOld
        · rw [toList_cons, List.mem_cons] at h
          rcases h with hSame | hLater
          · exact .inr (.inl hSame)
          · rcases ih hLater with hNew | hOld
            · exact .inl hNew
            · exact .inr (.inr hOld)

/-- What is found in well formed entries is named by its key, and well formed itself. -/
theorem WellFormed.of_find? {entries : Entries} (h : entries.WellFormed) {key : String}
    {node : Node} (hFind : entries.find? key = some node) :
    (key = node.name ∧ validName key = true) ∧ node.WellFormed := by
  induction entries using consInduction with
  | nil => cases hFind
  | cons other held rest ih =>
      obtain ⟨hOther, hHeld, hRest⟩ := wellFormed_cons.mp h
      rw [find?_cons] at hFind
      split at hFind
      · next hSame =>
          cases hFind
          exact ⟨hSame ▸ hOther, hHeld⟩
      · exact ih hRest hFind

end Entries

end VirtualShell
