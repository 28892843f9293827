import VirtualShell.Proofs.Store.Path
/-!
What a write does. A request is refused for exactly one of five reasons, tried
in a fixed order; a request that is not refused changes one place of the tree
and nothing beside it.
-/

namespace VirtualShell

/-- A name by which an entry can be found: not empty, not one of the two names
that stand for other places, and without a slash. -/
def EntryName (name : String) : Prop :=
  name ≠ "" ∧ name ≠ "." ∧ name ≠ ".." ∧ '/' ∉ name.toList

/-- The check of names accepts the names of entries. -/
theorem validName_iff {name : String} : validName name = true ↔ EntryName name := by
  simp [validName, EntryName, and_assoc]

/-- In a directory whose entries took in a node, a path into that node leads
on from the node, and any other path leads where it led before. -/
theorem Node.descend?_insert_cons (d : Directory) (key : String) (node : Node) (name : String)
    (rest : List String) :
    (Node.dir { d with entries := d.entries.insert key node }).descend? (name :: rest) =
      if key = name then node.descend? rest else (Node.dir d).descend? (name :: rest) := by
  rw [descend?_dir_cons, descend?_dir_cons, Directory.child?, Directory.child?,
    Entries.find?_insert]
  split <;> rfl

namespace Directory

variable {d e written : Directory} {names rest : List String} {file : File} {fault : Fault}

theorem write_cons_of_dir {name : String} {child : Directory}
    (h : d.child? name = some (.dir child)) :
    d.write (name :: rest) file =
      match child.write rest file with
      | .ok written => .ok { d with entries := d.entries.insert name (.dir written) }
      | .error fault => .error fault := by
  cases hChild : child.write rest file <;> simp only [write, h, hChild]

/-- The file itself can only be refused by a read-only file in its place. -/
theorem write_nil_eq_error_iff :
    d.write [] file = .error fault ↔
      ∃ f, d.child? file.name = some (.file f) ∧ f.readOnly = true ∧
        fault = Fault.readOnly file.name := by
  rw [write]
  cases hChild : d.child? file.name with
  | none => simp
  | some node =>
      cases node with
      | dir child => simp
      | file existing => by_cases hLocked : existing.readOnly <;> simp [hLocked, eq_comm (a := fault)]

theorem eq_add_of_write_nil (h : d.write [] file = .ok written) : written = d.add (.file file) := by
  rw [write] at h
  split at h
  · split at h <;> cases h
    rfl
  · cases h
    rfl

/-- A write below a name goes through the directory of that name and rebuilds
nothing else. -/
theorem exists_child_of_write_cons {name : String}
    (h : d.write (name :: rest) file = .ok written) :
    ∃ child rebuilt, d.child? name = some (.dir child) ∧ child.write rest file = .ok rebuilt ∧
      written = { d with entries := d.entries.insert name (.dir rebuilt) } := by
  rw [write] at h
  split at h
  · next child hChild =>
      split at h
      · next rebuilt hRebuilt =>
          cases h
          exact ⟨child, rebuilt, hChild, hRebuilt, rfl⟩
      · cases h
  · cases h
  · cases h

/-- Directories on the way let a refusal through as it is. -/
theorem write_append_eq_error_iff (hReach : (Node.dir d).descend? names = some (.dir e)) :
    d.write (names ++ rest) file = .error fault ↔ e.write rest file = .error fault := by
  induction names generalizing d with
  | nil =>
      rw [Node.descend?_nil] at hReach
      cases hReach
      exact Iff.rfl
  | cons name names ih =>
      rw [Node.descend?_dir_cons, Option.bind_eq_some_iff] at hReach
      obtain ⟨child, hChild, hRest⟩ := hReach
      cases child with
      | file f => cases names <;> cases hRest
      | dir child =>
          rw [List.cons_append, write_cons_of_dir hChild, ← ih hRest]
          cases child.write (names ++ rest) file <;> simp

/-- Names either lead to a directory, or there is a first one among them that
names no directory. -/
theorem reached_or_obstructed (d : Directory) (names : List String) :
    (∃ e, (Node.dir d).descend? names = some (.dir e)) ∨
    ∃ before segment after e, names = before ++ segment :: after ∧
      (Node.dir d).descend? before = some (.dir e) ∧
      ∀ child, e.child? segment ≠ some (.dir child) := by
  induction names generalizing d with
  | nil => exact .inl ⟨d, Node.descend?_nil _⟩
  | cons name rest ih =>
      by_cases hDir : ∃ child, d.child? name = some (.dir child)
      · obtain ⟨child, hChild⟩ := hDir
        have hStep (more : List String) :
            (Node.dir d).descend? (name :: more) = (Node.dir child).descend? more := by
          rw [Node.descend?_dir_cons, hChild, Option.bind_some]
        rcases ih child with ⟨e, hReach⟩ | ⟨before, segment, after, e, hNames, hReach, hBad⟩
        · exact .inl ⟨e, (hStep rest).trans hReach⟩
        · refine .inr ⟨name :: before, segment, after, e, ?_, (hStep before).trans hReach, hBad⟩
          rw [hNames, List.cons_append]
      · refine .inr ⟨[], name, rest, d, rfl, Node.descend?_nil _, ?_⟩
        exact fun child hChild => hDir ⟨child, hChild⟩

/-! What a write that went through has done to the paths of the directory. -/

/-- A file that was written is where it was written to. -/
theorem descend?_target_of_write (h : d.write names file = .ok written) :
    (Node.dir written).descend? (names ++ [file.name]) = some (.file file) := by
  induction names generalizing d written with
  | nil =>
      rw [eq_add_of_write_nil h, List.nil_append, add, Node.descend?_insert_cons]
      exact if_pos rfl
  | cons name rest ih =>
      obtain ⟨child, rebuilt, _, hRebuilt, rfl⟩ := exists_child_of_write_cons h
      rw [List.cons_append, Node.descend?_insert_cons, if_pos rfl]
      exact ih hRebuilt

/-- A write leaves all that is neither above nor below its target. -/
theorem descend?_elsewhere_of_write (h : d.write names file = .ok written) {path : List String}
    (hBelow : ¬ names ++ [file.name] <+: path) (hAbove : ¬ path <+: names) :
    (Node.dir written).descend? path = (Node.dir d).descend? path := by
  induction names generalizing d written path with
  | nil =>
      cases path with
      | nil => exact absurd List.nil_prefix hAbove
      | cons first more =>
          rw [eq_add_of_write_nil h, add, Node.descend?_insert_cons]
          refine if_neg fun hFirst => hBelow ?_
          rw [List.nil_append, List.cons_prefix_cons]
          exact ⟨hFirst, List.nil_prefix⟩
  | cons name rest ih =>
      obtain ⟨child, rebuilt, hChild, hRebuilt, rfl⟩ := exists_child_of_write_cons h
      cases path with
      | nil => exact absurd List.nil_prefix hAbove
      | cons first more =>
          rw [Node.descend?_insert_cons]
          split
          · next hFirst =>
              subst hFirst
              rw [List.cons_append, List.cons_prefix_cons] at hBelow
              rw [List.cons_prefix_cons] at hAbove
              rw [Node.descend?_dir_cons, hChild, Option.bind_some]
              exact ih hRebuilt (fun hMore => hBelow ⟨rfl, hMore⟩) fun hMore => hAbove ⟨rfl, hMore⟩
          · rfl

/-- The directories on the way stay where they are, with the entries that they
had; only the last of them gains one. -/
theorem descend?_above_of_write (h : d.write names file = .ok written) {path : List String}
    (hPath : path <+: names) :
    ∃ before after, (Node.dir d).descend? path = some (.dir before) ∧
      (Node.dir written).descend? path = some (.dir after) ∧ after.name = before.name ∧
      ∀ key, key ∈ after.entries.keys ↔
        key ∈ before.entries.keys ∨ (path = names ∧ key = file.name) := by
  induction names generalizing d written path with
  | nil =>
      rw [List.prefix_nil] at hPath
      subst hPath
      refine ⟨d, written, Node.descend?_nil _, Node.descend?_nil _, ?_, fun key => ?_⟩
      · rw [eq_add_of_write_nil h, add]
      · rw [eq_add_of_write_nil h, add, Entries.mem_keys_insert]
        simp [Node.name, or_comm]
  | cons name rest ih =>
      obtain ⟨child, rebuilt, hChild, hRebuilt, rfl⟩ := exists_child_of_write_cons h
      cases path with
      | nil =>
          refine ⟨d, _, Node.descend?_nil _, Node.descend?_nil _, rfl, fun key => ?_⟩
          have hName : name ∈ d.entries.keys := Entries.mem_keys_of_find? hChild
          rw [Entries.mem_keys_insert]
          constructor
          · rintro (rfl | hKey)
            · exact .inl hName
            · exact .inl hKey
          · rintro (hKey | ⟨hNil, _⟩)
            · exact .inr hKey
            · cases hNil
      | cons first more =>
          obtain ⟨rfl, hMore⟩ := List.cons_prefix_cons.mp hPath
          obtain ⟨before, after, hBefore, hAfter, hSame, hKeys⟩ := ih hRebuilt hMore
          refine ⟨before, after, ?_, ?_, hSame, fun key => ?_⟩
          · rw [Node.descend?_dir_cons, hChild, Option.bind_some, hBefore]
          · rw [Node.descend?_insert_cons, if_pos rfl, hAfter]
          · rw [hKeys, List.cons.injEq, eq_self_iff_true, true_and]

theorem name_of_write (h : d.write names file = .ok written) : written.name = d.name := by
  obtain ⟨before, after, hBefore, hAfter, hName, _⟩ := descend?_above_of_write h List.nil_prefix
  rw [Node.descend?_nil] at hBefore hAfter
  cases hBefore
  cases hAfter
  exact hName

/-- A write leaves entries in order. -/
theorem ordered_of_write (h : d.write names file = .ok written) (hOrdered : d.entries.Ordered) :
    written.entries.Ordered := by
  induction names generalizing d written with
  | nil =>
      rw [eq_add_of_write_nil h]
      exact hOrdered.insert _ trivial
  | cons name rest ih =>
      obtain ⟨child, rebuilt, hChild, hRebuilt, rfl⟩ := exists_child_of_write_cons h
      exact hOrdered.insert _ (ih hRebuilt (hOrdered.of_find? hChild))

/-- A write under a valid name leaves entries well formed. -/
theorem wellFormed_of_write (h : d.write names file = .ok written)
    (hFile : validName file.name = true) (hEntries : d.entries.WellFormed) :
    written.entries.WellFormed := by
  induction names generalizing d written with
  | nil =>
      rw [eq_add_of_write_nil h]
      exact hEntries.insert rfl hFile trivial
  | cons name rest ih =>
      obtain ⟨child, rebuilt, hChild, hRebuilt, rfl⟩ := exists_child_of_write_cons h
      obtain ⟨⟨hName, hValid⟩, hBelow⟩ := hEntries.of_find? hChild
      have hRebuiltName : name = rebuilt.name := hName.trans (name_of_write hRebuilt).symm
      exact hEntries.insert hRebuiltName hValid (ih hRebuilt hBelow)

/-- A file that is written where it is already leaves everything as it is. -/
theorem write_eq_self (hReach : (Node.dir d).descend? names = some (.dir e))
    (hFile : e.child? file.name = some (.file file)) (hUnlocked : file.readOnly = false)
    (hOrdered : d.entries.Ordered) : d.write names file = .ok d := by
  induction names generalizing d with
  | nil =>
      rw [Node.descend?_nil] at hReach
      cases hReach
      have hSame : e.entries.insert file.name (.file file) = e.entries :=
        hOrdered.insert_of_find? hFile
      simp [write, hFile, hUnlocked, add, Node.name, hSame]
  | cons name rest ih =>
      rw [Node.descend?_dir_cons, Option.bind_eq_some_iff] at hReach
      obtain ⟨child, hChild, hRest⟩ := hReach
      cases child with
      | file f => cases rest <;> cases hRest
      | dir child =>
          have hSame : d.entries.insert name (.dir child) = d.entries :=
            hOrdered.insert_of_find? hChild
          rw [write_cons_of_dir hChild, ih hRest (hOrdered.of_find? hChild)]
          simp only [hSame]

end Directory

namespace Store

/-- Why a store refuses to write a file `name` into the directory at `path`.
Each reason supposes that those before it do not apply; the two that are about
a directory on the way name the first segment that leads to none. -/
inductive Refuses (store : Store) (path : List String) (name : String) : Fault → Prop where
  | invalidName (hName : name = "" ∨ name = "." ∨ name = ".." ∨ '/' ∈ name.toList) :
      Refuses store path name (Fault.invalidName name)
  | notRooted (hName : EntryName name) (hPath : path.head? ≠ some rootName) :
      Refuses store path name (Fault.notFound "directory" (displayPath path))
  | missing (hName : EntryName name) {before after : List String} {segment : String}
      {d : Directory} (hPath : path = rootName :: before ++ segment :: after)
      (hReach : store.resolve? (rootName :: before) = some (.dir d))
      (hAbsent : d.child? segment = none) :
      Refuses store path name (Fault.notFound "directory" segment)
  | throughFile (hName : EntryName name) {before after : List String} {segment : String}
      {d : Directory} {f : File} (hPath : path = rootName :: before ++ segment :: after)
      (hReach : store.resolve? (rootName :: before) = some (.dir d))
      (hFile : d.child? segment = some (.file f)) :
      Refuses store path name (Fault.notADirectory segment)
  | readOnly (hName : EntryName name) {d : Directory} {f : File}
      (hReach : store.resolve? path = some (.dir d))
      (hFile : store.resolve? (path ++ [name]) = some (.file f)) (hLocked : f.readOnly = true) :
      Refuses store path name (Fault.readOnly name)

/-- What a store is after a file was written at a place of another one: every
path leads where it led before, except for the place itself, what lies below it,
and the directories around it, of which only the last gains an entry. -/
structure Rewritten (before after : Store) (path : List String) (name content : String) :
    Prop where
  target : after.resolve? (path ++ [name]) = some (.file ⟨name, content, false⟩)
  below : ∀ more, more ≠ [] → after.resolve? (path ++ [name] ++ more) = none
  around : ∀ place, place ≠ [] → place <+: path →
    ∃ d d', before.resolve? place = some (.dir d) ∧ after.resolve? place = some (.dir d') ∧
      d'.name = d.name ∧
      ∀ key, key ∈ d'.entries.keys ↔ key ∈ d.entries.keys ∨ (place = path ∧ key = name)
  elsewhere : ∀ place, ¬ path ++ [name] <+: place → ¬ (place ≠ [] ∧ place <+: path) →
    after.resolve? place = before.resolve? place
  ordered : before.root.entries.Ordered → after.root.entries.Ordered

variable {store after : Store} {path : List String} {name content : String} {fault : Fault}

/-- A valid name and a path that begins at the root hand the request on to the
root directory. -/
theorem insertFile_rootName (hName : EntryName name) (names : List String) :
    store.insertFile (rootName :: names) name content =
      match store.root.write names ⟨name, content, false⟩ with
      | .ok root => .ok ⟨root⟩
      | .error fault => .error fault := by
  rw [insertFile, if_pos (validName_iff.mpr hName)]
  rfl

theorem insertFile_rootName_eq_error_iff (hName : EntryName name) {names : List String} :
    store.insertFile (rootName :: names) name content = .error fault ↔
      store.root.write names ⟨name, content, false⟩ = .error fault := by
  rw [insertFile_rootName hName]
  cases store.root.write names ⟨name, content, false⟩ <;> simp

/-- In a directory that is there, a file with a valid name is refused by a
read-only file of that name and by nothing else. -/
theorem insertFile_eq_error_iff_of_dir {d : Directory} (hName : EntryName name)
    (hReach : store.resolve? path = some (.dir d)) :
    store.insertFile path name content = .error fault ↔
      ∃ f, d.child? name = some (.file f) ∧ f.readOnly = true ∧ fault = Fault.readOnly name := by
  obtain ⟨names, rfl⟩ := exists_names_of_resolve? hReach
  rw [insertFile_rootName_eq_error_iff hName, ← List.append_nil names,
    Directory.write_append_eq_error_iff hReach, Directory.write_nil_eq_error_iff]

/-- Only a request with a valid name and a path from the root goes through, and
it writes into the root directory. -/
theorem exists_write_of_insertFile (h : store.insertFile path name content = .ok after) :
    validName name = true ∧ ∃ names, path = rootName :: names ∧
      store.root.write names ⟨name, content, false⟩ = .ok after.root := by
  rw [insertFile] at h
  split at h
  · next hName =>
      split at h
      · next names hPath =>
          split at h
          · next root hRoot =>
              cases h
              exact ⟨hName, names, belowRoot?_eq_some_iff.mp hPath, hRoot⟩
          · cases h
      · cases h
  · cases h

/-- An insertion faults for one of the reasons to refuse it. -/
theorem refuses_of_insertFile (h : store.insertFile path name content = .error fault) :
    store.Refuses path name fault := by
  by_cases hName : EntryName name
  · by_cases hRooted : path.head? = some rootName
    · obtain ⟨names, rfl⟩ := exists_names_of_rooted hRooted
      rw [insertFile_rootName_eq_error_iff hName] at h
      rcases store.root.reached_or_obstructed names with
        ⟨d, hReach⟩ | ⟨before, segment, rest, d, rfl, hReach, hBad⟩
      · rw [← List.append_nil names, Directory.write_append_eq_error_iff hReach,
          Directory.write_nil_eq_error_iff] at h
        obtain ⟨f, hFile, hLocked, rfl⟩ := h
        have hResolve : store.resolve? (rootName :: names) = some (.dir d) := hReach
        exact .readOnly hName hResolve ((resolve?_child hResolve name).trans hFile) hLocked
      · rw [Directory.write_append_eq_error_iff hReach, Directory.write] at h
        split at h
        · next child hChild => exact absurd hChild (hBad child)
        · next f hFile =>
            cases h
            exact .throughFile hName rfl hReach hFile
        · next hAbsent =>
            cases h
            exact .missing hName rfl hReach hAbsent
    · rw [insertFile, if_pos (validName_iff.mpr hName), belowRoot?_of_not_rooted hRooted] at h
      cases h
      exact .notRooted hName hRooted
  · rw [insertFile, if_neg (mt validName_iff.mp hName)] at h
    cases h
    refine .invalidName ?_
    rw [EntryName] at hName
    tauto

/-- Any reason to refuse an insertion is the fault of it. -/
theorem insertFile_of_refuses (h : store.Refuses path name fault) :
    store.insertFile path name content = .error fault := by
  cases h with
  | invalidName hName =>
      have hInvalid : ¬ EntryName name := by
        rw [EntryName]
        tauto
      rw [insertFile, if_neg (mt validName_iff.mp hInvalid)]
  | notRooted hName hPath =>
      rw [insertFile, if_pos (validName_iff.mpr hName), belowRoot?_of_not_rooted hPath]
  | missing hName hPath hReach hAbsent =>
      rw [hPath, List.cons_append, insertFile_rootName_eq_error_iff hName,
        Directory.write_append_eq_error_iff hReach, Directory.write, hAbsent]
  | throughFile hName hPath hReach hFile =>
      rw [hPath, List.cons_append, insertFile_rootName_eq_error_iff hName,
        Directory.write_append_eq_error_iff hReach, Directory.write, hFile]
  | readOnly hName hReach hFile hLocked =>
      rw [resolve?_child hReach] at hFile
      exact (insertFile_eq_error_iff_of_dir hName hReach).mpr ⟨_, hFile, hLocked, rfl⟩

/-- An insertion that goes through rewrites its target and nothing else. -/
theorem rewritten_of_insertFile (h : store.insertFile path name content = .ok after) :
    store.Rewritten after path name content := by
  obtain ⟨_, names, rfl, hWrite⟩ := exists_write_of_insertFile h
  have hTarget := Directory.descend?_target_of_write hWrite
  refine ⟨hTarget, fun more hMore => ?_, fun place hPlace hPrefix => ?_, fun place hBelow hAbove => ?_,
    Directory.ordered_of_write hWrite⟩
  · rw [resolve?_append after (by simp), List.cons_append, resolve?_rootName, hTarget,
      Option.bind_some]
    obtain ⟨first, rest, rfl⟩ := List.exists_cons_of_ne_nil hMore
    rfl
  · obtain ⟨first, more, rfl⟩ := List.exists_cons_of_ne_nil hPlace
    obtain ⟨rfl, hMore⟩ := List.cons_prefix_cons.mp hPrefix
    simpa only [resolve?_rootName, List.cons.injEq, true_and] using
      Directory.descend?_above_of_write hWrite hMore
  · by_cases hRooted : place.head? = some rootName
    · obtain ⟨more, rfl⟩ := exists_names_of_rooted hRooted
      rw [List.cons_append, List.cons_prefix_cons] at hBelow
      rw [List.cons_prefix_cons] at hAbove
      exact Directory.descend?_elsewhere_of_write hWrite (fun hMore => hBelow ⟨rfl, hMore⟩)
        fun hMore => hAbove ⟨List.cons_ne_nil _ _, rfl, hMore⟩
    · rw [resolve?_of_not_rooted after hRooted, resolve?_of_not_rooted store hRooted]

/-- Into a directory any file can be written that has the name of an entry, unless it
would replace a read-only file. -/
theorem exists_insertFile_iff {d : Directory} (hReach : store.resolve? path = some (.dir d)) :
    (∃ after, store.insertFile path name content = .ok after) ↔
      EntryName name ∧ ∀ f, d.child? name = some (.file f) → f.readOnly = false := by
  constructor
  · rintro ⟨after, hInsert⟩
    have hName : EntryName name := validName_iff.mp (exists_write_of_insertFile hInsert).1
    refine ⟨hName, fun f hFile => ?_⟩
    by_contra hReadOnly
    rw [Bool.not_eq_false] at hReadOnly
    have hRefused : store.insertFile path name content = .error (Fault.readOnly name) :=
      (insertFile_eq_error_iff_of_dir hName hReach).mpr ⟨f, hFile, hReadOnly, rfl⟩
    rw [hInsert] at hRefused
    cases hRefused
  · rintro ⟨hName, hFree⟩
    cases hInsert : store.insertFile path name content with
    | ok after => exact ⟨after, rfl⟩
    | error fault =>
        obtain ⟨f, hFile, hReadOnly, _⟩ := (insertFile_eq_error_iff_of_dir hName hReach).mp hInsert
        rw [hFree f hFile] at hReadOnly
        cases hReadOnly

/-- Writing a file once more changes nothing. -/
theorem insertFile_eq_self {d : Directory} (hName : EntryName name)
    (hReach : store.resolve? path = some (.dir d))
    (hFile : d.child? name = some (.file ⟨name, content, false⟩))
    (hOrdered : store.root.entries.Ordered) :
    store.insertFile path name content = .ok store := by
  obtain ⟨names, rfl⟩ := exists_names_of_resolve? hReach
  rw [insertFile_rootName hName, Directory.write_eq_self hReach hFile rfl hOrdered]

/-- The whole of what writing a file means. A request fails with a fault if
and only if the store refuses it for that reason; any other request goes
through, and leaves the store as it was but for the one place. -/
theorem insertFile_spec (store : Store) (path : List String) (name content : String) :
    (∀ fault, store.insertFile path name content = .error fault ↔
      store.Refuses path name fault) ∧
    ((∀ fault, ¬ store.Refuses path name fault) →
      ∃ after, store.insertFile path name content = .ok after ∧
        store.Rewritten after path name content) := by
  refine ⟨fun fault => ⟨refuses_of_insertFile, insertFile_of_refuses⟩, fun hFree => ?_⟩
  cases hInsert : store.insertFile path name content with
  | error fault => exact absurd (refuses_of_insertFile hInsert) (hFree fault)
  | ok after => exact ⟨after, rfl, rewritten_of_insertFile hInsert⟩

end Store

end VirtualShell
