import VirtualShell.Proofs.Store.Insert
/-!
Writes after one another. Two writes whose places do not lie one below the other
part at some directory, where they go on under different keys; from there on
neither sees what the other has done, and up to there both rebuild the same
directories. So their order makes no difference, not even to the reasons for which
one of them is refused. Of two writes to the same place the second is all that is
left.
-/

namespace VirtualShell

/-- Neither path lies on the way to the other. -/
def Apart (path other : List String) : Prop :=
  ¬ path <+: other ∧ ¬ other <+: path

theorem Apart.symm {path other : List String} (h : Apart path other) : Apart other path :=
  ⟨h.2, h.1⟩

theorem apart_cons {key : String} {path other : List String} :
    Apart (key :: path) (key :: other) ↔ Apart path other := by
  simp [Apart, List.cons_prefix_cons]

/-- Of two paths that are apart, the first keys differ, or they are one key and
not the last one of either path. -/
theorem Apart.head_ne_or {names names' : List String} {last last' : String}
    (h : Apart (names ++ [last]) (names' ++ [last'])) :
    names.headD last ≠ names'.headD last' ∨
      ∃ key rest rest', names = key :: rest ∧ names' = key :: rest' ∧
        Apart (rest ++ [last]) (rest' ++ [last']) := by
  rw [or_iff_not_imp_left, not_not]
  intro hKey
  cases names with
  | nil =>
      cases hKey
      refine absurd ?_ h.1
      cases names' <;> simp [List.cons_prefix_cons]
  | cons key rest =>
      cases names' with
      | nil =>
          cases hKey
          refine absurd ?_ h.2
          simp [List.cons_prefix_cons]
      | cons key' rest' =>
          obtain rfl : key = key' := hKey
          exact ⟨key, rest, rest', rfl, rfl, apart_cons.mp h⟩

namespace Entries

/-- Nodes put under different keys may come in either order. -/
theorem insert_insert_comm (entries : Entries) {key other : String} (h : key ≠ other)
    (node held : Node) :
    (entries.insert key node).insert other held = (entries.insert other held).insert key node := by
  induction entries using consInduction with
  | nil => grind [insert_nil, insert_cons]
  | cons first kept rest ih => grind [insert_cons]

/-- A node that is put under a key again replaces the one that was put there. -/
theorem insert_insert_self (entries : Entries) (key : String) (node held : Node) :
    (entries.insert key node).insert key held = entries.insert key held := by
  induction entries using consInduction with
  | nil => simp [insert_nil, insert_cons]
  | cons first kept rest ih => grind [insert_cons]

end Entries

namespace Directory

/-- The directory with a node under a key. -/
def put (d : Directory) (key : String) (node : Node) : Directory :=
  { d with entries := d.entries.insert key node }

variable {d written : Directory} {key : String} {node : Node}
  {names names' rest : List String} {file file' : File}

theorem child?_put (d : Directory) (key : String) (node : Node) (wanted : String) :
    (d.put key node).child? wanted = if key = wanted then some node else d.child? wanted :=
  d.entries.find?_insert key node wanted

theorem put_put_comm (d : Directory) {key other : String} (h : key ≠ other) (node held : Node) :
    (d.put key node).put other held = (d.put other held).put key node := by
  simp only [put, d.entries.insert_insert_comm h]

theorem put_put_self (d : Directory) (key : String) (node held : Node) :
    (d.put key node).put key held = d.put key held := by
  simp only [put, d.entries.insert_insert_self]

theorem add_file (d : Directory) (file : File) : d.add (.file file) = d.put file.name (.file file) :=
  rfl

/-- Every write puts a node under the first key on its way. -/
theorem exists_put_of_write (h : d.write names file = .ok written) :
    ∃ node, written = d.put (names.headD file.name) node := by
  cases names with
  | nil => exact ⟨_, eq_add_of_write_nil h⟩
  | cons name rest =>
      obtain ⟨child, rebuilt, _, _, hWritten⟩ := exists_child_of_write_cons h
      exact ⟨_, hWritten⟩

/-- A write neither sees nor changes what is under other keys than its first. -/
theorem write_put (hKey : key ≠ names.headD file.name) :
    (d.put key node).write names file = (d.write names file).map (·.put key node) := by
  have hChild : (d.put key node).child? (names.headD file.name) =
      d.child? (names.headD file.name) := by
    rw [child?_put, if_neg hKey]
  cases names with
  | nil =>
      rw [List.headD_nil] at hKey hChild
      have hAdd : (d.put key node).add (.file file) = (d.add (.file file)).put key node := by
        rw [add_file, add_file, put_put_comm d hKey]
      rw [write, write, hChild, hAdd]
      split
      · split <;> rfl
      · rfl
  | cons name rest =>
      rw [List.headD_cons] at hKey hChild
      rw [write, write, hChild]
      split
      · next child _ =>
          cases child.write rest file with
          | ok rebuilt => exact congrArg Except.ok (put_put_comm d hKey _ _)
          | error fault => rfl
      · rfl
      · rfl

/-- A write below a directory is a write into it, and the result takes its place. -/
theorem write_cons_eq_map {name : String} {child : Directory}
    (h : d.child? name = some (.dir child)) :
    d.write (name :: rest) file =
      (child.write rest file).map fun rebuilt => d.put name (.dir rebuilt) := by
  rw [write_cons_of_dir h]
  cases child.write rest file <;> rfl

/-- A write below a directory that was just put somewhere is a write into that
directory. -/
theorem write_put_dir (d : Directory) (name : String) (child : Directory) :
    (d.put name (.dir child)).write (name :: rest) file =
      (child.write rest file).map fun rebuilt => d.put name (.dir rebuilt) := by
  have hChild : (d.put name (.dir child)).child? name = some (.dir child) := by
    rw [child?_put, if_pos rfl]
  simp only [write_cons_eq_map hChild, put_put_self]

/-- Writes that begin under different keys do not get in each other's way: what
was refused before is refused, and what went through goes through and comes to the
same in either order. -/
theorem write_of_write_of_ne (h : d.write names file = .ok written)
    (hKey : names.headD file.name ≠ names'.headD file'.name) :
    match d.write names' file' with
    | .error fault => written.write names' file' = .error fault
    | .ok other =>
      ∃ both, written.write names' file' = .ok both ∧ other.write names file = .ok both := by
  obtain ⟨node, rfl⟩ := exists_put_of_write h
  rw [write_put hKey]
  cases hOther : d.write names' file' with
  | error fault => rfl
  | ok other =>
      obtain ⟨held, rfl⟩ := exists_put_of_write hOther
      refine ⟨_, rfl, ?_⟩
      rw [write_put hKey.symm, h, Except.map, put_put_comm d hKey]

/-- The same holds of all writes to places that are apart. -/
theorem write_of_write (h : d.write names file = .ok written) (file' : File)
    (hApart : Apart (names ++ [file.name]) (names' ++ [file'.name])) :
    match d.write names' file' with
    | .error fault => written.write names' file' = .error fault
    | .ok other =>
      ∃ both, written.write names' file' = .ok both ∧ other.write names file = .ok both := by
  induction names generalizing d written names' with
  | nil =>
      rcases hApart.head_ne_or with hKey | ⟨_, _, _, hNames, _⟩
      · exact write_of_write_of_ne h hKey
      · cases hNames
  | cons name rest ih =>
      rcases hApart.head_ne_or with hKey | ⟨_, _, rest', hNames, rfl, hRest⟩
      · exact write_of_write_of_ne h hKey
      -- both go on into one directory
      cases hNames
      obtain ⟨child, rebuilt, hChild, hRebuilt, rfl⟩ := exists_child_of_write_cons h
      have hBelow := ih hRebuilt hRest
      rw [write_cons_eq_map hChild]
      cases hOther : child.write rest' file' with
      | error fault =>
          rw [hOther] at hBelow
          exact (write_put_dir d name rebuilt).trans (by rw [hBelow, Except.map])
      | ok other =>
          rw [hOther] at hBelow
          obtain ⟨both, hAfter, hBefore⟩ := hBelow
          refine ⟨d.put name (.dir both), ?_, ?_⟩
          · exact (write_put_dir d name rebuilt).trans (by rw [hAfter, Except.map])
          · rw [write_put_dir, hBefore, Except.map]

/-- Where a file was written, another one can be, and takes its place. -/
theorem write_of_write_self (h : d.write names file = .ok written)
    (hUnlocked : file.readOnly = false) (file' : File) (hName : file'.name = file.name) :
    ∃ last, written.write names file' = .ok last ∧ d.write names file' = .ok last := by
  induction names generalizing d written with
  | nil =>
      refine ⟨d.add (.file file'), ?_, ?_⟩
      · obtain rfl := eq_add_of_write_nil h
        have hChild : (d.add (.file file)).child? file.name = some (.file file) := by
          rw [add_file, child?_put, if_pos rfl]
        rw [write, hName, hChild, add_file, add_file, add_file, hName, put_put_self]
        simp [hUnlocked]
      · rw [write] at h ⊢
        rw [hName]
        split at h
        · split at h
          · cases h
          · next hFree => exact if_neg hFree
        · rfl
  | cons name rest ih =>
      obtain ⟨child, rebuilt, hChild, hRebuilt, rfl⟩ := exists_child_of_write_cons h
      obtain ⟨last, hAfter, hBefore⟩ := ih hRebuilt
      refine ⟨d.put name (.dir last), ?_, ?_⟩
      · exact (write_put_dir d name rebuilt).trans (by rw [hAfter, Except.map])
      · rw [write_cons_eq_map hChild, hBefore, Except.map]

end Directory

namespace Store

/-- A request to write a file into the directory at a path. -/
structure Request where
  path : List String
  name : String
  content : String

namespace Request

def file (request : Request) : File :=
  ⟨request.name, request.content, false⟩

/-- The path of the file itself. -/
def target (request : Request) : List String :=
  request.path ++ [request.name]

end Request

def answer (store : Store) (request : Request) : Except Fault Store :=
  store.insertFile request.path request.name request.content

/-- The store after a request. One that is refused leaves it as it was. -/
def serve (store : Store) (request : Request) : Store :=
  match store.answer request with
  | .ok after => after
  | .error _ => store

/-- Why a request is refused, if it is. -/
def refusal? (store : Store) (request : Request) : Option Fault :=
  match store.answer request with
  | .ok _ => none
  | .error fault => some fault

variable {store after : Store} {first second : Request}

/-- Some requests are refused by every store for the same reason; all others are
writes into the root directory. -/
theorem refused_or_rooted (request : Request) :
    (∃ fault, ∀ store : Store, store.answer request = .error fault) ∨
      EntryName request.name ∧ ∃ names, request.path = rootName :: names := by
  by_cases hName : EntryName request.name
  · by_cases hRooted : request.path.head? = some rootName
    · exact .inr ⟨hName, exists_names_of_rooted hRooted⟩
    · exact .inl ⟨_, fun _ => insertFile_of_refuses (.notRooted hName hRooted)⟩
  · refine .inl ⟨Fault.invalidName request.name, fun _ => insertFile_of_refuses (.invalidName ?_)⟩
    rw [EntryName] at hName
    tauto

/-- What is asked below the root is a write into the root directory. -/
theorem answer_rooted (hName : EntryName first.name) {names : List String}
    (hPath : first.path = rootName :: names) :
    store.answer first =
      match store.root.write names first.file with
      | .ok root => .ok ⟨root⟩
      | .error fault => .error fault := by
  rw [answer, hPath, insertFile_rootName hName]
  rfl

theorem exists_write_of_answer (h : store.answer first = .ok after) :
    EntryName first.name ∧ ∃ names, first.path = rootName :: names ∧
      store.root.write names first.file = .ok after.root := by
  obtain ⟨hValid, hWrite⟩ := exists_write_of_insertFile h
  exact ⟨validName_iff.mp hValid, hWrite⟩

/-- A request that went through has no influence on one whose target is apart. -/
theorem answer_of_answer (h : store.answer first = .ok after)
    (hApart : Apart first.target second.target) :
    match store.answer second with
    | .error fault => after.answer second = .error fault
    | .ok other => ∃ both, after.answer second = .ok both ∧ other.answer first = .ok both := by
  rcases refused_or_rooted second with ⟨fault, hRefused⟩ | ⟨hSecond, names', hNames'⟩
  · rw [hRefused]
    exact hRefused after
  obtain ⟨hFirst, names, hNames, hWrite⟩ := exists_write_of_answer h
  have hBelow : Apart (names ++ [first.file.name]) (names' ++ [second.file.name]) := by
    rwa [Request.target, Request.target, hNames, hNames', List.cons_append, List.cons_append,
      apart_cons] at hApart
  have hRoot := Directory.write_of_write hWrite second.file hBelow
  simp only [answer_rooted hFirst hNames, answer_rooted hSecond hNames']
  cases hOther : store.root.write names' second.file with
  | error fault =>
      rw [hOther] at hRoot
      rw [hRoot]
  | ok other =>
      rw [hOther] at hRoot
      obtain ⟨both, hAfter, hBefore⟩ := hRoot
      exact ⟨⟨both⟩, by rw [hAfter], by rw [hBefore]⟩

theorem serve_of_ok (h : store.answer first = .ok after) : store.serve first = after := by
  rw [serve, h]

theorem serve_of_error {fault : Fault} (h : store.answer first = .error fault) :
    store.serve first = store := by
  rw [serve, h]

/-- What a request comes to does not depend on requests whose target is apart. -/
theorem refusal?_serve (h : Apart first.target second.target) :
    (store.serve first).refusal? second = store.refusal? second := by
  cases hFirst : store.answer first with
  | error fault => rw [serve_of_error hFirst]
  | ok after =>
      have hAfter := answer_of_answer hFirst h
      rw [serve_of_ok hFirst, refusal?, refusal?]
      cases hSecond : store.answer second with
      | error fault =>
          rw [hSecond] at hAfter
          rw [hAfter]
      | ok other =>
          rw [hSecond] at hAfter
          obtain ⟨both, hBoth, _⟩ := hAfter
          rw [hBoth]

theorem refusal?_eq_some_iff {fault : Fault} :
    store.refusal? first = some fault ↔ store.answer first = .error fault := by
  rw [refusal?]
  cases store.answer first <;> simp

theorem refusal?_eq_none_iff :
    store.refusal? first = none ↔ ∃ after, store.answer first = .ok after := by
  rw [refusal?]
  cases store.answer first <;> simp

/-- A request that is refused is refused after requests whose target is apart too,
and leaves the store to these. -/
theorem serve_serve_of_error {fault : Fault} (h : Apart first.target second.target)
    (hSecond : store.answer second = .error fault) :
    (store.serve first).serve second = store.serve first := by
  rw [← refusal?_eq_some_iff, ← refusal?_serve h, refusal?_eq_some_iff] at hSecond
  exact serve_of_error hSecond

/-- Requests with unrelated targets come to the same store in either order. -/
theorem serve_serve_comm (h : Apart first.target second.target) :
    (store.serve first).serve second = (store.serve second).serve first := by
  cases hSecond : store.answer second with
  | error fault => rw [serve_serve_of_error h hSecond, serve_of_error hSecond]
  | ok other =>
      cases hFirst : store.answer first with
      | error fault => rw [serve_serve_of_error h.symm hFirst, serve_of_error hFirst]
      | ok after =>
          have hAfter := answer_of_answer hFirst h
          rw [hSecond] at hAfter
          obtain ⟨both, hBoth, hBoth'⟩ := hAfter
          rw [serve_of_ok hFirst, serve_of_ok hSecond, serve_of_ok hBoth, serve_of_ok hBoth']

/-- Where a request went through, another one to the same target does, and gives
what it gives by itself. -/
theorem answer_of_answer_self (h : store.answer first = .ok after)
    (hTarget : first.target = second.target) :
    ∃ last, after.answer second = .ok last ∧ store.answer second = .ok last := by
  obtain ⟨hPath, hLast⟩ := List.append_inj' hTarget rfl
  obtain hName : first.name = second.name := List.singleton_inj.mp hLast
  obtain ⟨hFirst, names, hNames, hWrite⟩ := exists_write_of_answer h
  have hSecond : EntryName second.name := hName ▸ hFirst
  obtain ⟨last, hAfter, hBefore⟩ :=
    Directory.write_of_write_self hWrite rfl second.file hName.symm
  rw [hPath] at hNames
  refine ⟨⟨last⟩, ?_, ?_⟩
  · rw [answer_rooted hSecond hNames, hAfter]
  · rw [answer_rooted hSecond hNames, hBefore]

/-- Requests whose targets are apart may be served in either order: the store comes
to the same, and each of them goes through or is refused with the same fault as in
the other order. Of two requests to one target of which the first goes through, the
second goes through as well and leaves the store as it would have done alone. -/
theorem serve_apart_and_same (store : Store) :
    (∀ first second : Request, Apart first.target second.target →
      (store.serve first).serve second = (store.serve second).serve first ∧
      (store.serve second).refusal? first = store.refusal? first ∧
      (store.serve first).refusal? second = store.refusal? second) ∧
    ∀ first second : Request, first.target = second.target → store.refusal? first = none →
      (store.serve first).refusal? second = none ∧
      (store.serve first).serve second = store.serve second := by
  refine ⟨fun first second h => ⟨serve_serve_comm h, refusal?_serve h.symm, refusal?_serve h⟩, ?_⟩
  intro first second hTarget hFirst
  obtain ⟨after, hAnswer⟩ := refusal?_eq_none_iff.mp hFirst
  obtain ⟨last, hAfter, hAlone⟩ := answer_of_answer_self hAnswer hTarget
  rw [serve_of_ok hAnswer]
  exact ⟨refusal?_eq_none_iff.mpr ⟨last, hAfter⟩,
    (serve_of_ok hAfter).trans (serve_of_ok hAlone).symm⟩

/-- Two files in directories of which one is around the other, a read-only file that
is refused before and after, and a file that is written twice. -/
theorem serve_apart_and_same_small :
    let docs : Entries := .file "a" ⟨"a", "", true⟩ (.dir "b" "b" .nil .nil)
    let store : Store := ⟨⟨rootName, .dir "docs" "docs" docs .nil⟩⟩
    let upper : Request := ⟨[rootName, "docs"], "c", "first"⟩
    let lower : Request := ⟨[rootName, "docs", "b"], "c", "second"⟩
    let locked : Request := ⟨[rootName, "docs"], "a", "third"⟩
    let again : Request := { upper with content := "last" }
    (Apart upper.target lower.target ∧
      (store.serve upper).serve lower = (store.serve lower).serve upper) ∧
    (Apart upper.target locked.target ∧
      (store.serve upper).refusal? locked = store.refusal? locked ∧
      store.refusal? locked = some (Fault.readOnly "a")) ∧
    (upper.target = again.target ∧ store.refusal? upper = none ∧
      (store.serve upper).serve again = store.serve again) := by
  intro docs store upper lower locked again
  have hLower : Apart upper.target lower.target := ⟨by decide, by decide⟩
  have hLocked : Apart upper.target locked.target := ⟨by decide, by decide⟩
  have hFirst : store.refusal? upper = none := by decide
  obtain ⟨hApart, hSame⟩ := serve_apart_and_same store
  exact ⟨⟨hLower, (hApart upper lower hLower).1⟩,
    ⟨hLocked, (hApart upper locked hLocked).2.2, by decide⟩, rfl, hFirst,
    (hSame upper again rfl hFirst).2⟩

end Store

end VirtualShell
