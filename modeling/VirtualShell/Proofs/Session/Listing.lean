import Mathlib.Data.List.Nodup
import VirtualShell.Proofs.Session.Protocol
/-!
What `ls` shows of the current directory: one line for each entry, from which
its kind can be told, since no name of an entry has a slash in it. The marker of an
empty directory is a line of the same kind, and a file may have its text as a name.
-/

namespace VirtualShell

namespace Directory

variable {d : Directory} {key : String} {kind : NodeKind}

/-- The entries of a directory with their kinds, in order. -/
def listing (d : Directory) : List (String × NodeKind) :=
  d.entries.toList.map fun entry => (entry.1, entry.2.kind)

/-- What is listed are the keys of the directory, each with the kind of its node. -/
theorem mem_listing_iff : (key, kind) ∈ d.listing ↔
    ∃ node, (key, node) ∈ d.entries.toList ∧ node.kind = kind := by
  simp [listing]

/-- Every key is listed once. -/
theorem nodup_listing (h : d.entries.Ordered) : d.listing.Nodup := by
  apply List.Nodup.of_map (·.1)
  have hKeys : d.listing.map (·.1) = d.entries.keys := by
    simp [listing, Entries.keys]
  rw [hKeys]
  exact h.pairwise_keys.imp ne_of_lt

/-- Of the listing of a directory, a write into it changes one entry. -/
theorem filter_listing_insert (d : Directory) (key : String) (node : Node) :
    ((listing { d with entries := d.entries.insert key node }).filter fun entry => entry.1 ≠ key) =
      d.listing.filter fun entry => entry.1 ≠ key := by
  rw [listing, listing, List.filter_map, List.filter_map]
  exact congrArg _ (d.entries.filter_toList_insert key node)

end Directory

theorem Store.list_of_dir {store : Store} {path : List String} {d : Directory}
    (hReach : store.resolve? path = some (.dir d)) : store.list path = .ok d.listing := by
  rw [list, hReach]
  rfl

namespace Builtin

variable {entries : List (String × NodeKind)} {entry : String × NodeKind} {name : String}

theorem listingLines_of_ne_nil (h : entries ≠ []) :
    listingLines entries = entries.map listingLine := by
  cases entries with
  | nil => exact absurd rfl h
  | cons first rest => rfl

theorem kind_listingLine (entry : String × NodeKind) : (listingLine entry).kind = .output := by
  obtain ⟨key, kind⟩ := entry
  cases kind <;> rfl

/-- Only a file is shown by its name alone, for directories have a slash behind. -/
theorem content_listingLine_iff (hSlash : '/' ∉ name.toList) :
    (listingLine entry).content = name ↔ entry = (name, .file) := by
  obtain ⟨key, kind⟩ := entry
  cases kind with
  | file => simp [listingLine, Line.output]
  | dir =>
      have hOther : key ++ "/" ≠ name := by
        rintro rfl
        simp at hSlash
      simp [listingLine, Line.output, hOther]

/-- Only a directory is shown by its name with a slash, if no key has one. -/
theorem content_listingLine_slash (hKey : '/' ∉ entry.1.toList)
    (h : (listingLine entry).content = name ++ "/") : entry = (name, .dir) := by
  obtain ⟨key, kind⟩ := entry
  cases kind with
  | file =>
      have hSame : key = name ++ "/" := h
      rw [hSame] at hKey
      simp at hKey
  | dir =>
      have hSame : key ++ "/" = name ++ "/" := h
      rw [String.append_left_inj] at hSame
      rw [hSame]

/-- From a line an entry can be told, if no key has a slash. -/
theorem listingLine_inj {other : String × NodeKind} (hKey : '/' ∉ entry.1.toList)
    (hOther : '/' ∉ other.1.toList) : listingLine entry = listingLine other ↔ entry = other := by
  refine ⟨fun hLine => ?_, congrArg listingLine⟩
  have hContent := congrArg Line.content hLine
  obtain ⟨key, kind⟩ := other
  cases kind with
  | file => exact (content_listingLine_iff hOther).mp hContent
  | dir => exact content_listingLine_slash hKey hContent

/-- Lines tell the entries they show, as long as no key has a slash. -/
theorem map_listingLine_inj {others : List (String × NodeKind)}
    (hKeys : ∀ entry ∈ entries, '/' ∉ entry.1.toList)
    (hOthers : ∀ entry ∈ others, '/' ∉ entry.1.toList) :
    entries.map listingLine = others.map listingLine ↔ entries = others := by
  induction entries generalizing others with
  | nil => simp [eq_comm]
  | cons entry rest ih =>
      cases others with
      | nil => simp
      | cons other more =>
          rw [List.forall_mem_cons] at hKeys hOthers
          rw [List.map_cons, List.map_cons, List.cons.injEq, List.cons.injEq,
            listingLine_inj hKeys.1 hOthers.1, ih hKeys.2 hOthers.2]

/-- The entries that a listing seems to be of. Where there are none, it looks like that
of a single file with the text of the marker for its name. -/
def apparent (entries : List (String × NodeKind)) : List (String × NodeKind) :=
  if entries = [] then [(emptyMarker, .file)] else entries

/-- An empty directory is shown as if it held a file with the name of the marker. -/
theorem listingLines_eq_map (entries : List (String × NodeKind)) :
    listingLines entries = (apparent entries).map listingLine := by
  cases entries <;> rfl

/-- The marker is shown of an empty directory and of one that holds a file of that name
alone. -/
theorem apparent_eq_marker_iff :
    apparent entries = [(emptyMarker, .file)] ↔ entries = [] ∨ entries = [(emptyMarker, .file)] := by
  rw [apparent]
  split
  · next hNone => exact iff_of_true rfl (.inl hNone)
  · next hSome => rw [or_iff_right hSome]

/-- Two listings are shown alike if they are the same, or if one is empty and the other
the file with the name of the marker. -/
theorem apparent_eq_apparent_iff {others : List (String × NodeKind)} :
    apparent entries = apparent others ↔
      entries = others ∨ (entries = [] ∧ others = [(emptyMarker, .file)]) ∨
        (others = [] ∧ entries = [(emptyMarker, .file)]) := by
  by_cases hEntries : entries = []
  · rw [apparent, if_pos hEntries, eq_comm, apparent_eq_marker_iff]
    subst hEntries
    simp [eq_comm]
  · by_cases hOthers : others = []
    · subst hOthers
      rw [apparent, if_neg hEntries, apparent, if_pos rfl]
      simp [hEntries]
    · rw [apparent, if_neg hEntries, apparent, if_neg hOthers]
      simp [hEntries, hOthers]

theorem slashFree_apparent (hKeys : ∀ entry ∈ entries, '/' ∉ entry.1.toList) :
    ∀ entry ∈ apparent entries, '/' ∉ entry.1.toList := by
  rw [apparent]
  split
  · simp [emptyMarker]
  · exact hKeys

/-- Listings that read the same are of the same entries, but for that likeness. -/
theorem listingLines_eq_iff {others : List (String × NodeKind)}
    (hKeys : ∀ entry ∈ entries, '/' ∉ entry.1.toList)
    (hOthers : ∀ entry ∈ others, '/' ∉ entry.1.toList) :
    listingLines entries = listingLines others ↔ apparent entries = apparent others := by
  rw [listingLines_eq_map, listingLines_eq_map,
    map_listingLine_inj (slashFree_apparent hKeys) (slashFree_apparent hOthers)]

/-- Of a listing that names a file once, one line is that name. -/
theorem countP_listingLines (hSlash : '/' ∉ name.toList) (hMem : (name, .file) ∈ entries)
    (hNodup : entries.Nodup) :
    (listingLines entries).countP (fun line => line.kind = .output ∧ line.content = name) = 1 := by
  rw [listingLines_of_ne_nil (List.ne_nil_of_mem hMem), List.countP_map]
  calc
    _ = entries.count (name, .file) := by
      apply List.countP_congr
      intro entry _
      simp [kind_listingLine, content_listingLine_iff hSlash]
    _ = 1 := List.count_eq_one_of_mem hNodup hMem

end Builtin

namespace Session

variable {session : Session} {name : String} {f : File}

/-- However `ls` is spelled, and whatever stands behind it, it lists the current
directory. -/
theorem execute_of_ls {line : String} (h : session.Consistent)
    (hLine : Command.builtinOf line = some .ls) :
    (session.execute line).2 =
      .ofLines (session.echoOf line :: Builtin.listingLines session.directory.listing) := by
  have hRun (args : List String) : Builtin.ls.run args session =
      .ok (session, .ofLines (Builtin.listingLines session.directory.listing)) := by
    rw [Builtin.run_ls, Store.list_of_dir h.directory]
    rfl
  exact outcome_of_builtinOf hLine hRun

/-- What `ls` shows is the listing of the current directory. -/
theorem execute_ls (h : session.Consistent) :
    (session.execute "ls").2 =
      .ofLines (session.echoOf "ls" :: Builtin.listingLines session.directory.listing) := by
  have hParse : Command.parse "ls" = some ⟨.builtin .ls, Text.trim "ls", []⟩ :=
    Command.parse_name .ls
  apply execute_of_ls h
  rw [Command.builtinOf, hParse]
  rfl

theorem mem_listing_of_file (hFile : session.directory.child? name = some (.file f)) :
    (name, .file) ∈ session.directory.listing :=
  Directory.mem_listing_iff.mpr ⟨_, Entries.mem_toList_of_find? hFile, rfl⟩

/-- A file is shown on one line of `ls` and no more. -/
theorem countP_ls_of_file (h : session.Orderly) (hName : EntryName name)
    (hFile : session.directory.child? name = some (.file f)) :
    (session.execute "ls").2.lines.countP
      (fun line => line.kind = .output ∧ line.content = name) = 1 := by
  have hOnce := Builtin.countP_listingLines hName.2.2.2 (mem_listing_of_file hFile)
    (Directory.nodup_listing h.ordered_directory)
  rw [execute_ls h.consistent, Outcome.ofLines, List.countP_cons_of_neg]
  · exact hOnce
  · simp [echoOf, Line.input]

/-- A file is never shown with the slash of a directory. -/
theorem ls_unmarked_of_file (h : session.Orderly)
    (hFile : session.directory.child? name = some (.file f)) :
    ∀ line ∈ (session.execute "ls").2.lines, line.kind = .output → line.content ≠ name ++ "/" := by
  rw [execute_ls h.consistent, Outcome.ofLines,
    Builtin.listingLines_of_ne_nil (List.ne_nil_of_mem (mem_listing_of_file hFile))]
  intro line hLine hOutput hContent
  rcases List.mem_cons.mp hLine with rfl | hListed
  · cases hOutput
  · obtain ⟨⟨key, kind⟩, hEntry, rfl⟩ := List.mem_map.mp hListed
    obtain ⟨node, hNode, hKind⟩ := Directory.mem_listing_iff.mp hEntry
    have hKey : EntryName key :=
      (h.consistent.named _ _ h.consistent.directory _ _ hNode).2
    cases Builtin.content_listingLine_slash hKey.2.2.2 hContent
    have hFound : session.directory.child? name = some node :=
      h.ordered_directory.find?_of_mem_toList hNode
    rw [hFile] at hFound
    cases hFound
    cases hKind

theorem slashFree_listing (h : session.Consistent) :
    ∀ entry ∈ session.directory.listing, '/' ∉ entry.1.toList := by
  rintro ⟨key, kind⟩ hEntry
  obtain ⟨node, hNode, _⟩ := Directory.mem_listing_iff.mp hEntry
  exact (h.named _ _ h.directory _ _ hNode).2.2.2.2

variable {other : Session} {line line' : String}

/-- Whether the current directory has nothing but a file with the text of the marker
for its name, where another one has nothing at all. -/
def Imitates (session other : Session) : Prop :=
  other.directory.listing = [] ∧ session.directory.listing = [(emptyMarker, .file)]

theorem tail_execute_of_ls (h : session.Consistent) (hLine : Command.builtinOf line = some .ls) :
    (session.execute line).2.lines.tail = Builtin.listingLines session.directory.listing := by
  rw [execute_of_ls h hLine]
  rfl

/-- Two listings look the same if they are, or if one of the directories imitates the
other. -/
theorem tail_execute_eq_iff (h : session.Consistent) (hOther : other.Consistent)
    (hLine : Command.builtinOf line = some .ls) (hLine' : Command.builtinOf line' = some .ls) :
    (session.execute line).2.lines.tail = (other.execute line').2.lines.tail ↔
      session.directory.listing = other.directory.listing ∨ other.Imitates session ∨
        session.Imitates other := by
  rw [tail_execute_of_ls h hLine, tail_execute_of_ls hOther hLine',
    Builtin.listingLines_eq_iff (slashFree_listing h) (slashFree_listing hOther),
    Builtin.apparent_eq_apparent_iff, Imitates, Imitates]

/-- The marker is read where there are no entries, or where the only one imitates it. -/
theorem tail_execute_eq_marker_iff (h : session.Consistent)
    (hLine : Command.builtinOf line = some .ls) :
    (session.execute line).2.lines.tail = [Line.output emptyMarker] ↔
      session.directory.listing = [] ∨
        session.directory.listing = [(emptyMarker, .file)] := by
  have hMarker : [Line.output emptyMarker] = Builtin.listingLines [] := rfl
  rw [tail_execute_of_ls h hLine, hMarker,
    Builtin.listingLines_eq_iff (slashFree_listing h) (List.forall_mem_nil _)]
  exact Builtin.apparent_eq_marker_iff

variable {seed seed' : Seed} {user user' : String} {limit limit' : Option Nat}

/-- On whatever two sessions runs from seeds lead to, `ls` answers the same exactly if
the current directories have the same entries with the same kinds, or one of them has
none and the other imitates that. So the marker by itself means no more than that there
is no entry but perhaps a file of that name. -/
theorem ls_eq_ls_iff (hStart : start seed user limit = .ok session)
    (hOther : start seed' user' limit' = .ok other) (actions actions' : List Action)
    (hLine : Command.builtinOf line = some .ls) (hLine' : Command.builtinOf line' = some .ls) :
    let here := session.performAll actions
    let there := other.performAll actions'
    ((here.execute line).2.lines.tail = (there.execute line').2.lines.tail ↔
      here.directory.listing = there.directory.listing ∨ there.Imitates here ∨
        here.Imitates there) ∧
    ((here.execute line).2.lines.tail = [Line.output emptyMarker] ↔
      here.directory.listing = [] ∨ here.directory.listing = [(emptyMarker, .file)]) := by
  intro here there
  have hHere : here.Consistent := performAll_consistent hStart actions
  have hThere : there.Consistent := performAll_consistent hOther actions'
  exact ⟨tail_execute_eq_iff hHere hThere hLine hLine', tail_execute_eq_marker_iff hHere hLine⟩

/-- A file in the place of a directory of the same name, which is told from it; and a
file that imitates the marker, which is not. -/
theorem ls_eq_ls_iff_small :
    let seed : Seed := ⟨⟨rootName, .dir "a" "a" .nil .nil⟩, []⟩
    let session : Session := { store := ⟨seed.tree⟩, user := "guest" }
    let here := session.performAll [.execute "touch a"]
    let there := session.performAll [.execute "cd a", .execute "touch (empty)"]
    let inside := session.performAll [.execute "cd a"]
    (start seed "guest" none = .ok session ∧ Command.builtinOf "ls" = some .ls ∧
      Command.builtinOf " LS -l" = some .ls) ∧
    (here.execute "ls").2.lines.tail ≠ (session.execute " LS -l").2.lines.tail ∧
    (there.execute "ls").2.lines.tail = (inside.execute " LS -l").2.lines.tail := by
  intro seed session here there inside
  have hStart : start seed "guest" none = .ok session := by decide
  have hLine : Command.builtinOf "ls" = some .ls := by decide
  have hLine' : Command.builtinOf " LS -l" = some .ls := by decide
  have hHere := ls_eq_ls_iff hStart hStart [.execute "touch a"] [] hLine hLine'
  have hThere := ls_eq_ls_iff hStart hStart [.execute "cd a", .execute "touch (empty)"]
    [.execute "cd a"] hLine hLine'
  refine ⟨⟨hStart, hLine, hLine'⟩, ?_, ?_⟩
  · intro hSame
    rcases hHere.1.mp hSame with hListing | hMarked | hMarked
    · exact absurd hListing (by decide)
    · exact absurd hMarked.2 (by decide)
    · exact absurd hMarked.2 (by decide)
  · exact hThere.1.mpr (.inr (.inr ⟨by decide, by decide⟩))

/-- Two directories that `ls` shows alike, though one has a file and the other has no
entries. -/
theorem ls_imitated :
    let seed : Seed := ⟨⟨rootName, .nil⟩, []⟩
    let session : Session := { store := ⟨seed.tree⟩, user := "guest" }
    let touched := session.performAll [.execute "touch (empty)"]
    start seed "guest" none = .ok session ∧
      (touched.execute "ls").2.lines.tail = (session.execute "ls").2.lines.tail ∧
      (touched.execute "ls").2.lines.tail = [Line.output emptyMarker] ∧
      touched.directory.listing = [("(empty)", .file)] ∧ session.directory.listing = [] := by
  decide

end Session

end VirtualShell
