import VirtualShell.Proofs.Completion.Offer
import VirtualShell.Proofs.Session.Listing
import VirtualShell.Proofs.Session.Tree
/-!
The current directory from all sides. Paths, listings, look-ups by name, drawings
and completions come to its entries in different ways, and all of them see the
same ones, each under its own name and in the order of the bytes of the names.
-/

namespace VirtualShell

namespace Drawing

variable {key : String} {entries : Entries}

/-- The entry that a line shows which has a connector in front: a directory if
there is a slash behind. -/
def entryOf (line : String) : String × NodeKind :=
  let shown := line.toList.drop 4
  if shown.getLast? = some '/' then (String.ofList shown.dropLast, .dir)
  else (String.ofList shown, .file)

/-- The entries that stand at the top of a drawing, not behind any column. -/
def topEntries (lines : List String) : List (String × NodeKind) :=
  (lines.filter fun line => !isDeeper line).map entryOf

/-- The top line of an entry tells its key and its kind. -/
theorem entryOf_line (hSlash : '/' ∉ key.toList) (last : Bool) (node : Node) :
    entryOf (connector last ++ (key ++ node.mark)) = (key, node.kind) := by
  have hShown : (connector last ++ (key ++ node.mark)).toList.drop 4 =
      key.toList ++ node.mark.toList := by
    cases last <;> simp [connector, branch, lastBranch]
  rw [entryOf, hShown]
  cases node with
  | file f =>
      have hLast : key.toList.getLast? ≠ some '/' := fun hLast =>
        hSlash (List.mem_of_getLast? hLast)
      simp [Node.mark, Node.kind, hLast]
  | dir d => simp [Node.mark, Node.kind]

/-- What can be read off the top of a drawing are the entries that were drawn. -/
theorem topEntries_draw (h : ∀ key ∈ entries.keys, '/' ∉ key.toList) :
    topEntries (entries.draw "") = entries.toList.map fun entry => (entry.1, entry.2.kind) := by
  induction entries using Entries.consInduction with
  | nil => rfl
  | cons key node rest ih =>
      rw [Entries.keys_cons, List.forall_mem_cons] at h
      have hTop := isDeeper_connector rest.isEmpty (key ++ node.mark)
      have hBelow : (node.linesBelow.map (column rest.isEmpty ++ ·)).filter
          (fun line => !isDeeper line) = [] := by
        simp [isDeeper_column]
      have hRest := ih h.2
      rw [topEntries] at hRest
      rw [topEntries, Entries.draw_cons, List.filter_cons, hTop, List.filter_append, hBelow]
      simp [entryOf_line h.1, hRest]

end Drawing

namespace Completion

/-- Completion and listing look at the same entries. -/
theorem mem_entriesOf_iff_listing {kind : NodeKind} {d : Directory} {name : String} :
    name ∈ entriesOf kind d ↔ (name, kind) ∈ d.listing := by
  rw [mem_entriesOf_iff, Directory.mem_listing_iff]

/-- Every name goes on from nothing. -/
theorem matching_empty (names : List String) : matching "" names = names := by
  simp [matching, Text.startsWith]

/-- Behind the name of a command and a blank all its operands are offered. -/
theorem candidates_of_name (builtin : Builtin) (snapshot : Snapshot) :
    (ofLine (builtin.name ++ " ") snapshot).candidates = operands builtin snapshot := by
  have hLine := candidates_of_named builtin builtin.lowercase_name "" snapshot
  rwa [String.append_empty, matching_empty] at hLine

end Completion

namespace Session

variable {session : Session}

/-- A list of names and kinds that is what the current directory has, whichever
way one looks at it. -/
structure Pictured (session : Session) (entries : List (String × NodeKind)) : Prop where
  /-- The paths that lead to something in the directory, -/
  resolved : ∀ name kind, (name, kind) ∈ entries ↔
    ∃ node, session.store.resolve? (session.cursor.path ++ [name]) = some node ∧ node.kind = kind
  /-- what is found in it by name, -/
  found : ∀ name, session.directory.child? name =
    session.store.resolve? (session.cursor.path ++ [name])
  /-- its listing, -/
  listed : session.store.list session.cursor.path = .ok entries
  /-- the top of its drawing, -/
  drawn : ∃ lines, Drawing.topEntries lines = entries ∧ ∀ args,
    Builtin.tree.run args session = .ok (session, .ofLines (("." :: lines).map Line.output))
  /-- and what is offered, where its directories stand behind the way up -/
  moves : ∃ names, (Completion.ofLine "cd " session.snapshot).candidates = ".." :: names ∧
    Completion.Ascending names ∧ ".." ∉ names ∧ ∀ name, name ∈ names ↔ (name, .dir) ∈ entries
  /-- and its files by themselves. -/
  reads : ∃ names, (Completion.ofLine "cat " session.snapshot).candidates = names ∧
    Completion.Ascending names ∧ ∀ name, name ∈ names ↔ (name, .file) ∈ entries
  /-- The list is in order and has no name twice. -/
  ascending : Completion.Ascending (entries.map (·.1))
  named : ∀ name node,
    session.store.resolve? (session.cursor.path ++ [name]) = some node → node.name = name

/-- On a session in order, the listing is what all of them show. -/
theorem pictured_listing (h : session.Orderly) :
    session.Pictured session.directory.listing := by
  have hDirectory := h.ordered_directory
  have hHere := h.consistent.directory
  have hNamed := h.consistent.named _ _ hHere
  have hKeys : ∀ key ∈ session.directory.entries.keys, '/' ∉ key.toList := by
    intro key hKey
    obtain ⟨⟨_, node⟩, hMem, rfl⟩ := List.mem_map.mp hKey
    exact (hNamed _ _ hMem).2.2.2.2
  have hFound (name : String) : session.directory.child? name =
      session.store.resolve? (session.cursor.path ++ [name]) :=
    (Store.resolve?_child hHere name).symm
  exact {
    resolved := fun name kind => by
      rw [Directory.mem_listing_iff, ← hFound]
      constructor
      · rintro ⟨node, hMem, hKind⟩
        exact ⟨node, hDirectory.find?_of_mem_toList hMem, hKind⟩
      · rintro ⟨node, hChild, hKind⟩
        exact ⟨node, Entries.mem_toList_of_find? hChild, hKind⟩
    found := hFound
    listed := Store.list_of_dir hHere
    drawn := ⟨_, Drawing.topEntries_draw hKeys, fun args => run_tree args session⟩
    moves := ⟨_, Completion.candidates_of_name .cd _,
      Completion.ascending_iff.mpr (Completion.pairwise_entriesOf hDirectory .dir),
      dots_not_mem_entriesOf h .dir, fun _ => Completion.mem_entriesOf_iff_listing⟩
    reads := ⟨_, Completion.candidates_of_name .cat _,
      Completion.ascending_iff.mpr (Completion.pairwise_entriesOf hDirectory .file),
      fun _ => Completion.mem_entriesOf_iff_listing⟩
    ascending := by
      rw [Completion.ascending_iff, Directory.listing, List.map_map]
      exact hDirectory.pairwise_keys
    named := fun name node hNode => by
      rw [← hFound] at hNode
      exact (hNamed _ _ (Entries.mem_toList_of_find? hNode)).1.symm }

variable {seed : OrderedSeed} {user : String} {limit : Option Nat}

/-- On whatever session a run leads to from a seed whose entries are in order, all
that shows the current directory shows the same entries. -/
theorem performAll_pictured (hStart : start seed.toSeed user limit = .ok session)
    (actions : List Action) : ∃ entries, (session.performAll actions).Pictured entries :=
  ⟨_, pictured_listing (orderly_performAll hStart actions)⟩

/-- A directory in which a name looks like the line of another entry, with a file
that was written before all that was there. -/
theorem performAll_pictured_small :
    let inner : Entries := .file "c" ⟨"c", "", true⟩ .nil
    let seed : OrderedSeed :=
      ⟨⟨⟨rootName, .dir "a" "a" inner (.file "└── c" ⟨"└── c", "", false⟩ .nil)⟩, []⟩, by decide⟩
    let session : Session := { store := ⟨seed.tree⟩, user := "guest" }
    let reached := session.performAll [.execute "cd a", .execute "cd", .execute "touch ..b"]
    start seed.toSeed "guest" none = .ok session ∧
      reached.Pictured [("..b", .file), ("a", .dir), ("└── c", .file)] := by
  intro inner seed session reached
  have hStart : start seed.toSeed "guest" none = .ok session := by decide
  have hListed : reached.store.list reached.cursor.path =
      .ok [("..b", .file), ("a", .dir), ("└── c", .file)] := by decide
  obtain ⟨entries, hPictured⟩ := performAll_pictured hStart
    [.execute "cd a", .execute "cd", .execute "touch ..b"]
  rw [hPictured.listed] at hListed
  cases hListed
  exact ⟨hStart, hPictured⟩

end Session

end VirtualShell
