import VirtualShell.Proofs.Cursor
import VirtualShell.Proofs.Session.Protocol
import VirtualShell.Proofs.Text.Split
/-!
Paths as directions. Names of entries have no slash in them and mean no other place,
so that the names of a path lead from the root to its end one by one, and `pwd`,
which shows them with slashes between them, can be cut into them again. Hence every
directory of a store is a place at which a session can stand, and no two of them are
shown alike.
-/

namespace VirtualShell

/-- On a path to a directory every name is that of a directory in the one before it. -/
theorem Store.exists_child_of_dir {store : Store} {before after : List String} {name : String}
    {d : Directory} (hStore : store.root.WellFormed) (hBefore : before ≠ [])
    (hReach : store.resolve? (before ++ name :: after) = some (.dir d)) :
    ∃ e child, store.resolve? before = some (.dir e) ∧ e.child? name = some (.dir child) ∧
      EntryName name := by
  have hPath : before ++ name :: after = before ++ [name] ++ after := by simp
  rw [hPath] at hReach
  obtain ⟨child, hChild⟩ := dir_of_prefix hReach (by simp) (List.prefix_append _ _)
  obtain ⟨e, hHere⟩ : ∃ e, store.resolve? before = some (.dir e) :=
    dir_of_prefix hChild hBefore (List.prefix_append _ _)
  rw [resolve?_child hHere] at hChild
  exact ⟨e, child, hHere, hChild,
    (entryName_of_wellFormed hStore hHere (Entries.mem_toList_of_find? hChild)).2⟩

namespace Cursor

/-- The cursor after moves in order, if all of them go through. -/
def moveAll (cursor : Cursor) (store : Store) : List String → Except Fault Cursor
  | [] => .ok cursor
  | target :: rest =>
    match cursor.move store target with
    | .ok moved => moved.moveAll store rest
    | .error fault => .error fault

variable {cursor moved other : Cursor} {store : Store} {targets names : List String}
  {d : Directory}

/-- Moves that go through lead from directories to directories. -/
theorem isValidIn_of_moveAll (h : cursor.moveAll store targets = .ok moved)
    (hValid : cursor.isValidIn store = true) : moved.isValidIn store = true := by
  induction targets generalizing cursor with
  | nil =>
      cases h
      exact hValid
  | cons target rest ih =>
      rw [moveAll] at h
      cases hMove : cursor.move store target with
      | error fault =>
          rw [hMove] at h
          cases h
      | ok next =>
          rw [hMove] at h
          apply ih h
          exact isValidIn_iff.mpr (standing_of_move hMove (isValidIn_iff.mp hValid))

theorem isValidIn_root (store : Store) : root.isValidIn store = true :=
  isValidIn_iff.mpr ⟨store.root, Node.descend?_nil _⟩

/-- The names on the way to a directory lead there as moves, each of them naming an
entry. -/
theorem moveAll_names (hStore : store.root.WellFormed) (cursor : Cursor)
    (hReach : store.resolve? (cursor.path ++ names) = some (.dir d)) :
    cursor.moveAll store names = .ok ⟨cursor.names ++ names⟩ := by
  induction names generalizing cursor with
  | nil => rw [moveAll, List.append_nil]
  | cons name rest ih =>
      obtain ⟨e, child, hHere, hChild, hName⟩ :=
        Store.exists_child_of_dir hStore (List.cons_ne_nil _ _) hReach
      rw [← Directory.deepest_eq_of_descend? hHere] at hChild
      have hPath : cursor.path ++ name :: rest = path ⟨cursor.names ++ [name]⟩ ++ rest := by
        simp [path]
      rw [hPath] at hReach
      have hRest := ih ⟨cursor.names ++ [name]⟩ hReach
      rw [moveAll, move_child hName hChild]
      simpa using hRest

/-- A cursor that is valid in a store has names of entries only. -/
theorem entryName_of_isValidIn (hStore : store.root.WellFormed)
    (hValid : cursor.isValidIn store = true) : ∀ name ∈ cursor.names, EntryName name := by
  intro name hMem
  obtain ⟨before, after, hNames⟩ := List.append_of_mem hMem
  obtain ⟨d, hReach⟩ := isValidIn_iff.mp hValid
  have hPath : cursor.path = rootName :: before ++ name :: after := by
    rw [path, hNames, List.cons_append]
  rw [hPath] at hReach
  obtain ⟨_, _, _, _, hName⟩ := Store.exists_child_of_dir hStore (List.cons_ne_nil _ _) hReach
  exact hName

/-- What a cursor displays falls into its names, but for the root, which displays
nothing. -/
theorem split_display (hStore : store.root.WellFormed) (hValid : cursor.isValidIn store = true) :
    Text.split '/' cursor.display = if cursor.isRoot then [""] else cursor.names := by
  have hEntries := entryName_of_isValidIn hStore hValid
  rcases cursor with ⟨names⟩
  cases names with
  | nil => rfl
  | cons name rest =>
      have hNames := Text.split_join (List.cons_ne_nil name rest) fun text hText =>
        (hEntries text hText).2.2.2
      exact hNames

/-- What a cursor displays leads to it from the root, piece by piece. -/
theorem moveAll_split_display (hStore : store.root.WellFormed)
    (hValid : cursor.isValidIn store = true) :
    root.moveAll store (Text.split '/' cursor.display) = .ok cursor := by
  rw [split_display hStore hValid]
  split
  · next hRoot =>
      -- the one piece is empty and leads to the root
      rcases cursor with ⟨names⟩
      obtain rfl : names = [] := List.isEmpty_iff.mp hRoot
      rfl
  · obtain ⟨d, hReach⟩ := isValidIn_iff.mp hValid
    exact moveAll_names hStore root hReach

/-- Two places that are shown alike are one. -/
theorem eq_of_display_eq (hStore : store.root.WellFormed) (hValid : cursor.isValidIn store = true)
    (hOther : other.isValidIn store = true) (h : cursor.display = other.display) :
    cursor = other := by
  have hSame := moveAll_split_display hStore hValid
  rw [h, moveAll_split_display hStore hOther] at hSame
  exact (Except.ok.inj hSame).symm

/-- A prompt shows what is displayed. -/
theorem display_eq_of_promptPath_eq (h : cursor.promptPath = other.promptPath) :
    cursor.display = other.display := by
  have hRoot {cursor : Cursor} (hCursor : cursor.isRoot = true) : cursor.display = "" := by
    rw [isRoot, List.isEmpty_iff] at hCursor
    rw [display, path, hCursor]
    rfl
  have hLonger (s : String) : "~/" ++ s ≠ "~" := by
    intro hSame
    simpa using congrArg String.toList hSame
  rw [promptPath, promptPath] at h
  split at h
  · next hCursor =>
      split at h
      · next hOther => rw [hRoot hCursor, hRoot hOther]
      · exact absurd h.symm (hLonger _)
  · split at h
    · exact absurd h (hLonger _)
    · exact String.append_right_inj _ |>.mp h

end Cursor

/-- A store whose directories are the places that moves lead to. -/
structure Store.Addressable (store : Store) : Prop where
  /-- Moves that go through lead from the root to directories, and to all of them. -/
  reached : ∀ path, (∃ targets cursor, Cursor.root.moveAll store targets = .ok cursor ∧
    cursor.path = path) ↔ ∃ d, store.resolve? path = some (.dir d)
  /-- The names on a path are such moves, -/
  named : ∀ names d, store.resolve? (rootName :: names) = some (.dir d) →
    Cursor.root.moveAll store names = .ok ⟨names⟩
  /-- and so are the pieces of what is displayed of one. -/
  displayed : ∀ cursor : Cursor, cursor.isValidIn store = true →
    Cursor.root.moveAll store (Text.split '/' cursor.display) = .ok cursor
  /-- Two places are never displayed alike, be it by themselves or in prompts. -/
  display_inj : ∀ cursor other : Cursor, cursor.isValidIn store = true →
    other.isValidIn store = true → cursor.display = other.display → cursor = other
  promptPath_inj : ∀ cursor other : Cursor, cursor.isValidIn store = true →
    other.isValidIn store = true → cursor.promptPath = other.promptPath → cursor = other

theorem Store.addressable_of_wellFormed {store : Store} (h : store.root.WellFormed) :
    store.Addressable where
  reached path := by
    constructor
    · rintro ⟨targets, cursor, hMoves, rfl⟩
      apply Cursor.isValidIn_iff.mp
      exact Cursor.isValidIn_of_moveAll hMoves (Cursor.isValidIn_root store)
    · rintro ⟨d, hReach⟩
      obtain ⟨names, rfl⟩ := exists_names_of_resolve? hReach
      exact ⟨names, ⟨names⟩, Cursor.moveAll_names h Cursor.root hReach, rfl⟩
  named names d hReach := Cursor.moveAll_names h Cursor.root hReach
  displayed _ := Cursor.moveAll_split_display h
  display_inj _ _ := Cursor.eq_of_display_eq h
  promptPath_inj _ _ hValid hOther hSame :=
    Cursor.eq_of_display_eq h hValid hOther (Cursor.display_eq_of_promptPath_eq hSame)

namespace Session

theorem run_pwd (args : List String) (session : Session) :
    Builtin.pwd.run args session = .ok (session, .ofLines [Line.output session.cursor.display]) :=
  rfl

/-- A session whose place can be found again by what `pwd` shows of it. -/
structure Located (session : Session) : Prop where
  store : session.store.Addressable
  valid : session.cursor.isValidIn session.store = true
  run : ∀ args, Builtin.pwd.run args session =
    .ok (session, .ofLines [Line.output session.cursor.display])
  shown : ∀ line, Command.builtinOf line = some .pwd → (session.execute line).2 =
    .ofLines [session.echoOf line, Line.output session.cursor.display]
  found : Cursor.root.moveAll session.store (Text.split '/' session.cursor.display) =
    .ok session.cursor

theorem Sound.located {session : Session} (h : session.Sound) : session.Located where
  store := Store.addressable_of_wellFormed h.wellFormed
  valid := h.consistent.valid
  run args := run_pwd args session
  shown _ hLine := outcome_of_builtinOf hLine fun args => run_pwd args session
  found := Cursor.moveAll_split_display h.wellFormed h.consistent.valid

/-- In every store that was built from a tree, moves lead from the root to all
directories and to nothing else; and wherever a session stands, what `pwd` shows
leads there. -/
theorem addressable_and_located :
    (∀ (tree : Directory) (store : Store), Store.ofTree tree = .ok store → store.Addressable) ∧
    ∀ (seed : Seed) (user : String) (limit : Option Nat) (session : Session),
      start seed user limit = .ok session → ∀ actions, (session.performAll actions).Located := by
  constructor
  · intro tree store hTree
    obtain ⟨hWellFormed, rfl⟩ := Store.ofTree_eq_ok_iff.mp hTree
    exact Store.addressable_of_wellFormed hWellFormed
  · intro seed user limit session hStart actions
    exact ((sound_of_start hStart).performAll actions).located

/-- A place below a directory named by dots and one whose name has a blank, found
again from what is shown of it. -/
theorem addressable_and_located_small :
    let inner : Entries := .dir "b c" "b c" .nil .nil
    let seed : Seed := ⟨⟨rootName, .dir "..." "..." inner .nil⟩, []⟩
    let session : Session := { store := ⟨seed.tree⟩, user := "guest" }
    let reached := session.performAll [.execute "cd ...", .changeDirectory "b c"]
    (Store.ofTree seed.tree = .ok session.store ∧ session.store.Addressable) ∧
    (start seed "guest" none = .ok session ∧ reached.Located) ∧
      reached.cursor.display = ".../b c" := by
  intro inner seed session reached
  have hTree : Store.ofTree seed.tree = .ok session.store := by decide
  have hStart : start seed "guest" none = .ok session := by decide
  exact ⟨⟨hTree, addressable_and_located.1 seed.tree session.store hTree⟩,
    ⟨hStart, addressable_and_located.2 seed "guest" none session hStart _⟩, by decide⟩

end Session

end VirtualShell
