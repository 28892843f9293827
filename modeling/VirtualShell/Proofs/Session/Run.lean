import VirtualShell.Proofs.Seed
import VirtualShell.Proofs.Session.Frame
import VirtualShell.Proofs.Store.Validation
/-!
Whole runs of a session. A cursor holds names only, and the store under it is
replaced by other stores, so that it stays inside is an invariant of the two
together: the tree is well formed and the path of the cursor leads to a
directory. A write cannot break it, for it leaves all directories on its own
path in their places, and it writes under the path of the cursor alone. Nor does
it break the order of the entries, if the run began on entries in order.
-/

namespace VirtualShell

namespace Session

/-- An operation on a session. -/
inductive Action where
  | execute (line : String)
  | call (builtin : Builtin) (args : List String)
  | changeDirectory (target : String)
  | writeFile (name content : String)
  | importFile (name content : String)
  | push (line : String)
  | older
  | newer
  | resetBrowse
  | addContact (contact : Contact)
  | deleteContact (id : String)

/-- The session that an operation gives, or the old one if it gives none. -/
def keptOnFault (session : Session) : Except Fault Session → Session
  | .ok after => after
  | .error _ => session

/-- The session after an operation. -/
def perform (session : Session) : Action → Session
  | .execute line => (session.execute line).1
  | .call builtin args => session.keptOnFault ((builtin.run args session).map (·.1))
  | .changeDirectory target => session.keptOnFault (session.changeDirectory target)
  | .writeFile name content => session.keptOnFault (session.writeFile name content)
  | .importFile name content => session.keptOnFault (session.importFile name content)
  | .push line => session.mapHistory (·.push line)
  | .older => session.mapHistory (·.older.2)
  | .newer => session.mapHistory (·.newer.2)
  | .resetBrowse => session.mapHistory (·.resetBrowse)
  | .addContact contact => session.addContact contact
  | .deleteContact id => (session.deleteContact id).2

/-- The session after operations in order. -/
def performAll (session : Session) (actions : List Action) : Session :=
  actions.foldl perform session

/-- All that one operation can do to the store and the cursor. -/
inductive Turn (before after : Session) : Prop where
  | idle (hStore : after.store = before.store) (hCursor : after.cursor = before.cursor)
  | moved {target : String} (hStore : after.store = before.store)
      (hMove : before.cursor.move before.store target = .ok after.cursor)
  | wrote {name content : String} (hCursor : after.cursor = before.cursor)
      (hInsert : before.store.insertFile before.cursor.path name content = .ok after.store)

variable {session before after : Session} {outcome : Outcome}

theorem Executed.turn {line : String} (h : Executed before line after outcome) :
    Turn before after := by
  cases h with
  | blank hBlank => exact .idle rfl rfl
  | failed hParse hRun => exact .idle (store_mapHistory _ _) (cursor_mapHistory _ _)
  | moved hParse hKind hMove => exact .moved (store_mapHistory _ _) hMove
  | wrote hParse hKind hArgs hInsert => exact .wrote (cursor_mapHistory _ _) hInsert
  | read hParse hKind hState hRun => exact .idle (store_mapHistory _ _) (cursor_mapHistory _ _)

theorem turn_call (session : Session) (builtin : Builtin) (args : List String) :
    Turn session (session.perform (.call builtin args)) := by
  rw [perform]
  cases hRun : builtin.run args session with
  | error fault => exact .idle rfl rfl
  | ok result =>
      obtain ⟨after, outcome⟩ := result
      show Turn session after
      cases Builtin.ran_of_run hRun with
      | moved hMove => exact .moved rfl hMove
      | wrote hArgs hInsert => exact .wrote rfl hInsert
      | read hState hSame => exact .idle rfl rfl

theorem turn_changeDirectory (session : Session) (target : String) :
    Turn session (session.keptOnFault (session.changeDirectory target)) := by
  rw [changeDirectory]
  cases hMove : session.cursor.move session.store target with
  | error fault => exact .idle rfl rfl
  | ok cursor => exact .moved rfl hMove

theorem turn_writeFile (session : Session) (name content : String) :
    Turn session (session.keptOnFault (session.writeFile name content)) := by
  rw [writeFile]
  cases hInsert : session.store.insertFile session.cursor.path name content with
  | error fault => exact .idle rfl rfl
  | ok store => exact .wrote rfl hInsert

/-- Whatever is done to a session takes one turn. -/
theorem turn_perform (session : Session) (action : Action) :
    Turn session (session.perform action) := by
  cases action with
  | execute line => exact (execute_executed session line).turn
  | call builtin args => exact turn_call session builtin args
  | changeDirectory target => exact turn_changeDirectory session target
  | writeFile name content => exact turn_writeFile session name content
  | importFile name content => exact turn_writeFile session name content
  | push line | older | newer | resetBrowse =>
      exact .idle (store_mapHistory _ _) (cursor_mapHistory _ _)
  | addContact contact => exact .idle rfl rfl
  | deleteContact id => exact .idle rfl rfl

/-- What no turn breaks holds all through a run. -/
theorem performAll_induction {motive : Session → Prop} (h : motive session)
    (hTurn : ∀ before after, Turn before after → motive before → motive after)
    (actions : List Action) : motive (session.performAll actions) := by
  induction actions generalizing session with
  | nil => exact h
  | cons action rest ih => exact ih (hTurn _ _ (turn_perform session action) h)

/-- The invariant of a run: the tree is well formed, and the cursor stands in a
directory of it. -/
structure Sound (session : Session) : Prop where
  wellFormed : session.store.root.WellFormed
  standing : ∃ d, session.store.resolve? session.cursor.path = some (.dir d)

end Session

/-- A move leads from one directory to another. -/
theorem Cursor.standing_of_move {cursor moved : Cursor} {store : Store} {target : String}
    (h : cursor.move store target = .ok moved)
    (hStanding : ∃ d, store.resolve? cursor.path = some (.dir d)) :
    ∃ d, store.resolve? moved.path = some (.dir d) := by
  obtain ⟨d, hReach⟩ := hStanding
  rw [move] at h
  split at h
  · cases h
    have hPrefix : cursor.parent.path <+: cursor.path :=
      List.cons_prefix_cons.mpr ⟨rfl, List.dropLast_prefix _⟩
    exact Store.dir_of_prefix hReach (List.cons_ne_nil _ _) hPrefix
  · split at h
    · cases h
      exact ⟨store.root, Node.descend?_nil _⟩
    · split at h
      · next child hChild =>
          cases h
          rw [directory, Directory.deepest_eq_of_descend? hReach] at hChild
          exact ⟨child, (Store.resolve?_child hReach target).trans hChild⟩
      · cases h
      · cases h

namespace Session

variable {session before after : Session} {seed : Seed} {user : String} {limit : Option Nat}

/-- A session starts at the root of a well formed store. -/
theorem sound_of_start (h : start seed user limit = .ok session) : session.Sound := by
  obtain ⟨store, hTree, rfl⟩ := eq_of_start h
  obtain ⟨hWellFormed, rfl⟩ := Store.ofTree_eq_ok_iff.mp hTree
  exact ⟨hWellFormed, seed.tree, Node.descend?_nil _⟩

/-- A turn leaves the cursor in a directory and the store well formed. -/
theorem Sound.of_turn (h : before.Sound) (hTurn : Turn before after) : after.Sound := by
  cases hTurn with
  | idle hStore hCursor =>
      constructor
      · rw [hStore]
        exact h.wellFormed
      · rw [hStore, hCursor]
        exact h.standing
  | moved hStore hMove =>
      constructor
      · rw [hStore]
        exact h.wellFormed
      · rw [hStore]
        exact Cursor.standing_of_move hMove h.standing
  | wrote hCursor hInsert =>
      constructor
      · exact Store.wellFormed_of_insertFile hInsert h.wellFormed
      · -- the path of the cursor is the path of the write, hence still one of directories
        have hAround := (Store.rewritten_of_insertFile hInsert).around _ (List.cons_ne_nil _ _)
          (List.prefix_refl _)
        obtain ⟨_, d, _, hReach, _⟩ := hAround
        rw [hCursor]
        exact ⟨d, hReach⟩

theorem Sound.performAll (h : session.Sound) (actions : List Action) :
    (session.performAll actions).Sound :=
  performAll_induction h (fun _ _ hTurn hBefore => hBefore.of_turn hTurn) actions

/-- What holds of a session at all times, as it shows in the answers that the
session gives. -/
structure Consistent (session : Session) : Prop where
  rooted : session.cursor.path.head? = some rootName
  around : ∀ place, place ≠ [] → place <+: session.cursor.path →
    ∃ d, session.store.resolve? place = some (.dir d)
  valid : session.cursor.isValidIn session.store = true
  /-- The current directory is that of the whole path. -/
  directory : session.store.resolve? session.cursor.path = some (.dir session.directory)
  listed : ∀ args, ∃ outcome, Builtin.ls.run args session = .ok (session, outcome)
  accepted : Store.ofTree session.store.root = .ok session.store
  rootNamed : session.store.root.name = rootName
  named : ∀ path d, session.store.resolve? path = some (.dir d) →
    ∀ key node, (key, node) ∈ d.entries.toList → key = node.name ∧ EntryName key

/-- A cursor that stands in a directory of the store is consistent with it. -/
theorem Sound.consistent (h : session.Sound) : session.Consistent := by
  obtain ⟨d, hReach⟩ := h.standing
  exact {
    rooted := rfl
    around := fun place hPlace hPrefix => Store.dir_of_prefix hReach hPlace hPrefix
    valid := by
      rw [Cursor.isValidIn, Store.resolveDir?_eq_some_iff.mpr hReach]
      rfl
    directory := by
      rw [directory, Cursor.directory, Directory.deepest_eq_of_descend? hReach]
      exact hReach
    listed := fun args => by
      rw [Builtin.run_ls, Store.list, hReach]
      exact ⟨_, rfl⟩
    accepted := Store.ofTree_eq_ok_iff.mpr ⟨h.wellFormed, rfl⟩
    rootNamed := h.wellFormed.1
    named := fun _ _ hPath _ _ hMem => Store.entryName_of_wellFormed h.wellFormed hPath hMem }

/-- The invariant of a run that began on a seed in order: its entries stay in
order. -/
structure Orderly (session : Session) : Prop extends Sound session where
  ordered : session.store.root.entries.Ordered

/-- A session that starts from a seed in order is in order. -/
theorem orderly_of_start {seed : OrderedSeed} (h : start seed.toSeed user limit = .ok session) :
    session.Orderly := by
  refine ⟨sound_of_start h, ?_⟩
  obtain ⟨store, hStore, rfl⟩ := eq_of_start h
  obtain ⟨_, rfl⟩ := Store.ofTree_eq_ok_iff.mp hStore
  exact seed.ordered

/-- A write is the only turn that touches entries, and it puts them in their
places. -/
theorem Orderly.of_turn (h : before.Orderly) (hTurn : Turn before after) : after.Orderly := by
  refine ⟨h.toSound.of_turn hTurn, ?_⟩
  cases hTurn with
  | idle hStore hCursor => exact hStore ▸ h.ordered
  | moved hStore hMove => exact hStore ▸ h.ordered
  | wrote hCursor hInsert => exact (Store.rewritten_of_insertFile hInsert).ordered h.ordered

/-- Whatever a run from a seed in order leads to is in order. -/
theorem orderly_performAll {seed : OrderedSeed}
    (hStart : start seed.toSeed user limit = .ok session) (actions : List Action) :
    (session.performAll actions).Orderly :=
  performAll_induction (orderly_of_start hStart) (fun _ _ hTurn h => h.of_turn hTurn) actions

/-- The entries of the current directory in particular are in order. -/
theorem Orderly.ordered_directory (h : session.Orderly) : session.directory.entries.Ordered :=
  Store.ordered_of_resolve? h.ordered h.consistent.directory

/-- Whatever is done to a session that began on a seed, and in whatever order,
its cursor stands in a directory of its store, and the store is one that could
have been built from its tree. -/
theorem performAll_consistent (hStart : start seed user limit = .ok session)
    (actions : List Action) : (session.performAll actions).Consistent :=
  ((sound_of_start hStart).performAll actions).consistent

theorem performAll_consistent_small :
    let docs : Directory := ⟨"docs", .file "a" ⟨"a", "first", true⟩ .nil⟩
    let seed : Seed := ⟨⟨rootName, Entries.nil.insert "docs" (.dir docs)⟩, []⟩
    let session : Session := { store := ⟨seed.tree⟩, user := "guest" }
    start seed "guest" none = .ok session ∧
      (session.performAll [.execute "cd docs", .writeFile "b" "", .execute "CD ..",
        .writeFile "docs" "second", .older]).Consistent := by
  intro docs seed session
  have hStart : start seed "guest" none = .ok session := rfl
  exact ⟨hStart, performAll_consistent hStart _⟩

end Session

end VirtualShell
