import VirtualShell.Proofs.Completion.Offer
import VirtualShell.Proofs.Session.Tree
/-!
Cursors that a store does not bear out. A cursor may have come by its path in other
stores; in a store where the path does not lead to a directory, all that looks at
the current directory falls back to the last directory on the path, and only `ls`
says that something is wrong. Moves go on from the directory that was fallen back
to, but they add to the path as it is, so that none of them leads back into the
store.
-/

namespace VirtualShell

namespace Cursor

variable {cursor moved : Cursor} {store : Store} {target : String}

/-- A listing is given where the cursor is valid, and nowhere else. -/
theorem exists_list_iff :
    (∃ entries, store.list cursor.path = .ok entries) ↔ cursor.isValidIn store = true := by
  rw [isValidIn_iff, Store.list]
  cases store.resolve? cursor.path with
  | none => simp
  | some node => cases node <;> simp

/-- What moves by a name come to, if the entries that they look at are those of
the directory `d`. -/
structure MovesBy (cursor : Cursor) (store : Store) (d : Directory) (target : String) :
    Prop where
  /-- They go through for directories, -/
  goes : (∃ moved, cursor.move store target = .ok moved) ↔ ∃ e, d.child? target = some (.dir e)
  /-- and a fault tells files from what is not there. -/
  file : cursor.move store target = .error (Fault.notADirectory target) ↔
    ∃ f, d.child? target = some (.file f)
  absent : cursor.move store target = .error (Fault.notFound "directory" target) ↔
    d.child? target = none
  path : ∀ moved, cursor.move store target = .ok moved → moved.path = cursor.path ++ [target]
  /-- They do not make a valid cursor of an invalid one, nor the other way round, -/
  valid : ∀ moved, cursor.move store target = .ok moved →
    (moved.isValidIn store = true ↔ cursor.isValidIn store = true)
  /-- and the way back is open in every store. -/
  back : ∀ moved other, cursor.move store target = .ok moved → moved.move other ".." = .ok cursor

/-- A move by a name adds the name to the path, if there is such a directory in the one
that was fallen back to. -/
theorem eq_of_move (hDots : target ≠ "..") (hEmpty : target ≠ "") (hSlash : target ≠ "/")
    (h : cursor.move store target = .ok moved) :
    moved = ⟨cursor.names ++ [target]⟩ ∧
      ∃ e, (cursor.directory store).child? target = some (.dir e) := by
  rw [move_of_ne hDots hEmpty hSlash] at h
  split at h
  · next e hChild =>
      cases h
      exact ⟨rfl, e, hChild⟩
  · cases h
  · cases h

/-- The path that a name was added to is valid with the name if and only if it was
valid without: the name was found in the directory of the cursor, which in a valid
cursor is that of the whole path. -/
theorem isValidIn_append_iff {e : Directory}
    (hChild : (cursor.directory store).child? target = some (.dir e)) :
    isValidIn ⟨cursor.names ++ [target]⟩ store = true ↔ cursor.isValidIn store = true := by
  rw [isValidIn_iff, isValidIn_iff]
  constructor
  · rintro ⟨reached, hReach⟩
    have hPrefix : cursor.path <+: path ⟨cursor.names ++ [target]⟩ :=
      List.cons_prefix_cons.mpr ⟨rfl, List.prefix_append _ _⟩
    exact Store.dir_of_prefix hReach (List.cons_ne_nil _ _) hPrefix
  · rintro ⟨d, hReach⟩
    rw [directory, Directory.deepest_eq_of_descend? hReach] at hChild
    exact ⟨e, (Store.resolve?_child hReach target).trans hChild⟩

/-- Moves by a name look only into the directory that was fallen back to. -/
theorem movesBy (hDots : target ≠ "..") (hEmpty : target ≠ "") (hSlash : target ≠ "/") :
    cursor.MovesBy store (cursor.directory store) target where
  goes := by
    rw [move_of_ne hDots hEmpty hSlash]
    cases (cursor.directory store).child? target with
    | none => simp
    | some node => cases node <;> simp
  file := by
    rw [move_of_ne hDots hEmpty hSlash]
    cases (cursor.directory store).child? target with
    | none => simp [Fault.notFound, Fault.notADirectory, Fault.of]
    | some node => cases node <;> simp
  absent := by
    rw [move_of_ne hDots hEmpty hSlash]
    cases (cursor.directory store).child? target with
    | none => simp
    | some node => cases node <;> simp [Fault.notFound, Fault.notADirectory, Fault.of]
  path moved hMove := by
    obtain ⟨rfl, _⟩ := eq_of_move hDots hEmpty hSlash hMove
    rfl
  valid moved hMove := by
    obtain ⟨rfl, e, hChild⟩ := eq_of_move hDots hEmpty hSlash hMove
    exact isValidIn_append_iff hChild
  back moved other hMove := by
    obtain ⟨rfl, _⟩ := eq_of_move hDots hEmpty hSlash hMove
    rw [move, if_pos rfl, parent, List.dropLast_concat]

end Cursor

/-- What is shown of the current directory, if that is the directory `d`. -/
structure Session.Shows (session : Session) (d : Directory) : Prop where
  tree : ∀ args, Builtin.tree.run args session =
    .ok (session, .ofLines (("." :: d.entries.draw "").map Line.output))
  cat : ∀ name more, Builtin.cat.run (name :: more) session =
    match d.child? name with
    | some (.file f) => .ok (session, .ofLines [Line.output f.content])
    | some (.dir _) => .error (Fault.notAFile name)
    | none => .error (Fault.notFound "file" name)
  moves : ∀ word beginning, Text.lowercase word = "cd" →
    (Completion.ofLine (word ++ " " ++ beginning) session.snapshot).candidates =
      Completion.matching beginning (".." :: Completion.entriesOf .dir d)
  reads : ∀ word beginning, Text.lowercase word = "cat" →
    (Completion.ofLine (word ++ " " ++ beginning) session.snapshot).candidates =
      Completion.matching beginning (Completion.entriesOf .file d)

/-- All that looks at the current directory shows the one that was fallen back to. -/
theorem Session.shows_directory (session : Session) : session.Shows session.directory where
  tree args := run_tree args session
  cat name more := Builtin.run_cat_cons name more session
  moves _ beginning hWord := Completion.candidates_of_named .cd hWord beginning _
  reads _ beginning hWord := Completion.candidates_of_named .cat hWord beginning _

/-- A session lists the whole path of its cursor or nothing. -/
theorem Session.exists_run_ls_iff (session : Session) (args : List String) :
    (∃ result, Builtin.ls.run args session = .ok result) ↔
      session.cursor.isValidIn session.store = true := by
  rw [← Cursor.exists_list_iff, Builtin.run_ls]
  cases session.store.list session.cursor.path <;> simp [Except.map]

namespace Cursor

/-- How a cursor stands in a store: `d` is the last directory on its path, and
`place` the part of the path that leads there. -/
structure Grounded (cursor : Cursor) (store : Store) (place : List String) (d : Directory) :
    Prop where
  deepest : store.Deepest cursor.path place d
  directory : cursor.directory store = d
  whole : place = cursor.path ↔ cursor.isValidIn store = true
  moves : ∀ target, target ≠ ".." → target ≠ "" → target ≠ "/" → cursor.MovesBy store d target
  listed : (∃ entries, store.list cursor.path = .ok entries) ↔ cursor.isValidIn store = true
  /-- Of the commands of a session, only `ls` needs the whole path. -/
  ls : ∀ session : Session, session.snapshot = ⟨store, cursor⟩ → ∀ args,
    (∃ result, Builtin.ls.run args session = .ok result) ↔ cursor.isValidIn store = true
  shows : ∀ session : Session, session.snapshot = ⟨store, cursor⟩ → session.Shows d

/-- Whatever moves in whatever stores have led to a cursor, in every store it stands
for the last directory on its path. -/
theorem exists_grounded (cursor : Cursor) (store : Store) :
    ∃ place d, cursor.Grounded store place d := by
  obtain ⟨place, hDeepest⟩ := cursor.exists_deepest store
  refine ⟨place, cursor.directory store, hDeepest, rfl, ?_, fun target => movesBy,
    exists_list_iff, ?_, ?_⟩
  · rw [isValidIn_iff]
    exact hDeepest.eq_path_iff
  · rintro session hSnapshot args
    cases hSnapshot
    exact session.exists_run_ls_iff args
  · rintro session hSnapshot
    cases hSnapshot
    exact session.shows_directory

/-- Behind a directory that is not there, an entry of the last directory on the path
is still a way, but not one that leads back into the store. -/
example :
    let store : Store := ⟨⟨rootName, .dir "a" "a" (.dir "c" "c" .nil .nil) .nil⟩⟩
    let cursor : Cursor := ⟨["a", "b", "c"]⟩
    cursor.move store "c" = .ok ⟨["a", "b", "c", "c"]⟩ ∧ cursor.isValidIn store = false ∧
      isValidIn ⟨["a", "b", "c", "c"]⟩ store = false := by decide

end Cursor

end VirtualShell
