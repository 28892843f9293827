import VirtualShell.Proofs.Store.Validation
/-!
Cursors in stores that they know nothing of. A cursor stands for the directory that
it reaches last on its path, in whatever store it is asked about, and a move by a
name looks at the entries of that directory.
-/

namespace VirtualShell

/-- The last place on a path to which only directories lead. -/
structure Store.Deepest (store : Store) (path place : List String) (d : Directory) : Prop where
  onPath : place <+: path
  reached : store.resolve? place = some (.dir d)
  longest : ∀ further e, further <+: path → store.resolve? further = some (.dir e) →
    further.length ≤ place.length

/-- It is the whole path if and only if that leads to a directory itself. -/
theorem Store.Deepest.eq_path_iff {store : Store} {path place : List String} {d : Directory}
    (h : store.Deepest path place d) : place = path ↔ ∃ e, store.resolve? path = some (.dir e) := by
  constructor
  · rintro rfl
    exact ⟨d, h.reached⟩
  · rintro ⟨e, hReach⟩
    have hLength := h.longest path e (List.prefix_refl path) hReach
    exact h.onPath.eq_of_length_le hLength

namespace Cursor

variable {cursor : Cursor} {store : Store} {target name : String} {d : Directory}

/-- A cursor is valid where its path leads to a directory. -/
theorem isValidIn_iff :
    cursor.isValidIn store = true ↔ ∃ d, store.resolve? cursor.path = some (.dir d) := by
  simp only [isValidIn, Option.isSome_iff_exists, Store.resolveDir?_eq_some_iff]

/-- The directory of a cursor is the last one on its path. -/
theorem exists_deepest (cursor : Cursor) (store : Store) :
    ∃ place, store.Deepest cursor.path place (cursor.directory store) := by
  rcases store.root.reached_or_obstructed cursor.names with
    ⟨d, hReach⟩ | ⟨before, segment, after, d, hNames, hReach, hBad⟩
  · refine ⟨cursor.path, List.prefix_refl _, ?_, fun further _ hFurther _ => hFurther.length_le⟩
    rw [directory, Directory.deepest_eq_of_descend? hReach]
    exact hReach
  · have hPath : cursor.path = rootName :: before ++ segment :: after := by
      rw [path, hNames, List.cons_append]
    have hDirectory : cursor.directory store = d := by
      rw [directory, hNames, Directory.deepest_of_obstructed hReach hBad]
    have hResolve : store.resolve? (rootName :: before) = some (.dir d) := hReach
    rw [hDirectory, hPath]
    refine ⟨rootName :: before, List.prefix_append _ _, hResolve, fun further e hFurther hDir => ?_⟩
    -- a longer way would go through the segment, which is no directory
    by_contra hLonger
    have hSegment : rootName :: before ++ [segment] <+: further := by
      apply List.prefix_of_prefix_length_le _ hFurther
      · rw [List.length_append]
        exact Nat.lt_of_not_le hLonger
      · exact ⟨after, by simp⟩
    obtain ⟨child, hChild⟩ := Store.dir_of_prefix hDir (by simp) hSegment
    rw [Store.resolve?_child hResolve] at hChild
    exact hBad child hChild

/-- Any target but the three that mean places of their own is looked up in the
directory of the cursor. -/
theorem move_of_ne (hDots : target ≠ "..") (hEmpty : target ≠ "") (hSlash : target ≠ "/") :
    cursor.move store target =
      match (cursor.directory store).child? target with
      | some (.dir _) => .ok ⟨cursor.names ++ [target]⟩
      | some (.file _) => .error (Fault.notADirectory target)
      | none => .error (Fault.notFound "directory" target) := by
  rw [move, if_neg hDots]
  exact if_neg (not_or.mpr ⟨hEmpty, hSlash⟩)

/-- No name that an entry may have means another place to a move. -/
theorem move_entry (hName : EntryName name) :
    cursor.move store name =
      match (cursor.directory store).child? name with
      | some (.dir _) => .ok ⟨cursor.names ++ [name]⟩
      | some (.file _) => .error (Fault.notADirectory name)
      | none => .error (Fault.notFound "directory" name) := by
  obtain ⟨hEmpty, _, hDots, hSlash⟩ := hName
  apply move_of_ne hDots hEmpty
  rintro rfl
  exact hSlash (by decide)

theorem move_child (hName : EntryName name)
    (hChild : (cursor.directory store).child? name = some (.dir d)) :
    cursor.move store name = .ok ⟨cursor.names ++ [name]⟩ := by
  rw [move_entry hName, hChild]

theorem move_file {f : File} (hName : EntryName name)
    (hChild : (cursor.directory store).child? name = some (.file f)) :
    cursor.move store name = .error (Fault.notADirectory name) := by
  rw [move_entry hName, hChild]

end Cursor

end VirtualShell
