import VirtualShell.Proofs.Session.Run
/-!
What a run can take away. A write puts a file that is not read-only into the
place of whatever was there, read-only files excepted; if that was a directory,
all below it is gone. Between any two stores of a run no more is lost than by a
single write, for the bounds compose: a directory is never new, so what a later
write takes for a directory was one from the beginning.
-/

namespace VirtualShell

namespace Store

/-- Where there was a directory there is a file now, and not a read-only one. -/
def Flattened (before after : Store) (place : List String) : Prop :=
  (∃ d, before.resolve? place = some (.dir d)) ∧
    ∃ f, after.resolve? place = some (.file f) ∧ f.readOnly = false

/-- The bounds on what a later store lacks, and on what it has, that an earlier
one had. -/
structure Keeps (before after : Store) : Prop where
  /-- No directory is new, -/
  directory : ∀ place d, after.resolve? place = some (.dir d) →
    ∃ e, before.resolve? place = some (.dir e)
  /-- and no read-only file is, nor has one a new content. -/
  readOnly : ∀ place f, f.readOnly = true → after.resolve? place = some (.file f) →
    before.resolve? place = some (.file f)
  /-- A read-only file can only be lost with a directory around it, -/
  locked : ∀ place f, f.readOnly = true → before.resolve? place = some (.file f) →
    after.resolve? place = some (.file f) ∨
      ∃ above, above <+: place ∧ above ≠ place ∧ before.Flattened after above
  /-- and anything else with such a directory or by being one itself. -/
  kind : ∀ place node, before.resolve? place = some node →
    (∃ node', after.resolve? place = some node' ∧ node'.kind = node.kind) ∨
      ∃ above, above <+: place ∧ before.Flattened after above

/-- What a store that a file was written to has at a place: the file itself,
nothing below it, a directory still around it, and elsewhere what was there. -/
inductive AfterWrite (before after : Store) (path : List String) (name content : String) :
    List String → Prop where
  | target (hNew : after.resolve? (path ++ [name]) = some (.file ⟨name, content, false⟩)) :
      AfterWrite before after path name content (path ++ [name])
  | below {more : List String} (hMore : more ≠ [])
      (hGone : after.resolve? (path ++ [name] ++ more) = none) :
      AfterWrite before after path name content (path ++ [name] ++ more)
  | around {place : List String} {d d' : Directory}
      (hOld : before.resolve? place = some (.dir d))
      (hNew : after.resolve? place = some (.dir d')) :
      AfterWrite before after path name content place
  | elsewhere {place : List String} (hSame : after.resolve? place = before.resolve? place) :
      AfterWrite before after path name content place

variable {store before middle after : Store} {path place : List String} {name content : String}

/-- A write accounts for every place: it is the target, below it, or as it was but for the
entries of a directory above. -/
theorem Rewritten.afterWrite (h : before.Rewritten after path name content) (place : List String) :
    AfterWrite before after path name content place := by
  by_cases hBelow : path ++ [name] <+: place
  · obtain ⟨more, rfl⟩ := hBelow
    by_cases hMore : more = []
    · subst hMore
      rw [List.append_nil]
      exact .target h.target
    · exact .below hMore (h.below more hMore)
  · by_cases hAround : place ≠ [] ∧ place <+: path
    · obtain ⟨d, d', hOld, hNew, _⟩ := h.around place hAround.1 hAround.2
      exact .around hOld hNew
    · exact .elsewhere (h.elsewhere place hBelow hAround)

/-- No write goes through that would replace a read-only file. -/
theorem not_readOnly_of_insertFile (h : store.insertFile path name content = .ok after) {f : File}
    (hFile : store.resolve? (path ++ [name]) = some (.file f)) : f.readOnly = false := by
  obtain ⟨hName, names, rfl, _⟩ := exists_write_of_insertFile h
  have hPath : rootName :: names ≠ [] := List.cons_ne_nil _ _
  obtain ⟨d, hReach⟩ := dir_of_resolve?_append hPath (List.cons_ne_nil name []) hFile
  by_contra hLocked
  have hRefuses : store.Refuses (rootName :: names) name (Fault.readOnly name) :=
    .readOnly (validName_iff.mp hName) hReach hFile (Bool.eq_true_of_not_eq_false hLocked)
  rw [insertFile_of_refuses hRefuses] at h
  cases h

/-- What was below the place of a write is lost with the directory there. -/
theorem Rewritten.flattened (h : before.Rewritten after path name content) {more : List String}
    (hMore : more ≠ []) {node : Node}
    (hNode : before.resolve? (path ++ [name] ++ more) = some node) :
    before.Flattened after (path ++ [name]) :=
  ⟨dir_of_resolve?_append (by simp) hMore hNode, _, h.target, rfl⟩

/-- One write loses nothing but what stood under its name. -/
theorem keeps_of_insertFile (h : store.insertFile path name content = .ok after) :
    store.Keeps after := by
  have hWritten := rewritten_of_insertFile h
  refine ⟨?directory, ?readOnly, ?locked, ?kind⟩
  case directory =>
    intro place d hDir
    cases hWritten.afterWrite place with
    | target hNew =>
        rw [hNew] at hDir
        cases hDir
    | below hMore hGone =>
        rw [hGone] at hDir
        cases hDir
    | around hOld hNew => exact ⟨_, hOld⟩
    | elsewhere hSame => exact ⟨d, hSame ▸ hDir⟩
  case readOnly =>
    intro place f hLocked hFile
    cases hWritten.afterWrite place with
    | target hNew =>
        rw [hNew] at hFile
        cases hFile
        cases hLocked
    | below hMore hGone =>
        rw [hGone] at hFile
        cases hFile
    | around hOld hNew =>
        rw [hNew] at hFile
        cases hFile
    | elsewhere hSame => exact hSame ▸ hFile
  case locked =>
    intro place f hLocked hFile
    cases hWritten.afterWrite place with
    | target hNew =>
        rw [not_readOnly_of_insertFile h hFile] at hLocked
        cases hLocked
    | below hMore hGone =>
        refine .inr ⟨path ++ [name], List.prefix_append _ _, ?_, hWritten.flattened hMore hFile⟩
        simpa using hMore
    | around hOld hNew =>
        rw [hOld] at hFile
        cases hFile
    | elsewhere hSame => exact .inl (hSame.trans hFile)
  case kind =>
    intro place node hNode
    cases hWritten.afterWrite place with
    | target hNew =>
        cases node with
        | file f => exact .inl ⟨_, hNew, rfl⟩
        | dir d => exact .inr ⟨_, List.prefix_refl _, ⟨d, hNode⟩, _, hNew, rfl⟩
    | below hMore hGone =>
        exact .inr ⟨path ++ [name], List.prefix_append _ _, hWritten.flattened hMore hNode⟩
    | around hOld hNew =>
        rw [hOld] at hNode
        cases hNode
        exact .inl ⟨_, hNew, rfl⟩
    | elsewhere hSame => exact .inl ⟨node, hSame.trans hNode, rfl⟩

theorem Keeps.refl (store : Store) : store.Keeps store where
  directory _ d hDir := ⟨d, hDir⟩
  readOnly _ _ _ hFile := hFile
  locked _ _ _ hFile := .inl hFile
  kind _ node hNode := .inl ⟨node, hNode, rfl⟩

/-- What is flattened later was a directory all the time. -/
theorem Flattened.of_later (h : middle.Flattened after place) (hKeeps : before.Keeps middle) :
    before.Flattened after place := by
  obtain ⟨⟨d, hDir⟩, hFile⟩ := h
  exact ⟨hKeeps.directory place d hDir, hFile⟩

/-- What was flattened stays so, or is lost with a directory around it. -/
theorem Flattened.of_earlier (h : before.Flattened middle place) (hFirst : before.Keeps middle)
    (hSecond : middle.Keeps after) : ∃ above, above <+: place ∧ before.Flattened after above := by
  obtain ⟨hDir, f, hFile, hOpen⟩ := h
  rcases hSecond.kind place (.file f) hFile with ⟨node, hNode, hKind⟩ | ⟨above, hAbove, hFlat⟩
  · cases node with
    | dir d => cases hKind
    | file g =>
        refine ⟨place, List.prefix_refl _, hDir, g, hNode, ?_⟩
        -- a read-only file would have been here already
        by_contra hLocked
        have hSame := hSecond.readOnly place g (Bool.eq_true_of_not_eq_false hLocked) hNode
        rw [hFile] at hSame
        cases hSame
        exact hLocked hOpen
  · exact ⟨above, hAbove, hFlat.of_later hFirst⟩

/-- What two changes keep one after the other is kept by both together. -/
theorem Keeps.trans (hFirst : before.Keeps middle) (hSecond : middle.Keeps after) :
    before.Keeps after := by
  constructor
  · intro place d hDir
    obtain ⟨e, hMiddle⟩ := hSecond.directory place d hDir
    exact hFirst.directory place e hMiddle
  · intro place f hLocked hFile
    exact hFirst.readOnly place f hLocked (hSecond.readOnly place f hLocked hFile)
  · intro place f hLocked hFile
    rcases hFirst.locked place f hLocked hFile with hKept | ⟨above, hAbove, hProper, hFlat⟩
    · rcases hSecond.locked place f hLocked hKept with hKept | ⟨above, hAbove, hProper, hFlat⟩
      · exact .inl hKept
      · exact .inr ⟨above, hAbove, hProper, hFlat.of_later hFirst⟩
    · obtain ⟨higher, hHigher, hFlat⟩ := hFlat.of_earlier hFirst hSecond
      refine .inr ⟨higher, hHigher.trans hAbove, ?_, hFlat⟩
      rintro rfl
      exact hProper (hAbove.eq_of_length_le hHigher.length_le)
  · intro place node hNode
    rcases hFirst.kind place node hNode with ⟨node', hKept, hKind⟩ | ⟨above, hAbove, hFlat⟩
    · rcases hSecond.kind place node' hKept with ⟨node'', hKept, hKind'⟩ | ⟨above, hAbove, hFlat⟩
      · exact .inl ⟨node'', hKept, hKind'.trans hKind⟩
      · exact .inr ⟨above, hAbove, hFlat.of_later hFirst⟩
    · obtain ⟨higher, hHigher, hFlat⟩ := hFlat.of_earlier hFirst hSecond
      exact .inr ⟨higher, hHigher.trans hAbove, hFlat⟩

end Store

namespace Session

/-- Whatever a session does in one turn is no more than a write. -/
theorem Turn.keeps {before after : Session} (h : Turn before after) :
    before.store.Keeps after.store := by
  cases h with
  | idle hStore hCursor => exact hStore ▸ Store.Keeps.refl _
  | moved hStore hMove => exact hStore ▸ Store.Keeps.refl _
  | wrote hCursor hInsert => exact Store.keeps_of_insertFile hInsert

/-- Whatever is done to a session, and in whatever order, directories and
read-only files do not come new, and nothing is lost or changes its kind but
where a directory was replaced by a file, or below such a place. -/
theorem performAll_keeps (session : Session) (actions : List Action) :
    session.store.Keeps (session.performAll actions).store :=
  performAll_induction (motive := fun after => session.store.Keeps after.store)
    (Store.Keeps.refl _) (fun _ _ hTurn hSoFar => hSoFar.trans hTurn.keeps) actions

end Session

end VirtualShell
