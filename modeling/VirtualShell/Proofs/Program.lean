import VirtualShell.Program.Run
import VirtualShell.Proofs.Session.Run
/-!
The sessions that the program begins. Its seed is the built-in one or comes from a
document, and in either case its entries are in order. So whatever holds of runs from
seeds in order holds of everything that is done to a session of the program.
-/

namespace VirtualShell

/-- The seed of a file is that of the document in it. -/
theorem Seed.exists_read_of_ofFile {path : String} {content : Except HostFault String}
    {seed : Seed} (h : Seed.ofFile path content = .ok seed) :
    ∃ document, content = .ok document ∧ Seed.read document = .ok seed := by
  cases content with
  | error fault => cases h
  | ok document =>
      rw [Seed.ofFile] at h
      split at h
      · next found hRead =>
          cases h
          exact ⟨document, rfl, hRead⟩
      · cases h

namespace Settings

variable {settings : Settings} {read : FileReader} {seed : Seed} {session : Session}

/-- Whatever seed the settings ask for, and whatever is in the files of the host, the
entries of the seed are in order. -/
theorem exists_orderedSeed (h : settings.seed read = .ok seed) :
    ∃ ordered : OrderedSeed, ordered.toSeed = seed := by
  rw [Settings.seed] at h
  split at h
  · cases h
    exact ⟨OrderedSeed.builtIn, rfl⟩
  · next path hPath =>
      split at h
      · next found hFile =>
          cases h
          obtain ⟨document, _, hRead⟩ := Seed.exists_read_of_ofFile hFile
          exact ⟨OrderedSeed.ofRead hRead, rfl⟩
      · cases h

/-- A session of the program starts from such a seed, under the user and the limit of
the settings. -/
theorem exists_start_of_session (h : settings.session read = .ok session) :
    ∃ seed : OrderedSeed,
      Session.start seed.toSeed settings.user settings.history.maxEntries = .ok session := by
  rw [Settings.session] at h
  split at h
  · cases h
  · next seed hSeed =>
      obtain ⟨ordered, rfl⟩ := exists_orderedSeed hSeed
      split at h
      · next started hStart =>
          cases h
          exact ⟨ordered, hStart⟩
      · cases h

/-- So whatever is done to a session of the program, its cursor stands in a directory
and its entries are in order. -/
theorem orderly_performAll_of_session (h : settings.session read = .ok session)
    (actions : List Session.Action) : (session.performAll actions).Orderly := by
  obtain ⟨seed, hStart⟩ := exists_start_of_session h
  exact Session.orderly_performAll hStart actions

/-- The built-in seed can be built, so that settings without a path never fail to begin
a session. -/
theorem exists_session_of_no_path (h : settings.seedPath = none) (read : FileReader) :
    ∃ session, settings.session read = .ok session := by
  have hTree : Store.ofTree Seed.builtIn.tree = .ok ⟨Seed.builtIn.tree⟩ :=
    Store.ofTree_eq_ok_iff.mpr ⟨Seed.wellFormed_builtIn, rfl⟩
  have hSeed : settings.seed read = .ok Seed.builtIn := by rw [Settings.seed, h]
  rw [Settings.session, hSeed]
  dsimp only
  rw [Session.start, Seed.build, hTree]
  exact ⟨_, rfl⟩

end Settings

end VirtualShell
