import VirtualShell.Console
import VirtualShell.Proofs.Host.Path
import VirtualShell.Proofs.Session.Run
/-!
Importing a file. The name under which a file is imported is the one that its path
ends in, which is always a name for an entry, and the current directory of a
session is always there. So only a read-only file can stand in the way of what was
found and read; whatever goes wrong, the session stays as it was.
-/

namespace VirtualShell

namespace Renderer

variable {renderer : Renderer} {user : String}

/-- Colours go around a text and hide nothing of it. -/
theorem paint_inj {style : Style} {first second : String} :
    renderer.paint style first = renderer.paint style second ↔ first = second := by
  rw [paint, paint]
  split
  · rw [String.append_left_inj, String.append_right_inj]
  · rfl

theorem line_success_inj {first second : String} :
    renderer.line user (Line.success first) = renderer.line user (Line.success second) ↔
      first = second := paint_inj

theorem line_error_inj {first second : String} :
    renderer.line user (Line.error first) = renderer.line user (Line.error second) ↔
      first = second := paint_inj

/-- Nobody who sees the report of an import takes a failure for a success. -/
theorem line_error_ne_line_success (reason name : String) :
    renderer.line user (Line.error ("import: " ++ reason)) ≠
      renderer.line user (Line.success ("imported " ++ name)) := by
  intro h
  have hChars := congrArg String.toList h
  simp only [line, Line.error, Line.success, paint, Style.code] at hChars
  split at hChars <;> simp at hChars

end Renderer

namespace Console

/-- Whether a path leads to a text of the host that can be written into the current
directory, and under which name. -/
structure Importable (session : Session) (read : FileReader) (path name content : String) :
    Prop where
  named : HostPath.EndsIn path name
  readable : read path = .ok content
  unlocked : ∀ file, session.directory.child? name = some (.file file) → file.readOnly = false

/-- The two ways in which an import can go. -/
inductive Took (session : Session) (read : FileReader) (path : String) :
    Session × Line → Prop where
  | done {name content : String} {store : Store}
      (hFile : Importable session read path name content)
      (hInsert : session.store.insertFile session.cursor.path name content = .ok store) :
      Took session read path ({ session with store }, Line.success ("imported " ++ name))
  | refused (reason : String)
      (hNone : ∀ name content, ¬ Importable session read path name content) :
      Took session read path (session, Line.error ("import: " ++ reason))

/-- What a line that is taken for the path of a file does to a console. -/
structure Imported (read : FileReader) (line : String) (before after : Console)
    (texts : List String) : Prop where
  /-- One line is printed, and the console is ready for a command again. -/
  reported : ∃ report, texts = [before.renderer.line before.session.user report] ∧
    after = { before with
      session := after.session
      scrollback := before.scrollback.push report
      phase := .command }
  /-- No part of the session but its store can be another one. -/
  framed : after.session = { before.session with store := after.session.store }
  announced : ∀ name,
    texts = [before.renderer.line before.session.user (Line.success ("imported " ++ name))] ↔
      ∃ content, Importable before.session read (Text.trim line) name content
  written : ∀ name content, Importable before.session read (Text.trim line) name content →
    before.session.store.insertFile before.session.cursor.path name content =
      .ok after.session.store
  kept : (∀ name content, ¬ Importable before.session read (Text.trim line) name content) →
    after.session = before.session ∧
      ∃ reason, texts =
        [before.renderer.line before.session.user (Line.error ("import: " ++ reason))]

variable {session : Session} {console : Console} {read : FileReader} {path name content : String}

theorem Importable.fileName?_eq (h : Importable session read path name content) :
    HostPath.fileName? path = some name :=
  HostPath.fileName?_eq_some_iff.mpr h.named

/-- A path leads to one text, under one name. -/
theorem Importable.unique {name' content' : String}
    (h : Importable session read path name content)
    (h' : Importable session read path name' content') : name = name' ∧ content = content' := by
  have hName := h.fileName?_eq
  rw [h'.fileName?_eq] at hName
  have hContent := h.readable
  rw [h'.readable] at hContent
  cases hName
  cases hContent
  exact ⟨rfl, rfl⟩

/-- In a session whose current directory is there, nothing but the three conditions
decides on an import. -/
theorem took_importFrom (hConsistent : session.Consistent) (read : FileReader) (path : String) :
    Took session read path (importFrom read path session) := by
  rw [importFrom]
  split
  · next hName =>
      have hText : "import: not a file path: " ++ path =
          "import: " ++ ("not a file path: " ++ path) := by
        rw [← String.append_assoc]
        rfl
      rw [hText]
      refine .refused _ fun name content hFile => ?_
      rw [hFile.fileName?_eq] at hName
      cases hName
  · next name hName =>
      split
      · next fault hRead =>
          have hText : "import: cannot read " ++ path ++ ": " ++ fault.message =
              "import: " ++ ("cannot read " ++ path ++ ": " ++ fault.message) := by
            rw [← String.append_assoc, ← String.append_assoc, ← String.append_assoc]
            rfl
          rw [hText]
          refine .refused _ fun name content hFile => ?_
          rw [hFile.readable] at hRead
          cases hRead
      · next content hRead =>
          have hFree : (∃ store, session.store.insertFile session.cursor.path name content =
              .ok store) ↔ EntryName name ∧
                ∀ file, session.directory.child? name = some (.file file) →
                  file.readOnly = false :=
            Store.exists_insertFile_iff hConsistent.directory
          rw [Session.importFile, Session.writeFile]
          cases hInsert : session.store.insertFile session.cursor.path name content with
          | ok store =>
              have hNamed := HostPath.fileName?_eq_some_iff.mp hName
              exact .done ⟨hNamed, hRead, (hFree.mp ⟨store, hInsert⟩).2⟩ hInsert
          | error fault =>
              refine .refused fault.fullText fun name' content' hFile => ?_
              rw [hFile.fileName?_eq] at hName
              cases hName
              obtain ⟨store, hStore⟩ := hFree.mpr ⟨hFile.named.entryName, hFile.unlocked⟩
              rw [hInsert] at hStore
              cases hStore

/-- A line that is taken for a path is an import, and after it the console takes
commands again. -/
theorem imported_takePath (hConsistent : console.session.Consistent) (read : FileReader)
    (line : String) :
    Imported read line console (console.takePath read line).1 (console.takePath read line).2 := by
  have hTook := took_importFrom hConsistent read (Text.trim line)
  rw [takePath]
  generalize importFrom read (Text.trim line) console.session = result at hTook
  cases hTook with
  | @done name content store hFile hInsert =>
      exact {
        reported := ⟨_, rfl, rfl⟩
        framed := rfl
        announced := fun name' => by
          simp only [print, List.cons.injEq, and_true, Renderer.line_success_inj,
            String.append_right_inj]
          constructor
          · rintro rfl
            exact ⟨content, hFile⟩
          · rintro ⟨content', hFile'⟩
            exact (hFile.unique hFile').1
        written := fun name' content' hFile' => by
          obtain ⟨rfl, rfl⟩ := hFile.unique hFile'
          exact hInsert
        kept := fun hNone => absurd hFile (hNone name content) }
  | refused reason hNone =>
      exact {
        reported := ⟨_, rfl, rfl⟩
        framed := rfl
        announced := fun name => by
          simp only [print, List.cons.injEq, and_true, Renderer.line_error_ne_line_success,
            false_iff]
          rintro ⟨content, hFile⟩
          exact hNone name content hFile
        written := fun name content hFile => absurd hFile (hNone name content)
        kept := fun _ => ⟨rfl, reason, rfl⟩ }

/-- Whatever line is taken for the path of a file, and whatever the host answers, the
file that is announced is written, or an error is reported and the session stays as
it was; it also stays so if no line comes any more. The store never finds fault with
a name that a path ends in, or with the current directory. -/
theorem imported_feed {seed : Seed} {user : String} {limit : Option Nat}
    (hStart : Session.start seed user limit = .ok session) (actions : List Session.Action)
    (hSession : console.session = session.performAll actions)
    (hPhase : console.phase = .importPath) (read : FileReader) :
    (∀ line, Imported read line console (console.feed read line).1 (console.feed read line).2) ∧
    (console.finish.1.session = console.session ∧
      console.finish.2 =
        [console.renderer.line console.session.user (Line.system "import cancelled")]) ∧
    ∀ path name, HostPath.fileName? path = some name →
      EntryName name ∧
      ∀ content fault,
        console.session.store.insertFile console.session.cursor.path name content = .error fault →
          fault = Fault.readOnly name := by
  have hConsistent : console.session.Consistent :=
    hSession ▸ ((Session.sound_of_start hStart).performAll actions).consistent
  refine ⟨fun line => ?_, ?_, fun path name hName => ?_⟩
  · rw [feed, hPhase]
    exact imported_takePath hConsistent read line
  · rw [finish, hPhase]
    exact ⟨rfl, rfl⟩
  · have hEntry : EntryName name := (HostPath.fileName?_eq_some_iff.mp hName).entryName
    refine ⟨hEntry, fun content fault hFault => ?_⟩
    rw [Store.insertFile_eq_error_iff_of_dir hEntry hConsistent.directory] at hFault
    obtain ⟨file, _, _, hReadOnly⟩ := hFault
    exact hReadOnly

theorem imported_feed_small :
    let seed : Seed := ⟨⟨rootName, .nil⟩, []⟩
    let session : Session := { store := ⟨seed.tree⟩, user := "guest" }
    let actions : List Session.Action := [.writeFile "a" "first", .execute "import"]
    let read : FileReader := fun path =>
      if path = "./docs/a/." then .ok "second" else .error .notFound
    let console : Console :=
      { session := session.performAll actions
        renderer := ⟨true⟩
        scrollback := Scrollback.ofCapacity 1
        phase := .importPath }
    let line := " ./docs/a/. "
    (Session.start seed "guest" none = .ok session ∧
      console.session = session.performAll actions ∧ console.phase = .importPath) ∧
    (console.feed read line).2 = ["\x1b[32mimported a\x1b[0m"] ∧
    Imported read line console (console.feed read line).1 (console.feed read line).2 := by
  intro seed session actions read console line
  have hStart : Session.start seed "guest" none = .ok session := rfl
  refine ⟨⟨hStart, rfl, rfl⟩, by decide, ?_⟩
  exact (imported_feed hStart actions rfl rfl read).1 line

end Console

end VirtualShell
