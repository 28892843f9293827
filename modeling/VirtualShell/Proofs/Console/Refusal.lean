import VirtualShell.Proofs.Console.Import
import VirtualShell.Proofs.Session.Touch
/-!
A write that the store refuses, and the two ways on which it can have been asked for.
A command shows the message of the fault behind its own name. An import shows the full
text of the fault, of which the message is a part but never the whole.
-/

namespace VirtualShell

namespace Fault

/-- The full text of a fault is longer than its message, for it tells the kind of the
fault too. -/
theorem length_message_lt (fault : Fault) : fault.message.length < fault.fullText.length := by
  have hColon : ": ".length = 2 := rfl
  rw [fullText]
  split <;> simp only [String.length_append, hColon] <;> omega

/-- Nobody who reads the full text of a fault reads its message. -/
theorem fullText_ne_message (fault : Fault) : fault.fullText ≠ fault.message := by
  intro hSame
  have hLonger := fault.length_message_lt
  rw [hSame] at hLonger
  exact Nat.lt_irrefl _ hLonger

theorem fullText_readOnly (name : String) :
    (readOnly name).fullText =
      "Runtime error: ReadOnly: " ++ (readOnly name).message ++ " (name: " ++ name ++ ")" := by
  have hNotes : (readOnly name).notes = [("name", name)] := rfl
  have hText : notesText [("name", name)] = "name: " ++ name := rfl
  have hOpen : " (" ++ "name: " = " (name: " := rfl
  rw [fullText, hNotes]
  dsimp only
  rw [hText, ← hOpen]
  change "Runtime error: ReadOnly: " ++ _ ++ " (" ++ ("name: " ++ name) ++ ")" = _
  simp only [String.append_assoc]

end Fault

namespace Console

variable {session : Session} {console : Console} {read : FileReader}
  {path line name content : String} {fault : Fault}

/-- An import that the store refuses leaves the session as it was and shows the full
text of the fault. -/
theorem importFrom_of_refused (hName : HostPath.fileName? path = some name)
    (hRead : read path = .ok content)
    (hRefused : session.store.insertFile session.cursor.path name content = .error fault) :
    importFrom read path session = (session, Line.error ("import: " ++ fault.fullText)) := by
  rw [importFrom, hName]
  dsimp only
  rw [hRead]
  dsimp only
  rw [Session.importFile, Session.writeFile, hRefused]

/-- A refusal does not hang on what was to be written. -/
theorem touch_of_refused (h : session.Consistent) (hName : EntryName name)
    (hBlank : Text.BlankFree name)
    (hRefused : session.store.insertFile session.cursor.path name content = .error fault) :
    (session.execute (Command.lineOf .touch name)).2 =
      .ofLines [session.echoOf (Command.lineOf .touch name),
        Line.error ("touch: " ++ fault.message)] := by
  rw [Store.insertFile_eq_error_iff_of_dir hName h.directory] at hRefused
  have hPlaceholder : session.store.insertFile session.cursor.path name placeholderContent =
      .error fault := (Store.insertFile_eq_error_iff_of_dir hName h.directory).mpr hRefused
  have hRun : Builtin.touch.run [name] session = .error fault := by
    rw [Builtin.run_touch_cons, Session.writeFile, hPlaceholder]
    rfl
  exact Session.execute_lineOf_of_error hName.1 hBlank hRun

variable {seed : Seed} {user : String} {limit : Option Nat}

/-- On whatever session a run from a seed leads to, a name that the store refuses for a
file is refused by `touch` with the message of the fault. Where a file of the host was to
be imported under that name, more is shown: the group and the kind of the fault before
its message, and the name behind it. The message alone is never shown there. -/
theorem import_refused (hStart : Session.start seed user limit = .ok session)
    (actions : List Session.Action) (hSession : console.session = session.performAll actions)
    (hPhase : console.phase = .importPath)
    (hName : HostPath.fileName? (Text.trim line) = some name)
    (hRead : read (Text.trim line) = .ok content) (hBlank : Text.BlankFree name)
    (hRefused : console.session.store.insertFile console.session.cursor.path name content =
      .error fault) :
    (console.session.execute (Command.lineOf .touch name)).2 =
      .ofLines [console.session.echoOf (Command.lineOf .touch name),
        Line.error ("touch: " ++ fault.message)] ∧
    (console.feed read line).2 =
      [console.renderer.line console.session.user (Line.error
        ("import: Runtime error: ReadOnly: " ++ fault.message ++ " (name: " ++ name ++ ")"))] ∧
    (console.feed read line).2 ≠
      [console.renderer.line console.session.user (Line.error ("import: " ++ fault.message))] := by
  have hConsistent : console.session.Consistent :=
    hSession ▸ Session.performAll_consistent hStart actions
  have hEntry : EntryName name := (HostPath.fileName?_eq_some_iff.mp hName).entryName
  have hShown : (console.feed read line).2 =
      [console.renderer.line console.session.user
        (Line.error ("import: " ++ fault.fullText))] := by
    rw [feed, hPhase]
    change (console.takePath read line).2 = _
    rw [takePath, importFrom_of_refused hName hRead hRefused]
    rfl
  obtain ⟨file, _, _, rfl⟩ :=
    (Store.insertFile_eq_error_iff_of_dir hEntry hConsistent.directory).mp hRefused
  refine ⟨touch_of_refused hConsistent hEntry hBlank hRefused, ?_, ?_⟩
  · rw [hShown, Fault.fullText_readOnly]
    simp only [← String.append_assoc]
    rfl
  · rw [hShown, Ne, List.singleton_inj, Renderer.line_error_inj, String.append_right_inj]
    exact Fault.fullText_ne_message _

theorem import_refused_small :
    let docs : Entries := .file "log" ⟨"log", "", true⟩ .nil
    let seed : Seed := ⟨⟨rootName, .dir "docs" "docs" docs .nil⟩, []⟩
    let session : Session := { store := ⟨seed.tree⟩, user := "guest" }
    let actions : List Session.Action := [.execute "cd docs", .execute "import"]
    let read : FileReader := fun path => if path = "old/log" then .ok "new" else .error .notFound
    let console : Console :=
      { session := session.performAll actions
        renderer := ⟨true⟩
        scrollback := Scrollback.ofCapacity 1
        phase := .importPath }
    (Session.start seed "guest" none = .ok session ∧
      HostPath.fileName? (Text.trim " old/log") = some "log" ∧
      read (Text.trim " old/log") = .ok "new" ∧ Text.BlankFree "log" ∧
      console.session.store.insertFile console.session.cursor.path "log" "new" =
        .error (Fault.readOnly "log")) ∧
    (console.feed read " old/log").2 ≠ ["\x1b[1;31mimport: read-only file: log\x1b[0m"] := by
  intro docs seed session actions read console
  have hStart : Session.start seed "guest" none = .ok session := by decide
  have hName : HostPath.fileName? (Text.trim " old/log") = some "log" := by decide
  have hRead : read (Text.trim " old/log") = .ok "new" := by decide
  have hBlank : Text.BlankFree "log" := by decide
  have hRefused : console.session.store.insertFile console.session.cursor.path "log" "new" =
      .error (Fault.readOnly "log") := by decide
  refine ⟨⟨hStart, hName, hRead, hBlank, hRefused⟩, ?_⟩
  exact (import_refused hStart actions rfl rfl hName hRead hBlank hRefused).2.2

/-- Two lines of one console, the second of which does not end like the first. -/
theorem import_refused_shown :
    let seed : Seed := ⟨⟨rootName, .file "log" ⟨"log", "kept", true⟩ .nil⟩, []⟩
    let session : Session := { store := ⟨seed.tree⟩, user := "guest" }
    let read : FileReader := fun path => if path = "log" then .ok "new" else .error .notFound
    let console := Console.start session { color := false, banner := false }
    Session.start seed "guest" none = .ok session ∧
      (console.run read ["touch log", "import", "log"]).2 =
        ["touch: read-only file: log", "initializing tape reader...",
          "import: Runtime error: ReadOnly: read-only file: log (name: log)"] ∧
      (console.run read ["touch log", "import", "log"]).2 ≠
        ["touch: read-only file: log", "initializing tape reader...",
          "import: read-only file: log"] := by
  decide

end Console

end VirtualShell
