import VirtualShell.Program.Run
import VirtualShell.Proofs.Scrollback
import VirtualShell.Proofs.Session.Script
/-!
A console against a script. A console takes its lines through a scrollback, acts
on their effects and ends browsing before each of them. As long as no path of a
file is asked for, each of its steps is a step of the script, and so both leave
the same session and show the same texts.
-/

namespace VirtualShell

namespace Console

variable {console : Console} {line : String} {lines rest : List String} {read : FileReader}

/-- Every line that imports is preceded by one that logs out. -/
def NoImport (lines : List String) : Prop :=
  ∀ line ∈ lines.takeWhile fun line => Command.builtinOf line ≠ some .logout,
    Command.builtinOf line ≠ some .importFile

instance (lines : List String) : Decidable (NoImport lines) :=
  inferInstanceAs (Decidable (∀ line ∈ lines.takeWhile _, _))

/-- A line that goes on neither imports nor lets the lines after it import. -/
theorem noImport_cons (h : NoImport (line :: rest))
    (hLogout : Command.builtinOf line ≠ some .logout) :
    Command.builtinOf line ≠ some .importFile ∧ NoImport rest := by
  rw [NoImport, List.takeWhile_cons_of_pos (by simpa using hLogout), List.forall_mem_cons] at h
  exact h

/-- What a console is to do next after an effect. -/
def Phase.next (phase : Phase) : Option Effect → Phase
  | some .requestImport => .importPath
  | some .logout => .closed
  | _ => phase

theorem Phase.next_eq_self {phase : Phase} {effect : Option Effect}
    (hImport : effect ≠ some .requestImport) (hLogout : effect ≠ some .logout) :
    phase.next effect = phase := by
  rw [next.eq_def]
  split
  · exact absurd rfl hImport
  · exact absurd rfl hLogout
  · rfl

/-- The scrollback shows all that is there, and of a clearing line there is
nothing. -/
theorem answers_absorb (scrollback : Scrollback) {outcome : Outcome}
    (hClear : outcome.effect = some .clearScrollback → outcome.answers = []) :
    (scrollback.absorb outcome).1.answers = outcome.answers := by
  rw [Scrollback.absorb, Scrollback.apply]
  split
  · next hEffect => exact (hClear hEffect).symm
  · rfl

/-- To submit a line is to run it once, and then to do what is next after its
effect. -/
theorem submit_eq_runOnce (hBrowse : console.session.history.browse = none) (line : String) :
    (console.submit line).1.session = (console.session.runOnce console.renderer line).1 ∧
      (console.submit line).2 = (console.session.runOnce console.renderer line).2 ∧
      (console.submit line).1.renderer = console.renderer ∧
      (console.submit line).1.phase = console.phase.next (Command.effectOf line) := by
  have hExecuted := console.session.execute_executed line
  have hEffect := console.session.effect_execute line
  have hShown := answers_absorb console.scrollback hExecuted.answers_of_clear
  simp only [submit, Session.runOnce, Session.mapHistory_resetBrowse hBrowse, hShown,
    Scrollback.effect_absorb]
  rw [← hEffect]
  cases (console.session.execute line).2.effect with
  | none => simp [act, Phase.next]
  | some effect => cases effect <;> simp [act, print, Phase.next]

/-- A console that takes its next line for a command of somebody who does not
browse. -/
structure Ready (console : Console) : Prop where
  phase : console.phase = .command
  browse : console.session.history.browse = none

/-- A line that neither logs out nor imports leaves the console ready for another. -/
theorem Ready.submit (h : console.Ready) (hLogout : Command.builtinOf line ≠ some .logout)
    (hImport : Command.builtinOf line ≠ some .importFile) : (console.submit line).1.Ready := by
  obtain ⟨hSession, _, _, hPhase⟩ := submit_eq_runOnce h.browse line
  constructor
  · rw [hPhase, Phase.next_eq_self (mt Command.effectOf_requestImport.mp hImport)
      (mt Command.effectOf_logout.mp hLogout), h.phase]
  · rw [hSession, Session.session_runOnce]
    exact (console.session.execute_executed line).browse h.browse

/-- The line that logs out closes the console. -/
theorem Ready.closed_of_submit (h : console.Ready)
    (hLogout : Command.builtinOf line = some .logout) :
    (console.submit line).1.phase = .closed := by
  obtain ⟨_, _, _, hPhase⟩ := submit_eq_runOnce h.browse line
  rw [hPhase, Command.effectOf_logout.mpr hLogout]
  rfl

/-- A closed console takes no line and shows nothing. -/
theorem run_of_closed (hPhase : console.phase = .closed) :
    console.run read lines = (console, []) := by
  cases lines with
  | nil =>
      obtain ⟨session, renderer, scrollback, phase⟩ := console
      cases hPhase
      rfl
  | cons line rest => rw [run, if_pos hPhase]

/-- A console that is ready for a command submits the first line and goes on with the
others. -/
theorem run_of_command (hPhase : console.phase = .command) :
    console.run read (line :: rest) =
      (((console.submit line).1.run read rest).1,
        (console.submit line).2 ++ ((console.submit line).1.run read rest).2) := by
  rw [run, hPhase, if_neg nofun, feed, hPhase]

/-- A ready console that is never asked to import does with its lines what the script
does with them. -/
theorem run_eq_runScript (read : FileReader) (h : console.Ready) (hImport : NoImport lines) :
    (console.run read lines).1.session = (console.session.runScript console.renderer lines).1 ∧
      (console.run read lines).2 = (console.session.runScript console.renderer lines).2 := by
  induction lines generalizing console with
  | nil =>
      rw [run, finish, h.phase]
      exact ⟨rfl, rfl⟩
  | cons line rest ih =>
      obtain ⟨hSession, hTexts, hRenderer, _⟩ := submit_eq_runOnce h.browse line
      rw [run_of_command h.phase, Session.runScript_cons]
      by_cases hLogout : Command.builtinOf line = some .logout
      · -- the console is closed by now, and the script ends here
        rw [run_of_closed (h.closed_of_submit hLogout), if_pos hLogout]
        dsimp only
        rw [List.append_nil]
        exact ⟨hSession, hTexts⟩
      · obtain ⟨hLine, hRest⟩ := noImport_cons hImport hLogout
        obtain ⟨hLast, hMore⟩ := ih (h.submit hLogout hLine) hRest
        rw [if_neg hLogout, ← hSession, ← hTexts, ← hRenderer]
        dsimp only
        rw [hMore]
        exact ⟨hLast, rfl⟩

/-- Behind a line that logs out nothing is read any more. -/
theorem run_append_of_logout (read : FileReader) (h : console.Ready) (hImport : NoImport lines)
    (hLogout : ∃ line ∈ lines, Command.builtinOf line = some .logout) (more : List String) :
    console.run read (lines ++ more) = console.run read lines := by
  induction lines generalizing console with
  | nil =>
      obtain ⟨line, hLine, _⟩ := hLogout
      cases hLine
  | cons line rest ih =>
      rw [List.cons_append, run_of_command h.phase, run_of_command h.phase]
      by_cases hLine : Command.builtinOf line = some .logout
      · have hClosed := h.closed_of_submit hLine
        rw [run_of_closed hClosed, run_of_closed hClosed]
      · obtain ⟨hNoPath, hRest⟩ := noImport_cons hImport hLine
        have hLater : ∃ later ∈ rest, Command.builtinOf later = some .logout := by
          obtain ⟨other, hOther, hLogsOut⟩ := hLogout
          rcases List.mem_cons.mp hOther with rfl | hOther
          · exact absurd hLogsOut hLine
          · exact ⟨other, hOther, hLogsOut⟩
        rw [ih (h.submit hLine hNoPath) hRest hLater]

/-- The session that a console leaves behind, and all that it prints, when it is
opened and then takes lines as they are handed to it. -/
def replay (session : Session) (settings : DisplaySettings) (clock : String) (read : FileReader)
    (lines : List String) : Session × List String :=
  let (console, first) := Console.opened session settings clock
  let (last, texts) := console.run read lines
  (last.session, first ++ texts)

theorem transcript_eq_replay (session : Session) (settings : DisplaySettings) (clock : String)
    (read : FileReader) (input : String) :
    transcript session settings clock read input =
      (replay session settings clock read (inputLines input)).2 := rfl

variable {session : Session} {settings : DisplaySettings}

theorem opened_of_no_banner (hBanner : settings.banner = false) (clock : String) :
    Console.opened session settings clock = (Console.start session settings, []) := by
  rw [Console.opened, hBanner]
  rfl

theorem replay_eq (hBanner : settings.banner = false) (clock : String) (read : FileReader)
    (lines : List String) :
    replay session settings clock read lines =
      (((Console.start session settings).run read lines).1.session,
        ((Console.start session settings).run read lines).2) := by
  rw [replay, opened_of_no_banner hBanner]
  rfl

theorem ready_start (hBrowse : session.history.browse = none) :
    (Console.start session settings).Ready := ⟨rfl, hBrowse⟩

/-- A replay without a banner and without imports is a run of the script. -/
theorem replay_eq_runScript (hBrowse : session.history.browse = none)
    (hBanner : settings.banner = false) (hImport : NoImport lines) (clock : String)
    (read : FileReader) :
    replay session settings clock read lines = session.runScript ⟨settings.color⟩ lines := by
  have hReady : (Console.start session settings).Ready := ready_start hBrowse
  have hRun := run_eq_runScript read hReady hImport
  rw [replay_eq hBanner]
  exact Prod.ext hRun.1 hRun.2

/-- A console without a banner is a script. Whatever lines it is handed, so long
as none before a logout imports, it leaves the session and prints the texts that
the lines give when they are run one at a time. It does not get to lines behind
a logout, and neither the limit of the history nor the size of the scrollback
shows in what it prints. -/
theorem transcript_spec {seed : Seed} {user : String} {limit : Option Nat}
    (hStart : Session.start seed user limit = .ok session) (hBanner : settings.banner = false)
    (hImport : NoImport lines) (clock : String) (read : FileReader) :
    replay session settings clock read lines = session.runScript ⟨settings.color⟩ lines ∧
    (∀ input, inputLines input = lines →
      printed (transcript session settings clock read input) =
        printed (session.runScript ⟨settings.color⟩ lines).2) ∧
    ((∃ line ∈ lines, Command.builtinOf line = some .logout) → ∀ more,
      replay session settings clock read (lines ++ more) =
        replay session settings clock read lines) ∧
    ∀ (limit' : Option Nat) (session' : Session) (settings' : DisplaySettings),
      Session.start seed user limit' = .ok session' → settings'.banner = false →
      settings'.color = settings.color →
      (replay session' settings' clock read lines).2 =
        (replay session settings clock read lines).2 := by
  have hBrowse := Session.browse_of_start hStart
  have hReplay := replay_eq_runScript hBrowse hBanner hImport clock read
  refine ⟨hReplay, ?_, ?_, ?_⟩
  · rintro input rfl
    rw [transcript_eq_replay, hReplay]
  · intro hLogout more
    rw [replay_eq hBanner, replay_eq hBanner,
      run_append_of_logout read (ready_start hBrowse) hImport hLogout]
  · intro limit' session' settings' hStart' hBanner' hColor
    rw [hReplay, replay_eq_runScript (Session.browse_of_start hStart') hBanner' hImport, hColor,
      Session.eq_mapHistory_of_start hStart hStart']
    exact Session.runScript_of_history session session'.history _ lines

theorem transcript_spec_small :
    let seed : Seed := ⟨⟨rootName, .nil⟩, []⟩
    let session : Session := { store := ⟨seed.tree⟩, user := "guest", history := .limited 1 }
    let settings : DisplaySettings := { banner := false, scrollback := 0 }
    let lines := ["touch a", "Clear", "ls", "logout", "import"]
    (Session.start seed "guest" (some 1) = .ok session ∧ settings.banner = false ∧
      NoImport lines) ∧
    replay session settings "" (fun _ => .ok "") lines = session.runScript ⟨true⟩ lines := by
  intro seed session settings lines
  have hStart : Session.start seed "guest" (some 1) = .ok session := rfl
  have hImport : NoImport lines := by decide
  exact ⟨⟨hStart, rfl, hImport⟩, (transcript_spec hStart rfl hImport "" _).1⟩

end Console

end VirtualShell
