import VirtualShell.Host.Files
import VirtualShell.Renderer.Banner
import VirtualShell.Scrollback
import VirtualShell.Session.Execute
import VirtualShell.Settings
import VirtualShell.Text.Erasure
/-!
The console: a session to which lines are typed one after the other, and what it
prints. Each line is a command, except that a path is asked for when a file is
to be imported. A console also keeps its scrollback, which never decides what is
printed.
-/

namespace VirtualShell

/-- Run one line and give the texts that answer it. Whoever runs it knows what
was typed, so there is no echo. -/
def Session.runOnce (session : Session) (renderer : Renderer) (line : String) :
    Session × List String :=
  let (after, outcome) := session.execute line
  let launched := match outcome.effect with
    | some (.launch app model) => [launchLine app model]
    | _ => []
  (after, (outcome.answers ++ launched).map (renderer.line after.user))

/-- What a console takes its next line for. -/
inductive Console.Phase where
  | command
  | importPath
  | closed
deriving DecidableEq, Repr

structure Console where
  session : Session
  renderer : Renderer
  scrollback : Scrollback
  phase : Console.Phase := .command
deriving DecidableEq, Repr

/-- How a console gets at files of the host. -/
abbrev FileReader := String → Except HostFault String

namespace Console

def start (session : Session) (settings : DisplaySettings) : Console :=
  { session
    renderer := ⟨settings.color⟩
    scrollback := Scrollback.ofCapacity settings.scrollback }

/-- Print a line of the console's own. -/
def print (console : Console) (line : Line) : Console × List String :=
  ({ console with scrollback := console.scrollback.push line },
    [console.renderer.line console.session.user line])

def bannerTexts (clock : String) : List String :=
  ["CRT TERMINAL", "secure virtual shell", "session opened " ++ clock]

/-- Print the banner, with the time at which the session begins, and a
welcome. -/
def greet (console : Console) (clock : String) : Console × List String :=
  let (welcomed, welcome) := console.print
    (Line.system ("welcome, " ++ console.session.user ++ ". type 'help' for commands"))
  (welcomed, console.renderer.banner (bannerTexts clock) ++ welcome)

/-- Do what an effect asks for, apart from the scrollback. -/
def act (console : Console) : Option Effect → Console × List String
  | some (.launch app model) => console.print (launchLine app model)
  | some .requestImport => ({ console with phase := .importPath }, [])
  | some .logout => ({ console with phase := .closed }, [])
  | some .clearScrollback | none => (console, [])

/-- Take a line as a command. -/
def submit (console : Console) (line : String) : Console × List String :=
  let (session, outcome) := (console.session.mapHistory History.resetBrowse).execute line
  let (left, scrollback) := console.scrollback.absorb outcome
  let printed := left.answers.map (console.renderer.line session.user)
  let (after, more) := { console with session, scrollback }.act left.effect
  (after, printed ++ more)

/-- Import a file of the host under its own name, and say how that went. -/
def importFrom (read : FileReader) (path : String) (session : Session) : Session × Line :=
  match HostPath.fileName? path with
  | none => (session, Line.error ("import: not a file path: " ++ path))
  | some name =>
    match read path with
    | .error fault =>
      (session, Line.error ("import: cannot read " ++ path ++ ": " ++ fault.message))
    | .ok content =>
      match session.importFile name content with
      | .ok imported => (imported, Line.success ("imported " ++ name))
      | .error fault => (session, Line.error ("import: " ++ fault.fullText))

/-- Take a line as the path of a file to import. -/
def takePath (console : Console) (read : FileReader) (line : String) : Console × List String :=
  let (session, report) := importFrom read (Text.trim line) console.session
  { console with session, phase := .command }.print report

/-- Take the next line. -/
def feed (console : Console) (read : FileReader) (line : String) : Console × List String :=
  match console.phase with
  | .command => console.submit line
  | .importPath => console.takePath read line
  | .closed => (console, [])

/-- Come to the end of the input. An import that waits for a path is called
off. -/
def finish (console : Console) : Console × List String :=
  match console.phase with
  | .importPath => { console with phase := .closed }.print (Line.system "import cancelled")
  | .command | .closed => ({ console with phase := .closed }, [])

/-- Take lines until one ends the session or there are none left. -/
def run (console : Console) (read : FileReader) : List String → Console × List String
  | [] => console.finish
  | line :: rest =>
    if console.phase = .closed then (console, [])
    else
      let (next, printed) := console.feed read line
      let (last, more) := next.run read rest
      (last, printed ++ more)

end Console

/-- What somebody means who types a line: a carriage return at its end belongs
to the line end, and backspaces take back what was typed. -/
def typedLine (line : String) : String :=
  let cs := line.toList
  Text.applyBackspaces (String.ofList (if cs.getLast? = some '\r' then cs.dropLast else cs))

/-- The lines of an input; a line end ends a line and begins none. -/
def inputLines (input : String) : List String :=
  let pieces := Text.split '\n' input
  (if pieces.getLast? = some "" then pieces.dropLast else pieces).map typedLine

/-- Texts as they are printed, each on a line of its own. -/
def printed (texts : List String) : String :=
  String.join (texts.map (· ++ "\n"))

end VirtualShell
