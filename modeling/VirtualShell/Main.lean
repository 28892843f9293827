import Std.Time
import VirtualShell.Program.Run
/-!
The program at a terminal: arguments, files of the host, standard input and
output, and the clock. Everything that is decided is decided by the functions
that are called here.
-/

namespace VirtualShell.Main

/-- The fault of the host that an error of reading a file means. -/
def hostFault : IO.Error → HostFault
  | .noFileOrDirectory _ _ _ => .notFound
  | .inappropriateType _ 20 _ => .notADirectory
  | .inappropriateType _ 21 _ => .isADirectory
  | error => .other (toString error)

/-- The text of a file of the host. -/
def readFile (path : String) : IO (Except HostFault String) := do
  if path.toList.contains '\x00' then return .error .malformedPath
  try
    match String.fromUTF8? (← IO.FS.readBinFile path) with
    | some text => return .ok text
    | none => return .error .notText
  catch error => return .error (hostFault error)

/-- The default file for settings. -/
def defaultSettings : IO (Option String) := do
  let configured ← IO.getEnv "XDG_CONFIG_HOME"
  let home ← IO.getEnv "HOME"
  let directory := (configured.filter (Text.startsWith · "/")).or (home.map (· ++ "/.config"))
  return directory.map (· ++ "/" ++ Settings.defaultFile)

def clock : IO String := do
  return (← Std.Time.PlainDateTime.now).format "uuuu-MM-dd HH:mm:ss"

def put (texts : List String) : IO Unit := do
  IO.print (printed texts)
  (← IO.getStdout).flush

/-- What to ask for before a line is read. -/
def question (console : Console) : String :=
  match console.phase with
  | .command => console.renderer.prompt console.session.user console.session.cursor.promptPath
  | .importPath => "import path> "
  | .closed => ""

/-- Feed a console with the lines of standard input until it is closed. -/
partial def converse (console : Console) : IO Unit := do
  let input ← IO.getStdin
  if console.phase = .closed then return
  if ← input.isTty then
    IO.print (question console)
    (← IO.getStdout).flush
  let line ← input.getLine
  if line.isEmpty then
    put console.finish.2
  else
    let typed := typedLine (Text.cut '\n' line).1
    let content ← if console.phase = .importPath then readFile (Text.trim typed)
      else pure (.error .notFound)
    let (next, texts) := console.feed (fun _ => content) typed
    put texts
    converse next

/-- Report why no session began. -/
def fail (fault : StartFault) : IO UInt32 := do
  IO.eprintln fault.report
  return 1

/-- Run the program under its arguments. -/
def start (arguments : Arguments) : IO UInt32 := do
  let default ← defaultSettings
  let config ← match arguments.config.or default with
    | some path => readFile path
    | none => pure (.error .notFound)
  let present := match config with
    | .error .notFound | .error .notADirectory => false
    | _ => true
  match arguments.settings (default.filter fun _ => present) (fun _ => config) with
  | .error fault => fail fault
  | .ok settings =>
    let seed ← match settings.seedPath with
      | some path => readFile path
      | none => pure (.error .notFound)
    match settings.session (fun _ => seed) with
    | .error fault => fail fault
    | .ok session =>
      match arguments.command with
      | some line => put (session.runOnce ⟨settings.display.color⟩ line).2
      | none =>
        let (console, first) := Console.opened session settings.display (← clock)
        put first
        converse console
      return 0

end VirtualShell.Main

def main (words : List String) : IO UInt32 := do
  match VirtualShell.Arguments.parse? words with
  | some arguments => VirtualShell.Main.start arguments
  | none =>
    IO.eprintln ("usage: [COMMAND] [--user USER] [--config PATH] [--seed PATH] "
      ++ "[--log-level LEVEL] [--no-color]")
    return 2
