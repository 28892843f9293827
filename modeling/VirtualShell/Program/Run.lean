import VirtualShell.Console
import VirtualShell.LogFilter
import VirtualShell.Program.Arguments
import VirtualShell.Seed.BuiltIn
import VirtualShell.Seed.Source
import VirtualShell.Settings.Codec
/-!
The program as a whole: from arguments and settings to a session, and from there
either through one command line or through a console. The stages are functions
of what reading the files gave, so that they do not depend on how the host is
asked.
-/

namespace VirtualShell

/-- Why the program gives up before a session begins. -/
inductive StartFault where
  | settings (fault : SettingsFault)
  | logging (fault : Fault)
  | seed (path : String) (fault : Fault)
  | session (fault : Fault)
deriving DecidableEq, Repr

def StartFault.message : StartFault → String
  | settings fault => fault.message
  | logging _ => "Failed to initialize logging"
  | seed path _ => "Failed to load seed " ++ path
  | session _ => "Failed to build session from seed"

/-- The line that reports a fault: the first line of its message. -/
def StartFault.report (fault : StartFault) : String :=
  "Error: " ++ (Text.cut '\n' fault.message).1

namespace Settings

/-- The settings from the file that the arguments name, or from the default file
if there is one. -/
def load (path : Option String) (defaultPath : Option String) (read : FileReader) :
    Except SettingsFault Settings :=
  match path.or defaultPath with
  | some path => ofFile path (read path)
  | none => .ok {}

/-- Look at the log filter before anything else happens. -/
def checkLogging (settings : Settings) : Except StartFault Unit :=
  match LogFilter.check settings.logging.level with
  | .ok _ => .ok ()
  | .error fault => .error (.logging fault)

/-- The seed that the settings ask for. -/
def seed (settings : Settings) (read : FileReader) : Except StartFault Seed :=
  match settings.seedPath with
  | none => .ok Seed.builtIn
  | some path =>
    match Seed.ofFile path (read path) with
    | .ok seed => .ok seed
    | .error fault => .error (.seed path fault)

/-- The session under the settings. -/
def session (settings : Settings) (read : FileReader) : Except StartFault Session :=
  match settings.seed read with
  | .error fault => .error fault
  | .ok seed =>
    match Session.start seed settings.user settings.history.maxEntries with
    | .ok session => .ok session
    | .error fault => .error (.session fault)

end Settings

/-- A console that has been opened, with what it prints first. -/
def Console.opened (session : Session) (settings : DisplaySettings) (clock : String) :
    Console × List String :=
  let console := Console.start session settings
  if settings.banner then console.greet clock else (console, [])

/-- Everything that a console prints on an input. -/
def Console.transcript (session : Session) (settings : DisplaySettings) (clock : String)
    (read : FileReader) (input : String) : List String :=
  let (console, first) := Console.opened session settings clock
  first ++ (console.run read (inputLines input)).2

/-- The settings that the arguments lead to. -/
def Arguments.settings (arguments : Arguments) (defaultPath : Option String)
    (read : FileReader) : Except StartFault Settings :=
  match Settings.load arguments.config defaultPath read with
  | .error fault => .error (.settings fault)
  | .ok loaded =>
    let settings := arguments.override loaded
    match settings.checkLogging with
    | .error fault => .error fault
    | .ok _ => .ok settings

/-- What the program prints under its arguments. -/
def Arguments.run (arguments : Arguments) (defaultPath : Option String) (read : FileReader)
    (clock input : String) : Except StartFault (List String) :=
  match arguments.settings defaultPath read with
  | .error fault => .error fault
  | .ok settings =>
    match settings.session read with
    | .error fault => .error fault
    | .ok session =>
      match arguments.command with
      | some line => .ok (session.runOnce ⟨settings.display.color⟩ line).2
      | none => .ok (Console.transcript session settings.display clock read input)

end VirtualShell
