/-!
The closed table of commands that a session knows: their names, what they do in
one phrase, how they are used, and which of them open an application.
-/

namespace VirtualShell

inductive Builtin where
  | help
  | ls
  | cd
  | cat
  | clear
  | sys
  | map
  | scan
  | ai
  | cam
  | pwd
  | whoami
  | importFile
  | touch
  | comms
  | tree
  | logout
deriving DecidableEq, Repr

/-- The applications that a terminal can open beside the session. -/
inductive App where
  | sys
  | map
  | scan
  | ai
  | cam
deriving DecidableEq, Repr

/-- A choice of model that is handed to an application. -/
inductive Model where
  | flash
  | pro
deriving DecidableEq, Repr

def App.title : App → String
  | sys => "SYSTEM MONITOR"
  | map => "GLOBAL DEFENSE MAP"
  | scan => "BIO-SCANNER"
  | ai => "AI CORE"
  | cam => "SURVEILLANCE"

def Model.name : Model → String
  | flash => "flash"
  | pro => "pro"

namespace Builtin

/-- Every command, in the order in which help and completion offer them. -/
def all : List Builtin :=
  [help, ls, cd, cat, clear, sys, map, scan, ai, cam, pwd, whoami, importFile, touch, comms, tree,
   logout]

def name : Builtin → String
  | help => "help"
  | ls => "ls"
  | cd => "cd"
  | cat => "cat"
  | clear => "clear"
  | sys => "sys"
  | map => "map"
  | scan => "scan"
  | ai => "ai"
  | cam => "cam"
  | pwd => "pwd"
  | whoami => "whoami"
  | importFile => "import"
  | touch => "touch"
  | comms => "comms"
  | tree => "tree"
  | logout => "logout"

/-- A second name under which importing is known. -/
def importAlias : String := "upload"

/-- The command of a name that is already in lower case. -/
def named (word : String) : Option Builtin :=
  if word = importAlias then some importFile
  else all.find? fun builtin => builtin.name = word

def synopsis : Builtin → String
  | help => "Show this list"
  | ls => "List directory contents"
  | cd => "Change the current directory"
  | cat => "Print the contents of a file"
  | clear => "Clear the terminal"
  | sys => "Open the system monitor"
  | map => "Open the global site map"
  | scan => "Open the bio-scanner"
  | ai => "Open the AI core"
  | cam => "Open surveillance cameras"
  | pwd => "Print the current directory"
  | whoami => "Show the current user and clearance"
  | importFile => "Import a file into the current directory"
  | touch => "Create a new file"
  | comms => "List secure contacts"
  | tree => "Show the directory structure below here"
  | logout => "Terminate the session"

/-- The name with the operands that it takes. -/
def usage : Builtin → String
  | cd => "cd <dir>"
  | cat => "cat <file>"
  | ai => "ai [-flash]"
  | cam => "cam [-pro]"
  | touch => "touch <name>"
  | builtin => builtin.name

/-- Whether a command may change the store or the current directory. -/
def affectsState : Builtin → Bool
  | cd | touch => true
  | _ => false

/-- The application that a command opens. -/
def app : Builtin → Option App
  | sys => some .sys
  | map => some .map
  | scan => some .scan
  | ai => some .ai
  | cam => some .cam
  | _ => none

/-- The flag by which a command recognises what model to open its application
with. -/
def modelFlag : Builtin → Option (String × Model)
  | ai => some ("-flash", .flash)
  | cam => some ("-pro", .pro)
  | _ => none

/-- The flags that completion offers. They are written down apart from those
that the commands recognise. -/
def flags : Builtin → List String
  | ai => ["-flash"]
  | cam => ["-pro"]
  | _ => []

/-- The position of a command in the table. -/
def index (builtin : Builtin) : Nat :=
  all.idxOf builtin

end Builtin

end VirtualShell
