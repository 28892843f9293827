import VirtualShell.Command
import VirtualShell.Session.Basic
import VirtualShell.Session.Outcome
import VirtualShell.Store.Drawing
/-!
Running commands on a session. A builtin either gives a new session with an
outcome, or a fault and no session. Running a line echoes and records it, runs
its command, and shows a fault as one error line.
-/

namespace VirtualShell

/-- The text that `touch` puts into a new file. -/
def placeholderContent : String := "New file content..."

/-- What `ls` shows of a directory without entries. -/
def emptyMarker : String := "(empty)"

/-- A text filled up with blanks on the right. -/
def padRight (columns : Nat) (s : String) : String :=
  s ++ String.ofList (List.replicate (columns - s.length) ' ')

namespace Builtin

/-- The line of a command in the list that `help` shows. -/
def helpEntry (builtin : Builtin) : Line :=
  Line.output ("  " ++ padRight 16 builtin.usage ++ builtin.synopsis)

def helpLines : List Line :=
  [Line.system "available commands:"]
    ++ (all.filter (·.app.isNone)).map helpEntry
    ++ [Line.system "visual subsystems:"]
    ++ (all.filter (·.app.isSome)).map helpEntry

/-- The line of an entry in a listing: directories have a slash behind. -/
def listingLine : String × NodeKind → Line
  | (name, .file) => Line.output name
  | (name, .dir) => Line.output (name ++ "/")

def listingLines : List (String × NodeKind) → List Line
  | [] => [Line.output emptyMarker]
  | entries => entries.map listingLine

def contactLine (contact : Contact) : Line :=
  Line.output ("[" ++ contact.id ++ "] " ++ contact.name ++ " - " ++ contact.role)

def contactLines (contacts : List Contact) : List Line :=
  [Line.system "secure contacts:"]
    ++ (if contacts.isEmpty then [Line.output "(none)"] else contacts.map contactLine)
    ++ [Line.system "use 'ai' to open a secure channel"]

def identityLines (session : Session) : List Line :=
  Line.output ("user: " ++ session.user) ::
    if session.isHighCommand then
      [Line.success ("clearance: " ++ Clearance.omega.label ++ " (high command)")]
    else
      [Line.output ("clearance: " ++ Clearance.two.label ++ " (restricted)"),
       Line.system "warning: high-security terminal, some functions may be locked"]

/-- The model that the operands ask for. A flag may be written with one dash
or with two. -/
def requestedModel (builtin : Builtin) (args : List String) : Option Model :=
  match builtin.modelFlag with
  | some (flag, model) =>
    if args.any fun arg => arg = flag || arg = "-" ++ flag then some model else none
  | none => none

/-- Run a command with operands on a session. -/
def run (builtin : Builtin) (args : List String) (session : Session) :
    Except Fault (Session × Outcome) :=
  match builtin with
  | help => .ok (session, .ofLines helpLines)
  | ls =>
    match session.store.list session.cursor.path with
    | .ok entries => .ok (session, .ofLines (listingLines entries))
    | .error fault => .error fault
  | cd =>
    match session.changeDirectory (args.head?.getD "/") with
    | .ok moved => .ok (moved, .nothing)
    | .error fault => .error fault
  | cat =>
    match args.head? with
    | none => .error (Fault.missingArgument builtin.usage)
    | some name =>
      match session.directory.child? name with
      | some (.file f) => .ok (session, .ofLines [Line.output f.content])
      | some (.dir _) => .error (Fault.notAFile name)
      | none => .error (Fault.notFound "file" name)
  | clear => .ok (session, .ofEffect .clearScrollback)
  | sys => .ok (session, .ofEffect (.launch .sys (builtin.requestedModel args)))
  | map => .ok (session, .ofEffect (.launch .map (builtin.requestedModel args)))
  | scan => .ok (session, .ofEffect (.launch .scan (builtin.requestedModel args)))
  | ai => .ok (session, .ofEffect (.launch .ai (builtin.requestedModel args)))
  | cam => .ok (session, .ofEffect (.launch .cam (builtin.requestedModel args)))
  | pwd => .ok (session, .ofLines [Line.output session.cursor.display])
  | whoami => .ok (session, .ofLines (identityLines session))
  | importFile =>
    .ok (session, ⟨[Line.system "initializing tape reader..."], some .requestImport⟩)
  | touch =>
    match args.head? with
    | none => .error (Fault.missingArgument builtin.usage)
    | some name =>
      match session.writeFile name placeholderContent with
      | .ok written => .ok (written, .ofLines [Line.success ("created " ++ name)])
      | .error fault => .error fault
  | comms => .ok (session, .ofLines (contactLines session.contacts))
  | tree =>
    .ok (session, .ofLines (("." :: session.directory.entries.draw "").map Line.output))
  | logout => .ok (session, ⟨[Line.system ("session closed for " ++ session.user)], some .logout⟩)

end Builtin

namespace Command

def run (command : Command) (session : Session) : Except Fault (Session × Outcome) :=
  match command.kind with
  | .builtin builtin => builtin.run command.args session
  | .unknown word => .error (Fault.unknownCommand word)

/-- The error line for a fault: a command of the table signs it with its
name. -/
def errorLine (command : Command) (fault : Fault) : Line :=
  match command.kind with
  | .builtin builtin => Line.error (builtin.name ++ ": " ++ fault.message)
  | .unknown _ => Line.error fault.message

end Command

namespace Session

/-- Run a line on a session. A blank line does nothing at all; any other line
is recorded, and its echo comes first. -/
def execute (session : Session) (line : String) : Session × Outcome :=
  match Command.parse line with
  | none => (session, .nothing)
  | some command =>
    let echo := Line.input command.raw session.cursor.promptPath
    let recorded := session.mapHistory (·.push command.raw)
    match command.run recorded with
    | .ok (after, outcome) => (after, ⟨echo :: outcome.lines, outcome.effect⟩)
    | .error fault => (recorded, .ofLines [echo, command.errorLine fault])

end Session

end VirtualShell
