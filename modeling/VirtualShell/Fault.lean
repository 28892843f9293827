/-!
What can go wrong, as causes. A fault is a cause with notes; its kind, its
message and the text that shows all of it are functions of these. Faults of a
single command are recoverable, faults of documents and hosts are not.
-/

namespace VirtualShell

/-- The kinds of fault, in five groups. -/
inductive FaultKind where
  | emptyInput
  | unknownCommand
  | missingArgument
  | notFound
  | notADirectory
  | notAFile
  | readOnly
  | invalidName
  | hostNotFound
  | hostPermissionDenied
  | hostInvalidData
  | hostOther
  | invalidFormat
  | invalidSeed
  | invalidValue
  | json
  | toml
deriving DecidableEq, Repr

inductive FaultGroup where
  | parse
  | runtime
  | host
  | config
  | serialization
deriving DecidableEq, Repr

namespace FaultKind

def group : FaultKind → FaultGroup
  | emptyInput | unknownCommand => .parse
  | missingArgument | notFound | notADirectory | notAFile | readOnly | invalidName => .runtime
  | hostNotFound | hostPermissionDenied | hostInvalidData | hostOther => .host
  | invalidFormat | invalidSeed | invalidValue => .config
  | json | toml => .serialization

/-- The name of the kind within its group. -/
def name : FaultKind → String
  | emptyInput => "EmptyInput"
  | unknownCommand => "UnknownCommand"
  | missingArgument => "MissingArgument"
  | notFound => "NotFound"
  | notADirectory => "NotADirectory"
  | notAFile => "NotAFile"
  | readOnly => "ReadOnly"
  | invalidName => "InvalidName"
  | hostNotFound => "NotFound"
  | hostPermissionDenied => "PermissionDenied"
  | hostInvalidData => "InvalidData"
  | hostOther => "Other"
  | invalidFormat => "InvalidFormat"
  | invalidSeed => "InvalidSeed"
  | invalidValue => "InvalidValue"
  | json => "JsonError"
  | toml => "TomlError"

end FaultKind

def FaultGroup.title : FaultGroup → String
  | parse => "Parse error"
  | runtime => "Runtime error"
  | host => "I/O error"
  | config => "Configuration error"
  | serialization => "Serialization error"

/-- What is wrong with a tree that is to become a store. -/
inductive SeedFlaw where
  | rootName (found : String)
  | misnamed (key parent found : String)
  | invalidEntry (key parent : String)
deriving DecidableEq, Repr

def SeedFlaw.message : SeedFlaw → String
  | rootName found => "root directory must be named 'root', found '" ++ found ++ "'"
  | misnamed key parent found =>
    "entry '" ++ key ++ "' under '" ++ parent ++ "' is named '" ++ found ++ "'"
  | invalidEntry key parent => "invalid entry name '" ++ key ++ "' under '" ++ parent ++ "'"

inductive Cause where
  | emptyInput
  | unknownCommand (word : String)
  | missingArgument (usage : String)
  | notFound (what name : String)
  | notADirectory (name : String)
  | notAFile (name : String)
  | readOnly (name : String)
  | invalidName (name : String)
  | seed (flaw : SeedFlaw)
  /-- A document is not in the notation that it should be in. -/
  | malformedJson
  | malformedToml
  /-- Anything else of a known kind, described in words. -/
  | described (kind : FaultKind) (text : String)
deriving DecidableEq, Repr

namespace Cause

def kind : Cause → FaultKind
  | emptyInput => .emptyInput
  | unknownCommand _ => .unknownCommand
  | missingArgument _ => .missingArgument
  | notFound _ _ => .notFound
  | notADirectory _ => .notADirectory
  | notAFile _ => .notAFile
  | readOnly _ => .readOnly
  | invalidName _ => .invalidName
  | seed _ => .invalidSeed
  | malformedJson => .json
  | malformedToml => .toml
  | described kind _ => kind

/-- The text that is shown to a user. -/
def message : Cause → String
  | emptyInput => "empty input"
  | unknownCommand word => "unknown command: " ++ word
  | missingArgument usage => "missing operand (usage: " ++ usage ++ ")"
  | notFound what name => "no such " ++ what ++ ": " ++ name
  | notADirectory name => "not a directory: " ++ name
  | notAFile name => "is a directory: " ++ name
  | readOnly name => "read-only file: " ++ name
  | invalidName name => "invalid file name: '" ++ name ++ "'"
  | seed flaw => flaw.message
  | malformedJson => "malformed JSON document"
  | malformedToml => "malformed TOML document"
  | described _ text => text

/-- The notes that a cause brings with it: the word or name at fault. -/
def notes : Cause → List (String × String)
  | unknownCommand word => [("command", word)]
  | notFound _ name | notADirectory name | notAFile name | readOnly name | invalidName name =>
    [("name", name)]
  | _ => []

end Cause

/-- A cause, with the notes that were added to it on its way, oldest first. -/
structure Fault where
  cause : Cause
  added : List (String × String) := []
deriving DecidableEq, Repr

namespace Fault

def of (cause : Cause) : Fault := ⟨cause, []⟩

def emptyInput : Fault := of .emptyInput
def unknownCommand (word : String) : Fault := of (.unknownCommand word)
def missingArgument (usage : String) : Fault := of (.missingArgument usage)
def notFound (what name : String) : Fault := of (.notFound what name)
def notADirectory (name : String) : Fault := of (.notADirectory name)
def notAFile (name : String) : Fault := of (.notAFile name)
def readOnly (name : String) : Fault := of (.readOnly name)
def invalidName (name : String) : Fault := of (.invalidName name)
def described (kind : FaultKind) (text : String) : Fault := of (.described kind text)

/-- Add a note. A later note under the same label takes the place of an
earlier one. -/
def note (fault : Fault) (label text : String) : Fault :=
  { fault with added := fault.added ++ [(label, text)] }

def kind (fault : Fault) : FaultKind :=
  fault.cause.kind

def message (fault : Fault) : String :=
  fault.cause.message

/-- Put a note into notes that are sorted by label, each label once. -/
def insertNote (label text : String) : List (String × String) → List (String × String)
  | [] => [(label, text)]
  | (other, kept) :: rest =>
    if label = other then (label, text) :: rest
    else if label < other then (label, text) :: (other, kept) :: rest
    else (other, kept) :: insertNote label text rest

/-- All notes, sorted by label. -/
def notes (fault : Fault) : List (String × String) :=
  (fault.cause.notes ++ fault.added).foldl (fun sorted note => insertNote note.1 note.2 sorted) []

/-- The notes as one text, a comma between neighbours. -/
def notesText : List (String × String) → String
  | [] => ""
  | [(label, text)] => label ++ ": " ++ text
  | (label, text) :: next :: rest => label ++ ": " ++ text ++ ", " ++ notesText (next :: rest)

/-- The full text of a fault: group, kind, message, and the notes in
parentheses if there are any. -/
def fullText (fault : Fault) : String :=
  let heading := fault.kind.group.title ++ ": " ++ fault.kind.name ++ ": " ++ fault.message
  match fault.notes with
  | [] => heading
  | notes => heading ++ " (" ++ notesText notes ++ ")"

/-- Whether a session can go on after the fault: it came from one command and
touched nothing. -/
def recoverable (fault : Fault) : Bool :=
  match fault.kind.group with
  | .parse | .runtime => true
  | .host | .config | .serialization => false

end Fault

end VirtualShell
