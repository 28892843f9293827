import VirtualShell.Fault
import VirtualShell.Host.Path
/-!
Reading files of the host. `HostFiles` holds the files below one directory, with
the directories that their paths imply; a path is walked from there step by
step. What lies outside is taken to be empty.
-/

namespace VirtualShell

/-- Why the host gives no text for a path. -/
inductive HostFault where
  | notFound
  | notADirectory
  | isADirectory
  | notText
  | malformedPath
  /-- Anything else, in the words of the host. -/
  | other (text : String)
deriving DecidableEq, Repr

namespace HostFault

def message : HostFault → String
  | notFound => "No such file or directory (os error 2)"
  | notADirectory => "Not a directory (os error 20)"
  | isADirectory => "Is a directory (os error 21)"
  | notText => "stream did not contain valid UTF-8"
  | malformedPath => "file name contained an unexpected NUL byte"
  | other text => text

def kind : HostFault → FaultKind
  | notFound => .hostNotFound
  | notText | malformedPath => .hostInvalidData
  | notADirectory | isADirectory | other _ => .hostOther

def toFault (fault : HostFault) : Fault :=
  Fault.described fault.kind fault.message

end HostFault

/-- Files by the names that lead to them. -/
structure HostFiles where
  files : List (List String × ByteArray) := []

namespace HostFiles

/-- A place on the way along a path. -/
inductive Place where
  | file (content : ByteArray)
  | directory (names : List String)
  /-- A directory that is not below the one at which paths begin. -/
  | outside

/-- The place that names lead to, if there is one. -/
def place? (host : HostFiles) (names : List String) : Option Place :=
  match host.files.find? fun file => file.1 = names with
  | some (_, content) => some (.file content)
  | none =>
    if names.isEmpty || host.files.any fun file => names.isPrefixOf file.1 then
      some (.directory names)
    else none

/-- One step from a place. Every step needs a directory to start from, also
one that stays there. -/
def step (host : HostFiles) : Place → String → Except HostFault Place
  | .file _, _ => .error .notADirectory
  | .outside, name =>
    if name = "" ∨ name = "." ∨ name = ".." then .ok .outside else .error .notFound
  | .directory names, name =>
    if name = "" ∨ name = "." then .ok (.directory names)
    else if name = ".." then
      .ok (if names.isEmpty then .outside else .directory names.dropLast)
    else match host.place? (names ++ [name]) with
      | some place => .ok place
      | none => .error .notFound

def walk (host : HostFiles) : Place → List String → Except HostFault Place
  | place, [] => .ok place
  | place, name :: rest =>
    match host.step place name with
    | .ok next => host.walk next rest
    | .error fault => .error fault

/-- The place of a path. The empty path has none. -/
def locate (host : HostFiles) (path : String) : Except HostFault Place :=
  if path.toList.contains '\x00' then .error .malformedPath
  else if path = "" then .error .notFound
  else
    let start : Place := if Text.startsWith path "/" then .outside else .directory []
    host.walk start (Text.split '/' path)

/-- Whether there is a file or a directory at a path. -/
def has (host : HostFiles) (path : String) : Bool :=
  match host.locate path with
  | .ok _ => true
  | .error _ => false

/-- The text of the file at a path. -/
def read (host : HostFiles) (path : String) : Except HostFault String :=
  match host.locate path with
  | .ok (.file content) =>
    match String.fromUTF8? content with
    | some text => .ok text
    | none => .error .notText
  | .ok _ => .error .isADirectory
  | .error fault => .error fault

end HostFiles

end VirtualShell
