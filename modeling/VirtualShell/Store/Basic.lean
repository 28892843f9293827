import VirtualShell.Fault
import VirtualShell.Text.Split
import VirtualShell.Store.Node
/-!
The store: a tree of directories and files under a root. Paths are lists of
names that begin with the name of the root. A write gives a new store and leaves
the old one as it was.
-/

namespace VirtualShell

/-- The name of the root directory, which heads every path and is never shown
as a part of one. -/
def rootName : String := "root"

/-- The names of a path below the root, slashes between them. -/
def displayPath (path : List String) : String :=
  Text.join "/" (path.drop 1)

/-- A name that an entry may have: it is no path, and means no other place. -/
def validName (name : String) : Bool :=
  name ≠ "" && name ≠ "." && name ≠ ".." && !name.toList.contains '/'

/-- The names of a path below the root, if it begins there. -/
def belowRoot? : List String → Option (List String)
  | [] => none
  | first :: rest => if first = rootName then some rest else none

/-- The node that is reached from a node by names. -/
def Node.descend? : Node → List String → Option Node
  | node, [] => some node
  | .file _, _ :: _ => none
  | .dir d, name :: rest =>
    match d.child? name with
    | some child => child.descend? rest
    | none => none

namespace Directory

/-- The directory reached by as many of the names as lead from directory to
directory. -/
def deepest (d : Directory) : List String → Directory
  | [] => d
  | name :: rest =>
    match d.child? name with
    | some (.dir child) => child.deepest rest
    | _ => d

/-- The directory with a file written at the place that the names lead to.
A file that is there already is replaced unless it is read-only, and so is a
directory. -/
def write (d : Directory) (names : List String) (file : File) : Except Fault Directory :=
  match names with
  | [] =>
    match d.child? file.name with
    | some (.file existing) =>
      if existing.readOnly then .error (Fault.readOnly file.name) else .ok (d.add (.file file))
    | _ => .ok (d.add (.file file))
  | name :: rest =>
    match d.child? name with
    | some (.dir child) =>
      match child.write rest file with
      | .ok written => .ok { d with entries := d.entries.insert name (.dir written) }
      | .error fault => .error fault
    | some (.file _) => .error (Fault.notADirectory name)
    | none => .error (Fault.notFound "directory" name)

end Directory

structure Store where
  root : Directory
deriving DecidableEq, Repr

namespace Store

/-- A store with nothing in it. -/
def empty : Store := ⟨⟨rootName, .nil⟩⟩

/-- The node at a path; `none` if the path does not begin at the root, names
something missing or leads through a file. -/
def resolve? (store : Store) (path : List String) : Option Node :=
  match belowRoot? path with
  | some names => (Node.dir store.root).descend? names
  | none => none

def resolveDir? (store : Store) (path : List String) : Option Directory :=
  match store.resolve? path with
  | some (.dir d) => some d
  | _ => none

/-- The entries of the directory at a path, in order. -/
def list (store : Store) (path : List String) : Except Fault (List (String × NodeKind)) :=
  match store.resolve? path with
  | some (.dir d) => .ok (d.entries.toList.map fun entry => (entry.1, entry.2.kind))
  | some (.file f) => .error (Fault.notADirectory f.name)
  | none => .error (Fault.notFound "directory" (displayPath path))

/-- Write a file into the directory at a path. -/
def insertFile (store : Store) (path : List String) (name content : String) :
    Except Fault Store :=
  if validName name then
    match belowRoot? path with
    | some names =>
      match store.root.write names ⟨name, content, false⟩ with
      | .ok root => .ok ⟨root⟩
      | .error fault => .error fault
    | none => .error (Fault.notFound "directory" (displayPath path))
  else .error (Fault.invalidName name)

end Store

end VirtualShell
