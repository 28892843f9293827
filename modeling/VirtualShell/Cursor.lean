import VirtualShell.Store.Basic
/-!
The current directory, as the names that lead to it from the root. A cursor
does not hold the store, so it may be asked about any store; where its path does
not resolve, it falls back to the deepest directory on the way.
-/

namespace VirtualShell

structure Cursor where
  /-- The names below the root. -/
  names : List String := []
deriving DecidableEq, Repr

namespace Cursor

def root : Cursor := ⟨[]⟩

def path (cursor : Cursor) : List String :=
  rootName :: cursor.names

def isRoot (cursor : Cursor) : Bool :=
  cursor.names.isEmpty

/-- The names with slashes between them; empty at the root. -/
def display (cursor : Cursor) : String :=
  displayPath cursor.path

/-- The path as a prompt shows it. -/
def promptPath (cursor : Cursor) : String :=
  if cursor.isRoot then "~" else "~/" ++ cursor.display

/-- The directory that the cursor stands for in a store. -/
def directory (cursor : Cursor) (store : Store) : Directory :=
  store.root.deepest cursor.names

/-- Whether the whole path leads to a directory of the store. -/
def isValidIn (cursor : Cursor) (store : Store) : Bool :=
  (store.resolveDir? cursor.path).isSome

/-- The directory around; the root has none and stays. -/
def parent (cursor : Cursor) : Cursor :=
  ⟨cursor.names.dropLast⟩

/-- The cursor after a move. Two dots lead one directory up, a slash or
nothing to the root, and a name to a directory in the current one. -/
def move (cursor : Cursor) (store : Store) (target : String) : Except Fault Cursor :=
  if target = ".." then .ok cursor.parent
  else if target = "" ∨ target = "/" then .ok root
  else match (cursor.directory store).child? target with
    | some (.dir _) => .ok ⟨cursor.names ++ [target]⟩
    | some (.file _) => .error (Fault.notADirectory target)
    | none => .error (Fault.notFound "directory" target)

end Cursor

end VirtualShell
