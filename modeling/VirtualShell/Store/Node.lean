/-!
Directories and files as plain values. The entries of a directory are one
recursive type, so that a whole tree is a value of it and a function on trees
is a recursion on entries. Each entry has the key under which it is found and,
apart from it, the name that its node bears; a store accepts only trees in which
the two agree.
-/

namespace VirtualShell

structure File where
  name : String
  content : String := ""
  /-- A file that no write replaces. -/
  readOnly : Bool := false
deriving DecidableEq, Repr

/-- Entries in order: a file or a directory under its key, then the rest. -/
inductive Entries where
  | nil
  | file (key : String) (file : File) (rest : Entries)
  | dir (key name : String) (children rest : Entries)
deriving DecidableEq, Repr

structure Directory where
  name : String
  entries : Entries := .nil
deriving DecidableEq, Repr

inductive Node where
  | file (file : File)
  | dir (dir : Directory)
deriving DecidableEq, Repr

inductive NodeKind where
  | file
  | dir
deriving DecidableEq, Repr

namespace Node

def name : Node → String
  | file f => f.name
  | dir d => d.name

def kind : Node → NodeKind
  | file _ => .file
  | dir _ => .dir

end Node

namespace Entries

/-- One more entry in front. -/
def cons (key : String) (node : Node) (rest : Entries) : Entries :=
  match node with
  | .file f => file key f rest
  | .dir d => dir key d.name d.entries rest

/-- The entries with their keys, in order. -/
def toList : Entries → List (String × Node)
  | nil => []
  | file key f rest => (key, .file f) :: rest.toList
  | dir key name children rest => (key, .dir ⟨name, children⟩) :: rest.toList

def isEmpty : Entries → Bool
  | nil => true
  | _ => false

def keys (entries : Entries) : List String :=
  entries.toList.map (·.1)

/-- The node under a key. -/
def find? : Entries → String → Option Node
  | nil, _ => none
  | file key f rest, wanted => if key = wanted then some (.file f) else rest.find? wanted
  | dir key name children rest, wanted =>
    if key = wanted then some (.dir ⟨name, children⟩) else rest.find? wanted

/-- Put a node under a key: in place of what is there, or else before the
first greater key, so that ascending entries stay ascending. -/
def insert (key : String) (node : Node) : Entries → Entries
  | nil => cons key node nil
  | file other f rest =>
    if key = other then cons key node rest
    else if key < other then cons key node (file other f rest)
    else file other f (rest.insert key node)
  | dir other name children rest =>
    if key = other then cons key node rest
    else if key < other then cons key node (dir other name children rest)
    else dir other name children (rest.insert key node)

/-- Entries in ascending order of their keys, code point by code point, at
every depth. What is built by `insert` alone is ordered. -/
def Ordered : Entries → Prop
  | nil => True
  | file key _ rest => (∀ k ∈ rest.keys, key < k) ∧ rest.Ordered
  | dir key _ children rest => (∀ k ∈ rest.keys, key < k) ∧ children.Ordered ∧ rest.Ordered

end Entries

namespace Directory

def child? (d : Directory) (key : String) : Option Node :=
  d.entries.find? key

/-- Add a node under its own name. -/
def add (d : Directory) (node : Node) : Directory :=
  { d with entries := d.entries.insert node.name node }

end Directory

end VirtualShell
