import VirtualShell.Store.Basic
/-!
Which trees may become stores. `Directory.WellFormed` says it as a property of
all depths, `Directory.firstFlaw?` looks for the first entry that breaks it: an
entry comes before its own children, and a wrong name before a forbidden one.
-/

namespace VirtualShell

namespace Entries

/-- At every depth, each key is the name of its node and may name an entry. -/
def WellFormed : Entries → Prop
  | nil => True
  | file key f rest => (key = f.name ∧ validName key = true) ∧ rest.WellFormed
  | dir key name children rest =>
    (key = name ∧ validName key = true) ∧ children.WellFormed ∧ rest.WellFormed

/-- What is wrong with an entry by itself, under the directory of the given
path. -/
def keyFlaw? (parent key name : String) : Option SeedFlaw :=
  if key ≠ name then some (.misnamed key parent name)
  else if validName key then none
  else some (.invalidEntry key parent)

/-- The first flaw among the entries of the directory of the given path. -/
def firstFlaw? (parent : String) : Entries → Option SeedFlaw
  | nil => none
  | file key f rest => (keyFlaw? parent key f.name).or (rest.firstFlaw? parent)
  | dir key name children rest =>
    ((keyFlaw? parent key name).or (children.firstFlaw? (parent ++ "/" ++ key))).or
      (rest.firstFlaw? parent)

end Entries

namespace Directory

/-- A tree that may become a store. -/
def WellFormed (d : Directory) : Prop :=
  d.name = rootName ∧ d.entries.WellFormed

def firstFlaw? (d : Directory) : Option SeedFlaw :=
  if d.name ≠ rootName then some (.rootName d.name) else d.entries.firstFlaw? rootName

end Directory

/-- The store on a tree, if the tree may become one. -/
def Store.ofTree (root : Directory) : Except Fault Store :=
  match root.firstFlaw? with
  | some flaw => .error (Fault.of (.seed flaw))
  | none => .ok ⟨root⟩

end VirtualShell
