import VirtualShell.Contact
import VirtualShell.Store.Validation
/-!
What a session starts from: a tree that is to become its store, and contacts.
The tree of a seed is any tree; whether it may become a store is decided when
the seed is built.
-/

namespace VirtualShell

structure Seed where
  tree : Directory
  contacts : List Contact := []
deriving DecidableEq, Repr

/-- The store and the contacts of a seed. -/
def Seed.build (seed : Seed) : Except Fault (Store × List Contact) :=
  match Store.ofTree seed.tree with
  | .ok store => .ok (store, seed.contacts)
  | .error fault => .error fault

end VirtualShell
