import VirtualShell.Cursor
import VirtualShell.History
import VirtualShell.Seed
import VirtualShell.Text.Lowercase
/-!
One session of a terminal: its store, the current directory, the lines typed so
far, the user and the contacts. Operations give a new session; one that fails
gives none.
-/

namespace VirtualShell

structure Session where
  store : Store
  user : String
  cursor : Cursor := Cursor.root
  history : History := History.empty
  contacts : List Contact := []
deriving DecidableEq, Repr

/-- What completion looks at: a store and a place in it. -/
structure Snapshot where
  store : Store
  cursor : Cursor
deriving DecidableEq, Repr

namespace Session

/-- A new session on a seed, with an empty history under a limit. -/
def start (seed : Seed) (user : String) (historyLimit : Option Nat) : Except Fault Session :=
  match seed.build with
  | .ok (store, contacts) =>
    .ok { store, user, history := History.withLimit historyLimit, contacts }
  | .error fault => .error fault

def snapshot (session : Session) : Snapshot :=
  ⟨session.store, session.cursor⟩

def directory (session : Session) : Directory :=
  session.cursor.directory session.store

/-- The names that have the highest clearance, in lower case. -/
def highCommand : List String :=
  ["ω", "omega", "observer", "观察者", "observation"]

/-- Whether the user has the highest clearance. Letter case and surrounding
white space do not count. -/
def isHighCommand (session : Session) : Bool :=
  highCommand.contains (Text.lowercase (Text.trim session.user))

def changeDirectory (session : Session) (target : String) : Except Fault Session :=
  match session.cursor.move session.store target with
  | .ok cursor => .ok { session with cursor }
  | .error fault => .error fault

/-- Write a file into the current directory. -/
def writeFile (session : Session) (name content : String) : Except Fault Session :=
  match session.store.insertFile session.cursor.path name content with
  | .ok store => .ok { session with store }
  | .error fault => .error fault

/-- Take a file from outside into the current directory. -/
def importFile (session : Session) (name content : String) : Except Fault Session :=
  session.writeFile name content

/-- Apply a change to the history alone. -/
def mapHistory (session : Session) (change : History → History) : Session :=
  { session with history := change session.history }

def addContact (session : Session) (contact : Contact) : Session :=
  { session with contacts := session.contacts ++ [contact] }

/-- Remove every contact of an identifier, and tell whether there was one. -/
def deleteContact (session : Session) (id : String) : Bool × Session :=
  (session.contacts.any (·.id = id),
    { session with contacts := session.contacts.filter (·.id ≠ id) })

end Session

end VirtualShell
