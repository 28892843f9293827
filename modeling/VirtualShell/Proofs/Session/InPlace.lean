import VirtualShell.Session.Execute
/-!
Commands on a session that is changed in place. Here a fault does not bring the
old session back: whatever a command has changed by then stays changed. That
every command looks at all that can go wrong before its first change is thus a
fact about the commands, and it makes them the same as those that give a new
session or none.
-/

namespace VirtualShell

/-- A command at work on a session. -/
abbrev InPlace := ExceptT Fault (StateM Session)

namespace InPlace

/-- The value or the fault that work on a session ends with, and the session
as it is then. -/
def runOn {α : Type} (work : InPlace α) (session : Session) : Except Fault α × Session :=
  StateT.run (ExceptT.run work) session

/-- Go on with a result, or stop with its fault. -/
def orStop {α : Type} : Except Fault α → InPlace α
  | .ok value => pure value
  | .error fault => throw fault

/-- The first operand, which the command cannot do without. -/
def operand (builtin : Builtin) (args : List String) : InPlace String :=
  match args.head? with
  | some arg => pure arg
  | none => throw (Fault.missingArgument builtin.usage)

def changeDirectory (target : String) : InPlace Unit := do
  let session ← get
  let cursor ← orStop (session.cursor.move session.store target)
  set { session with cursor }

def writeFile (name content : String) : InPlace Unit := do
  let session ← get
  let store ← orStop (session.store.insertFile session.cursor.path name content)
  set { session with store }

def printFile (name : String) : InPlace Outcome := do
  let session ← get
  match session.directory.child? name with
  | some (.file f) => return .ofLines [Line.output f.content]
  | some (.dir _) => throw (Fault.notAFile name)
  | none => throw (Fault.notFound "file" name)

def launch (app : App) (model : Option Model) : InPlace Outcome :=
  return .ofEffect (.launch app model)

/-- What a command is worth to somebody who holds the session: its outcome and
the new session, or its fault and the session as it was. -/
def settled (session : Session) : Except Fault (Session × Outcome) → Except Fault Outcome × Session
  | .ok (after, outcome) => (.ok outcome, after)
  | .error fault => (.error fault, session)

end InPlace

open InPlace in
/-- Run a command with operands, one change after the other. -/
def Builtin.inPlace (builtin : Builtin) (args : List String) : InPlace Outcome :=
  match builtin with
  | help => return .ofLines helpLines
  | ls => do
    let session ← get
    let entries ← orStop (session.store.list session.cursor.path)
    return .ofLines (listingLines entries)
  | cd => do
    changeDirectory (args.head?.getD "/")
    return .nothing
  | cat => do
    let name ← operand cat args
    printFile name
  | clear => return .ofEffect .clearScrollback
  | sys => launch .sys (sys.requestedModel args)
  | map => launch .map (map.requestedModel args)
  | scan => launch .scan (scan.requestedModel args)
  | ai => launch .ai (ai.requestedModel args)
  | cam => launch .cam (cam.requestedModel args)
  | pwd => return .ofLines [Line.output (← get).cursor.display]
  | whoami => return .ofLines (identityLines (← get))
  | importFile => return ⟨[Line.system "initializing tape reader..."], some .requestImport⟩
  | touch => do
    let name ← operand touch args
    writeFile name placeholderContent
    return .ofLines [Line.success ("created " ++ name)]
  | comms => return .ofLines (contactLines (← get).contacts)
  | tree => return .ofLines (("." :: (← get).directory.entries.draw "").map Line.output)
  | logout => return ⟨[Line.system ("session closed for " ++ (← get).user)], some .logout⟩

namespace InPlace

/-- Work in place stops at the first fault, with what was changed until then. -/
theorem runOn_bind {α β : Type} (work : InPlace α) (next : α → InPlace β) (session : Session) :
    (work >>= next).runOn session =
      match work.runOn session with
      | (.ok value, after) => (next value).runOn after
      | (.error fault, after) => (.error fault, after) := by
  simp only [runOn, ExceptT.run_bind, StateT.run_bind]
  show (match StateT.run (ExceptT.run work) session with | (x, s) => _) = _
  rcases StateT.run (ExceptT.run work) session with ⟨_ | _, _⟩ <;> rfl

theorem runOn_get (session : Session) :
    (get : InPlace Session).runOn session = (.ok session, session) := rfl

/-- A fault stops the work and changes nothing. -/
theorem runOn_orStop {α : Type} (result : Except Fault α) (session : Session) :
    (orStop result).runOn session = (result, session) := by
  cases result <;> rfl

/-- A move assigns the cursor only after it was found. -/
theorem runOn_changeDirectory (target : String) (session : Session) :
    (changeDirectory target).runOn session =
      match session.cursor.move session.store target with
      | .ok cursor => (.ok (), { session with cursor })
      | .error fault => (.error fault, session) := by
  rw [changeDirectory, runOn_bind, runOn_get]
  simp only [runOn_bind, runOn_orStop]
  cases session.cursor.move session.store target <;> rfl

/-- A write assigns the store only after it went through. -/
theorem runOn_writeFile (name content : String) (session : Session) :
    (writeFile name content).runOn session =
      match session.store.insertFile session.cursor.path name content with
      | .ok store => (.ok (), { session with store })
      | .error fault => (.error fault, session) := by
  rw [writeFile, runOn_bind, runOn_get]
  simp only [runOn_bind, runOn_orStop]
  cases session.store.insertFile session.cursor.path name content <;> rfl

end InPlace

open InPlace in
/-- Working in place gives what the command gives, and no command leaves a
change behind when it stops with a fault. -/
theorem Builtin.runOn_inPlace (builtin : Builtin) (args : List String) (session : Session) :
    (builtin.inPlace args).runOn session = settled session (builtin.run args session) := by
  cases builtin with
  | ls =>
      simp only [inPlace, run, runOn_bind, runOn_get, runOn_orStop]
      cases session.store.list session.cursor.path <;> rfl
  | cd =>
      simp only [inPlace, run, runOn_bind, runOn_changeDirectory, Session.changeDirectory]
      cases session.cursor.move session.store (args.head?.getD "/") <;> rfl
  | cat =>
      cases args with
      | nil => rfl
      | cons name more =>
          show (printFile name).runOn session = _
          simp only [run, List.head?_cons, printFile, runOn_bind, runOn_get]
          cases session.directory.child? name with
          | none => rfl
          | some node => cases node <;> rfl
  | touch =>
      cases args with
      | nil => rfl
      | cons name more =>
          simp only [run, List.head?_cons, Session.writeFile]
          show InPlace.runOn (InPlace.writeFile name placeholderContent >>= _) session = _
          rw [runOn_bind, runOn_writeFile]
          cases session.store.insertFile session.cursor.path name placeholderContent <;> rfl
  | _ => rfl

end VirtualShell
