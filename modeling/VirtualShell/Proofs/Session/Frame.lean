import VirtualShell.Proofs.Command
import VirtualShell.Proofs.Session.InPlace
/-!
What a line can change. Commands come in three sorts: `cd` moves the cursor,
`touch` writes into the store, and all others leave the session alone. A line
that shows an error has changed nothing but the history, and a blank line not
even that.
-/

namespace VirtualShell

/-- Whether an outcome shows an error. -/
def Outcome.Fails (outcome : Outcome) : Prop :=
  ∃ line ∈ outcome.lines, line.kind = .error

theorem Outcome.fails_cons_iff {line : Line} {lines : List Line} {effect : Option Effect} :
    Outcome.Fails ⟨line :: lines, effect⟩ ↔ line.kind = .error ∨ Outcome.Fails ⟨lines, effect⟩ := by
  simp [Fails]

/-- Whether a line is an answer that goes through: neither an echo nor an error. -/
def Line.IsAnswer (line : Line) : Prop :=
  line.kind ≠ .input ∧ line.kind ≠ .error

namespace Session

/-! A change to the history is all that it says. -/

@[simp] theorem store_mapHistory (session : Session) (change : History → History) :
    (session.mapHistory change).store = session.store := rfl

@[simp] theorem cursor_mapHistory (session : Session) (change : History → History) :
    (session.mapHistory change).cursor = session.cursor := rfl

@[simp] theorem user_mapHistory (session : Session) (change : History → History) :
    (session.mapHistory change).user = session.user := rfl

@[simp] theorem contacts_mapHistory (session : Session) (change : History → History) :
    (session.mapHistory change).contacts = session.contacts := rfl

@[simp] theorem history_mapHistory (session : Session) (change : History → History) :
    (session.mapHistory change).history = change session.history := rfl

/-- A new session stands at the root of the store of its seed. -/
theorem eq_of_start {seed : Seed} {user : String} {limit : Option Nat} {session : Session}
    (h : start seed user limit = .ok session) :
    ∃ store, Store.ofTree seed.tree = .ok store ∧
      session = { store, user, history := History.withLimit limit, contacts := seed.contacts } := by
  rw [start, Seed.build] at h
  cases hTree : Store.ofTree seed.tree with
  | error fault =>
      rw [hTree] at h
      cases h
  | ok store =>
      rw [hTree] at h
      cases h
      exact ⟨store, rfl, rfl⟩

theorem mapHistory_eq (session : Session) (change : History → History) :
    session.mapHistory change =
      { session with history := (session.mapHistory change).history } := rfl

/-- A change to all but the store and the place in it: to the user, the contacts
and the history. -/
def mapPerson (session : Session) (user : String → String)
    (contacts : List Contact → List Contact) (history : History → History) : Session :=
  { session with
    user := user session.user
    contacts := contacts session.contacts
    history := history session.history }

end Session

namespace Builtin

variable {builtin : Builtin} {args : List String} {session after : Session} {outcome : Outcome}

/-- `cat` reads the first name alone and passes over the others. -/
theorem run_cat_cons (name : String) (more : List String) (session : Session) :
    run cat (name :: more) session =
      match session.directory.child? name with
      | some (.file f) => .ok (session, .ofLines [Line.output f.content])
      | some (.dir _) => .error (Fault.notAFile name)
      | none => .error (Fault.notFound "file" name) := by
  cases hChild : session.directory.child? name with
  | none => simp only [run, List.head?_cons, hChild]
  | some node => cases node <;> simp only [run, List.head?_cons, hChild]

/-- `touch` writes a file under the first name and passes over the others. -/
theorem run_touch_cons (name : String) (more : List String) (session : Session) :
    run touch (name :: more) session =
      (session.writeFile name placeholderContent).map fun written =>
        (written, .ofLines [Line.success ("created " ++ name)]) := by
  simp only [run, List.head?_cons]
  cases session.writeFile name placeholderContent <;> rfl

/-- `cd` moves to its first operand, and to the root without any. -/
theorem run_cd (args : List String) (session : Session) :
    run cd args session =
      (session.changeDirectory (args.head?.getD "/")).map fun moved => (moved, .nothing) := by
  simp only [run]
  cases session.changeDirectory (args.head?.getD "/") <;> rfl

theorem run_ls (args : List String) (session : Session) :
    run ls args session =
      (session.store.list session.cursor.path).map fun entries =>
        (session, .ofLines (listingLines entries)) := by
  simp only [run]
  cases session.store.list session.cursor.path <;> rfl

/-- Whether a command answers with what it knows of the user or the contacts. -/
def confides : Builtin → Bool
  | whoami | comms | logout => true
  | _ => false

/-- Who somebody is depends on the user alone. -/
theorem identityLines_congr {other : Session} (h : other.user = session.user) :
    identityLines other = identityLines session := by
  rw [identityLines, identityLines, Session.isHighCommand, Session.isHighCommand, h]

/-- No command reads the history, and only commands that confide read the user
and the contacts. -/
theorem run_mapPerson (user : String → String) (contacts : List Contact → List Contact)
    (history : History → History) (args : List String)
    (hPerson : builtin.confides = true →
      user session.user = session.user ∧ contacts session.contacts = session.contacts) :
    builtin.run args (session.mapPerson user contacts history) =
      (builtin.run args session).map fun result =>
        (result.1.mapPerson user contacts history, result.2) := by
  cases builtin with
  | ls =>
      simp only [run_ls, Session.mapPerson]
      cases session.store.list session.cursor.path <;> rfl
  | cd =>
      simp only [run_cd, Session.changeDirectory, Session.mapPerson]
      cases session.cursor.move session.store (args.head?.getD "/") <;> rfl
  | cat =>
      cases args with
      | nil => rfl
      | cons name more =>
          simp only [run_cat_cons, Session.directory, Session.mapPerson]
          cases (session.cursor.directory session.store).child? name with
          | none => rfl
          | some node => cases node <;> rfl
  | touch =>
      cases args with
      | nil => rfl
      | cons name more =>
          simp only [run_touch_cons, Session.writeFile, Session.mapPerson]
          cases session.store.insertFile session.cursor.path name placeholderContent <;> rfl
  | whoami =>
      have hUser : (session.mapPerson user contacts history).user = session.user := (hPerson rfl).1
      rw [run, run, identityLines_congr hUser]
      rfl
  | comms =>
      have hContacts : (session.mapPerson user contacts history).contacts = session.contacts :=
        (hPerson rfl).2
      rw [run, run, hContacts]
      rfl
  | logout =>
      have hUser : (session.mapPerson user contacts history).user = session.user := (hPerson rfl).1
      rw [run, run, hUser]
      rfl
  | _ => rfl

/-- No command reads the history or writes to it. -/
theorem run_mapHistory (builtin : Builtin) (args : List String) (session : Session)
    (change : History → History) :
    builtin.run args (session.mapHistory change) =
      (builtin.run args session).map fun result => (result.1.mapHistory change, result.2) :=
  -- a change to the history is one to the person that keeps the user and the contacts
  run_mapPerson id id change args fun _ => ⟨rfl, rfl⟩

/-- Every command but `cd` and `touch` gives the session that it got. -/
theorem eq_of_run (h : builtin.run args session = .ok (after, outcome))
    (hState : builtin.affectsState = false) : after = session := by
  cases builtin with
  | cd => cases hState
  | touch => cases hState
  | ls =>
      rw [run_ls] at h
      cases hList : session.store.list session.cursor.path <;> rw [hList] at h <;> cases h
      rfl
  | cat =>
      cases args with
      | nil => cases h
      | cons name more =>
          rw [run_cat_cons] at h
          split at h <;> cases h
          rfl
  | _ =>
      cases h
      rfl

/-- A `cd` that goes through changes the cursor alone. -/
theorem move_of_run_cd (h : run cd args session = .ok (after, outcome)) :
    session.cursor.move session.store (args.head?.getD "/") = .ok after.cursor ∧
      after = { session with cursor := after.cursor } ∧ outcome = .nothing := by
  rw [run_cd, Session.changeDirectory] at h
  cases hMove : session.cursor.move session.store (args.head?.getD "/") <;> rw [hMove] at h <;>
    cases h
  exact ⟨rfl, rfl, rfl⟩

/-- A `touch` that goes through changes the store alone. -/
theorem insert_of_run_touch (h : run touch args session = .ok (after, outcome)) :
    ∃ name more, args = name :: more ∧
      session.store.insertFile session.cursor.path name placeholderContent = .ok after.store ∧
      after = { session with store := after.store } ∧
      outcome = .ofLines [Line.success ("created " ++ name)] := by
  cases args with
  | nil => cases h
  | cons name more =>
      rw [run_touch_cons, Session.writeFile] at h
      cases hInsert : session.store.insertFile session.cursor.path name placeholderContent <;>
        rw [hInsert] at h <;> cases h
      exact ⟨name, more, rfl, hInsert, rfl, rfl⟩

/-- Everything that can become of a command of the table that goes through. -/
inductive Ran (args : List String) (session : Session) : Builtin → Session → Outcome → Prop where
  | moved {cursor : Cursor}
      (hMove : session.cursor.move session.store (args.head?.getD "/") = .ok cursor) :
      Ran args session cd { session with cursor } .nothing
  | wrote {name : String} {more : List String} {store : Store} (hArgs : args = name :: more)
      (hInsert : session.store.insertFile session.cursor.path name placeholderContent = .ok store) :
      Ran args session touch { session with store }
        (.ofLines [Line.success ("created " ++ name)])
  | read {builtin : Builtin} {outcome : Outcome} (hState : builtin.affectsState = false)
      (hRun : builtin.run args session = .ok (session, outcome)) :
      Ran args session builtin session outcome

/-- A builtin that goes through is a move, a write, or leaves the session as it was. -/
theorem ran_of_run (h : builtin.run args session = .ok (after, outcome)) :
    Ran args session builtin after outcome := by
  cases hState : builtin.affectsState with
  | false =>
      obtain rfl := eq_of_run h hState
      exact .read hState h
  | true =>
      cases builtin with
      | cd =>
          obtain ⟨hMove, hAfter, rfl⟩ := move_of_run_cd h
          rw [hAfter]
          exact .moved hMove
      | touch =>
          obtain ⟨name, more, hArgs, hInsert, hAfter, rfl⟩ := insert_of_run_touch h
          rw [hAfter]
          exact .wrote hArgs hInsert
      | _ => cases hState

/-! Commands of the table write neither echoes nor error lines. -/

theorem isAnswer_helpLines : ∀ line ∈ helpLines, line.IsAnswer := by
  intro line hLine
  simp only [helpLines, List.mem_append, List.mem_map, List.mem_singleton] at hLine
  rcases hLine with ((rfl | ⟨_, _, rfl⟩) | rfl) | ⟨_, _, rfl⟩ <;> exact ⟨nofun, nofun⟩

theorem isAnswer_listingLines {entries : List (String × NodeKind)} :
    ∀ line ∈ listingLines entries, line.IsAnswer := by
  cases entries with
  | nil => simp [listingLines, Line.output, Line.IsAnswer]
  | cons first rest =>
      intro line hLine
      obtain ⟨⟨name, kind⟩, _, rfl⟩ := List.mem_map.mp hLine
      cases kind <;> simp [listingLine, Line.output, Line.IsAnswer]

theorem isAnswer_contactLines {contacts : List Contact} :
    ∀ line ∈ contactLines contacts, line.IsAnswer := by
  cases contacts <;>
    simp [contactLines, contactLine, Line.system, Line.output, Line.IsAnswer, or_imp, forall_and]

theorem isAnswer_identityLines : ∀ line ∈ identityLines session, line.IsAnswer := by
  rw [identityLines]
  split <;> simp [Line.system, Line.output, Line.success, Line.IsAnswer]

/-- A builtin that goes through answers and shows no error. -/
theorem isAnswer_of_run (h : builtin.run args session = .ok (after, outcome)) :
    ∀ line ∈ outcome.lines, line.IsAnswer := by
  intro line hLine
  cases builtin with
  | help =>
      cases h
      exact isAnswer_helpLines line hLine
  | ls =>
      rw [run_ls] at h
      cases hList : session.store.list session.cursor.path <;> rw [hList] at h <;> cases h
      exact isAnswer_listingLines line hLine
  | cd =>
      rw [(move_of_run_cd h).2.2] at hLine
      cases hLine
  | cat =>
      cases args with
      | nil => cases h
      | cons name more =>
          rw [run_cat_cons] at h
          split at h <;> cases h
          cases List.mem_singleton.mp hLine
          exact ⟨nofun, nofun⟩
  | whoami =>
      cases h
      exact isAnswer_identityLines line hLine
  | touch =>
      obtain ⟨name, more, _, _, _, rfl⟩ := insert_of_run_touch h
      cases List.mem_singleton.mp hLine
      exact ⟨nofun, nofun⟩
  | comms =>
      cases h
      exact isAnswer_contactLines line hLine
  | tree =>
      cases h
      obtain ⟨_, _, rfl⟩ := List.mem_map.mp hLine
      exact ⟨nofun, nofun⟩
  | pwd | importFile | logout =>
      cases h
      cases List.mem_singleton.mp hLine
      exact ⟨nofun, nofun⟩
  | clear | sys | map | scan | ai | cam =>
      cases h
      cases hLine

/-- A command that goes through shows no error. -/
theorem not_fails_of_run (h : builtin.run args session = .ok (after, outcome)) :
    ¬ outcome.Fails := by
  rintro ⟨line, hLine, hError⟩
  exact (isAnswer_of_run h line hLine).2 hError

end Builtin

namespace Command

variable {command : Command} {session after : Session} {outcome : Outcome} {fault : Fault}

theorem run_mapHistory (command : Command) (session : Session) (change : History → History) :
    command.run (session.mapHistory change) =
      (command.run session).map fun result => (result.1.mapHistory change, result.2) := by
  rcases command with ⟨kind, raw, args⟩
  cases kind with
  | builtin builtin => exact Builtin.run_mapHistory builtin args session change
  | unknown word => rfl

theorem run_of_builtin {builtin : Builtin} (h : command.kind = .builtin builtin) :
    command.run session = builtin.run command.args session := by
  rw [run, h]

theorem fails_errorLine (echo : Line) :
    (Outcome.ofLines [echo, command.errorLine fault]).Fails := by
  refine ⟨command.errorLine fault, by simp [Outcome.ofLines], ?_⟩
  rw [errorLine]
  split <;> rfl

end Command

namespace Session

variable {session after : Session} {line : String} {command : Command} {outcome : Outcome}
  {fault : Fault}

/-- The echo of a command on a session. -/
def echo (session : Session) (command : Command) : Line :=
  Line.input command.raw session.cursor.promptPath

@[simp] theorem echo_mapHistory (session : Session) (change : History → History)
    (command : Command) : (session.mapHistory change).echo command = session.echo command := rfl

theorem execute_of_parse_none (h : Command.parse line = none) :
    session.execute line = (session, .nothing) := by
  rw [execute, h]

/-- A command that goes through works as on the session before, of whose
history it knows nothing, and its line is recorded. -/
theorem execute_of_run_ok (hParse : Command.parse line = some command)
    (hRun : command.run session = .ok (after, outcome)) :
    session.execute line =
      (after.mapHistory (·.push command.raw),
        ⟨session.echo command :: outcome.lines, outcome.effect⟩) := by
  simp only [execute, hParse, Command.run_mapHistory, hRun, Except.map, echo]

/-- A command of the table that goes through shows no error, and its line does
and answers what the command does and answers. -/
theorem execute_of_builtin_run_ok {builtin : Builtin} (hParse : Command.parse line = some command)
    (hKind : command.kind = .builtin builtin)
    (hRun : builtin.run command.args session = .ok (after, outcome)) :
    ¬ (session.execute line).2.Fails ∧ (session.execute line).1.store = after.store ∧
      (session.execute line).1.cursor = after.cursor ∧
      (session.execute line).2.answers = outcome.answers ∧
      (session.execute line).2.effect = outcome.effect := by
  have hNoError : ¬ outcome.Fails := Builtin.not_fails_of_run hRun
  rw [← Command.run_of_builtin hKind] at hRun
  rw [execute_of_run_ok hParse hRun, Outcome.fails_cons_iff, not_or]
  refine ⟨⟨nofun, hNoError⟩, store_mapHistory _ _, cursor_mapHistory _ _, ?_, rfl⟩
  simp [Outcome.answers, echo, Line.input, Line.isEcho]

/-- A line whose command is refused is recorded, and changes nothing else. -/
theorem execute_of_run_error (hParse : Command.parse line = some command)
    (hRun : command.run session = .error fault) :
    session.execute line =
      (session.mapHistory (·.push command.raw),
        .ofLines [session.echo command, command.errorLine fault]) := by
  simp only [execute, hParse, Command.run_mapHistory, hRun, Except.map, echo]

/-- Everything that can become of a line. -/
inductive Executed (session : Session) (line : String) : Session → Outcome → Prop where
  | blank (hBlank : Text.allBlank line = true) : Executed session line session .nothing
  | failed {command : Command} {fault : Fault} (hParse : Command.parse line = some command)
      (hRun : command.run session = .error fault) :
      Executed session line (session.mapHistory (·.push command.raw))
        (.ofLines [session.echo command, command.errorLine fault])
  | moved {command : Command} {cursor : Cursor} (hParse : Command.parse line = some command)
      (hKind : command.kind = .builtin .cd)
      (hMove : session.cursor.move session.store (command.args.head?.getD "/") = .ok cursor) :
      Executed session line ({ session with cursor }.mapHistory (·.push command.raw))
        (.ofLines [session.echo command])
  | wrote {command : Command} {name : String} {more : List String} {store : Store}
      (hParse : Command.parse line = some command) (hKind : command.kind = .builtin .touch)
      (hArgs : command.args = name :: more)
      (hInsert : session.store.insertFile session.cursor.path name placeholderContent = .ok store) :
      Executed session line ({ session with store }.mapHistory (·.push command.raw))
        (.ofLines [session.echo command, Line.success ("created " ++ name)])
  | read {command : Command} {builtin : Builtin} {outcome : Outcome}
      (hParse : Command.parse line = some command) (hKind : command.kind = .builtin builtin)
      (hState : builtin.affectsState = false) (hRun : command.run session = .ok (session, outcome)) :
      Executed session line (session.mapHistory (·.push command.raw))
        ⟨session.echo command :: outcome.lines, outcome.effect⟩

/-- Every line is executed in one of these ways. -/
theorem execute_executed (session : Session) (line : String) :
    Executed session line (session.execute line).1 (session.execute line).2 := by
  cases hParse : Command.parse line with
  | none =>
      rw [execute_of_parse_none hParse]
      exact .blank (Command.parse_eq_none_iff.mp hParse)
  | some command =>
      cases hRun : command.run session with
      | error fault =>
          rw [execute_of_run_error hParse hRun]
          exact .failed hParse hRun
      | ok result =>
          obtain ⟨after, outcome⟩ := result
          rw [execute_of_run_ok hParse hRun]
          cases hKind : command.kind with
          | unknown word =>
              rw [Command.run, hKind] at hRun
              cases hRun
          | builtin builtin =>
              have hRan := hRun
              rw [Command.run_of_builtin hKind] at hRan
              cases Builtin.ran_of_run hRan with
              | moved hMove => exact .moved hParse hKind hMove
              | wrote hArgs hInsert => exact .wrote hParse hKind hArgs hInsert
              | read hState _ => exact .read hParse hKind hState hRun

/-- The bounds within which running a line keeps. -/
structure Framed (before : Session) (line : String) (after : Session) (outcome : Outcome) :
    Prop where
  user : after.user = before.user
  contacts : after.contacts = before.contacts
  failed : outcome.Fails → after.store = before.store ∧ after.cursor = before.cursor
  /-- Only `touch` changes the store, -/
  store : after.store ≠ before.store → ∃ args, Command.Calls line "touch" args ∧ ¬ outcome.Fails
  /-- and it writes its first operand into the current directory. -/
  touched : ∀ args, Command.Calls line "touch" args → ¬ outcome.Fails →
    ∃ name more, args = name :: more ∧ after.cursor = before.cursor ∧
      before.store.insertFile before.cursor.path name placeholderContent = .ok after.store
  /-- Only `cd` changes the cursor, -/
  cursor : after.cursor ≠ before.cursor → ∃ args, Command.Calls line "cd" args ∧ ¬ outcome.Fails
  /-- and it moves by its first operand, or to the root without one. -/
  moved : ∀ args, Command.Calls line "cd" args → ¬ outcome.Fails →
    after.store = before.store ∧
      before.cursor.move before.store (args.head?.getD "/") = .ok after.cursor
  other : (∀ args, ¬ Command.Calls line "touch" args) → (∀ args, ¬ Command.Calls line "cd" args) →
    after = { before with history := after.history }
  blank : Text.allBlank line = true → after = before ∧ outcome = .nothing

theorem framed_of_blank (hBlank : Text.allBlank line = true) :
    Framed session line session .nothing := by
  have hCalls := Command.not_calls_of_blank hBlank
  exact {
    user := rfl
    contacts := rfl
    failed := fun _ => ⟨rfl, rfl⟩
    store := fun hStore => absurd rfl hStore
    touched := fun args hTouch => absurd hTouch (hCalls _ _)
    cursor := fun hCursor => absurd rfl hCursor
    moved := fun args hCd => absurd hCd (hCalls _ _)
    other := fun _ _ => rfl
    blank := fun _ => ⟨rfl, rfl⟩ }

/-- A refused command keeps to the frame, for it is recorded and changes nothing else. -/
theorem framed_of_failed (hParse : Command.parse line = some command) :
    Framed session line (session.mapHistory (·.push command.raw))
      (.ofLines [session.echo command, command.errorLine fault]) := by
  have hFails : (Outcome.ofLines [session.echo command, command.errorLine fault]).Fails :=
    Command.fails_errorLine _
  exact {
    user := user_mapHistory _ _
    contacts := contacts_mapHistory _ _
    failed := fun _ => ⟨store_mapHistory _ _, cursor_mapHistory _ _⟩
    store := fun hStore => absurd (store_mapHistory _ _) hStore
    touched := fun _ _ hOk => absurd hFails hOk
    cursor := fun hCursor => absurd (cursor_mapHistory _ _) hCursor
    moved := fun _ _ hOk => absurd hFails hOk
    other := fun _ _ => mapHistory_eq _ _
    blank := fun hBlank => absurd hBlank (Command.not_blank_of_parse hParse) }

/-- A move keeps to the frame: only `cd` moves, and nothing but the cursor. -/
theorem framed_of_moved {cursor : Cursor} (hParse : Command.parse line = some command)
    (hKind : command.kind = .builtin .cd)
    (hMove : session.cursor.move session.store (command.args.head?.getD "/") = .ok cursor) :
    Framed session line ({ session with cursor }.mapHistory (·.push command.raw))
      (.ofLines [session.echo command]) := by
  have hCalls (args : List String) :
      Command.Calls line "cd" args ↔ command.kind = .builtin .cd ∧ command.args = args :=
    Command.calls_iff hParse Builtin.cd nofun args
  have hOk : ¬ (Outcome.ofLines [session.echo command]).Fails := by
    simp [Outcome.ofLines, Outcome.Fails, echo, Line.input]
  exact {
    user := user_mapHistory _ _
    contacts := contacts_mapHistory _ _
    failed := fun hFails => absurd hFails hOk
    store := fun hStore => absurd (store_mapHistory _ _) hStore
    touched := fun args hTouch =>
      absurd hTouch (Command.not_calls hParse hKind Builtin.touch nofun nofun args)
    cursor := fun _ => ⟨_, (hCalls _).mpr ⟨hKind, rfl⟩, hOk⟩
    moved := fun args hCd _ => by
      rw [← ((hCalls args).mp hCd).2]
      exact ⟨store_mapHistory _ _, hMove⟩
    other := fun _ hOther => absurd ((hCalls _).mpr ⟨hKind, rfl⟩) (hOther _)
    blank := fun hBlank => absurd hBlank (Command.not_blank_of_parse hParse) }

/-- A write keeps to the frame: only `touch` writes, and only its own file. -/
theorem framed_of_wrote {name : String} {more : List String} {store : Store}
    (hParse : Command.parse line = some command) (hKind : command.kind = .builtin .touch)
    (hArgs : command.args = name :: more)
    (hInsert : session.store.insertFile session.cursor.path name placeholderContent = .ok store) :
    Framed session line ({ session with store }.mapHistory (·.push command.raw))
      (.ofLines [session.echo command, Line.success ("created " ++ name)]) := by
  have hCalls (args : List String) :
      Command.Calls line "touch" args ↔ command.kind = .builtin .touch ∧ command.args = args :=
    Command.calls_iff hParse Builtin.touch nofun args
  have hOk : ¬ (Outcome.ofLines
      [session.echo command, Line.success ("created " ++ name)]).Fails := by
    simp [Outcome.ofLines, Outcome.Fails, echo, Line.input, Line.success]
  exact {
    user := user_mapHistory _ _
    contacts := contacts_mapHistory _ _
    failed := fun hFails => absurd hFails hOk
    store := fun _ => ⟨_, (hCalls _).mpr ⟨hKind, rfl⟩, hOk⟩
    touched := fun args hTouch _ => by
      rw [← ((hCalls args).mp hTouch).2]
      exact ⟨name, more, hArgs, cursor_mapHistory _ _, hInsert⟩
    cursor := fun hCursor => absurd (cursor_mapHistory _ _) hCursor
    moved := fun args hCd =>
      absurd hCd (Command.not_calls hParse hKind Builtin.cd nofun nofun args)
    other := fun hOther => absurd ((hCalls _).mpr ⟨hKind, rfl⟩) (hOther _)
    blank := fun hBlank => absurd hBlank (Command.not_blank_of_parse hParse) }

theorem framed_of_read {builtin : Builtin} (hParse : Command.parse line = some command)
    (hKind : command.kind = .builtin builtin) (hState : builtin.affectsState = false)
    (hRun : command.run session = .ok (session, outcome)) :
    Framed session line (session.mapHistory (·.push command.raw))
      ⟨session.echo command :: outcome.lines, outcome.effect⟩ := by
  have hOk : ¬ Outcome.Fails ⟨session.echo command :: outcome.lines, outcome.effect⟩ := by
    rw [Command.run_of_builtin hKind] at hRun
    rw [Outcome.fails_cons_iff, not_or]
    exact ⟨nofun, Builtin.not_fails_of_run hRun⟩
  have hTouch : builtin ≠ .touch := by
    rintro rfl
    cases hState
  have hCd : builtin ≠ .cd := by
    rintro rfl
    cases hState
  exact {
    user := user_mapHistory _ _
    contacts := contacts_mapHistory _ _
    failed := fun hFails => absurd hFails hOk
    store := fun hStore => absurd (store_mapHistory _ _) hStore
    touched := fun args hCalls =>
      absurd hCalls (Command.not_calls hParse hKind Builtin.touch hTouch nofun args)
    cursor := fun hCursor => absurd (cursor_mapHistory _ _) hCursor
    moved := fun args hCalls =>
      absurd hCalls (Command.not_calls hParse hKind Builtin.cd hCd nofun args)
    other := fun _ _ => mapHistory_eq _ _
    blank := fun hBlank => absurd hBlank (Command.not_blank_of_parse hParse) }

/-- However a line is executed, it keeps to the frame. -/
theorem Executed.framed (h : Executed session line after outcome) :
    Framed session line after outcome := by
  cases h with
  | blank hBlank => exact framed_of_blank hBlank
  | failed hParse hRun => exact framed_of_failed hParse
  | moved hParse hKind hMove => exact framed_of_moved hParse hKind hMove
  | wrote hParse hKind hArgs hInsert => exact framed_of_wrote hParse hKind hArgs hInsert
  | read hParse hKind hState hRun => exact framed_of_read hParse hKind hState hRun

/-- Running a line keeps within its frame on every session. A command that works in
place on the session does there what it does in running a line, and leaves nothing
behind when it stops with a fault. -/
theorem execute_framed (session : Session) :
    (∀ line, Framed session line (session.execute line).1 (session.execute line).2) ∧
      (∀ (builtin : Builtin) (args : List String),
        (builtin.inPlace args).runOn session =
          InPlace.settled session (builtin.run args session)) ∧
      ∀ (builtin : Builtin) (args : List String) (fault : Fault) (after : Session),
        (builtin.inPlace args).runOn session = (.error fault, after) →
          builtin.run args session = .error fault ∧ after = session := by
  refine ⟨fun line => (execute_executed session line).framed,
    fun builtin args => builtin.runOn_inPlace args session, ?_⟩
  intro builtin args fault after hRun
  rw [Builtin.runOn_inPlace] at hRun
  cases hResult : builtin.run args session with
  | ok result =>
      rw [hResult] at hRun
      cases hRun
  | error other =>
      rw [hResult] at hRun
      cases hRun
      exact ⟨rfl, rfl⟩

end Session

end VirtualShell
