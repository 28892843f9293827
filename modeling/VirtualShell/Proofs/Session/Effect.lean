import VirtualShell.Proofs.Session.Frame
/-!
The effect of a line. It can be told from the line alone: a command of the table
has the same effect wherever it goes through, and one that has an effect always
goes through.
-/

namespace VirtualShell

namespace Builtin

variable {builtin : Builtin} {args : List String} {session after : Session} {outcome : Outcome}

/-- The effect that a command has with its operands. -/
def effectOf (builtin : Builtin) (args : List String) : Option Effect :=
  match builtin.app with
  | some app => some (.launch app (builtin.requestedModel args))
  | none =>
    match builtin with
    | clear => some .clearScrollback
    | importFile => some .requestImport
    | logout => some .logout
    | _ => none

/-- Only `clear` clears, whatever its operands. -/
theorem effectOf_eq_clearScrollback_iff :
    builtin.effectOf args = some .clearScrollback ↔ builtin = clear := by
  cases builtin <;> simp [effectOf, app]

theorem effectOf_eq_requestImport_iff :
    builtin.effectOf args = some .requestImport ↔ builtin = importFile := by
  cases builtin <;> simp [effectOf, app]

theorem effectOf_eq_logout_iff : builtin.effectOf args = some .logout ↔ builtin = logout := by
  cases builtin <;> simp [effectOf, app]

/-- A builtin that goes through has the effect that its operands say. -/
theorem effect_of_run (h : builtin.run args session = .ok (after, outcome)) :
    outcome.effect = builtin.effectOf args := by
  cases ran_of_run h with
  | moved hMove => rfl
  | wrote hArgs hInsert => rfl
  | read hState hRun =>
      cases builtin with
      | cd | touch => cases hState
      | ls =>
          rw [run_ls] at hRun
          cases hList : session.store.list session.cursor.path <;> rw [hList] at hRun <;>
            cases hRun
          rfl
      | cat =>
          cases args with
          | nil => cases hRun
          | cons name more =>
              rw [run_cat_cons] at hRun
              split at hRun <;> cases hRun
              rfl
      | _ =>
          cases hRun
          rfl

/-- Only commands without an effect can fail. -/
theorem effectOf_of_run_error {fault : Fault} (h : builtin.run args session = .error fault) :
    builtin.effectOf args = none := by
  cases builtin with
  | ls | cd | cat | touch => rfl
  | _ => cases h

end Builtin

namespace Command

/-- The effect that a line has. -/
def effectOf (line : String) : Option Effect :=
  (parse line).bind fun command => command.builtin?.bind (·.effectOf command.args)

variable {line : String} {command : Command}

theorem effectOf_of_parse (hParse : parse line = some command) {builtin : Builtin}
    (hKind : command.kind = .builtin builtin) :
    effectOf line = builtin.effectOf command.args := by
  rw [effectOf, hParse, Option.bind_some, builtin?_eq_some_iff.mpr hKind, Option.bind_some]

/-- An effect that a single command of the table has is had by its lines. -/
theorem effectOf_eq_some_iff {effect : Effect} {builtin : Builtin}
    (hOnly : ∀ (other : Builtin) (args : List String),
      other.effectOf args = some effect ↔ other = builtin) :
    effectOf line = some effect ↔ builtinOf line = some builtin := by
  rw [effectOf, builtinOf]
  cases parse line with
  | none => simp
  | some command =>
      rw [Option.bind_some, Option.bind_some]
      cases command.builtin? with
      | none => simp
      | some other => rw [Option.bind_some, hOnly, Option.some.injEq]

/-- A line logs out if and only if it calls `logout`. -/
theorem effectOf_logout : effectOf line = some .logout ↔ builtinOf line = some .logout :=
  effectOf_eq_some_iff fun _ _ => Builtin.effectOf_eq_logout_iff

theorem effectOf_requestImport :
    effectOf line = some .requestImport ↔ builtinOf line = some .importFile :=
  effectOf_eq_some_iff fun _ _ => Builtin.effectOf_eq_requestImport_iff

end Command

namespace Session

variable {session after : Session} {line : String} {outcome : Outcome}

theorem Executed.effect (h : Executed session line after outcome) :
    outcome.effect = Command.effectOf line := by
  cases h with
  | blank hBlank =>
      rw [Command.effectOf, Command.parse_eq_none_iff.mpr hBlank]
      rfl
  | @failed command fault hParse hRun =>
      cases hKind : command.kind with
      | unknown word =>
          rw [Command.effectOf, hParse, Option.bind_some, Command.builtin?, hKind]
          rfl
      | builtin builtin =>
          rw [Command.run_of_builtin hKind] at hRun
          rw [Command.effectOf_of_parse hParse hKind, Builtin.effectOf_of_run_error hRun]
          rfl
  | moved hParse hKind hMove => rw [Command.effectOf_of_parse hParse hKind]; rfl
  | wrote hParse hKind hArgs hInsert => rw [Command.effectOf_of_parse hParse hKind]; rfl
  | read hParse hKind hState hRun =>
      rw [Command.run_of_builtin hKind] at hRun
      have hEffect := Builtin.effect_of_run hRun
      rw [Command.effectOf_of_parse hParse hKind]
      exact hEffect

/-- The effect of a line depends on the line alone, and not on the session. -/
theorem effect_execute (session : Session) (line : String) :
    (session.execute line).2.effect = Command.effectOf line :=
  (execute_executed session line).effect

/-- Clearing says nothing. -/
theorem Executed.answers_of_clear (h : Executed session line after outcome)
    (hClear : outcome.effect = some .clearScrollback) : outcome.answers = [] := by
  have hEffect := h.effect.symm.trans hClear
  cases h with
  | blank hBlank => cases hClear
  | failed hParse hRun => cases hClear
  | moved hParse hKind hMove => cases hClear
  | wrote hParse hKind hArgs hInsert => cases hClear
  | read hParse hKind hState hRun =>
      rw [Command.effectOf_of_parse hParse hKind, Builtin.effectOf_eq_clearScrollback_iff] at hEffect
      subst hEffect
      rw [Command.run_of_builtin hKind] at hRun
      cases hRun
      rfl

end Session

end VirtualShell
