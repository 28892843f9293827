import VirtualShell.Builtin
import VirtualShell.Line
/-!
What a command gives: lines to show, and at most one effect for whoever runs
the terminal.
-/

namespace VirtualShell

inductive Effect where
  | clearScrollback
  | requestImport
  | launch (app : App) (model : Option Model)
  | logout
deriving DecidableEq, Repr

structure Outcome where
  lines : List Line := []
  effect : Option Effect := none
deriving DecidableEq, Repr

namespace Outcome

def nothing : Outcome := {}

def ofLines (lines : List Line) : Outcome := ⟨lines, none⟩

def ofEffect (effect : Effect) : Outcome := ⟨[], some effect⟩

/-- Whether there is neither a line nor an effect. -/
def isEmpty (outcome : Outcome) : Bool :=
  outcome.lines.isEmpty && outcome.effect.isNone

/-- The lines without echoed input. -/
def answers (outcome : Outcome) : List Line :=
  outcome.lines.filter fun line => !line.isEcho

end Outcome

/-- What a terminal shows when an application is opened. -/
def launchLine (app : App) (model : Option Model) : Line :=
  let hint := match model with
    | some model => " (model: " ++ model.name ++ ")"
    | none => ""
  Line.system ("launching " ++ app.title ++ hint ++ "...")

end VirtualShell
