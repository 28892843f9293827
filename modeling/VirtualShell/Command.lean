import VirtualShell.Builtin
import VirtualShell.Text.Word
import VirtualShell.Text.Lowercase
/-!
One typed line as a command: its first word selects a command of the table,
whatever its letter case, and the other words are operands as they stand. Only
a blank line is no command.
-/

namespace VirtualShell

inductive CommandKind where
  | builtin (builtin : Builtin)
  /-- A first word that names no command, in lower case. -/
  | unknown (word : String)
deriving DecidableEq, Repr

structure Command where
  kind : CommandKind
  /-- The line without the white space at its ends. -/
  raw : String
  args : List String
deriving DecidableEq, Repr

namespace Command

/-- The command that a first word stands for. -/
def kindOf (word : String) : CommandKind :=
  let name := Text.lowercase word
  match Builtin.named name with
  | some builtin => .builtin builtin
  | none => .unknown name

/-- The command on a line; `none` for a blank line. -/
def parse (line : String) : Option Command :=
  let raw := Text.trim line
  match (Text.words raw).map Word.text with
  | [] => none
  | word :: args => some ⟨kindOf word, raw, args⟩

def builtin? (command : Command) : Option Builtin :=
  match command.kind with
  | .builtin builtin => some builtin
  | .unknown _ => none

/-- Whether a flag is given in either of its spellings. -/
def hasFlag (command : Command) (short long : String) : Bool :=
  command.args.any fun arg => arg = short || arg = long

end Command

end VirtualShell
