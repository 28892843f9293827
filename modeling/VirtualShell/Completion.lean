import VirtualShell.Builtin
import VirtualShell.Session.Basic
import VirtualShell.Text.Split
/-!
What a line may go on with. Up to its first blank a line names a command; what
follows, blanks and all, is one operand, and what can stand there depends on the
command. Completion reads a snapshot of a session and changes nothing.
-/

namespace VirtualShell

/-- The part of a line that is being completed. -/
inductive Segment where
  | command
  /-- The operand of a command, whose name is in lower case. -/
  | operand (command : String)
deriving DecidableEq, Repr

structure Completion where
  segment : Segment
  /-- What candidates must begin with; a command is in lower case. -/
  fragment : String
  candidates : List String
deriving DecidableEq, Repr

namespace Completion

/-- The entries of a directory that are of one kind, in order. -/
def entriesOf (kind : NodeKind) (directory : Directory) : List String :=
  (directory.entries.toList.filter fun entry => entry.2.kind = kind).map (·.1)

/-- Everything that may stand as the operand of a command. -/
def operands (builtin : Builtin) (snapshot : Snapshot) : List String :=
  match builtin with
  | .cd => ".." :: entriesOf .dir (snapshot.cursor.directory snapshot.store)
  | .cat => entriesOf .file (snapshot.cursor.directory snapshot.store)
  | other => other.flags

/-- The operands of a command by name; an unknown command has none. -/
def operandsNamed (command : String) (snapshot : Snapshot) : List String :=
  match Builtin.named command with
  | some builtin => operands builtin snapshot
  | none => []

/-- The names that begin with a fragment, in order. -/
def matching (fragment : String) (names : List String) : List String :=
  names.filter fun name => Text.startsWith name fragment

/-- Complete a line against a snapshot. An empty line has no candidates. -/
def ofLine (line : String) (snapshot : Snapshot) : Completion :=
  if line = "" then ⟨.command, "", []⟩
  else match Text.cut ' ' line with
    | (word, none) =>
      let fragment := Text.lowercase word
      ⟨.command, fragment, matching fragment (Builtin.all.map Builtin.name)⟩
    | (word, some fragment) =>
      let command := Text.lowercase word
      ⟨.operand command, fragment, matching fragment (operandsNamed command snapshot)⟩

/-- What the first candidate adds to the fragment. It is shown behind the
line as a preview. -/
def ghost (completion : Completion) : String :=
  match completion.candidates with
  | [] => ""
  | best :: _ => String.ofList (best.toList.drop completion.fragment.length)

/-- The line with the preview taken over. -/
def acceptGhost (completion : Completion) (line : String) : String :=
  line ++ completion.ghost

/-- The line with a candidate in place of the part that is being completed. -/
def accept (completion : Completion) (line candidate : String) : String :=
  match completion.segment with
  | .command => candidate
  | .operand _ => (Text.cut ' ' line).1 ++ " " ++ candidate

end Completion

end VirtualShell
