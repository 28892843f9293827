import VirtualShell.Text.Cluster
import VirtualShell.Text.Split
/-!
Backspaces in a typed line. A backspace takes back the user-perceived character
that was typed before it, and nothing at the beginning of a line.
-/

namespace VirtualShell.Text

/-- What is left of a line while it is typed, latest character first. -/
structure TypedLine where
  kept : List Char := []
  /-- How many bytes each of the clusters takes back, latest first. -/
  sizes : List Nat := []
deriving DecidableEq, Repr

namespace TypedLine

/-- Type a cluster. The size of a cluster is kept in one byte, so that of a
longer one less is taken back than was typed. -/
def type (line : TypedLine) (cluster : List Char) : TypedLine where
  kept := cluster.reverse ++ line.kept
  sizes := byteLength cluster % 256 :: line.sizes

/-- Take back the latest cluster. -/
def erase (line : TypedLine) : TypedLine :=
  match line.sizes with
  | [] => line
  | size :: sizes => ⟨dropBytesChars size line.kept, sizes⟩

def feed (line : TypedLine) (cluster : List Char) : TypedLine :=
  if cluster = ['\x08'] then line.erase else line.type cluster

end TypedLine

/-- A line with its backspaces carried out. -/
def applyBackspaces (s : String) : String :=
  String.ofList ((clusters s.toList).foldl TypedLine.feed {}).kept.reverse

end VirtualShell.Text
