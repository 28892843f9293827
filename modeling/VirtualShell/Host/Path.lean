import VirtualShell.Text.Split
/-!
Paths of the host: names with slashes between them. Empty names and single dots
stand for no step at all.
-/

namespace VirtualShell.HostPath

/-- The steps of a path. -/
def steps (path : String) : List String :=
  (Text.split '/' path).filter fun name => name ≠ "" && name ≠ "."

/-- The name of the file that a path means: its last step, unless that leads
up. -/
def fileName? (path : String) : Option String :=
  match (steps path).getLast? with
  | some name => if name = ".." then none else some name
  | none => none

/-- What follows the last dot of a list of characters, if something stands
before it. -/
def afterLastDot? (name : List Char) : Option (List Char) :=
  match Text.cutChars '.' name.reverse with
  | (after, some (_ :: _)) => some after.reverse
  | _ => none

/-- The extension of a file name. A dot in front makes no extension. -/
def extension? (path : String) : Option String :=
  match fileName? path with
  | some name => (afterLastDot? name.toList).map String.ofList
  | none => none

end VirtualShell.HostPath
