import VirtualShell.Host.Files
import VirtualShell.Seed.Codec
/-!
Seeds from files of the host.
-/

namespace VirtualShell

/-- The label of the note that tells which file is at fault. -/
def pathLabel : String := "path"

/-- The seed in a file, given what reading the file gave. A fault has a note
with the path. -/
def Seed.ofFile (path : String) (content : Except HostFault String) : Except Fault Seed :=
  match content with
  | .error fault => .error (fault.toFault.note pathLabel path)
  | .ok document =>
    match Seed.read document with
    | .ok seed => .ok seed
    | .error fault => .error (fault.note pathLabel path)

end VirtualShell
