import VirtualShell.Completion
import VirtualShell.Renderer
/-!
What a line editor shows while a line is typed: replacements for the tab key and
a preview behind the line. Positions count bytes of UTF-8.
-/

namespace VirtualShell

/-- What the tab key offers: where replacing begins, and for each candidate
its text and the line that it gives. -/
structure TabOffer where
  start : Nat
  choices : List (String × String)
deriving DecidableEq, Repr

namespace Completion

/-- The offers for a line up to a position; what is behind it is ignored. -/
def tab (line : String) (position : Nat) (snapshot : Snapshot) : TabOffer :=
  let typed := Text.takeBytes position line
  let completion := ofLine typed snapshot
  ⟨0, completion.candidates.map fun candidate => (candidate, completion.accept typed candidate)⟩

/-- The preview behind a line, if there is one. -/
def preview (completion : Completion) : Option String :=
  if completion.ghost = "" then none else some completion.ghost

/-- The preview while the caret is at a position: none before the end of the
line. -/
def hint (line : String) (position : Nat) (snapshot : Snapshot) : Option String :=
  if position < line.utf8ByteSize then none else (ofLine line snapshot).preview

end Completion

end VirtualShell
