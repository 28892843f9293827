import VirtualShell.Renderer
import VirtualShell.Text.Width
/-!
A box around lines of text. Its sides line up in columns, not in characters: every
text is filled up to the width of the widest. How wide a text is depends on where
it is shown; on a terminal it is the number of cells that it takes.
-/

namespace VirtualShell

namespace Banner

/-- So many copies of a character. -/
def repeated (c : Char) (count : Nat) : String :=
  String.ofList (List.replicate count c)

/-- The columns between the sides: the widest text with a blank on either
side. -/
def inner (width : String → Nat) (texts : List String) : Nat :=
  (texts.map width).foldl max 0 + 2

def top (inner : Nat) : String :=
  "╔" ++ repeated '═' inner ++ "╗"

def bottom (inner : Nat) : String :=
  "╚" ++ repeated '═' inner ++ "╝"

/-- A text between the sides of a box. -/
def middle (width : String → Nat) (inner : Nat) (text : String) : String :=
  "║ " ++ text ++ repeated ' ' (inner - 1 - width text) ++ "║"

/-- The box around texts, from top to bottom. -/
def box (width : String → Nat) (texts : List String) : List String :=
  top (inner width texts) :: texts.map (middle width (inner width texts))
    ++ [bottom (inner width texts)]

end Banner

/-- The box around texts as a terminal shows it. -/
def Renderer.banner (renderer : Renderer) (texts : List String) : List String :=
  (Banner.box Text.width texts).map (renderer.paint .banner)

end VirtualShell
