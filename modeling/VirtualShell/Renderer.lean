import VirtualShell.Line
/-!
How lines and prompts look on a terminal. Without colour they are plain text;
with colour a piece of text stands between the code of its style and the code
that resets it.
-/

namespace VirtualShell

/-- What a piece of text is, as far as its look goes. -/
inductive Style where
  | prompt
  | system
  | error
  | success
  | ghost
  | banner
deriving DecidableEq, Repr

/-- The parameters of the control sequence that switches to a style. -/
def Style.code : Style → String
  | prompt => "1;32"
  | system => "36"
  | error => "1;31"
  | success => "32"
  | ghost => "2"
  | banner => "1;36"

structure Renderer where
  color : Bool
deriving DecidableEq, Repr

namespace Renderer

/-- A text in a style; also an empty text is put between the codes. -/
def paint (renderer : Renderer) (style : Style) (text : String) : String :=
  if renderer.color then "\x1b[" ++ style.code ++ "m" ++ text ++ "\x1b[0m" else text

/-- The prompt of a user at a path, with a blank behind it. -/
def prompt (renderer : Renderer) (user path : String) : String :=
  renderer.paint .prompt ("[" ++ user ++ "@" ++ path ++ "]$") ++ " "

/-- A line as it is drawn for a user. An echo stands behind the prompt of its
path, or of the root if it has none; output is drawn as it is. -/
def line (renderer : Renderer) (user : String) (line : Line) : String :=
  match line.kind with
  | .input => renderer.prompt user (line.path.getD "~") ++ line.content
  | .output => line.content
  | .system => renderer.paint .system line.content
  | .error => renderer.paint .error line.content
  | .success => renderer.paint .success line.content

/-- A preview of what a line may go on with. -/
def ghost (renderer : Renderer) (text : String) : String :=
  renderer.paint .ghost text

end Renderer

end VirtualShell
