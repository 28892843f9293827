/-!
The lines that a terminal shows: each has a kind, which decides how it is
drawn, and an echoed input line also has the place at which it was typed.
-/

namespace VirtualShell

inductive LineKind where
  | input
  | output
  | system
  | error
  | success
deriving DecidableEq, Repr

namespace LineKind

def name : LineKind → String
  | input => "input"
  | output => "output"
  | system => "system"
  | error => "error"
  | success => "success"

def all : List LineKind :=
  [input, output, system, error, success]

end LineKind

structure Line where
  kind : LineKind
  content : String
  /-- The prompt path at which an input line was typed. -/
  path : Option String := none
deriving DecidableEq, Repr

namespace Line

def input (content path : String) : Line := ⟨.input, content, some path⟩
def output (content : String) : Line := ⟨.output, content, none⟩
def system (content : String) : Line := ⟨.system, content, none⟩
def error (content : String) : Line := ⟨.error, content, none⟩
def success (content : String) : Line := ⟨.success, content, none⟩

/-- An input line echoes what the user typed and already sees. -/
def isEcho (line : Line) : Bool :=
  line.kind = .input

end Line

end VirtualShell
