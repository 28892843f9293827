import VirtualShell.Text.Blank
import VirtualShell.Text.Split
/-!
The words of a line: its maximal runs of characters that are not white space,
each with the span of UTF-8 bytes that it takes in the line. There is no
quoting and no escape, so every line has words and none is malformed.
-/

namespace VirtualShell

/-- A run of characters and the byte offset at which it begins. -/
structure Word where
  start : Nat
  chars : List Char
deriving DecidableEq, Repr

namespace Word

def text (w : Word) : String :=
  String.ofList w.chars

/-- The byte offset just behind the word. -/
def stop (w : Word) : Nat :=
  w.start + Text.byteLength w.chars

/-- Put a character in front of the words that follow it. It joins the first
of them if that one begins where the character ends, and is a word of its own
otherwise. -/
def prepend (offset : Nat) (c : Char) : List Word → List Word
  | [] => [⟨offset, [c]⟩]
  | w :: ws =>
    if w.start = offset + c.utf8Size then ⟨offset, c :: w.chars⟩ :: ws
    else ⟨offset, [c]⟩ :: w :: ws

/-- The words of a list of characters that begins at the given offset. -/
def scan (offset : Nat) : List Char → List Word
  | [] => []
  | c :: cs =>
    let rest := scan (offset + c.utf8Size) cs
    if Text.isBlank c then rest else prepend offset c rest

end Word

namespace Text

/-- The words of a text, in order. -/
def words (s : String) : List Word :=
  Word.scan 0 s.toList

end Text

end VirtualShell
