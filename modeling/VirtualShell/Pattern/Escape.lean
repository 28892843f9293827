import VirtualShell.Numeral
import VirtualShell.Pattern
import VirtualShell.Text.Blank
/-!
Escapes in patterns, and what is skipped between the parts of a pattern. Under
the option to ignore space, white space and comments between parts count for
nothing; a comment goes from a number sign to the end of the line.
-/

namespace VirtualShell.Pattern

/-- What follows white space and comments; `inComment` tells whether a comment
has begun. -/
def dropSpace (inComment : Bool) : List Char → List Char
  | [] => []
  | c :: cs =>
    if inComment then dropSpace (c ≠ '\n') cs
    else if Text.isBlank c then dropSpace false cs
    else if c = '#' then dropSpace true cs
    else c :: cs

/-- What follows, under the option to ignore space or without it. -/
def skip (ignoreSpace : Bool) (cs : List Char) : List Char :=
  if ignoreSpace then dropSpace false cs else cs

theorem length_dropSpace_le (inComment : Bool) (cs : List Char) :
    (dropSpace inComment cs).length ≤ cs.length := by
  fun_induction dropSpace inComment cs with
  | case1 | case5 => exact Nat.le_refl _
  | case2 c rest ih | case3 _ c rest _ _ ih | case4 _ rest _ _ ih => exact Nat.le_succ_of_le ih

theorem length_skip_le (ignoreSpace : Bool) (cs : List Char) :
    (skip ignoreSpace cs).length ≤ cs.length := by
  unfold skip
  split
  · exact length_dropSpace_le false cs
  · exact Nat.le_refl _

/-- A part of a pattern that stands inside and outside of brackets. -/
inductive Atom where
  | literal (value : PatternLiteral)
  | shorthand (negated : Bool)
  | anchor
  | wordBoundary
deriving DecidableEq, Repr

/-- The value of so many hexadecimal digits behind the digits of `value`, and
what follows. -/
def hexDigits? (ignoreSpace : Bool) : Nat → Nat → List Char → Option (Nat × List Char)
  | 0, value, cs => some (value, cs)
  | _ + 1, _, [] => none
  | count + 1, value, c :: cs =>
    match Numeral.hexDigit? c with
    | some digit => hexDigits? ignoreSpace count (value * 16 + digit) (skip ignoreSpace cs)
    | none => none

/-- The character of a code that is written with so many digits. -/
def codeAtom? (ignoreSpace : Bool) (count : Nat) (cs : List Char) : Option (Atom × List Char) :=
  match hexDigits? ignoreSpace count 0 (skip ignoreSpace cs) with
  | some (code, rest) =>
    if code.isValidChar then some (.literal ⟨Char.ofNat code, count = 2⟩, rest) else none
  | none => none

/-- The control character that a letter behind a backslash stands for. -/
def controlChar? : Char → Option Char
  | 'a' => some '\x07'
  | 'f' => some '\x0c'
  | 't' => some '\t'
  | 'n' => some '\n'
  | 'r' => some '\r'
  | 'v' => some '\x0b'
  | _ => none

/-- Whether a backslash makes nothing else of a character. Letters, digits and
angle brackets have a meaning of their own or are kept for one. -/
def isEscapable (c : Char) : Bool :=
  c.toNat < 0x80 && !c.isAlphanum && c ≠ '<' && c ≠ '>'

/-- What a character behind a backslash means, and what follows. Back references
and properties of characters are not supported. -/
def escape? (ignoreSpace : Bool) : List Char → Option (Atom × List Char)
  | [] => none
  | c :: rest =>
    if c = 'x' then codeAtom? ignoreSpace 2 rest
    else if c = 'u' then codeAtom? ignoreSpace 4 rest
    else if c = 'U' then codeAtom? ignoreSpace 8 rest
    else if ['d', 's', 'w'].contains c then some (.shorthand false, rest)
    else if ['D', 'S', 'W'].contains c then some (.shorthand true, rest)
    else if isEscapable c then some (.literal ⟨c, false⟩, rest)
    else if ['A', 'z'].contains c then some (.anchor, rest)
    else if ['b', 'B', '<', '>'].contains c then some (.wordBoundary, rest)
    else (controlChar? c).map fun control => (.literal ⟨control, false⟩, rest)

end VirtualShell.Pattern
