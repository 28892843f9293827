import VirtualShell.Json.Value
import VirtualShell.Text.Remainder
/-!
The tokens of a JSON text. White space separates tokens and is dropped; a
string literal is read to its end, with its escapes replaced; a number literal
extends as far as its grammar allows.
-/

namespace VirtualShell.Json

open Text (LeavesBelow)

inductive Token where
  | openArray
  | closeArray
  | openObject
  | closeObject
  | comma
  | colon
  | null
  | bool (value : Bool)
  | number (value : Number)
  | text (value : String)
  | unpaired
deriving DecidableEq, Repr

/-- The only white space between tokens. -/
def isSpace (c : Char) : Bool :=
  c = ' ' || c = '\n' || c = '\t' || c = '\r'

/-- A part of a string literal: a character, or a 16-bit unit from an escape
of four digits. -/
inductive Piece where
  | char (c : Char)
  | unit (code : Nat)
deriving DecidableEq, Repr

/-- The value of four hexadecimal digits. -/
def unit? (a b c d : Char) : Option Nat :=
  match Numeral.hexDigit? a, Numeral.hexDigit? b, Numeral.hexDigit? c, Numeral.hexDigit? d with
  | some a, some b, some c, some d => some (((a * 16 + b) * 16 + c) * 16 + d)
  | _, _, _, _ => none

/-- The character that a backslash and one letter stand for. -/
def escaped? : Char → Option Char
  | '"' => some '"'
  | '\\' => some '\\'
  | '/' => some '/'
  | 'b' => some '\x08'
  | 'f' => some '\x0c'
  | 'n' => some '\n'
  | 'r' => some '\r'
  | 't' => some '\t'
  | _ => none

/-- The pieces of a string literal behind its opening quote, and what follows
the closing one. Control characters must be escaped. -/
def pieces : List Char → Option (List Piece × List Char)
  | [] => none
  | '"' :: rest => some ([], rest)
  | '\\' :: 'u' :: a :: b :: c :: d :: rest =>
    match unit? a b c d, pieces rest with
    | some code, some (found, after) => some (.unit code :: found, after)
    | _, _ => none
  | '\\' :: c :: rest =>
    match escaped? c, pieces rest with
    | some plain, some (found, after) => some (.char plain :: found, after)
    | _, _ => none
  | c :: rest =>
    if c.toNat < 0x20 then none
    else match pieces rest with
      | some (found, after) => some (.char c :: found, after)
      | none => none

def isHighSurrogate (code : Nat) : Bool := 0xD800 ≤ code && code ≤ 0xDBFF
def isLowSurrogate (code : Nat) : Bool := 0xDC00 ≤ code && code ≤ 0xDFFF

/-- The characters that pieces denote; a high surrogate must be followed at
once by a low one. -/
def assemble : List Piece → Option (List Char)
  | [] => some []
  | .char c :: rest => (assemble rest).map (c :: ·)
  | .unit high :: .unit low :: rest =>
    if isHighSurrogate high then
      if isLowSurrogate low then
        (assemble rest).map
          (Char.ofNat (0x10000 + (high - 0xD800) * 0x400 + (low - 0xDC00)) :: ·)
      else none
    else if isLowSurrogate high then none
    else (assemble (.unit low :: rest)).map (Char.ofNat high :: ·)
  | .unit code :: rest =>
    if isHighSurrogate code || isLowSurrogate code then none
    else (assemble rest).map (Char.ofNat code :: ·)

def stringToken (found : List Piece) : Token :=
  match assemble found with
  | some chars => .text (String.ofList chars)
  | none => .unpaired

/-- The longest run of decimal digits, and what follows it. -/
def takeDigits (cs : List Char) : List Char × List Char :=
  (cs.takeWhile Char.isDigit, cs.dropWhile Char.isDigit)

/-- The digits before a point: a zero by itself, or a run that does not begin
with one. -/
def wholePart? : List Char → Option (List Char × List Char)
  | '0' :: rest => some (['0'], rest)
  | cs => match takeDigits cs with
    | ([], _) => none
    | found => some found

/-- The digits behind a point, none if there is no point. -/
def fractionPart? : List Char → Option (List Char × List Char)
  | '.' :: rest => match takeDigits rest with
    | ([], _) => none
    | found => some found
  | cs => some ([], cs)

/-- The digits of an exponent behind its sign. -/
def exponentDigits? (negative : Bool) (cs : List Char) : Option (Option Int × List Char) :=
  match takeDigits cs with
  | ([], _) => none
  | (digits, rest) =>
    let value : Int := Numeral.decimalValue digits
    some (some (if negative then -value else value), rest)

/-- The exponent, none if there is no exponent. -/
def exponentPart? : List Char → Option (Option Int × List Char)
  | c :: rest =>
    if c = 'e' ∨ c = 'E' then
      match rest with
      | '+' :: digits => exponentDigits? false digits
      | '-' :: digits => exponentDigits? true digits
      | digits => exponentDigits? false digits
    else some (none, c :: rest)
  | [] => some (none, [])

/-- A number literal behind its sign, and what follows it. -/
def number? (negative : Bool) (cs : List Char) : Option (Number × List Char) :=
  match wholePart? cs with
  | none => none
  | some (whole, rest) =>
    match fractionPart? rest with
    | none => none
    | some (fraction, rest) =>
      match exponentPart? rest with
      | none => none
      | some (exponent, rest) =>
        if fraction.isEmpty && exponent.isNone then
          some (.whole negative (Numeral.decimalValue whole), rest)
        else
          some (.scaled negative (Numeral.decimalValue (whole ++ fraction))
            (exponent.getD 0 - fraction.length), rest)

/-- The token at the beginning of a text that does not begin with white
space, and what follows it. -/
def token? : List Char → Option (Token × List Char)
  | [] => none
  | '[' :: rest => some (.openArray, rest)
  | ']' :: rest => some (.closeArray, rest)
  | '\x7b' :: rest => some (.openObject, rest)
  | '\x7d' :: rest => some (.closeObject, rest)
  | ',' :: rest => some (.comma, rest)
  | ':' :: rest => some (.colon, rest)
  | 'n' :: 'u' :: 'l' :: 'l' :: rest => some (.null, rest)
  | 't' :: 'r' :: 'u' :: 'e' :: rest => some (.bool true, rest)
  | 'f' :: 'a' :: 'l' :: 's' :: 'e' :: rest => some (.bool false, rest)
  | '"' :: rest => (pieces rest).map fun found => (stringToken found.1, found.2)
  | '-' :: rest => (number? true rest).map fun found => (.number found.1, found.2)
  | cs => (number? false cs).map fun found => (.number found.1, found.2)

theorem length_takeDigits {cs digits rest : List Char} (h : takeDigits cs = (digits, rest)) :
    digits.length + rest.length = cs.length := by
  simp only [takeDigits, Prod.mk.injEq] at h
  rw [← h.1, ← h.2, ← List.length_append, List.takeWhile_append_dropWhile]

theorem leavesBelow_takeDigits (cs : List Char) :
    LeavesBelow (cs.length + 1) (some (takeDigits cs)) := by
  rintro digits rest ⟨⟩
  have hLength := length_takeDigits (Eq.refl (takeDigits cs))
  omega

/-- Behind a string literal there are fewer characters than behind its first quote. -/
theorem leavesBelow_pieces (cs : List Char) : LeavesBelow cs.length (pieces cs) := by
  fun_induction pieces cs with
  | case2 rest => exact .some (Nat.lt_succ_self _)
  | case3 a b c d rest code found after hFound hCode ih =>
      exact ih.of_found hFound _ (Nat.le_add_right _ 6)
  | case5 c rest _ plain found after hFound hPlain ih =>
      exact ih.of_found hFound _ (Nat.le_add_right _ 2)
  | case8 c rest _ _ _ hPrints found after hFound ih =>
      exact ih.of_found hFound _ (Nat.le_succ _)
  | _ => exact .none

/-- A number has at least one digit before its point. -/
theorem leavesBelow_wholePart? (cs : List Char) : LeavesBelow cs.length (wholePart? cs) := by
  fun_cases wholePart? cs with
  | case1 rest => exact .some (Nat.lt_succ_self _)
  | case2 => exact .none
  | case3 cs hZero hSome =>
      cases hTaken : takeDigits cs with
      | mk digits rest =>
          have hLength := length_takeDigits hTaken
          have hDigits : digits ≠ [] := by
            rintro rfl
            exact hSome rest hTaken
          have hPos := List.length_pos_iff.mpr hDigits
          exact .some (by omega)

theorem leavesBelow_fractionPart? (cs : List Char) :
    LeavesBelow (cs.length + 1) (fractionPart? cs) := by
  fun_cases fractionPart? cs with
  | case1 => exact .none
  | case2 rest hSome => exact (leavesBelow_takeDigits rest).mono (Nat.le_succ _)
  | case3 => exact .some (Nat.lt_succ_self _)

theorem leavesBelow_exponentDigits? (negative : Bool) (cs : List Char) :
    LeavesBelow (cs.length + 1) (exponentDigits? negative cs) := by
  fun_cases exponentDigits? negative cs with
  | case1 => exact .none
  | case2 digits rest hSome hTaken =>
      have hLength := length_takeDigits hTaken
      exact .some (by omega)

theorem leavesBelow_exponentPart? (cs : List Char) :
    LeavesBelow (cs.length + 1) (exponentPart? cs) := by
  unfold exponentPart?
  split
  · split
    · split
      · exact (leavesBelow_exponentDigits? false _).mono (Nat.le_add_right _ 2)
      · exact (leavesBelow_exponentDigits? true _).mono (Nat.le_add_right _ 2)
      · exact (leavesBelow_exponentDigits? false _).mono (Nat.le_succ _)
    · exact .some (Nat.lt_succ_self _)
  · exact .some (Nat.lt_succ_self _)

/-- Of the three parts of a number only the first may not be empty. -/
theorem leavesBelow_number? (negative : Bool) (cs : List Char) :
    LeavesBelow cs.length (number? negative cs) := by
  fun_cases number? negative cs with
  | case1 | case2 | case3 => exact .none
  | case4 whole afterWhole hWhole fraction afterFraction hFraction exponent rest hExponent
  | case5 whole afterWhole hWhole fraction afterFraction hFraction exponent rest hExponent =>
      have hFirst := leavesBelow_wholePart? _ _ _ hWhole
      have hSecond := leavesBelow_fractionPart? _ _ _ hFraction
      have hThird := leavesBelow_exponentPart? _ _ _ hExponent
      exact .some (by omega)

/-- Every token takes at least one character. -/
theorem leavesBelow_token? (cs : List Char) : LeavesBelow cs.length (token? cs) := by
  fun_cases token? cs with
  | case1 => exact .none
  | case11 rest => exact ((leavesBelow_pieces rest).map stringToken).mono (Nat.le_succ _)
  | case12 rest => exact ((leavesBelow_number? true rest).map Token.number).mono (Nat.le_succ _)
  | case13 => exact (leavesBelow_number? false cs).map Token.number
  | _ => exact .some (by simp only [List.length_cons]; omega)

/-- The tokens of a text; `none` if some part of it is no token. -/
def tokens? (cs : List Char) : Option (List Token) :=
  match cs with
  | [] => some []
  | c :: rest =>
    if isSpace c then tokens? rest
    else match h : token? (c :: rest) with
      | none => none
      | some (token, after) =>
        have : after.length < (c :: rest).length := leavesBelow_token? _ _ _ h
        (tokens? after).map (token :: ·)
termination_by cs.length
decreasing_by all_goals (simp only [List.length_cons] at *; omega)

end VirtualShell.Json
