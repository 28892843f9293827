import VirtualShell.Numeral
import VirtualShell.Text.Split
import VirtualShell.Toml.Value
/-!
Values that are written as one bare word: truth values, integers, floats, and
dates and times. Digits may be grouped with single underscores.
-/

namespace VirtualShell.Toml

/-- The digits of a run in which underscores stand only between digits. -/
def ungroup? (isDigit : Char → Bool) (cs : List Char) : Option (List Char) :=
  let groups := Text.splitChars '_' cs
  if groups.all fun group => !group.isEmpty && group.all isDigit then some groups.flatten
  else none

/-- Digits without a leading zero. -/
def decimal? (cs : List Char) : Option (List Char) :=
  match cs with
  | ['0'] => some ['0']
  | '0' :: _ => none
  | _ => ungroup? Char.isDigit cs

/-- Split off a sign. -/
def signed : List Char → Bool × List Char
  | '+' :: rest => (false, rest)
  | '-' :: rest => (true, rest)
  | cs => (false, cs)

/-- An integer that 64 bits can hold. -/
def integerIn64? (negative : Bool) (magnitude : Nat) : Option Toml :=
  if negative then
    if magnitude ≤ Numeral.signedLimit then some (.integer (-magnitude)) else none
  else if magnitude < Numeral.signedLimit then some (.integer magnitude)
  else none

/-- An integer in a base that its beginning names. -/
def basedInteger? (base : Nat) (digits : List Char) : Option Toml :=
  match ungroup? (Numeral.isDigitIn base) digits with
  | some digits => integerIn64? false (Numeral.valueIn base digits)
  | none => none

def integer? : List Char → Option Toml
  | '0' :: 'x' :: digits => basedInteger? 16 digits
  | '0' :: 'o' :: digits => basedInteger? 8 digits
  | '0' :: 'b' :: digits => basedInteger? 2 digits
  | cs =>
    let (negative, digits) := signed cs
    match decimal? digits with
    | some digits => integerIn64? negative (Numeral.decimalValue digits)
    | none => none

/-- The value of an exponent with an optional sign. -/
def exponent? (cs : List Char) : Option Int :=
  let (negative, digits) := signed cs
  match ungroup? Char.isDigit digits with
  | some digits =>
    let value : Int := Numeral.decimalValue digits
    some (if negative then -value else value)
  | none => none

def isExponentMark (c : Char) : Bool :=
  c = 'e' || c = 'E'

/-- A float with a fraction, an exponent or both. A positive one may not be too
great for its 64 bits. -/
def float? (cs : List Char) : Option Toml :=
  let (negative, unsigned) := signed cs
  let (mantissa, exponent) := unsigned.span (!isExponentMark ·)
  let (whole, fraction) := Text.cutChars '.' mantissa
  if fraction.isNone && exponent.isEmpty then none
  else do
    let whole ← decimal? whole
    let fraction ← match fraction with
      | some digits => ungroup? Char.isDigit digits
      | none => some []
    let exponent ← match exponent with
      | [] => some 0
      | _ :: digits => exponent? digits
    let digits := Numeral.decimalValue (whole ++ fraction)
    if negative || Numeral.fits digits (exponent - fraction.length) then some .float else none

/-- Infinity and the float that is no number, with an optional sign. -/
def specialFloat? (cs : List Char) : Option Toml :=
  let (_, name) := signed cs
  if name = ['i', 'n', 'f'] ∨ name = ['n', 'a', 'n'] then some .float else none

/-- The number of two digits. -/
def twoDigits? (a b : Char) : Option Nat :=
  if a.isDigit && b.isDigit then some (Numeral.decimalValue [a, b]) else none

def daysIn (year month : Nat) : Nat :=
  if month = 2 then
    if year % 4 = 0 ∧ (year % 100 ≠ 0 ∨ year % 400 = 0) then 29 else 28
  else if month = 4 ∨ month = 6 ∨ month = 9 ∨ month = 11 then 30
  else 31

/-- What follows a date. -/
def afterDate? : List Char → Option (List Char)
  | a :: b :: c :: d :: '-' :: e :: f :: '-' :: g :: h :: rest =>
    match twoDigits? a b, twoDigits? c d, twoDigits? e f, twoDigits? g h with
    | some century, some year, some month, some day =>
      if 1 ≤ month ∧ month ≤ 12 ∧ 1 ≤ day ∧ day ≤ daysIn (century * 100 + year) month
      then some rest else none
    | _, _, _, _ => none
  | _ => none

/-- What follows a time of day; its seconds may have a fraction. -/
def afterTime? : List Char → Option (List Char)
  | a :: b :: ':' :: c :: d :: ':' :: e :: f :: rest =>
    match twoDigits? a b, twoDigits? c d, twoDigits? e f with
    | some hour, some minute, some second =>
      if hour ≤ 23 ∧ minute ≤ 59 ∧ second ≤ 60 then
        match rest with
        | '.' :: digit :: more =>
          if digit.isDigit then some (more.dropWhile Char.isDigit) else some rest
        | _ => some rest
      else none
    | _, _, _ => none
  | _ => none

/-- Nothing at all, or how far a time of day is from that of the zero
meridian. -/
def isOffset : List Char → Bool
  | [] => true
  | [c] => c = 'Z' || c = 'z'
  | [sign, a, b, ':', c, d] =>
    (sign = '+' || sign = '-') && match twoDigits? a b, twoDigits? c d with
      | some hour, some minute => hour ≤ 23 && minute ≤ 59
      | _, _ => false
  | _ => false

/-- A whole date, and nothing else. -/
def isDate (cs : List Char) : Bool :=
  afterDate? cs = some []

def moment? (cs : List Char) : Option Toml :=
  match afterDate? cs with
  | some [] => some .moment
  | some (separator :: time) =>
    if separator = 'T' ∨ separator = 't' ∨ separator = ' ' then
      match afterTime? time with
      | some offset => if isOffset offset then some .moment else none
      | none => none
    else none
  | none => if afterTime? cs = some [] then some .moment else none

/-- The value of a bare word. -/
def scalarValue? (cs : List Char) : Option Toml :=
  if cs = ['t', 'r', 'u', 'e'] then some (.bool true)
  else if cs = ['f', 'a', 'l', 's', 'e'] then some (.bool false)
  else (((moment? cs).or (float? cs)).or (specialFloat? cs)).or (integer? cs)

end VirtualShell.Toml
