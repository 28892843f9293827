/-!
Digits and the numbers that they write. A decimal that is meant as a 64-bit
binary float may be too great for one. Whether it is, is decided exactly, either
for the decimal itself or for what is left of it when it is computed in floats.
-/

namespace VirtualShell.Numeral

/-- The value of a hexadecimal digit, in either letter case. -/
def hexDigit? (c : Char) : Option Nat :=
  if '0' ≤ c ∧ c ≤ '9' then some (c.toNat - '0'.toNat)
  else if 'a' ≤ c ∧ c ≤ 'f' then some (c.toNat - 'a'.toNat + 10)
  else if 'A' ≤ c ∧ c ≤ 'F' then some (c.toNat - 'A'.toNat + 10)
  else none

/-- Whether a character is a digit in a base of at most sixteen. -/
def isDigitIn (base : Nat) (c : Char) : Bool :=
  match hexDigit? c with
  | some value => value < base
  | none => false

/-- The number that digits write in a base; the digits are taken to be
digits. -/
def valueIn (base : Nat) (digits : List Char) : Nat :=
  digits.foldl (fun value d => value * base + (hexDigit? d).getD 0) 0

def decimalValue (digits : List Char) : Nat :=
  digits.foldl (fun value d => value * 10 + (d.toNat - '0'.toNat)) 0

/-- Whether a text is an exponent, or nothing. -/
def isExponent : List Char → Bool
  | [] => true
  | mark :: cs =>
    let digits := match cs with
      | '+' :: rest | '-' :: rest => rest
      | _ => cs
    (mark = 'e' || mark = 'E') && !digits.isEmpty && digits.all Char.isDigit

/-- Whether a text without sign writes a decimal number. Digits may be missing
on one side of the point. -/
def isDecimal (cs : List Char) : Bool :=
  let whole := cs.takeWhile Char.isDigit
  match cs.dropWhile Char.isDigit with
  | '.' :: rest =>
    !(whole.isEmpty && (rest.takeWhile Char.isDigit).isEmpty)
      && isExponent (rest.dropWhile Char.isDigit)
  | rest => !whole.isEmpty && isExponent rest

/-- Whether a text writes a float, infinite ones and what is no number
included. -/
def isFloat (cs : List Char) : Bool :=
  let unsigned := match cs with
    | '+' :: rest | '-' :: rest => rest
    | _ => cs
  ["inf", "infinity", "nan"].contains (String.ofList (unsigned.map Char.toLower))
    || isDecimal unsigned

/-- The first natural number that 64 bits cannot hold. -/
def unsignedLimit : Nat :=
  Nat.pow 2 64

/-- The first natural number that 64 bits with a sign cannot hold. -/
def signedLimit : Nat :=
  Nat.pow 2 63

/-- The least magnitude that rounds to infinity as a 64-bit binary float. -/
def overflow : Nat :=
  Nat.pow 2 1024 - Nat.pow 2 970

/-- Whether a mantissa times a power of ten is below the overflow. Exponents far
out are decided by the number of digits alone. -/
def fits (mantissa : Nat) (exponent : Int) : Bool :=
  let digits : Int := (Nat.toDigits 10 mantissa).length
  if mantissa = 0 then true
  else if digits + exponent > 400 then false
  else if exponent < 0 then
    mantissa < overflow * Nat.pow 10 (min exponent.natAbs (2 * digits.toNat))
  else mantissa * Nat.pow 10 exponent.toNat < overflow

/-- The 64-bit binary float nearest to a natural number, ties to even, where
floats had no greatest one. -/
def nearestFloat (n : Nat) : Nat :=
  let unit := Nat.pow 2 (n.log2 - 52)
  let below := n / unit
  let rest := n % unit
  if unit < 2 * rest || (unit = 2 * rest && below % 2 = 1) then (below + 1) * unit
  else below * unit

/-- The longest beginning of a decimal that 64 bits can hold, and how many
digits are cut off in addition to `cut`. -/
def leading (mantissa cut : Nat) : Nat × Nat :=
  if mantissa < unsignedLimit then (mantissa, cut) else leading (mantissa / 10) (cut + 1)
termination_by mantissa
decreasing_by exact Nat.div_lt_self (by simp_all [unsignedLimit]; omega) (by decide)

/-- Whether a mantissa times a power of ten is finite when it is computed as a
product of two floats, from as many digits of the mantissa as 64 bits can hold.
Near the overflow that is not the same as `fits`. -/
def fitsProduct (mantissa : Nat) (exponent : Int) : Bool :=
  let (kept, cut) := leading mantissa 0
  let power := exponent + cut
  if kept = 0 || power ≤ 0 then true
  else if 308 < power then false
  else nearestFloat kept * nearestFloat (Nat.pow 10 power.toNat) < overflow

end VirtualShell.Numeral
