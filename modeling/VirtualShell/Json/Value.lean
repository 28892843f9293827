import VirtualShell.Numeral
/-!
JSON values as they are written: fields keep their order and may repeat, and
numbers keep their notation. Two measures tell what a reader may refuse: how
deep containers nest, and whether every literal denotes a value.
-/

namespace VirtualShell

namespace Json

/-- A number literal. One without point and exponent is whole; any other one
is a mantissa times a power of ten. -/
inductive Number where
  | whole (negative : Bool) (magnitude : Nat)
  | scaled (negative : Bool) (mantissa : Nat) (exponent : Int)
deriving DecidableEq, Repr

end Json

inductive Json where
  | null
  | bool (value : Bool)
  | number (value : Json.Number)
  | text (value : String)
  /-- A string with half of a surrogate pair, or an object with such a string for
  a key. It denotes nothing. -/
  | unpaired
  | array (items : List Json)
  | object (fields : List (String × Json))
deriving Repr

namespace Json

namespace Number

/-- Whether the number is one that a 64-bit float or integer can hold. -/
def inRange : Number → Bool
  | whole _ magnitude => Numeral.fitsProduct magnitude 0
  | scaled _ mantissa exponent => Numeral.fitsProduct mantissa exponent

/-- The value of a literal that is a plain natural number of 64 bits. -/
def natural? : Number → Option Nat
  | whole false magnitude => if magnitude < Numeral.unsignedLimit then some magnitude else none
  | _ => none

end Number

mutual

/-- How deep arrays and objects nest. -/
def depth : Json → Nat
  | array items => 1 + itemsDepth items
  | object fields => 1 + fieldsDepth fields
  | _ => 0

def itemsDepth : List Json → Nat
  | [] => 0
  | item :: rest => max item.depth (itemsDepth rest)

def fieldsDepth : List (String × Json) → Nat
  | [] => 0
  | (_, value) :: rest => max value.depth (fieldsDepth rest)

end

mutual

/-- Whether every literal in a value denotes a text or a number. -/
def isSound : Json → Bool
  | null | bool _ | text _ => true
  | number value => value.inRange
  | unpaired => false
  | array items => itemsSound items
  | object fields => fieldsSound fields

def itemsSound : List Json → Bool
  | [] => true
  | item :: rest => item.isSound && itemsSound rest

def fieldsSound : List (String × Json) → Bool
  | [] => true
  | (_, value) :: rest => value.isSound && fieldsSound rest

end

end Json

end VirtualShell
