import VirtualShell.Json.Value
/-!
Writing JSON values without white space. In a text, quotes, backslashes and
control characters are escaped and nothing else is.
-/

namespace VirtualShell.Json

def hexDigit (n : Nat) : Char :=
  if n < 10 then Char.ofNat ('0'.toNat + n) else Char.ofNat ('a'.toNat + (n - 10))

/-- A character as it is written in a string literal. -/
def writeChar (c : Char) : List Char :=
  if c = '"' then ['\\', '"']
  else if c = '\\' then ['\\', '\\']
  else if c = '\x08' then ['\\', 'b']
  else if c = '\x0c' then ['\\', 'f']
  else if c = '\n' then ['\\', 'n']
  else if c = '\r' then ['\\', 'r']
  else if c = '\t' then ['\\', 't']
  else if c.toNat < 0x20 then
    ['\\', 'u', '0', '0', hexDigit (c.toNat / 16), hexDigit (c.toNat % 16)]
  else [c]

/-- A text as a string literal. -/
def writeText (s : String) : List Char :=
  '"' :: s.toList.flatMap writeChar ++ ['"']

def writeNatural (n : Nat) : List Char :=
  Nat.toDigits 10 n

def writeSign (negative : Bool) : List Char :=
  if negative then ['-'] else []

def writeNumber : Number → List Char
  | .whole negative magnitude => writeSign negative ++ writeNatural magnitude
  | .scaled negative mantissa exponent =>
    writeSign negative ++ writeNatural mantissa ++ ['e'] ++ writeSign (exponent < 0)
      ++ writeNatural exponent.natAbs

mutual

/-- A value as text. -/
def write : Json → List Char
  | null => ['n', 'u', 'l', 'l']
  | bool true => ['t', 'r', 'u', 'e']
  | bool false => ['f', 'a', 'l', 's', 'e']
  | number value => writeNumber value
  | text value => writeText value
  | unpaired => ['"', '\\', 'u', 'd', '8', '0', '0', '"']
  | array items => '[' :: writeItems items ++ [']']
  | object fields => '\x7b' :: writeFields fields ++ ['\x7d']

/-- Items with commas between them. -/
def writeItems : List Json → List Char
  | [] => []
  | [item] => item.write
  | item :: next :: rest => item.write ++ ',' :: writeItems (next :: rest)

/-- Fields with commas between them. -/
def writeFields : List (String × Json) → List Char
  | [] => []
  | [(key, value)] => writeText key ++ ':' :: value.write
  | (key, value) :: next :: rest =>
    writeText key ++ ':' :: value.write ++ ',' :: writeFields (next :: rest)

end

def toText (value : Json) : String :=
  String.ofList value.write

end VirtualShell.Json
