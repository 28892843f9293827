/-!
Cutting a text at a character and joining texts with a separator. Every
occurrence of the character counts, so neighbouring and outer ones give empty
pieces, and joining the pieces with the character gives the text back.
-/

namespace VirtualShell.Text

/-- The pieces of a list of characters between the occurrences of `sep`:
one more than there are occurrences, hence never none. -/
def splitChars (sep : Char) : List Char → List (List Char)
  | [] => [[]]
  | c :: cs =>
    if c = sep then [] :: splitChars sep cs
    else match splitChars sep cs with
      | [] => [[c]]
      | piece :: pieces => (c :: piece) :: pieces

def split (sep : Char) (s : String) : List String :=
  (splitChars sep s.toList).map String.ofList

/-- The texts in order with `sep` between neighbours. -/
def join (sep : String) : List String → String
  | [] => ""
  | [s] => s
  | s :: t :: rest => s ++ sep ++ join sep (t :: rest)

/-- What stands before the first `sep`, and what stands after it if there is
one. -/
def cutChars (sep : Char) : List Char → List Char × Option (List Char)
  | [] => ([], none)
  | c :: cs =>
    if c = sep then ([], some cs)
    else
      let (before, after) := cutChars sep cs
      (c :: before, after)

def cut (sep : Char) (s : String) : String × Option String :=
  let (before, after) := cutChars sep s.toList
  (String.ofList before, after.map String.ofList)

/-- Whether a text begins with another one. -/
def startsWith (s beginning : String) : Bool :=
  beginning.toList.isPrefixOf s.toList

/-- The longest beginning of a text that takes at most `bytes` bytes of
UTF-8; a character is never split. -/
def takeBytesChars : Nat → List Char → List Char
  | _, [] => []
  | bytes, c :: cs =>
    if c.utf8Size ≤ bytes then c :: takeBytesChars (bytes - c.utf8Size) cs else []

def takeBytes (bytes : Nat) (s : String) : String :=
  String.ofList (takeBytesChars bytes s.toList)

/-- What is left of a list of characters without its first bytes of UTF-8. A
character of which a part is taken is taken whole. -/
def dropBytesChars : Nat → List Char → List Char
  | 0, cs => cs
  | _, [] => []
  | bytes, c :: cs => dropBytesChars (bytes - c.utf8Size) cs

/-- What stands between two offsets, counted in bytes of UTF-8. -/
def sliceBytesChars (first last : Nat) (cs : List Char) : List Char :=
  takeBytesChars (last - first) (dropBytesChars first cs)

/-- The number of bytes of UTF-8 that a list of characters takes. -/
def byteLength : List Char → Nat
  | [] => 0
  | c :: cs => c.utf8Size + byteLength cs

end VirtualShell.Text
