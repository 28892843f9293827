/-!
White space, as the Unicode property White_Space has it: twenty-five
characters in ten ranges. Lines are trimmed and split by this property and by
no other notion of a blank.
-/

namespace VirtualShell.Text

/-- The White_Space characters as closed ranges of code points, ascending. -/
def blankRanges : List (Nat × Nat) :=
  [(0x09, 0x0D), (0x20, 0x20), (0x85, 0x85), (0xA0, 0xA0), (0x1680, 0x1680),
   (0x2000, 0x200A), (0x2028, 0x2029), (0x202F, 0x202F), (0x205F, 0x205F), (0x3000, 0x3000)]

/-- Whether a code point lies in one of the closed ranges. -/
def inRanges (ranges : List (Nat × Nat)) (code : Nat) : Bool :=
  ranges.any fun range => range.1 ≤ code && code ≤ range.2

def isBlank (c : Char) : Bool :=
  inRanges blankRanges c.toNat

/-- A text that holds nothing but white space; the empty text is one. -/
def allBlank (s : String) : Bool :=
  s.toList.all isBlank

/-- Drop the white space at both ends of a list of characters. -/
def trimChars (cs : List Char) : List Char :=
  ((cs.dropWhile isBlank).reverse.dropWhile isBlank).reverse

/-- A text without the white space at its ends. -/
def trim (s : String) : String :=
  String.ofList (trimChars s.toList)

end VirtualShell.Text
