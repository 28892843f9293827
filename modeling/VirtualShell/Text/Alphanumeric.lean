import VirtualShell.Text.Alphanumeric.Table
import VirtualShell.Text.Blank
/-!
Letters and numbers of all scripts.
-/

namespace VirtualShell.Text

def isAlphabetic (c : Char) : Bool :=
  c.isAlpha || inRanges alphabeticRanges c.toNat

def isNumeric (c : Char) : Bool :=
  c.isDigit || inRanges numericRanges c.toNat

def isAlphanumeric (c : Char) : Bool :=
  isAlphabetic c || isNumeric c

end VirtualShell.Text
