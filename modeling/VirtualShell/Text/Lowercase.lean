import VirtualShell.Text.Blank
import VirtualShell.Text.Lowercase.Table
/-!
Lowercasing of whole texts by the full Unicode mapping. It is a map on texts
and not on characters: a dotted capital I becomes two characters, and a
capital sigma has a second form at the end of a word.
-/

namespace VirtualShell.Text

namespace CaseRun

def covers (run : CaseRun) (code : Nat) : Bool :=
  run.first ≤ code && code ≤ run.last && (code - run.first) % run.step = 0

def apply (run : CaseRun) (code : Nat) : Char :=
  Char.ofNat (run.shift + code).toNat

end CaseRun

/-- The lowercase of a character by itself, where that is a single character:
the character itself if it has no other. -/
def lowerSingle (c : Char) : Char :=
  if c.toNat < 0x80 then c.toLower
  else match lowercaseRuns.find? (·.covers c.toNat) with
    | some run => run.apply c.toNat
    | none => c

def isCased (c : Char) : Bool :=
  inRanges casedRanges c.toNat

def isCaseIgnorable (c : Char) : Bool :=
  inRanges caseIgnorableRanges c.toNat

/-- Whether the first character that takes part in case is a letter with
case. Applied to what surrounds a sigma, nearest character first. -/
def reachesCased (cs : List Char) : Bool :=
  match cs.dropWhile isCaseIgnorable with
  | [] => false
  | c :: _ => isCased c

/-- A sigma ends a word if a letter with case stands before it and none
follows. -/
def endsWord (before after : List Char) : Bool :=
  reachesCased before && !reachesCased after

/-- The lowercase of a character between its neighbours; `before` is what
precedes it, nearest first. -/
def lowerAt (before : List Char) (c : Char) (after : List Char) : List Char :=
  if c = 'Σ' then [if endsWord before after then 'ς' else 'σ']
  else if c = 'İ' then ['i', '\u0307']
  else [lowerSingle c]

def lowerChars (before : List Char) : List Char → List Char
  | [] => []
  | c :: cs => lowerAt before c cs ++ lowerChars (c :: before) cs

/-- A text in lower case. -/
def lowercase (s : String) : String :=
  String.ofList (lowerChars [] s.toList)

end VirtualShell.Text
