import VirtualShell.Text.Blank
import VirtualShell.Text.Cluster.Table
/-!
The user-perceived characters of a text: the extended grapheme clusters of
Unicode. Whether a text may be cut in front of a character depends on that
character and on a summary of what precedes it.
-/

namespace VirtualShell.Text

/-- What a character is to its neighbours within a cluster. -/
inductive ClusterClass where
  | other
  | carriageReturn
  | lineFeed
  | control
  | extend
  /-- Extends like others, and keeps consonants from forming a conjunct. -/
  | nonJoiner
  /-- Extends like others, and links two consonants to a conjunct. -/
  | linker
  | joiner
  | spacing
  | prepend
  | region
  | pictograph
  | conjunct
  | lead
  | vowel
  | trail
  | leadVowel
  | leadVowelTrail
deriving DecidableEq, Repr

namespace ClusterClass

/-- The class of a Hangul letter or syllable, or of a vowel that works like a
Hangul one. -/
def ofHangul? (code : Nat) : Option ClusterClass :=
  if inRanges [(0xAC00, 0xD7A3)] code then
    some (if (code - 0xAC00) % 28 = 0 then leadVowel else leadVowelTrail)
  else if inRanges [(0x1100, 0x115F), (0xA960, 0xA97C)] code then some lead
  else if inRanges [(0x1160, 0x11A7), (0xD7B0, 0xD7C6), (0x16D63, 0x16D63),
      (0x16D67, 0x16D6A)] code then some vowel
  else if inRanges [(0x11A8, 0x11FF), (0xD7CB, 0xD7FB)] code then some trail
  else none

/-- The class of a character that is not Hangul. -/
def ofCode (code : Nat) : ClusterClass :=
  if code = 0x0D then carriageReturn
  else if code = 0x0A then lineFeed
  else if code = 0x200C then nonJoiner
  else if code = 0x200D then joiner
  else if inRanges controlRanges code then control
  else if inRanges conjunctLinkerRanges code then linker
  else if inRanges extendRanges code then extend
  else if inRanges spacingRanges code then spacing
  else if inRanges prependRanges code then prepend
  else if inRanges [(0x1F1E6, 0x1F1FF)] code then region
  else if inRanges pictographRanges code then pictograph
  else if inRanges conjunctRanges code then conjunct
  else other

def ofChar (c : Char) : ClusterClass :=
  (ofHangul? c.toNat).getD (ofCode c.toNat)

/-- Whether a character of the class extends any character before it, joiners
aside. -/
def isExtender (k : ClusterClass) : Bool :=
  k = extend || k = nonJoiner || k = linker

/-- Whether a cluster always ends before and behind a character of the class. -/
def isSeparate (k : ClusterClass) : Bool :=
  k = carriageReturn || k = lineFeed || k = control

/-- Whether a character of the class may stand between the consonants of a
conjunct. -/
def keepsConjunct (k : ClusterClass) : Bool :=
  k = extend || k = linker || k = joiner

/-- Whether two Hangul classes follow each other within a syllable. -/
def formSyllable : ClusterClass → ClusterClass → Bool
  | lead, k => k = lead || k = vowel || k = leadVowel || k = leadVowelTrail
  | leadVowel, k | vowel, k => k = vowel || k = trail
  | leadVowelTrail, k | trail, k => k = trail
  | _, _ => false

end ClusterClass

/-- What precedes a character, as far as it matters to a cut in front of it. -/
structure ClusterContext where
  last : ClusterClass := .control
  /-- A pictograph, with extenders at most behind it. -/
  pictograph : Bool := false
  /-- The same with a joiner at the end. -/
  joinedPictograph : Bool := false
  /-- A consonant, with what may stand in a conjunct at most behind it. -/
  consonant : Bool := false
  /-- The same with a linker among it. -/
  linkedConsonant : Bool := false
  /-- An odd number of regional indicators. -/
  oddRegions : Bool := false
deriving DecidableEq, Repr

namespace ClusterContext

def push (before : ClusterContext) (k : ClusterClass) : ClusterContext where
  last := k
  pictograph := k = .pictograph || (before.pictograph && k.isExtender)
  joinedPictograph := before.pictograph && k = .joiner
  consonant := k = .conjunct || (before.consonant && k.keepsConjunct)
  linkedConsonant :=
    before.consonant && (k = .linker || (before.linkedConsonant && k.keepsConjunct))
  oddRegions := k = .region && !before.oddRegions

/-- Whether a character belongs to the same cluster as the one before it. -/
def joins (before : ClusterContext) (k : ClusterClass) : Bool :=
  if before.last = .carriageReturn && k = .lineFeed then true
  else if before.last.isSeparate || k.isSeparate then false
  else ClusterClass.formSyllable before.last k || k.isExtender || k = .joiner || k = .spacing
    || before.last = .prepend
    || (k = .conjunct && before.linkedConsonant)
    || (k = .pictograph && before.joinedPictograph)
    || (k = .region && before.oddRegions)

end ClusterContext

/-- The clusters of a text of which a part has been read; `current` is the
cluster at its end, latest character first. -/
def clustersFrom (before : ClusterContext) (current : List Char) : List Char → List (List Char)
  | [] => [current.reverse]
  | c :: cs =>
    let k := ClusterClass.ofChar c
    if before.joins k then clustersFrom (before.push k) (c :: current) cs
    else current.reverse :: clustersFrom (before.push k) [c] cs

/-- The clusters of a list of characters, in order. -/
def clusters : List Char → List (List Char)
  | [] => []
  | c :: cs => clustersFrom (({} : ClusterContext).push (ClusterClass.ofChar c)) [c] cs

end VirtualShell.Text
