import VirtualShell.Text.Blank
import VirtualShell.Text.Width.Table
/-!
The number of columns that a text takes in a terminal. It is the sum of the
widths of its characters, except where characters form one glyph: letters that
are joined to a ligature, an emoji with a style selector or a skin tone, emoji
joined into one, and a line end of two characters. A text is read from its end,
so that a character meets what stands to its right.
-/

namespace VirtualShell.Text

/-- Joins what stands on either side of it. -/
def joiner : Char := '\u200D'

/-- Asks for the character before it as a picture. -/
def pictureSelector : Char := '\uFE0F'

/-- Asks for the character before it as text. -/
def textSelector : Char := '\uFE0E'

/-- The right part of a ligature. Some parts join only with a joiner between
them and the left part, and keep whether they have met one. -/
inductive LigatureEnd where
  | alef
  | lamed (joined : Bool)
  | buginese (joined : Bool)
  /-- A Buginese letter ya, joined to a vowel sign in front of it. -/
  | bugineseSyllable
  | tifinagh (joined : Bool)
  /-- A Tifinagh consonant with the sign that links it to another one. -/
  | linkedTifinagh
  | lisuTone
  | turkic (joined : Bool)
  /-- A Khmer letter that can be written below another one. -/
  | khmerLetter
deriving DecidableEq, Repr

/-- A style that a selector asks for. -/
inductive Style where
  | text
  | picture
deriving DecidableEq, Repr

/-- Tag characters at the end of a flag, in the order from the end. -/
inductive TagRun where
  | letters (count : Nat)
  | digits (count : Nat)
deriving DecidableEq, Repr

/-- What stands to the right of a character, as far as it matters to the
character's width. -/
inductive Follower where
  | plain
  | lineFeed
  | styled (style : Style)
  | skinTone
  | region
  | regions
  | picture
  /-- A joiner in front of a picture, with the sign of a keycap and a selector
  for pictures before it or not. -/
  | joined (keycap selected : Bool)
  | joinedTags (run : TagRun)
  | joinedRegion
  /-- Several regional indicators in front of a joiner. -/
  | joinedRegions (even : Bool)
  | ligature (part : LigatureEnd) (style : Option Style)
deriving DecidableEq, Repr

def isRegion (c : Char) : Bool :=
  inRanges [(0x1F1E6, 0x1F1FF)] c.toNat

def isSkinTone (c : Char) : Bool :=
  inRanges [(0x1F3FB, 0x1F3FF)] c.toNat

def isTagLetter (c : Char) : Bool :=
  inRanges [(0xE0061, 0xE007A)] c.toNat

def isTagDigit (c : Char) : Bool :=
  inRanges [(0xE0030, 0xE0039)] c.toNat

def isPicture (c : Char) : Bool :=
  inRanges pictureRanges c.toNat

def isAlef (c : Char) : Bool :=
  inRanges [(0x622, 0x623), (0x625, 0x625), (0x627, 0x627), (0x671, 0x673), (0x675, 0x675),
    (0x773, 0x774), (0x870, 0x882)] c.toNat

def isLam (c : Char) : Bool :=
  inRanges [(0x644, 0x644), (0x6B5, 0x6B8), (0x76A, 0x76A), (0x8A6, 0x8A6), (0x8C7, 0x8C7)]
    c.toNat

def isTifinagh (c : Char) : Bool :=
  inRanges [(0x2D31, 0x2D65), (0x2D6F, 0x2D6F)] c.toNat

def isKhmerLetter (c : Char) : Bool :=
  inRanges [(0x1780, 0x1782), (0x1784, 0x1787), (0x1789, 0x178C), (0x178E, 0x1793),
    (0x1795, 0x1798), (0x179B, 0x179D), (0x17A0, 0x17A0), (0x17A2, 0x17A2), (0x17A7, 0x17A7),
    (0x17AB, 0x17AC), (0x17AF, 0x17AF)] c.toNat

/-- A mark that is not seen and does not part the letters of a ligature. -/
def isInvisibleMark (c : Char) : Bool :=
  inRanges [(0x34F, 0x34F), (0x17B4, 0x17B5), (0x180B, 0x180D), (0x180F, 0x180F),
    (0xFE00, 0xFE0F), (0xE0100, 0xE01EF)] c.toNat

/-- The columns of a character by itself. Control characters take one, as they
are drawn as one glyph or not at all. -/
def charWidth (c : Char) : Nat :=
  let code := c.toNat
  if code ≤ 0xA0 then 1
  else if inRanges zeroWidthRanges code then 0
  else if code = 0x17D8 then 3
  else if inRanges wideRanges code then 2
  else 1

/-- Whether Arabic letters join across a character. -/
def isTransparent (c : Char) : Bool :=
  charWidth c = 0 && !inRanges opaqueZeroWidthRanges c.toNat

/-- What a character is to its left neighbour, where it does not take part in a
sequence with what follows. -/
def Follower.ofChar (c : Char) : Follower :=
  if c = '\n' then .lineFeed
  else if c = pictureSelector then .styled .picture
  else if c = textSelector then .styled .text
  else if isSkinTone c then .skinTone
  else if isRegion c then .region
  else if isPicture c then .picture
  else if isAlef c then .ligature .alef none
  else if c = '\u05DC' then .ligature (.lamed false) none
  else if c = '\u1A10' then .ligature (.buginese false) none
  else if isTifinagh c then .ligature (.tifinagh false) none
  else if c = '\uA4FC' || c = '\uA4FD' then .ligature .lisuTone none
  else if c = Char.ofNat 0x10C03 then .ligature (.turkic false) none
  else if isKhmerLetter c then .ligature .khmerLetter none
  else .plain

/-- A character that takes part in no sequence with what follows. A line feed
takes no column. -/
def aloneWidth (c : Char) : Int × Follower :=
  (if c = '\n' then 0 else charWidth c, Follower.ofChar c)

namespace LigatureEnd

/-- The part with a joiner in front of it. -/
def join : LigatureEnd → LigatureEnd
  | lamed _ => lamed true
  | buginese _ => buginese true
  | tifinagh _ => tifinagh true
  | turkic _ => turkic true
  | part => part

/-- A character in front of the part if it belongs to the ligature. The columns
of a ligature are counted with its right part, except that a sign which links
two letters is counted until it is known that there is a first one. -/
def before? (c : Char) : LigatureEnd → Option (Int × Follower)
  | alef =>
    if isLam c then some (0, .plain)
    else if isTransparent c then some (0, .ligature alef none)
    else none
  | part =>
    if c = joiner then some (0, .ligature part.join none)
    else if isInvisibleMark c then some (0, .ligature part none)
    else match part with
      | lamed true => if c = '\u05D0' then some (0, .plain) else none
      | buginese true => if c = '\u1A17' then some (0, .ligature bugineseSyllable none) else none
      | bugineseSyllable => if c = '\u1A15' then some (0, .plain) else none
      | tifinagh joined =>
        if c = '\u2D7F' then some (1, .ligature linkedTifinagh none)
        else if joined && isTifinagh c then some (0, .plain)
        else none
      | linkedTifinagh => if isTifinagh c then some (-1, .plain) else none
      | lisuTone => if inRanges [(0xA4F8, 0xA4FB)] c.toNat then some (0, .plain) else none
      | turkic true => if c = Char.ofNat 0x10C32 then some (0, .plain) else none
      | khmerLetter => if c = '\u17D2' then some (-1, .plain) else none
      | _ => none

end LigatureEnd

/-- A character in front of tags. A black flag becomes another one by three to
six tag letters, or by three tag digits and up to four letters behind them. -/
def TagRun.before? (c : Char) (run : TagRun) : Option (Int × Follower) :=
  let isFlag := c = Char.ofNat 0x1F3F4
  match run with
  | letters count =>
    if isTagLetter c && count < 6 then some (0, .joinedTags (letters (count + 1)))
    else if isTagDigit c && count ≤ 4 then some (0, .joinedTags (digits 1))
    else if isFlag && 3 ≤ count then some (0, .picture)
    else none
  | digits count =>
    if isTagDigit c && count < 3 then some (0, .joinedTags (digits (count + 1)))
    else if isFlag && count = 3 then some (0, .picture)
    else none

namespace Follower

/-- Behind a selector for pictures. -/
def selectPicture : Follower → Follower
  | joined keycap _ => joined keycap true
  | ligature part _ => ligature part (some .picture)
  | _ => styled .picture

/-- Behind a selector for text. -/
def selectText : Follower → Follower
  | ligature part _ => ligature part (some .text)
  | _ => styled .text

/-- Whether a joiner joins what stands in front to a picture. -/
def isJoined : Follower → Bool
  | joined _ _ => true
  | _ => false

/-- Whether the character in front is asked for in a style. -/
def asks (style : Style) : Follower → Bool
  | styled asked => asked = style
  | joined _ selected => selected && style = .picture
  | ligature _ asked => asked = some style
  | _ => false

/-- What is left when the character in front does not have the style that is
asked for. Only a ligature outlives that. -/
def decline (style : Style) (follower : Follower) : Follower :=
  if !follower.asks style then follower
  else match follower with
    | ligature part _ => ligature part none
    | _ => plain

/-- A character in front of a follower that asks for no style, if the two form
a sequence. The last character of a sequence carries its columns. -/
def before? (c : Char) : Follower → Option (Int × Follower)
  | skinTone =>
    if inRanges tintableRanges c.toNat then some (0, picture)
    else if c = joiner then some (0, joined false false)
    else none
  | region => if isRegion c then some (1, regions) else none
  | regions =>
    if isRegion c then some (1, regions)
    else if c = joiner then some (0, joined false false)
    else none
  | picture => if c = joiner then some (0, joined false false) else none
  | joined false _ =>
    if c = '\u20E3' then some (0, joined true false)
    else if isRegion c then some (1, joinedRegion)
    else if isSkinTone c then some (0, skinTone)
    else if c = Char.ofNat 0xE007F then some (0, joinedTags (.letters 0))
    else if isPicture c then some (0, picture)
    else none
  | joinedTags run => run.before? c
  | joinedRegion => if isRegion c then some (-1, joinedRegions true) else none
  | joinedRegions even =>
    if isRegion c then some (if even then 3 else -1, joinedRegions !even)
    else if c = joiner then some (0, joined false false)
    else none
  | ligature part _ => part.before? c
  | _ => none

end Follower

/-- The columns that a character adds in front of its follower; they are fewer
than none where a sequence turns out narrower than its right part. -/
def widthBefore (c : Char) (follower : Follower) : Int × Follower :=
  if follower.asks .picture && inRanges styledRanges c.toNat then
    (if follower.isJoined then 0 else 2, .picture)
  else if c.toNat ≤ 0xA0 then
    if c = '\r' && follower = .lineFeed then (0, .plain) else aloneWidth c
  else
    let follower := follower.decline .picture
    if c = pictureSelector then (0, follower.selectPicture)
    else if c = textSelector then (0, follower.selectText)
    else if follower.asks .text && inRanges narrowableRanges c.toNat then (1, .plain)
    else ((follower.decline .text).before? c).getD (aloneWidth c)

/-- The columns of a list of characters, and what the list is to a character
in front of it. -/
def widthChars : List Char → Int × Follower
  | [] => (0, .plain)
  | c :: cs =>
    let (rest, follower) := widthChars cs
    let (added, left) := widthBefore c follower
    (added + rest, left)

/-- The columns that a text takes. -/
def width (s : String) : Nat :=
  (widthChars s.toList).1.toNat

end VirtualShell.Text
