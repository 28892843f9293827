/-!
Patterns that match texts: regular expressions. A pattern is kept as it is
written, since a pattern is refused for its form and not for what it matches.
-/

namespace VirtualShell

/-- An option that a pattern can switch on or off within itself. -/
inductive PatternFlag where
  | ignoreCase
  | multiLine
  | dotAll
  | swapGreed
  | unicode
  | carriageReturn
  | ignoreSpace
deriving DecidableEq, Repr

namespace PatternFlag

def ofChar? : Char → Option PatternFlag
  | 'i' => some ignoreCase
  | 'm' => some multiLine
  | 's' => some dotAll
  | 'U' => some swapGreed
  | 'u' => some unicode
  | 'R' => some carriageReturn
  | 'x' => some ignoreSpace
  | _ => none

end PatternFlag

/-- The options that are switched at one place. No option is in both lists. -/
structure PatternFlags where
  on : List PatternFlag := []
  off : List PatternFlag := []
deriving DecidableEq, Repr

namespace PatternFlags

/-- An option behind the switch, given what it was before. -/
def apply (flags : PatternFlags) (flag : PatternFlag) (before : Bool) : Bool :=
  if flags.on.contains flag then true
  else if flags.off.contains flag then false
  else before

end PatternFlags

/-- A character in a pattern. One that is written as a byte, by two digits,
denotes that byte where a pattern is about bytes. -/
structure PatternLiteral where
  char : Char
  asByte : Bool := false
deriving DecidableEq, Repr

/-- A set of characters between brackets. -/
inductive CharSet where
  | empty
  | literal (value : PatternLiteral)
  | range (first last : PatternLiteral)
  /-- A set with a name between colons, such as the digits. -/
  | named (negated : Bool)
  /-- A set with a letter behind a backslash, such as the digits. -/
  | shorthand (negated : Bool)
  | bracket (negated : Bool) (set : CharSet)
  | union (items : List CharSet)
  /-- An intersection, a difference or a symmetric difference. -/
  | operation (left right : CharSet)
deriving Repr

inductive Pattern where
  | empty
  | flags (value : PatternFlags)
  | literal (value : PatternLiteral)
  | dot
  /-- The beginning or the end of a line or of the text. -/
  | anchor
  | wordBoundary
  | shorthand (negated : Bool)
  | bracket (negated : Bool) (set : CharSet)
  | repetition (body : Pattern)
  | group (flags : PatternFlags) (body : Pattern)
  | alternatives (bodies : List Pattern)
  | sequence (parts : List Pattern)
deriving Repr

namespace CharSet

/-- The set of some items; a single one stands for itself. -/
def ofItems : List CharSet → CharSet
  | [] => empty
  | [item] => item
  | items => union items

mutual

/-- How deep brackets, unions and operations nest. -/
def depth : CharSet → Nat
  | bracket _ set => 1 + set.depth
  | union items => 1 + itemsDepth items
  | operation left right => 1 + max left.depth right.depth
  | _ => 0

def itemsDepth : List CharSet → Nat
  | [] => 0
  | item :: rest => max item.depth (itemsDepth rest)

end

end CharSet

namespace Pattern

/-- The pattern of some parts in a row; a single one stands for itself. -/
def ofParts : List Pattern → Pattern
  | [] => empty
  | [part] => part
  | parts => sequence parts

/-- The pattern of some alternatives; a single one stands for itself. -/
def ofAlternatives : List Pattern → Pattern
  | [] => empty
  | [body] => body
  | bodies => alternatives bodies

mutual

/-- How deep a pattern nests. -/
def depth : Pattern → Nat
  | bracket _ set => 1 + set.depth
  | repetition body => 1 + body.depth
  | group _ body => 1 + body.depth
  | alternatives bodies => 1 + partsDepth bodies
  | sequence parts => 1 + partsDepth parts
  | _ => 0

def partsDepth : List Pattern → Nat
  | [] => 0
  | part :: rest => max part.depth (partsDepth rest)

end

end Pattern

end VirtualShell
