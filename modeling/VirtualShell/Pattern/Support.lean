import VirtualShell.Pattern.Reader
/-!
Which patterns can be used. They match texts and never a part of a character,
and they know no data on characters beyond ASCII: neither letter case, nor what
a digit, a blank or a part of a word is. So the shorthands and word boundaries
are for bytes only, and whatever may match a byte that is no ASCII character is
refused.
-/

namespace VirtualShell.Pattern

/-- The options that decide what is supported. -/
structure Mode where
  ignoreCase : Bool := false
  unicode : Bool := true
deriving DecidableEq, Repr

namespace Mode

def switch (mode : Mode) (flags : PatternFlags) : Mode where
  ignoreCase := flags.apply .ignoreCase mode.ignoreCase
  unicode := flags.apply .unicode mode.unicode

end Mode

mutual

/-- Whether a set can be used. About characters, only an empty one can be used
without regard to case. -/
def supportsSet (mode : Mode) : CharSet → Bool
  | .empty => true
  | .literal value => if mode.unicode then !mode.ignoreCase else value.char.toNat < 0x80
  | .range first last =>
    if mode.unicode then !mode.ignoreCase
    else first.char.toNat < 0x80 && last.char.toNat < 0x80
  | .named negated => if mode.unicode then !mode.ignoreCase else !negated
  | .shorthand negated => !mode.unicode && !negated
  | .bracket negated set => (mode.unicode || !negated) && supportsSet mode set
  | .union items => supportsSets mode items
  | .operation left right => supportsSet mode left && supportsSet mode right

def supportsSets (mode : Mode) : List CharSet → Bool
  | [] => true
  | item :: rest => supportsSet mode item && supportsSets mode rest

end

/-- A character that is written as a byte beyond ASCII is no text. -/
def supportsLiteral (mode : Mode) (value : PatternLiteral) : Bool :=
  if mode.unicode then !mode.ignoreCase else !(value.asByte && 0x80 ≤ value.char.toNat)

mutual

/-- Whether a pattern can be used under some options, with the options for what
follows it; `none` if not. Options that are switched hold up to the end of the
group. -/
def supported? (mode : Mode) : Pattern → Option Mode
  | empty | anchor => some mode
  | flags value => some (mode.switch value)
  | literal value => if supportsLiteral mode value then some mode else none
  | dot => if mode.unicode then some mode else none
  | wordBoundary => if mode.unicode then none else some mode
  | shorthand negated => if mode.unicode || negated then none else some mode
  | bracket negated set => if supportsSet mode (.bracket negated set) then some mode else none
  | repetition body => supported? mode body
  | group switched body => (supported? (mode.switch switched) body).map fun _ => mode
  | alternatives bodies => supportedAll? mode bodies
  | sequence parts => supportedAll? mode parts

/-- The same for patterns one after the other. -/
def supportedAll? (mode : Mode) : List Pattern → Option Mode
  | [] => some mode
  | part :: rest =>
    match supported? mode part with
    | some mode => supportedAll? mode rest
    | none => none

end

/-- Patterns may nest so deep. -/
def depthLimit : Nat := 250

/-- Whether a text is a pattern that can be used. -/
def isUsable (cs : List Char) : Bool :=
  match parse? cs with
  | some pattern => pattern.depth ≤ depthLimit && (supported? {} pattern).isSome
  | none => false

end VirtualShell.Pattern
