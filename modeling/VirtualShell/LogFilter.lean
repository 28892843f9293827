import VirtualShell.Fault
import VirtualShell.Numeral
import VirtualShell.Pattern.Support
import VirtualShell.Text.Split
/-!
Filters for log messages: directives with commas between them. A directive names
a level, or a target, or spans in brackets with fields in braces, and may end in
a level behind an equals sign. A field may have a value, which is a number or a
pattern. Only whether a filter is acceptable is decided here.
-/

namespace VirtualShell.LogFilter

def levelNames : List String :=
  ["off", "error", "warn", "info", "debug", "trace"]

/-- A number of a level; a plus sign and leading zeros are allowed. -/
def isLevelNumber (cs : List Char) : Bool :=
  let digits := match cs with
    | '+' :: rest => rest
    | _ => cs
  !digits.isEmpty && digits.all Char.isDigit && Numeral.decimalValue digits ≤ 5

/-- Whether a text names a level, in any letter case; no text at all does. -/
def isLevel (cs : List Char) : Bool :=
  cs.isEmpty || isLevelNumber cs || levelNames.contains (String.ofList (cs.map Char.toLower))

/-- Whether a value can be compared with what is logged. -/
def isFieldValue (cs : List Char) : Bool :=
  Numeral.isFloat cs || Pattern.isUsable cs

/-- Whether a field is a name with or without a value behind an equals sign; a
second equals sign ends the value. -/
def isField (cs : List Char) : Bool :=
  match Text.splitChars '=' cs with
  | _ :: value :: _ => isFieldValue value
  | _ => true

/-- Where in a directive a character stands. -/
inductive State where
  | start
  | nameOrLevel
  | span
  /-- In a field that begins at an offset. -/
  | field (offset : Nat)
  | fieldsEnd
  | spanEnd
  /-- In a level that begins at an offset. -/
  | level (offset : Nat)
deriving DecidableEq, Repr

/-- A character that a name may begin with. -/
def startsName (c : Char) : Bool :=
  c = '-' || c = ':' || c = '_' || Text.isAlphanumeric c

/-- The state behind a character at an offset. What is cut from the directive
is cut by offsets in the directive without the white space around it, but from
the directive with it. -/
def State.step (directive : List Char) (offset : Nat) (c : Char) : State → Option State
  | start =>
    if c = '[' then some span
    else if startsName c then some nameOrLevel
    else none
  | nameOrLevel =>
    if c = '=' then some (level (offset + 1))
    else if c = '[' then some span
    else some nameOrLevel
  | span =>
    if c = ']' then some spanEnd
    else if c = '\x7b' then some (field (offset + 1))
    else some span
  | field first =>
    if c = '\x7d' then
      if first = offset then none
      else if isField (Text.sliceBytesChars first offset directive) then some fieldsEnd
      else none
    else some (field first)
  | fieldsEnd => if c = ']' then some spanEnd else none
  | spanEnd => if c = '=' then some (level (offset + 1)) else none
  | level first => some (level first)

def State.run (directive : List Char) (offset : Nat) (state : State) : List Char → Option State
  | [] => some state
  | c :: cs =>
    match state.step directive offset c with
    | some next => next.run directive (offset + c.utf8Size) cs
    | none => none

/-- Whether a directive may end in a state. As its level is cut from the
directive with the white space around it, a level goes with no white space on
either side. -/
def State.isFinal (directive : List Char) : State → Bool
  | nameOrLevel | spanEnd => true
  | level first => isLevel (Text.dropBytesChars first directive)
  | start | span | field _ | fieldsEnd => false

def isDirective (directive : List Char) : Bool :=
  match State.start.run directive 0 (Text.trimChars directive) with
  | some state => state.isFinal directive
  | none => false

/-- Whether every directive of a filter can be read; empty ones do not
count. -/
def isValid (filter : String) : Bool :=
  ((Text.splitChars ',' filter.toList).filter fun directive => !directive.isEmpty).all isDirective

/-- Accept a filter or say that it cannot be read. -/
def check (filter : String) : Except Fault Unit :=
  if isValid filter then .ok ()
  else .error (Fault.described .invalidValue
    ("invalid log filter '" ++ filter ++ "': invalid filter directive"))

end VirtualShell.LogFilter
