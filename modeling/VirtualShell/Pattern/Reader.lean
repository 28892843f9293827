import VirtualShell.Pattern.Bracket
import VirtualShell.Text.Alphanumeric
/-!
Reading a pattern. A machine goes over the characters and keeps the groups that
are still open, innermost first. A repetition with counts in braces is not
supported, so that an opening brace stands only where every character does.
-/

namespace VirtualShell.Pattern

/-- Options while they are read. -/
structure FlagDraft where
  flags : PatternFlags := {}
  /-- A hyphen has been read: what follows is switched off. -/
  negated : Bool := false
  /-- Nothing has followed the hyphen yet. -/
  dangling : Bool := false
deriving DecidableEq, Repr

namespace FlagDraft

/-- Add a hyphen or the letter of an option; neither may come twice. -/
def add? (draft : FlagDraft) (c : Char) : Option FlagDraft :=
  if c = '-' then
    if draft.negated then none else some { draft with negated := true, dangling := true }
  else match PatternFlag.ofChar? c with
    | none => none
    | some flag =>
      if draft.flags.on.contains flag || draft.flags.off.contains flag then none
      else if draft.negated then
        some { draft with flags.off := flag :: draft.flags.off, dangling := false }
      else some { draft with flags.on := flag :: draft.flags.on }

def isEmpty (draft : FlagDraft) : Bool :=
  draft.flags.on.isEmpty && draft.flags.off.isEmpty

end FlagDraft

/-- Options up to a colon or a closing parenthesis, which of the two it is, and
what follows it. -/
def readFlags (draft : FlagDraft) : List Char → Option (FlagDraft × Char × List Char)
  | [] => none
  | c :: cs =>
    if c = ':' || c = ')' then if draft.dangling then none else some (draft, c, cs)
    else match draft.add? c with
      | some draft => readFlags draft cs
      | none => none

/-- A character of a group's name. -/
def isNameChar (first : Bool) (c : Char) : Bool :=
  if first then c = '_' || Text.isAlphabetic c
  else ['_', '.', '[', ']'].contains c || Text.isAlphanumeric c

/-- The name of a group up to its closing angle bracket. -/
def groupName? (cs : List Char) : Option (List Char × List Char) :=
  match cs.takeWhile (· ≠ '>'), cs.dropWhile (· ≠ '>') with
  | first :: more, _ :: rest =>
    if isNameChar true first && more.all (isNameChar false) then some (first :: more, rest)
    else none
  | _, _ => none

/-- How a group begins. -/
inductive GroupHead where
  | plain (flags : PatternFlags)
  | named (name : List Char)
  /-- No group at all but options for what follows. -/
  | flags (value : PatternFlags)
deriving DecidableEq, Repr

/-- The beginning of a group behind its parenthesis. Groups that look around are
not supported. -/
def groupHead? : List Char → Option (GroupHead × List Char)
  | '?' :: '=' :: _ | '?' :: '!' :: _ | '?' :: '<' :: '=' :: _ | '?' :: '<' :: '!' :: _ => none
  | '?' :: 'P' :: '<' :: rest | '?' :: '<' :: rest =>
    (groupName? rest).map fun found => (.named found.1, found.2)
  | '?' :: rest =>
    match readFlags {} rest with
    | none => none
    | some (draft, ending, rest) =>
      if ending = ':' then some (.plain draft.flags, rest)
      else if draft.isEmpty then none
      else some (.flags draft.flags, rest)
  | rest => some (.plain {}, rest)

/-- A group that is still open, with what surrounds it. -/
structure OpenGroup where
  flags : PatternFlags
  /-- The option to ignore space around the group. -/
  ignoreSpace : Bool
  alternatives : List Pattern
  parts : List Pattern
deriving Repr

structure Reader where
  groups : List OpenGroup := []
  /-- The alternatives before the current one, latest first. -/
  alternatives : List Pattern := []
  /-- The parts of the current alternative, latest first. -/
  parts : List Pattern := []
  ignoreSpace : Bool := false
  /-- The names of groups so far. -/
  names : List (List Char) := []
deriving Repr

namespace Reader

def add (reader : Reader) (part : Pattern) : Reader :=
  { reader with parts := part :: reader.parts }

/-- What the innermost open group holds so far. -/
def body (reader : Reader) : Pattern :=
  ofAlternatives (ofParts reader.parts.reverse :: reader.alternatives).reverse

def nextAlternative (reader : Reader) : Reader :=
  { reader with
    alternatives := ofParts reader.parts.reverse :: reader.alternatives
    parts := [] }

/-- Repeat the latest part, which must be there and must be more than
options. -/
def repeatPart? (reader : Reader) : Option Reader :=
  match reader.parts with
  | [] | .empty :: _ | .flags _ :: _ => none
  | part :: before => some { reader with parts := .repetition part :: before }

def openGroup (reader : Reader) (switched : PatternFlags) : Reader :=
  { reader with
    groups := ⟨switched, reader.ignoreSpace, reader.alternatives, reader.parts⟩ :: reader.groups
    alternatives := []
    parts := []
    ignoreSpace := switched.apply .ignoreSpace reader.ignoreSpace }

/-- Begin a group or switch options. No two groups have one name. -/
def enter? (reader : Reader) : GroupHead → Option Reader
  | .plain switched => some (reader.openGroup switched)
  | .named name =>
    if reader.names.contains name then none
    else some { reader.openGroup {} with names := name :: reader.names }
  | .flags value =>
    some { reader.add (.flags value) with
      ignoreSpace := value.apply .ignoreSpace reader.ignoreSpace }

/-- End the innermost group. -/
def leave? (reader : Reader) : Option Reader :=
  match reader.groups with
  | [] => none
  | inner :: groups =>
    some { reader with
      groups
      alternatives := inner.alternatives
      parts := .group inner.flags reader.body :: inner.parts
      ignoreSpace := inner.ignoreSpace }

/-- Read a part, an operator or a parenthesis. A question mark behind a
repetition belongs to it. -/
def step? (reader : Reader) : List Char → Option (Reader × List Char)
  | [] => none
  | '(' :: rest =>
    match groupHead? (skip reader.ignoreSpace rest) with
    | some (head, rest) => (reader.enter? head).map (·, rest)
    | none => none
  | ')' :: rest => reader.leave?.map (·, rest)
  | '|' :: rest => some (reader.nextAlternative, rest)
  | '[' :: rest => (bracket? reader.ignoreSpace rest).map fun found => (reader.add found.1, found.2)
  | '?' :: '?' :: rest | '*' :: '?' :: rest | '+' :: '?' :: rest
  | '?' :: rest | '*' :: rest | '+' :: rest => reader.repeatPart?.map (·, rest)
  | '\x7b' :: _ => none
  | '.' :: rest => some (reader.add .dot, rest)
  | '^' :: rest | '$' :: rest => some (reader.add .anchor, rest)
  | '\\' :: rest =>
    match escape? reader.ignoreSpace rest with
    | some (.literal value, rest) => some (reader.add (.literal value), rest)
    | some (.shorthand negated, rest) => some (reader.add (.shorthand negated), rest)
    | some (.anchor, rest) => some (reader.add .anchor, rest)
    | some (.wordBoundary, rest) => some (reader.add .wordBoundary, rest)
    | none => none
  | c :: rest => some (reader.add (.literal ⟨c, false⟩), rest)

/-- Read on to the end. Every step takes something away; one that did not would
end the reading. -/
def run? (reader : Reader) (cs : List Char) : Option Reader :=
  let left := skip reader.ignoreSpace cs
  if left.isEmpty then some reader
  else match reader.step? left with
    | none => none
    | some (next, rest) => if rest.length < cs.length then next.run? rest else none
termination_by cs.length

end Reader

/-- The pattern that a text writes; `none` if it writes none. -/
def parse? (cs : List Char) : Option Pattern :=
  match Reader.run? {} cs with
  | none => none
  | some reader => if reader.groups.isEmpty then some reader.body else none

end VirtualShell.Pattern
