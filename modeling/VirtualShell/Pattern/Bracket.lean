import VirtualShell.Pattern.Escape
/-!
Reading sets of characters in brackets. A machine goes over the set and keeps
the brackets that are still open, innermost first.
-/

namespace VirtualShell.Pattern

/-- A bracket that is still open. -/
structure OpenBracket where
  negated : Bool
  /-- What stands before the latest operator. -/
  left : Option CharSet := none
  /-- The items since then, latest first. -/
  items : List CharSet := []
deriving Repr

namespace OpenBracket

def add (bracket : OpenBracket) (item : CharSet) : OpenBracket :=
  { bracket with items := item :: bracket.items }

/-- The set so far. Operators group to the left. -/
def set (bracket : OpenBracket) : CharSet :=
  let right := CharSet.ofItems bracket.items.reverse
  match bracket.left with
  | some left => .operation left right
  | none => right

/-- Go on behind an operator. -/
def operate (bracket : OpenBracket) : OpenBracket :=
  { bracket with left := some bracket.set, items := [] }

end OpenBracket

def setNames : List String :=
  ["alnum", "alpha", "ascii", "blank", "cntrl", "digit", "graph", "lower", "print", "punct",
    "space", "upper", "word", "xdigit"]

/-- A set with a name, behind its opening bracket. -/
def namedSet? : List Char → Option (CharSet × List Char)
  | ':' :: cs =>
    let (negated, cs) := match cs with
      | '^' :: rest => (true, rest)
      | _ => (false, cs)
    match cs.dropWhile (· ≠ ':') with
    | ':' :: ']' :: rest =>
      if setNames.contains (String.ofList (cs.takeWhile (· ≠ ':'))) then
        some (.named negated, rest)
      else none
    | _ => none
  | _ => none

/-- Take hyphens at the beginning of a bracket as items. -/
def takeHyphens (ignoreSpace : Bool) (bracket : OpenBracket) (cs : List Char) :
    OpenBracket × List Char :=
  match cs with
  | '-' :: rest =>
    have := length_skip_le ignoreSpace rest
    takeHyphens ignoreSpace (bracket.add (.literal ⟨'-', false⟩)) (skip ignoreSpace rest)
  | _ => (bracket, cs)
termination_by cs.length
decreasing_by simp only [List.length_cons]; omega

/-- Open a bracket. Hyphens at its beginning and a closing bracket as the first
item stand for themselves. -/
def openBracket (ignoreSpace : Bool) (cs : List Char) : OpenBracket × List Char :=
  let (negated, cs) := match skip ignoreSpace cs with
    | '^' :: rest => (true, skip ignoreSpace rest)
    | rest => (false, rest)
  match takeHyphens ignoreSpace { negated } cs with
  | (opened, ']' :: rest) =>
    if opened.items.isEmpty then (opened.add (.literal ⟨']', false⟩), skip ignoreSpace rest)
    else (opened, ']' :: rest)
  | found => found

/-- A character of a set, or what an escape stands for. -/
def setAtom? (ignoreSpace : Bool) : List Char → Option (Atom × List Char)
  | [] => none
  | '\\' :: rest => escape? ignoreSpace rest
  | c :: rest => some (.literal ⟨c, false⟩, rest)

/-- An atom as an item of a set. -/
def setItem? : Atom → Option CharSet
  | .literal value => some (.literal value)
  | .shorthand negated => some (.shorthand negated)
  | .anchor | .wordBoundary => none

/-- The character that is looked at behind a hyphen. Space is passed over when
it is ignored; of a comment its first character is looked at. -/
def peek (ignoreSpace : Bool) (cs : List Char) : Option Char :=
  if ignoreSpace then
    match cs.dropWhile Text.isBlank with
    | '#' :: comment => (comment.dropWhile Text.isBlank).head?.or cs.head?
    | rest => rest.head?.or cs.head?
  else cs.head?

/-- Whether a hyphen in front of a text makes no range. -/
def endsItem (ignoreSpace : Bool) (cs : List Char) : Bool :=
  peek ignoreSpace cs = some ']' || peek ignoreSpace cs = some '-'

/-- An item of a set that is no bracket: a character, a shorthand or a range
whose ends are in order. -/
def rangeItem? (ignoreSpace : Bool) (cs : List Char) : Option (CharSet × List Char) :=
  match setAtom? ignoreSpace cs with
  | none => none
  | some (first, rest) =>
    match skip ignoreSpace rest with
    | '-' :: behind =>
      if endsItem ignoreSpace behind then
        (setItem? first).map fun item => (item, '-' :: behind)
      else match first, setAtom? ignoreSpace (skip ignoreSpace behind) with
        | .literal first, some (.literal last, rest) =>
          if first.char ≤ last.char then some (.range first last, rest) else none
        | _, _ => none
    | rest => (setItem? first).map fun item => (item, rest)

/-- What a step leads to. -/
inductive BracketStep where
  | ongoing (inner : OpenBracket) (outer : List OpenBracket) (rest : List Char)
  | closed (negated : Bool) (set : CharSet) (rest : List Char)
deriving Repr

/-- Read an item, an operator or a bracket. -/
def bracketStep (ignoreSpace : Bool) (inner : OpenBracket) (outer : List OpenBracket)
    (cs : List Char) : Option BracketStep :=
  match skip ignoreSpace cs with
  | [] => none
  | '[' :: rest =>
    match namedSet? rest with
    | some (item, rest) => some (.ongoing (inner.add item) outer rest)
    | none =>
      let (opened, rest) := openBracket ignoreSpace rest
      some (.ongoing opened (inner :: outer) rest)
  | ']' :: rest =>
    match outer with
    | [] => some (.closed inner.negated inner.set rest)
    | parent :: outer =>
      some (.ongoing (parent.add (.bracket inner.negated inner.set)) outer rest)
  | '&' :: '&' :: rest | '-' :: '-' :: rest | '~' :: '~' :: rest =>
    some (.ongoing inner.operate outer rest)
  | cs => (rangeItem? ignoreSpace cs).map fun found => .ongoing (inner.add found.1) outer found.2

/-- Read on until the outermost bracket is closed. Every step takes something
away; one that did not would end the reading. -/
def runBracket (ignoreSpace : Bool) (inner : OpenBracket) (outer : List OpenBracket)
    (cs : List Char) : Option (Pattern × List Char) :=
  match bracketStep ignoreSpace inner outer cs with
  | none => none
  | some (.closed negated set rest) => some (.bracket negated set, rest)
  | some (.ongoing inner outer rest) =>
    if rest.length < cs.length then runBracket ignoreSpace inner outer rest else none
termination_by cs.length

/-- A set of characters behind its opening bracket, and what follows it. -/
def bracket? (ignoreSpace : Bool) (cs : List Char) : Option (Pattern × List Char) :=
  let (opened, rest) := openBracket ignoreSpace cs
  runBracket ignoreSpace opened [] rest

end VirtualShell.Pattern
