import VirtualShell.Toml.Scalar
import VirtualShell.Toml.Token
/-!
The statements of a TOML text: headers, and assignments of values to keys. What
reads a part of the tokens also shows that fewer are left.
-/

namespace VirtualShell.Toml

inductive Statement where
  | openTable (parents : List String) (key : String)
  | openNextTable (parents : List String) (key : String)
  | assign (path : List String) (key : String) (value : Toml)
deriving Repr

/-- What is left of tokens when some have been read. -/
abbrev Shorter (ts : List Token) := { rest : List Token // rest.length < ts.length }

/-- Tokens that are left of fewer tokens are left of more. -/
def Shorter.of {ts us : List Token} (h : us.length ≤ ts.length) (rest : Shorter us) : Shorter ts :=
  ⟨rest.1, Nat.lt_of_lt_of_le rest.2 h⟩

def Token.isBlank : Token → Bool
  | .blank _ => true
  | _ => false

/-- What may stand between the items of an array and between statements. -/
def Token.isSpace : Token → Bool
  | .blank _ | .lineEnd => true
  | _ => false

def dropBlank (ts : List Token) : List Token :=
  ts.dropWhile Token.isBlank

def dropSpace (ts : List Token) : List Token :=
  ts.dropWhile Token.isSpace

theorem dropBlank_le (ts : List Token) : (dropBlank ts).length ≤ ts.length :=
  (List.dropWhile_sublist Token.isBlank).length_le

theorem dropSpace_le (ts : List Token) : (dropSpace ts).length ≤ ts.length :=
  (List.dropWhile_sublist Token.isSpace).length_le

theorem length_lt_of_dropBlank {ts rest : List Token} {token : Token}
    (h : dropBlank ts = token :: rest) : rest.length < ts.length := by
  have hle := dropBlank_le ts
  rw [h] at hle
  exact hle

theorem length_lt_of_dropSpace {ts rest : List Token} {token : Token}
    (h : dropSpace ts = token :: rest) : rest.length < ts.length := by
  have hle := dropSpace_le ts
  rw [h] at hle
  exact hle

/-- The part of a key that a token is: a bare word or a string on one line. -/
def Token.keyPart? : Token → Option String
  | .word chars => if chars.all isKeyChar then some (String.ofList chars) else none
  | .text false value => some value
  | _ => none

/-- The parts of a dotted key; blanks around the dots do not count. -/
def keyParts? (ts : List Token) : Option (List String × Shorter ts) :=
  match hts : dropBlank ts with
  | [] => none
  | token :: rest =>
    have hrest : rest.length < ts.length := length_lt_of_dropBlank hts
    match token.keyPart? with
    | none => none
    | some part =>
      match hmore : dropBlank rest with
      | .mark '.' :: more =>
        have hlen : more.length < ts.length := Nat.lt_trans (length_lt_of_dropBlank hmore) hrest
        match keyParts? more with
        | some (parts, left) => some (part :: parts, left.of (Nat.le_of_lt hlen))
        | none => none
      | _ => some ([part], ⟨dropBlank rest, Nat.lt_of_le_of_lt (dropBlank_le rest) hrest⟩)
termination_by ts.length

/-- How many parts a key may have, and how deep values may nest, at most. -/
def depthLimit : Nat := 79

/-- A dotted key: the parts that lead to a table, and the last one. -/
def key? (ts : List Token) : Option ((List String × String) × Shorter ts) :=
  match keyParts? ts with
  | some (parts, rest) =>
    match parts.getLast? with
    | some last =>
      if parts.length ≤ depthLimit then some ((parts.dropLast, last), rest) else none
    | none => none
  | none => none

/-- The characters of words, dots and colons that stand together. -/
def bareWord : List Token → List Char × List Token
  | .word chars :: rest =>
    let (more, after) := bareWord rest
    (chars ++ more, after)
  | .mark '.' :: rest =>
    let (more, after) := bareWord rest
    ('.' :: more, after)
  | .mark ':' :: rest =>
    let (more, after) := bareWord rest
    (':' :: more, after)
  | ts => ([], ts)

theorem bareWord_le (ts : List Token) : (bareWord ts).2.length ≤ ts.length := by
  fun_induction bareWord ts with
  | case1 chars rest more after hRest ih | case2 rest more after hRest ih
  | case3 rest more after hRest ih =>
      rw [hRest] at ih
      exact Nat.le_succ_of_le ih
  | case4 => exact Nat.le_refl _

/-- A bare word as a value. A date may be followed by one blank and a time. -/
def scalar? (ts : List Token) : Option (Toml × Shorter ts) :=
  match ts with
  | .word chars :: rest =>
    let word := bareWord rest
    let date := chars ++ word.1
    match hafter : word.2 with
    | .blank [' '] :: .word time :: more =>
      if isDate date then
        let clock := bareWord more
        have hmore : more.length < word.2.length :=
          hafter ▸ Nat.lt_of_lt_of_le (Nat.lt_succ_self _) (Nat.le_succ _)
        have hclock : clock.2.length < rest.length :=
          Nat.lt_of_le_of_lt (bareWord_le more) (Nat.lt_of_lt_of_le hmore (bareWord_le rest))
        (scalarValue? (date ++ ' ' :: time ++ clock.1)).map fun value =>
          (value, ⟨clock.2, Nat.lt_succ_of_lt hclock⟩)
      else none
    | _ =>
      (scalarValue? date).map fun value =>
        (value, ⟨word.2, Nat.lt_succ_of_le (bareWord_le rest)⟩)
  | _ => none

/-- Something that reads a value from the front of tokens. -/
abbrev ValueReader := (ts : List Token) → Option (Toml × Shorter ts)

/-- The items of an array behind its bracket or behind a comma. The last item
may have a comma behind it. -/
def items? (read : ValueReader) (ts : List Token) : Option (List Toml × Shorter ts) :=
  match hts : dropSpace ts with
  | .mark ']' :: rest => some ([], ⟨rest, length_lt_of_dropSpace hts⟩)
  | _ =>
    match read (dropSpace ts) with
    | none => none
    | some (item, after) =>
      have hafter : after.1.length < ts.length := Nat.lt_of_lt_of_le after.2 (dropSpace_le ts)
      match hsep : dropSpace after.1 with
      | .mark ']' :: rest =>
        some ([item], ⟨rest, Nat.lt_trans (length_lt_of_dropSpace hsep) hafter⟩)
      | .mark ',' :: rest =>
        have hlen : rest.length < ts.length := Nat.lt_trans (length_lt_of_dropSpace hsep) hafter
        match items? read rest with
        | some (items, left) => some (item :: items, left.of (Nat.le_of_lt hlen))
        | none => none
      | _ => none
termination_by ts.length

/-- A dotted key and its value. -/
def pair? (read : ValueReader) (ts : List Token) :
    Option ((List String × String × Toml) × Shorter ts) :=
  match key? ts with
  | none => none
  | some ((path, key), afterKey) =>
    match heq : afterKey.1 with
    | .mark '=' :: rest =>
      have hrest : rest.length < afterKey.1.length := heq ▸ Nat.lt_succ_self _
      have hlen : (dropBlank rest).length ≤ ts.length :=
        Nat.le_trans (dropBlank_le rest) (Nat.le_of_lt (Nat.lt_trans hrest afterKey.2))
      match read (dropBlank rest) with
      | some (value, left) => some ((path, key, value), left.of hlen)
      | none => none
    | _ => none

/-- The fields of a table behind its brace or behind a comma. -/
def fields? (read : ValueReader) (fields : Fields) (ts : List Token) :
    Option (Fields × Shorter ts) :=
  match pair? read ts with
  | none => none
  | some ((path, key, value), afterPair) =>
    match assign path key value .inline fields with
    | none => none
    | some fields =>
      match hsep : dropBlank afterPair.1 with
      | .mark '\x7d' :: rest =>
        some (fields, ⟨rest, Nat.lt_trans (length_lt_of_dropBlank hsep) afterPair.2⟩)
      | .mark ',' :: rest =>
        have hlen : rest.length < ts.length :=
          Nat.lt_trans (length_lt_of_dropBlank hsep) afterPair.2
        match fields? read fields rest with
        | some (fields, left) => some (fields, left.of (Nat.le_of_lt hlen))
        | none => none
      | _ => none
termination_by ts.length

/-- A table in braces behind the first brace. -/
def inlineTable? (read : ValueReader) (ts : List Token) : Option (Toml × Shorter ts) :=
  match hts : dropBlank ts with
  | .mark '\x7d' :: rest => some (.table .inline [], ⟨rest, length_lt_of_dropBlank hts⟩)
  | _ =>
    match fields? read [] ts with
    | some (fields, left) => some (.table .inline fields, left)
    | none => none

/-- The value at the front of tokens, if containers nest at most so deep in
it. -/
def value? : Nat → ValueReader
  | _, .text _ value :: _ => some (.text value, ⟨_, Nat.lt_succ_self _⟩)
  | levels + 1, .mark '[' :: rest =>
    match items? (value? levels) rest with
    | some (items, left) => some (.array items, left.of (Nat.le_succ _))
    | none => none
  | levels + 1, .mark '\x7b' :: rest =>
    match inlineTable? (value? levels) rest with
    | some (value, left) => some (value, left.of (Nat.le_succ _))
    | none => none
  | _, ts => scalar? ts

/-- A header behind its brackets, and so many closing brackets. -/
def header? (brackets : List Token) (ts : List Token) :
    Option ((List String × String) × Shorter ts) :=
  match key? ts with
  | none => none
  | some (key, afterKey) =>
    if brackets.isPrefixOf afterKey.1 then
      some (key, ⟨afterKey.1.drop brackets.length,
        Nat.lt_of_le_of_lt (List.drop_sublist _ _).length_le afterKey.2⟩)
    else none

/-- The statement at the front of tokens that begin with no space. -/
def statement? (ts : List Token) : Option (Statement × Shorter ts) :=
  match ts with
  | .mark '[' :: .mark '[' :: rest =>
    match header? [.mark ']', .mark ']'] rest with
    | some ((parents, key), left) =>
      some (.openNextTable parents key, left.of (Nat.le_add_right _ 2))
    | none => none
  | .mark '[' :: rest =>
    match header? [.mark ']'] rest with
    | some ((parents, key), left) => some (.openTable parents key, left.of (Nat.le_succ _))
    | none => none
  | ts =>
    match pair? (value? depthLimit) ts with
    | some ((path, key, value), left) => some (.assign path key value, left)
    | none => none

/-- The statements of tokens, each on a line of its own. -/
def statements? (ts : List Token) : Option (List Statement) :=
  match dropSpace ts with
  | [] => some []
  | _ :: _ =>
    match statement? (dropSpace ts) with
    | none => none
    | some (statement, left) =>
      match hend : dropBlank left.1 with
      | [] => some [statement]
      | .lineEnd :: following =>
        have : following.length < ts.length :=
          Nat.lt_trans (length_lt_of_dropBlank hend) (Nat.lt_of_lt_of_le left.2 (dropSpace_le ts))
        (statements? following).map (statement :: ·)
      | _ => none
termination_by ts.length

end VirtualShell.Toml
