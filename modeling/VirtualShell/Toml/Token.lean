import VirtualShell.Numeral
import VirtualShell.Text.Remainder
/-!
The tokens of a TOML text. Blanks and line ends are tokens, since they separate
some things and not others; comments are dropped. Keys and numbers are made of
words and marks, because only their place tells the one from the other.
-/

namespace VirtualShell.Toml

open Text (LeavesBelow)

inductive Token where
  /-- Blanks and tabs. -/
  | blank (chars : List Char)
  | lineEnd
  /-- A run of letters, digits, underscores and signs. -/
  | word (chars : List Char)
  /-- One of the characters that structure a document. -/
  | mark (c : Char)
  /-- A string; one that may go over several lines is no key. -/
  | text (multiline : Bool) (value : String)
deriving DecidableEq, Repr

def isBlankChar (c : Char) : Bool :=
  c = ' ' || c = '\t'

def isKeyChar (c : Char) : Bool :=
  c.isAlphanum || c = '-' || c = '_'

def isWordChar (c : Char) : Bool :=
  isKeyChar c || c = '+'

def marks : List Char :=
  ['.', ':', '=', ',', '[', ']', '\x7b', '\x7d']

/-- A character that may stand in a comment and, where no other rule bars it,
in a string: all but control characters, and the tab. -/
def isPlain (c : Char) : Bool :=
  c = '\t' || (c.toNat ≥ 0x20 && c.toNat ≠ 0x7F)

/-- The character of a code point; surrogates and what is too great are
none. -/
def codePoint? (code : Nat) : Option Char :=
  if code.isValidChar then some (Char.ofNat code) else none

/-- The character that hexadecimal digits stand for. -/
def codeChar? (digits : List Char) : Option Char :=
  if digits.all (Numeral.isDigitIn 16) then codePoint? (Numeral.valueIn 16 digits) else none

/-- The character that a backslash and one letter stand for. -/
def escaped? : Char → Option Char
  | 'b' => some '\x08'
  | 't' => some '\t'
  | 'n' => some '\n'
  | 'f' => some '\x0c'
  | 'r' => some '\r'
  | '"' => some '"'
  | '\\' => some '\\'
  | _ => none

/-- Put a character in front of what was read. -/
def prepend (c : Char) (found : Option (List Char × List Char)) : Option (List Char × List Char) :=
  match found with
  | some (chars, rest) => some (c :: chars, rest)
  | none => none

/-- A string between quotes behind the first one, and what follows it. -/
def quoted : List Char → Option (List Char × List Char)
  | [] => none
  | '"' :: rest => some ([], rest)
  | '\\' :: 'u' :: a :: b :: c :: d :: rest =>
    match codeChar? [a, b, c, d] with
    | some char => prepend char (quoted rest)
    | none => none
  | '\\' :: 'U' :: a :: b :: c :: d :: e :: f :: g :: h :: rest =>
    match codeChar? [a, b, c, d, e, f, g, h] with
    | some char => prepend char (quoted rest)
    | none => none
  | '\\' :: c :: rest =>
    match escaped? c with
    | some char => prepend char (quoted rest)
    | none => none
  | c :: rest => if isPlain c then prepend c (quoted rest) else none

/-- Where a string over several lines stands: in its text, behind a backslash
that ends a line, or in the white space that such a backslash takes away. -/
inductive Gap where
  | none
  | lineEndDue
  | open
deriving DecidableEq, Repr

/-- A string between triple quotes behind the first three, and what follows
it. Up to two quotes may stand before the last three. -/
def quotedLines : Gap → List Char → Option (List Char × List Char)
  | _, [] => .none
  | .lineEndDue, ' ' :: rest => quotedLines .lineEndDue rest
  | .lineEndDue, '\t' :: rest => quotedLines .lineEndDue rest
  | .lineEndDue, '\n' :: rest => quotedLines .open rest
  | .lineEndDue, '\r' :: '\n' :: rest => quotedLines .open rest
  | .lineEndDue, _ => .none
  | .open, ' ' :: rest => quotedLines .open rest
  | .open, '\t' :: rest => quotedLines .open rest
  | .open, '\n' :: rest => quotedLines .open rest
  | .open, '\r' :: '\n' :: rest => quotedLines .open rest
  | _, '"' :: '"' :: '"' :: '"' :: '"' :: rest => some (['"', '"'], rest)
  | _, '"' :: '"' :: '"' :: '"' :: rest => some (['"'], rest)
  | _, '"' :: '"' :: '"' :: rest => some ([], rest)
  | _, '\\' :: 'u' :: a :: b :: c :: d :: rest =>
    match codeChar? [a, b, c, d] with
    | some char => prepend char (quotedLines .none rest)
    | none => .none
  | _, '\\' :: 'U' :: a :: b :: c :: d :: e :: f :: g :: h :: rest =>
    match codeChar? [a, b, c, d, e, f, g, h] with
    | some char => prepend char (quotedLines .none rest)
    | none => .none
  | _, '\\' :: '\n' :: rest => quotedLines .open rest
  | _, '\\' :: '\r' :: '\n' :: rest => quotedLines .open rest
  | _, '\\' :: c :: rest =>
    if isBlankChar c then quotedLines .lineEndDue rest
    else match escaped? c with
      | some char => prepend char (quotedLines .none rest)
      | none => .none
  | _, '\n' :: rest => prepend '\n' (quotedLines .none rest)
  | _, '\r' :: '\n' :: rest => prepend '\n' (quotedLines .none rest)
  | _, c :: rest => if isPlain c then prepend c (quotedLines .none rest) else .none

/-- A string between apostrophes behind the first one. Nothing is escaped. -/
def verbatim : List Char → Option (List Char × List Char)
  | [] => none
  | '\'' :: rest => some ([], rest)
  | c :: rest => if isPlain c then prepend c (verbatim rest) else none

/-- A string between triple apostrophes behind the first three. -/
def verbatimLines : List Char → Option (List Char × List Char)
  | [] => none
  | '\'' :: '\'' :: '\'' :: '\'' :: '\'' :: rest => some (['\'', '\''], rest)
  | '\'' :: '\'' :: '\'' :: '\'' :: rest => some (['\''], rest)
  | '\'' :: '\'' :: '\'' :: rest => some ([], rest)
  | '\n' :: rest => prepend '\n' (verbatimLines rest)
  | '\r' :: '\n' :: rest => prepend '\n' (verbatimLines rest)
  | c :: rest => if isPlain c then prepend c (verbatimLines rest) else none

/-- A line end behind the first quotes does not belong to the text. -/
def dropLineEnd : List Char → List Char
  | '\n' :: rest => rest
  | '\r' :: '\n' :: rest => rest
  | cs => cs

/-- The token of a string that was read. -/
def textToken (multiline : Bool) (found : Option (List Char × List Char)) :
    Option (Token × List Char) :=
  match found with
  | some (chars, rest) => some (.text multiline (String.ofList chars), rest)
  | none => none

/-- The token at the beginning of a text and what follows it. -/
def token? : List Char → Option (Token × List Char)
  | [] => none
  | '\n' :: rest => some (.lineEnd, rest)
  | '\r' :: '\n' :: rest => some (.lineEnd, rest)
  | '"' :: '"' :: '"' :: rest => textToken true (quotedLines .none (dropLineEnd rest))
  | '"' :: rest => textToken false (quoted rest)
  | '\'' :: '\'' :: '\'' :: rest => textToken true (verbatimLines (dropLineEnd rest))
  | '\'' :: rest => textToken false (verbatim rest)
  | c :: rest =>
    if isBlankChar c then
      some (.blank (c :: rest.takeWhile isBlankChar), rest.dropWhile isBlankChar)
    else if marks.contains c then some (.mark c, rest)
    else if isWordChar c then
      some (.word (c :: rest.takeWhile isWordChar), rest.dropWhile isWordChar)
    else none

theorem prepend_eq_map (c : Char) (found : Option (List Char × List Char)) :
    prepend c found = found.map fun result => (c :: result.1, result.2) := by
  cases found <;> rfl

theorem textToken_eq_map (multiline : Bool) (found : Option (List Char × List Char)) :
    textToken multiline found =
      found.map fun result => (.text multiline (String.ofList result.1), result.2) := by
  cases found <;> rfl

/-- To read one more character in front leaves the same. -/
theorem leavesBelow_prepend {bound more : Nat} {found : Option (List Char × List Char)}
    (h : LeavesBelow bound found) (c : Char) (hLe : bound ≤ more) :
    LeavesBelow more (prepend c found) := by
  rw [prepend_eq_map]
  exact (h.map (c :: ·)).mono hLe

theorem leavesBelow_textToken {bound more : Nat} {found : Option (List Char × List Char)}
    (h : LeavesBelow bound found) (multiline : Bool) (hLe : bound ≤ more) :
    LeavesBelow more (textToken multiline found) := by
  rw [textToken_eq_map]
  exact (h.map fun chars => Token.text multiline (String.ofList chars)).mono hLe

theorem leavesBelow_quoted (cs : List Char) : LeavesBelow cs.length (quoted cs) := by
  fun_induction quoted cs with
  | case2 rest => exact .some (Nat.lt_succ_self _)
  | case3 a b c d rest char hCode ih => exact leavesBelow_prepend ih char (Nat.le_add_right _ 6)
  | case5 a b c d e f g h rest char hCode ih =>
      exact leavesBelow_prepend ih char (Nat.le_add_right _ 10)
  | case7 c rest _ _ char hEscaped ih => exact leavesBelow_prepend ih char (Nat.le_add_right _ 2)
  | case9 c rest _ _ _ _ hPlain ih => exact leavesBelow_prepend ih c (Nat.le_succ _)
  | _ => exact .none

theorem leavesBelow_verbatim (cs : List Char) : LeavesBelow cs.length (verbatim cs) := by
  fun_induction verbatim cs with
  | case2 rest => exact .some (Nat.lt_succ_self _)
  | case3 c rest _ hPlain ih => exact leavesBelow_prepend ih c (Nat.le_succ _)
  | case1 | case4 => exact .none

theorem leavesBelow_verbatimLines (cs : List Char) : LeavesBelow cs.length (verbatimLines cs) := by
  fun_induction verbatimLines cs with
  | case2 rest | case3 rest | case4 rest => exact .some (by simp only [List.length_cons]; omega)
  | case5 rest ih => exact leavesBelow_prepend ih '\n' (Nat.le_succ _)
  | case6 rest ih => exact leavesBelow_prepend ih '\n' (Nat.le_add_right _ 2)
  | case7 c rest _ _ _ _ _ hPlain ih => exact leavesBelow_prepend ih c (Nat.le_succ _)
  | case1 | case8 => exact .none

/-- White space that is taken away is read as well, and nothing is found for it. -/
theorem leavesBelow_quotedLines (gap : Gap) (cs : List Char) :
    LeavesBelow cs.length (quotedLines gap cs) := by
  fun_induction quotedLines gap cs with
  -- white space behind a backslash, up to the line end and beyond
  | case2 rest ih | case3 rest ih | case4 rest ih | case7 rest ih | case8 rest ih
  | case9 rest ih => exact ih.mono (Nat.le_succ _)
  | case5 rest ih | case10 rest ih => exact ih.mono (Nat.le_add_right _ 2)
  | case18 _ rest _ ih => exact ih.mono (Nat.le_add_right _ 2)
  | case19 _ rest _ ih => exact ih.mono (Nat.le_add_right _ 3)
  | case20 _ c rest _ _ _ _ _ hBlank ih => exact ih.mono (Nat.le_add_right _ 2)
  -- the quotes at the end
  | case11 | case12 | case13 => exact .some (by simp only [List.length_cons]; omega)
  -- characters of the text, escaped or as they are
  | case14 _ a b c d rest _ char hCode ih => exact leavesBelow_prepend ih char (Nat.le_add_right _ 6)
  | case16 _ a b c d e f g h rest _ char hCode ih =>
      exact leavesBelow_prepend ih char (Nat.le_add_right _ 10)
  | case21 _ c rest _ _ _ _ _ hBlank char hEscaped ih =>
      exact leavesBelow_prepend ih char (Nat.le_add_right _ 2)
  | case23 _ rest _ _ ih => exact leavesBelow_prepend ih '\n' (Nat.le_succ _)
  | case24 _ rest _ _ ih => exact leavesBelow_prepend ih '\n' (Nat.le_add_right _ 2)
  | case25 => exact leavesBelow_prepend ‹_› _ (Nat.le_succ _)
  | _ => exact .none

theorem dropLineEnd_le (cs : List Char) : (dropLineEnd cs).length ≤ cs.length := by
  fun_cases dropLineEnd cs with
  | case1 rest => exact Nat.le_succ _
  | case2 rest => exact Nat.le_add_right _ 2
  | case3 => exact Nat.le_refl _

/-- Every token takes at least one character. -/
theorem leavesBelow_token? (cs : List Char) : LeavesBelow cs.length (token? cs) := by
  fun_cases token? cs with
  | case1 => exact .none
  | case2 rest => exact .some (Nat.lt_succ_self _)
  | case3 rest => exact .some (by simp only [List.length_cons]; omega)
  | case4 rest =>
      have hLe := dropLineEnd_le rest
      exact leavesBelow_textToken (leavesBelow_quotedLines _ _) true
        (Nat.le_trans hLe (Nat.le_add_right _ 3))
  | case5 rest => exact leavesBelow_textToken (leavesBelow_quoted rest) false (Nat.le_succ _)
  | case6 rest =>
      have hLe := dropLineEnd_le rest
      exact leavesBelow_textToken (leavesBelow_verbatimLines _) true
        (Nat.le_trans hLe (Nat.le_add_right _ 3))
  | case7 rest => exact leavesBelow_textToken (leavesBelow_verbatim rest) false (Nat.le_succ _)
  | case8 c rest =>
      have hLe := (List.dropWhile_sublist isBlankChar (l := rest)).length_le
      exact .some (Nat.lt_succ_of_le hLe)
  | case9 c rest => exact .some (Nat.lt_succ_self _)
  | case10 c rest =>
      have hLe := (List.dropWhile_sublist isWordChar (l := rest)).length_le
      exact .some (Nat.lt_succ_of_le hLe)
  | case11 => exact .none

/-- A comment up to the end of its line. -/
def dropComment (cs : List Char) : List Char :=
  cs.dropWhile isPlain

/-- The tokens of a text; nothing if some part of it is no token. -/
def tokens? (cs : List Char) : Option (List Token) :=
  match cs with
  | [] => some []
  | c :: rest =>
    if c = '#' then
      have : (dropComment rest).length ≤ rest.length :=
        (List.dropWhile_sublist isPlain).length_le
      tokens? (dropComment rest)
    else match h : token? (c :: rest) with
      | none => none
      | some (token, after) =>
        have : after.length < (c :: rest).length := leavesBelow_token? _ _ _ h
        (tokens? after).map (token :: ·)
termination_by cs.length
decreasing_by all_goals (simp only [List.length_cons] at *; omega)

end VirtualShell.Toml
