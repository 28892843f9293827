import VirtualShell.Json.Printer
import VirtualShell.Json.Token
import Mathlib.Data.List.TakeWhile
/-!
Written literals are read as they were meant. A string literal ends with its
own quote, so anything may follow it; a number literal goes on as far as it can,
so it is read as written only if what follows cannot belong to it.
-/

namespace VirtualShell

/-- A number written in digits is read as that number. -/
theorem Numeral.decimalValue_toDigits (n : Nat) : decimalValue (Nat.toDigits 10 n) = n := by
  simpa [decimalValue, Nat.ofDigitChars_eq_foldl, Nat.mul_comm] using
    Nat.ofDigitChars_ten_toDigits (n := n)

namespace Json

/-! String literals. -/

theorem hexDigit?_hexDigit {n : Nat} (h : n < 16) : Numeral.hexDigit? (hexDigit n) = some n := by
  have hDigits : ∀ n < 16, Numeral.hexDigit? (hexDigit n) = some n := by decide
  exact hDigits n h

theorem assemble_unit {code : Nat} (h : code < 0xD800) (found : List Piece) :
    assemble (.unit code :: found) = (assemble found).map (Char.ofNat code :: ·) := by
  have hHigh : isHighSurrogate code = false := by simp [isHighSurrogate]; omega
  have hLow : isLowSurrogate code = false := by simp [isLowSurrogate]; omega
  rcases found with _ | ⟨_ | _, _⟩ <;> simp [assemble, hHigh, hLow]

/-- A backslash and a letter are read as the character that the letter stands for. -/
theorem pieces_escaped {letter c : Char} (hLetter : letter ≠ 'u') (h : escaped? letter = some c)
    (rest : List Char) :
    pieces ('\\' :: letter :: rest) =
      (pieces rest).map fun found => (.char c :: found.1, found.2) := by
  rw [pieces.eq_def]
  split
  · next hSame => cases hSame
  · next hSame => cases hSame
  · next hSame =>
    cases hSame
    exact absurd rfl hLetter
  · next hSame =>
    cases hSame
    rw [h]
    cases pieces rest <;> rfl
  · next hNone hOther hSame =>
    cases hSame
    exact absurd rfl (hOther _ _ rfl)

/-- A backslash and four digits to base sixteen are read as their code. -/
theorem pieces_unit {a b c d : Char} {code : Nat} (h : unit? a b c d = some code)
    (rest : List Char) :
    pieces ('\\' :: 'u' :: a :: b :: c :: d :: rest) =
      (pieces rest).map fun found => (.unit code :: found.1, found.2) := by
  rw [pieces, h]
  cases pieces rest <;> rfl

/-- A character that needs no escape is read as it stands. -/
theorem pieces_plain {c : Char} (hQuote : c ≠ '"') (hEscape : c ≠ '\\') (hControl : ¬ c.toNat < 0x20)
    (rest : List Char) :
    pieces (c :: rest) = (pieces rest).map fun found => (.char c :: found.1, found.2) := by
  rw [pieces.eq_def]
  split
  · next hSame => cases hSame
  · next hSame =>
    cases hSame
    exact absurd rfl hQuote
  · next hSame =>
    cases hSame
    exact absurd rfl hEscape
  · next hSame =>
    cases hSame
    exact absurd rfl hEscape
  · next hSame =>
    cases hSame
    rw [if_neg hControl]
    cases pieces rest <;> rfl

/-- Every character is written as one piece, which stands for it. -/
theorem exists_piece (c : Char) :
    ∃ piece, (∀ rest, pieces (writeChar c ++ rest) =
        (pieces rest).map fun found => (piece :: found.1, found.2)) ∧
      ∀ found, assemble (piece :: found) = (assemble found).map (c :: ·) := by
  by_cases hEscaped : ∃ letter, letter ≠ 'u' ∧ escaped? letter = some c ∧ writeChar c = ['\\', letter]
  · obtain ⟨letter, hLetter, hChar, hWritten⟩ := hEscaped
    refine ⟨.char c, fun rest => ?_, fun found => rfl⟩
    rw [hWritten]
    exact pieces_escaped hLetter hChar rest
  · have hPlain : c ≠ '"' ∧ c ≠ '\\' ∧ c ≠ '\x08' ∧ c ≠ '\x0c' ∧ c ≠ '\n' ∧ c ≠ '\r' ∧ c ≠ '\t' := by
      refine ⟨?_, ?_, ?_, ?_, ?_, ?_, ?_⟩ <;> rintro rfl <;> apply hEscaped
      · exact ⟨'"', by decide⟩
      · exact ⟨'\\', by decide⟩
      · exact ⟨'b', by decide⟩
      · exact ⟨'f', by decide⟩
      · exact ⟨'n', by decide⟩
      · exact ⟨'r', by decide⟩
      · exact ⟨'t', by decide⟩
    obtain ⟨hQuote, hBackslash, hBack, hFeed, hLine, hReturn, hTab⟩ := hPlain
    rw [writeChar, if_neg hQuote, if_neg hBackslash, if_neg hBack, if_neg hFeed, if_neg hLine,
      if_neg hReturn, if_neg hTab]
    by_cases hControl : c.toNat < 0x20
    · refine ⟨.unit c.toNat, fun rest => ?_, fun found => ?_⟩
      · rw [if_pos hControl]
        apply pieces_unit
        have hHigh := hexDigit?_hexDigit (n := c.toNat / 16) (by omega)
        have hLow := hexDigit?_hexDigit (n := c.toNat % 16) (by omega)
        have hZero : Numeral.hexDigit? '0' = some 0 := by decide
        simp only [unit?, hZero, hHigh, hLow]
        congr 1
        omega
      · rw [assemble_unit (by omega), Char.ofNat_toNat]
    · refine ⟨.char c, fun rest => ?_, fun found => rfl⟩
      rw [if_neg hControl]
      exact pieces_plain hQuote hBackslash hControl rest

/-- A written text is read up to its closing quote, and gives its characters back. -/
theorem exists_pieces (cs rest : List Char) :
    ∃ found, pieces (cs.flatMap writeChar ++ '"' :: rest) = some (found, rest) ∧
      assemble found = some cs := by
  induction cs with
  | nil => exact ⟨[], rfl, rfl⟩
  | cons c cs ih =>
      obtain ⟨found, hFound, hChars⟩ := ih
      obtain ⟨piece, hPiece, hChar⟩ := exists_piece c
      refine ⟨piece :: found, ?_, ?_⟩
      · rw [List.flatMap_cons, List.append_assoc, hPiece, hFound, Option.map_some]
      · rw [hChar, hChars, Option.map_some]

/-- A written text is one token, whatever follows. -/
theorem token?_writeText (s : String) (rest : List Char) :
    token? (writeText s ++ rest) = some (.text s, rest) := by
  obtain ⟨found, hFound, hChars⟩ := exists_pieces s.toList rest
  have hLiteral : writeText s ++ rest = '"' :: (s.toList.flatMap writeChar ++ '"' :: rest) := by
    simp [writeText]
  rw [hLiteral, token?, hFound, Option.map_some, stringToken, hChars]
  simp

/-! Number literals. -/

/-- A text that goes on with no digit. -/
def EndsDigits (rest : List Char) : Prop :=
  ∀ c ∈ rest.head?, c.isDigit = false

/-- A text that cannot belong to a number literal in front of it. -/
def EndsNumber (rest : List Char) : Prop :=
  ∀ c ∈ rest.head?, c.isDigit = false ∧ c ≠ '.' ∧ c ≠ 'e' ∧ c ≠ 'E'

theorem EndsNumber.endsDigits {rest : List Char} (h : EndsNumber rest) : EndsDigits rest :=
  fun c hc => (h c hc).1

theorem isDigit_of_mem_writeNatural {n : Nat} {c : Char} (h : c ∈ writeNatural n) :
    c.isDigit = true :=
  Nat.isDigit_of_mem_toDigits (by decide) (by decide) h

theorem exists_digit_of_writeNatural (n : Nat) :
    ∃ d ds, writeNatural n = d :: ds ∧ d.isDigit = true := by
  obtain ⟨d, ds, hWritten⟩ := List.exists_cons_of_ne_nil (Nat.toDigits_ne_nil (n := n) (b := 10))
  refine ⟨d, ds, hWritten, isDigit_of_mem_writeNatural (n := n) ?_⟩
  rw [writeNatural, hWritten]
  exact List.mem_cons_self

/-- A written number is taken whole where no digit follows. -/
theorem takeDigits_writeNatural (n : Nat) {rest : List Char} (hRest : EndsDigits rest) :
    takeDigits (writeNatural n ++ rest) = (writeNatural n, rest) := by
  have hDigits : ∀ c ∈ writeNatural n, c.isDigit = true := fun _ => isDigit_of_mem_writeNatural
  rw [takeDigits, List.takeWhile_append_of_pos hDigits, List.dropWhile_append_of_pos hDigits]
  cases rest with
  | nil => simp
  | cons c rest => simp [hRest c rfl]

/-- Only zero is written with a zero in front. -/
theorem head_writeNatural {n : Nat} (h : 0 < n) : (writeNatural n).head? ≠ some '0' := by
  induction n using Nat.base_induction 10 (by decide) with
  | single n hn =>
      have hDigits : ∀ n < 10, 0 < n → [n.digitChar].head? ≠ some '0' := by decide
      rw [writeNatural, Nat.toDigits_of_lt_base hn]
      exact hDigits n hn h
  | digit n d hd hn ih =>
      obtain ⟨first, rest, hWritten⟩ := List.exists_cons_of_ne_nil (Nat.toDigits_ne_nil (n := n) (b := 10))
      have hFirst := ih hn
      rw [writeNatural, hWritten] at hFirst
      rw [writeNatural, ← Nat.toDigits_append_toDigits (by decide) hn hd, hWritten]
      exact hFirst

/-- A written number has no leading zero, so that it is a whole part. -/
theorem wholePart?_writeNatural (n : Nat) {rest : List Char} (hRest : EndsDigits rest) :
    wholePart? (writeNatural n ++ rest) = some (writeNatural n, rest) := by
  rcases Nat.eq_zero_or_pos n with rfl | hn
  · rfl
  · have hTake := takeDigits_writeNatural n hRest
    have hHead := head_writeNatural hn
    obtain ⟨d, ds, hWritten, _⟩ := exists_digit_of_writeNatural n
    rw [hWritten] at hTake hHead ⊢
    rw [wholePart?.eq_def]
    split
    · next hSame =>
      cases hSame
      exact absurd rfl hHead
    · rw [hTake]

theorem fractionPart?_of_ends {rest : List Char} (h : rest.head? ≠ some '.') :
    fractionPart? rest = some ([], rest) := by
  rw [fractionPart?.eq_def]
  split
  · exact absurd rfl h
  · rfl

theorem exponentPart?_of_endsNumber {rest : List Char} (h : EndsNumber rest) :
    exponentPart? rest = some (none, rest) := by
  cases rest with
  | nil => rfl
  | cons c rest =>
      obtain ⟨_, _, hLower, hUpper⟩ := h c rfl
      simp [exponentPart?, hLower, hUpper]

/-- The written digits of an exponent are read with its sign. -/
theorem exponentDigits?_writeNatural (negative : Bool) (n : Nat) {rest : List Char}
    (hRest : EndsDigits rest) :
    exponentDigits? negative (writeNatural n ++ rest) =
      some (some (if negative then -(n : Int) else n), rest) := by
  have hValue : Numeral.decimalValue (writeNatural n) = n := Numeral.decimalValue_toDigits n
  obtain ⟨d, ds, hWritten, _⟩ := exists_digit_of_writeNatural n
  rw [exponentDigits?, takeDigits_writeNatural n hRest, hWritten]
  simp only [← hWritten, hValue]

theorem exponentPart?_of_isDigit {c : Char} (h : c.isDigit = true) (rest : List Char) :
    exponentPart? ('e' :: c :: rest) = exponentDigits? false (c :: rest) := by
  have hPlus : c ≠ '+' := by
    rintro rfl
    cases h
  have hMinus : c ≠ '-' := by
    rintro rfl
    cases h
  simp [exponentPart?, hPlus, hMinus]

/-- A written exponent is read as that exponent. -/
theorem exponentPart?_written (exponent : Int) {rest : List Char} (hRest : EndsDigits rest) :
    exponentPart? ('e' :: (writeSign (exponent < 0) ++ writeNatural exponent.natAbs ++ rest)) =
      some (some exponent, rest) := by
  by_cases hNegative : exponent < 0
  · have hRead := exponentDigits?_writeNatural true exponent.natAbs hRest
    have hValue : -(exponent.natAbs : Int) = exponent := by omega
    rw [if_pos rfl, hValue] at hRead
    rw [decide_eq_true hNegative, writeSign, if_pos rfl]
    exact hRead
  · have hRead := exponentDigits?_writeNatural false exponent.natAbs hRest
    have hValue : (exponent.natAbs : Int) = exponent := by omega
    obtain ⟨d, ds, hWritten, hDigit⟩ := exists_digit_of_writeNatural exponent.natAbs
    rw [if_neg Bool.false_ne_true, hValue, hWritten, List.cons_append] at hRead
    rw [decide_eq_false hNegative, writeSign, if_neg Bool.false_ne_true, List.nil_append, hWritten,
      List.cons_append, exponentPart?_of_isDigit hDigit, hRead]

/-- The sign of a number and the rest of its literal. -/
theorem exists_unsigned (value : Number) {rest : List Char} (hRest : EndsNumber rest) :
    ∃ negative unsigned, writeNumber value = writeSign negative ++ unsigned ∧
      (∃ d ds, unsigned = d :: ds ∧ d.isDigit = true) ∧
      number? negative (unsigned ++ rest) = some (value, rest) := by
  cases value with
  | whole negative magnitude =>
      refine ⟨negative, writeNatural magnitude, rfl, exists_digit_of_writeNatural magnitude, ?_⟩
      have hPoint : rest.head? ≠ some '.' := fun h => (hRest '.' h).2.1 rfl
      simp only [number?, wholePart?_writeNatural magnitude hRest.endsDigits,
        fractionPart?_of_ends hPoint, exponentPart?_of_endsNumber hRest]
      rw [writeNatural, Numeral.decimalValue_toDigits]
      rfl
  | scaled negative mantissa exponent =>
      obtain ⟨d, ds, hWritten, hDigit⟩ := exists_digit_of_writeNatural mantissa
      refine ⟨negative, writeNatural mantissa ++ 'e' :: (writeSign (exponent < 0)
        ++ writeNatural exponent.natAbs), ?_, ⟨d, _, by rw [hWritten]; rfl, hDigit⟩, ?_⟩
      · simp [writeNumber]
      · have hMark : ∀ more, EndsDigits ('e' :: more) := by
          rintro more c hc
          cases hc
          rfl
        rw [List.append_assoc, List.cons_append]
        simp only [number?, wholePart?_writeNatural mantissa (hMark _)]
        rw [fractionPart?_of_ends (by simp)]
        simp only [exponentPart?_written exponent hRest.endsDigits]
        simp [writeNatural, Numeral.decimalValue_toDigits]

theorem token?_of_isDigit {c : Char} (h : c.isDigit = true) (rest : List Char) :
    token? (c :: rest) =
      (number? false (c :: rest)).map fun found => (.number found.1, found.2) := by
  rw [token?.eq_def]
  split
  all_goals first
    | rfl
    | next hSame => cases hSame <;> cases h

/-- A written number is one token, where a number may end. -/
theorem token?_writeNumber (value : Number) {rest : List Char} (hRest : EndsNumber rest) :
    token? (writeNumber value ++ rest) = some (.number value, rest) := by
  obtain ⟨negative, unsigned, hWritten, ⟨d, ds, hUnsigned, hDigit⟩, hRead⟩ :=
    exists_unsigned value hRest
  rw [hUnsigned, List.cons_append] at hRead
  rw [hWritten, hUnsigned]
  cases negative with
  | true =>
      show token? ('-' :: d :: (ds ++ rest)) = _
      rw [token?, hRead, Option.map_some]
  | false =>
      show token? (d :: (ds ++ rest)) = _
      rw [token?_of_isDigit hDigit, hRead, Option.map_some]

theorem token?_of_isSpace {c : Char} (h : isSpace c = true) (rest : List Char) :
    token? (c :: rest) = none := by
  have hSpace : c = ' ' ∨ c = '\n' ∨ c = '\t' ∨ c = '\r' := by
    simpa [isSpace, or_assoc] using h
  rcases hSpace with rfl | rfl | rfl | rfl <;> rfl

/-- One token after the other. -/
theorem tokens?_of_token? {cs rest : List Char} {token : Token} (h : token? cs = some (token, rest)) :
    tokens? cs = (tokens? rest).map (token :: ·) := by
  cases cs with
  | nil => cases h
  | cons c cs =>
      have hSpace : ¬ isSpace c = true := by
        intro hSpace
        rw [token?_of_isSpace hSpace] at h
        cases h
      rw [tokens?, if_neg hSpace]
      split
      · next hNone =>
        rw [h] at hNone
        cases hNone
      · next hSome =>
        rw [h] at hSome
        cases hSome
        rfl

end Json

end VirtualShell
