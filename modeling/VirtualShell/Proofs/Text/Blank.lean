import VirtualShell.Text.Lowercase
import VirtualShell.Text.Word
import Mathlib.Data.List.DropRight
/-!
White space in texts. Trimming takes white space away and nothing else, and
twice is once; words end where white space begins; and lower case leaves white
space as it is. What a text is worth as a line is thus settled by its words,
wherever the white space around them comes from.
-/

namespace VirtualShell

namespace Text

/-- No character is white space. -/
def BlankFree (s : String) : Prop :=
  ∀ c ∈ s.toList, isBlank c = false

instance (s : String) : Decidable (BlankFree s) :=
  List.decidableBAll (fun c => isBlank c = false) s.toList

theorem not_mem_of_blankFree {s : String} (h : BlankFree s) : ' ' ∉ s.toList := by
  intro hMem
  cases h ' ' hMem

/-! Trimming. -/

theorem all_dropWhile {α : Type} (p : α → Bool) (xs : List α) :
    (xs.dropWhile p).all p = xs.all p := by
  calc
    (xs.dropWhile p).all p = ((xs.takeWhile p).all p && (xs.dropWhile p).all p) := by
      rw [List.all_takeWhile, Bool.true_and]
    _ = xs.all p := by rw [← List.all_append, List.takeWhile_append_dropWhile]

/-- Trimming takes nothing but white space away. -/
theorem all_trimChars (cs : List Char) : (trimChars cs).all isBlank = cs.all isBlank := by
  rw [trimChars, List.all_reverse, all_dropWhile, List.all_reverse, all_dropWhile]

/-- A line of blanks is one before and after it is trimmed. -/
theorem allBlank_trim (s : String) : allBlank (trim s) = allBlank s := by
  rw [allBlank, trim, String.toList_ofList, all_trimChars, allBlank]

/-- Nothing is left of a line of blanks, and something of any other. -/
theorem trim_eq_empty_iff {s : String} : trim s = "" ↔ allBlank s = true := by
  constructor
  · intro hEmpty
    rw [← allBlank_trim, hEmpty]
    rfl
  · intro hBlank
    have hNone : s.toList.dropWhile isBlank = [] :=
      List.dropWhile_eq_nil_iff.mpr (List.all_eq_true.mp hBlank)
    rw [trim, trimChars, hNone]
    rfl

/-- What is trimmed stands between two runs of blanks. -/
theorem exists_append_trimChars (cs : List Char) :
    ∃ front back, cs = front ++ trimChars cs ++ back ∧ front.all isBlank = true ∧
      back.all isBlank = true := by
  refine ⟨cs.takeWhile isBlank, (cs.dropWhile isBlank).rtakeWhile isBlank, ?_,
    List.all_takeWhile, ?_⟩
  · have hBack : trimChars cs ++ (cs.dropWhile isBlank).rtakeWhile isBlank = cs.dropWhile isBlank :=
      List.rdropWhile_append_rtakeWhile
    rw [List.append_assoc, hBack, List.takeWhile_append_dropWhile]
  · rw [List.all_eq_true]
    intro c hc
    exact List.mem_rtakeWhile_imp hc

/-- A trimmed text does not begin with white space. -/
theorem dropWhile_trimChars (cs : List Char) :
    (trimChars cs).dropWhile isBlank = trimChars cs := by
  have hPrefix : trimChars cs <+: cs.dropWhile isBlank := List.rdropWhile_prefix isBlank _
  rw [List.dropWhile_eq_self_iff]
  intro hLength hBlank
  have hFirst : 0 < (cs.dropWhile isBlank).length := lt_of_lt_of_le hLength hPrefix.length_le
  have hOld := List.dropWhile_eq_self_iff.mp (List.dropWhile_idempotent isBlank cs) hFirst
  rw [hPrefix.getElem hLength] at hBlank
  exact hOld hBlank

theorem trimChars_trimChars (cs : List Char) : trimChars (trimChars cs) = trimChars cs := by
  rw [trimChars, dropWhile_trimChars]
  exact List.rdropWhile_idempotent isBlank _

theorem isBlank_of_mem_head?_dropWhile {cs : List Char} :
    ∀ c ∈ (cs.dropWhile isBlank).head?, isBlank c = false := by
  intro c hc
  have hNot := List.head?_dropWhile_not isBlank cs
  rw [hc] at hNot
  simpa using hNot

/-- What is left has no white space at its ends. -/
theorem isBlank_ends_trimChars (cs : List Char) :
    (∀ c ∈ (trimChars cs).head?, isBlank c = false) ∧
      ∀ c ∈ (trimChars cs).getLast?, isBlank c = false := by
  constructor
  · rw [← dropWhile_trimChars]
    exact isBlank_of_mem_head?_dropWhile
  · rw [trimChars, List.getLast?_reverse]
    exact isBlank_of_mem_head?_dropWhile

theorem trim_trim (s : String) : trim (trim s) = trim s := by
  rw [trim, trim, String.toList_ofList, trimChars_trimChars]

end Text

/-! Words. -/

namespace Word

/-- The word at another place, so many bytes further. -/
def shift (bytes : Nat) (w : Word) : Word :=
  { w with start := w.start + bytes }

theorem scan_blank {c : Char} (h : Text.isBlank c = true) (offset : Nat) (cs : List Char) :
    scan offset (c :: cs) = scan (offset + c.utf8Size) cs := by
  rw [scan, if_pos h]

/-- A text without words is a text of blanks. -/
theorem scan_eq_nil_iff {offset : Nat} {cs : List Char} :
    scan offset cs = [] ↔ cs.all Text.isBlank = true := by
  induction cs generalizing offset with
  | nil => simp [scan]
  | cons c cs ih =>
      rw [scan, List.all_cons, Bool.and_eq_true]
      cases hBlank : Text.isBlank c with
      | true => simp [ih]
      | false =>
          -- a character that is no blank always begins or joins a word
          have hPrepend (words : List Word) : prepend offset c words ≠ [] := by
            rw [prepend.eq_def]
            split
            · simp
            · split <;> simp
          simp [hPrepend]

/-- A new word begins with the character, and all others are as before or have
the character in front. -/
theorem mem_prepend {offset : Nat} {c : Char} {w : Word} {words : List Word}
    (h : w ∈ prepend offset c words) :
    w ∈ words ∨ (w.start = offset ∧ (w.chars = [c] ∨ ∃ v ∈ words, w.chars = c :: v.chars)) := by
  cases words with
  | nil =>
      rw [prepend, List.mem_singleton] at h
      subst h
      exact .inr ⟨rfl, .inl rfl⟩
  | cons v rest =>
      rw [prepend] at h
      split at h
      · rcases List.mem_cons.mp h with rfl | hRest
        · exact .inr ⟨rfl, .inr ⟨v, List.mem_cons_self, rfl⟩⟩
        · exact .inl (List.mem_cons_of_mem _ hRest)
      · rcases List.mem_cons.mp h with rfl | hRest
        · exact .inr ⟨rfl, .inl rfl⟩
        · exact .inl hRest

theorem le_start {offset : Nat} {cs : List Char} {w : Word} (h : w ∈ scan offset cs) :
    offset ≤ w.start := by
  induction cs generalizing offset w with
  | nil => cases h
  | cons c cs ih =>
      rw [scan] at h
      split at h
      · have hLater := ih h
        omega
      · rcases mem_prepend h with hOld | ⟨hStart, _⟩
        · have hLater := ih hOld
          omega
        · omega

/-- A word has characters, and none of them is white space. -/
theorem chars_of_mem_scan {offset : Nat} {cs : List Char} {w : Word} (h : w ∈ scan offset cs) :
    w.chars ≠ [] ∧ ∀ c ∈ w.chars, Text.isBlank c = false := by
  induction cs generalizing offset w with
  | nil => cases h
  | cons c cs ih =>
      rw [scan] at h
      split at h
      · exact ih h
      · next hBlank =>
          have hFirst : Text.isBlank c = false := by simpa using hBlank
          rcases mem_prepend h with hOld | ⟨_, hChars | ⟨v, hOld, hChars⟩⟩
          · exact ih hOld
          · simp [hChars, hFirst]
          · have hRest := (ih hOld).2
            simpa [hChars, hFirst] using hRest

/-- A character joins no word that begins further on. -/
theorem prepend_of_later {offset : Nat} {c : Char} {words : List Word}
    (h : ∀ w ∈ words, offset + c.utf8Size < w.start) :
    prepend offset c words = ⟨offset, [c]⟩ :: words := by
  cases words with
  | nil => rfl
  | cons w rest =>
      have hLater := h w List.mem_cons_self
      rw [prepend, if_neg (by omega)]

/-- Characters that are no white space make one word up to the white space that
follows. -/
theorem scan_append {chars rest : List Char} (hChars : chars ≠ [])
    (hWord : ∀ c ∈ chars, Text.isBlank c = false)
    (hRest : ∀ c ∈ rest.head?, Text.isBlank c = true) (offset : Nat) :
    scan offset (chars ++ rest) =
      ⟨offset, chars⟩ :: scan (offset + Text.byteLength chars) rest := by
  induction chars generalizing offset with
  | nil => exact absurd rfl hChars
  | cons c more ih =>
      have hFirst : ¬ Text.isBlank c = true := by simp [hWord c List.mem_cons_self]
      rw [List.cons_append, scan, if_neg hFirst, Text.byteLength]
      cases more with
      | nil =>
          -- what follows is no part of the word, for white space is in between
          rw [List.nil_append, Text.byteLength, Nat.add_zero]
          apply prepend_of_later
          intro w hw
          cases rest with
          | nil => cases hw
          | cons gap rest =>
              rw [scan_blank (hRest gap rfl)] at hw
              have hStart := le_start hw
              have hSize := gap.utf8Size_pos
              omega
      | cons next more =>
          rw [ih (List.cons_ne_nil _ _) (fun d hd => hWord d (List.mem_cons_of_mem _ hd)),
            prepend, if_pos rfl, Nat.add_assoc]

theorem prepend_shift (offset bytes : Nat) (c : Char) (words : List Word) :
    prepend (offset + bytes) c (words.map (shift bytes)) =
      (prepend offset c words).map (shift bytes) := by
  cases words with
  | nil => rfl
  | cons w rest =>
      have hSame : w.start + bytes = offset + bytes + c.utf8Size ↔ w.start = offset + c.utf8Size := by
        omega
      simp only [List.map_cons, prepend, shift, hSame]
      split <;> rfl

/-- The words of a text that starts later are its words, moved on. -/
theorem scan_shift (offset bytes : Nat) (cs : List Char) :
    scan (offset + bytes) cs = (scan offset cs).map (shift bytes) := by
  induction cs generalizing offset with
  | nil => rfl
  | cons c cs ih =>
      have hRest := ih (offset + c.utf8Size)
      rw [Nat.add_right_comm] at hRest
      simp only [scan, hRest, prepend_shift]
      split <;> rfl

/-- The texts of words are the same wherever they begin. -/
theorem map_text_scan (offset : Nat) (cs : List Char) :
    (scan offset cs).map text = (scan 0 cs).map text := by
  rw [← Nat.zero_add offset, scan_shift, List.map_map]
  rfl

theorem scan_append_blanks {back : List Char} (h : back.all Text.isBlank = true) (offset : Nat)
    (cs : List Char) : scan offset (cs ++ back) = scan offset cs := by
  induction cs generalizing offset with
  | nil => rw [List.nil_append, scan_eq_nil_iff.mpr h, scan]
  | cons c cs ih => rw [List.cons_append, scan, scan, ih]

/-- Blanks in front of a text only move on its words. -/
theorem map_text_scan_blanks_append {front : List Char} (h : front.all Text.isBlank = true)
    (cs : List Char) : (scan 0 (front ++ cs)).map text = (scan 0 cs).map text := by
  induction front with
  | nil => rfl
  | cons c front ih =>
      rw [List.all_cons, Bool.and_eq_true] at h
      rw [List.cons_append, scan_blank h.1, map_text_scan, ih h.2]

end Word

namespace Text

theorem words_eq_nil_iff {s : String} : words s = [] ↔ allBlank s = true :=
  Word.scan_eq_nil_iff

/-- The words of a text, as texts. -/
def wordTexts (s : String) : List String :=
  (words s).map Word.text

/-- White space around a text makes no difference to its words. -/
theorem wordTexts_trim (s : String) : wordTexts (trim s) = wordTexts s := by
  obtain ⟨front, back, hChars, hFront, hBack⟩ := exists_append_trimChars s.toList
  have hTexts : (Word.scan 0 s.toList).map Word.text =
      (Word.scan 0 (trimChars s.toList)).map Word.text := by
    conv_lhs => rw [hChars]
    rw [Word.scan_append_blanks hBack, Word.map_text_scan_blanks_append hFront]
  rw [wordTexts, wordTexts, words, words, hTexts, trim, String.toList_ofList]

/-- A word is not empty and has no blanks. -/
theorem ne_empty_and_blankFree_of_mem_wordTexts {s word : String} (h : word ∈ wordTexts s) :
    word ≠ "" ∧ BlankFree word := by
  obtain ⟨w, hw, rfl⟩ := List.mem_map.mp h
  obtain ⟨hChars, hBlank⟩ := Word.chars_of_mem_scan hw
  constructor
  · intro hEmpty
    apply hChars
    simpa [Word.text] using congrArg String.toList hEmpty
  · intro c hc
    rw [Word.text, String.toList_ofList] at hc
    exact hBlank c hc

/-- A word and a blank are followed by the words of the rest. -/
theorem wordTexts_append {word : String} (hWord : word ≠ "") (hBlank : BlankFree word)
    (rest : String) : wordTexts (word ++ " " ++ rest) = word :: wordTexts rest := by
  have hChars : word.toList ≠ [] := mt String.toList_eq_nil_iff.mp hWord
  have hGap : ∀ c ∈ (' ' :: rest.toList).head?, isBlank c = true := by
    intro c hc
    cases hc
    rfl
  have hLine : (word ++ " " ++ rest).toList = word.toList ++ ' ' :: rest.toList := by simp
  rw [wordTexts, words, hLine, Word.scan_append hChars hBlank hGap, List.map_cons,
    Word.scan_blank rfl, Word.map_text_scan, Word.text, String.ofList_toList]
  rfl

/-- A text is its only word if and only if it is not empty and has no white
space. -/
theorem wordTexts_eq_singleton_iff {s : String} : wordTexts s = [s] ↔ s ≠ "" ∧ BlankFree s := by
  constructor
  · intro h
    have hMem : s ∈ wordTexts s := by
      rw [h]
      exact List.mem_singleton_self s
    exact ne_empty_and_blankFree_of_mem_wordTexts hMem
  · rintro ⟨hEmpty, hBlank⟩
    have hChars : s.toList ≠ [] := mt String.toList_eq_nil_iff.mp hEmpty
    have hRest : ∀ c ∈ ([] : List Char).head?, isBlank c = true := nofun
    rw [wordTexts, words, ← List.append_nil s.toList, Word.scan_append hChars hBlank hRest,
      List.map_cons, Word.text, String.ofList_toList]
    rfl

/-- Words that are joined with blanks are the words of the text that they
make. -/
theorem wordTexts_join {texts : List String}
    (h : ∀ word ∈ texts, word ≠ "" ∧ BlankFree word) : wordTexts (join " " texts) = texts := by
  fun_induction join " " texts with
  | case1 => rfl
  | case2 word => exact wordTexts_eq_singleton_iff.mpr (h word List.mem_cons_self)
  | case3 word next rest ih =>
      rw [List.forall_mem_cons] at h
      rw [wordTexts_append h.1.1 h.1.2, ih h.2]

/-! Lower case. -/

/-- The code points of white space, one by one. -/
def blankCodes : List Nat :=
  blankRanges.flatMap fun range => List.range' range.1 (range.2 + 1 - range.1)

theorem mem_blankCodes {c : Char} (h : isBlank c = true) : c.toNat ∈ blankCodes := by
  simp [isBlank, inRanges, blankRanges, blankCodes] at h ⊢
  omega

/-- No blank has another lower case. -/
theorem lowerSingle_of_blank {c : Char} (h : isBlank c = true) : lowerSingle c = c := by
  have hCodes : ∀ code ∈ blankCodes, lowerSingle (Char.ofNat code) = Char.ofNat code := by decide
  have hSame := hCodes c.toNat (mem_blankCodes h)
  rwa [Char.ofNat_toNat] at hSame

theorem lowerAt_of_blank {c : Char} (h : isBlank c = true) (before after : List Char) :
    lowerAt before c after = [c] := by
  have hSigma : c ≠ 'Σ' := by
    rintro rfl
    cases h
  have hDotted : c ≠ 'İ' := by
    rintro rfl
    cases h
  rw [lowerAt, if_neg hSigma, if_neg hDotted, lowerSingle_of_blank h]

/-- A blank stays in a text that is put into lower case. -/
theorem mem_lowerChars_of_blank {c : Char} (h : isBlank c = true) {before cs : List Char}
    (hMem : c ∈ cs) : c ∈ lowerChars before cs := by
  induction cs generalizing before with
  | nil => cases hMem
  | cons d cs ih =>
      rw [lowerChars, List.mem_append]
      rcases List.mem_cons.mp hMem with rfl | hLater
      · left
        rw [lowerAt_of_blank h]
        exact List.mem_singleton_self c
      · exact .inr (ih hLater)

/-- A text whose lower case has no white space has none itself. -/
theorem blankFree_of_lowercase {s : String} (h : BlankFree (lowercase s)) : BlankFree s := by
  intro c hc
  by_contra hBlank
  rw [Bool.not_eq_false] at hBlank
  have hMem : c ∈ (lowercase s).toList := by
    rw [lowercase, String.toList_ofList]
    exact mem_lowerChars_of_blank hBlank hc
  rw [h c hMem] at hBlank
  cases hBlank

end Text

end VirtualShell
