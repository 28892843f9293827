import VirtualShell.Text.Width
/-!
The columns of texts that stand side by side. A text is read from its end, and a
character may take back a column that was counted for what stands behind it. It never
takes back more than was counted, so a text has as many columns as its characters add
up to; and where the second of two texts does not matter to the first, the columns of
both are those of each together.
-/

namespace VirtualShell.Text

variable {c : Char} {cs ds : List Char} {s t : String} {step : Int × Follower}

theorem inRanges_eq_true_iff {ranges : List (Nat × Nat)} {code : Nat} :
    inRanges ranges code = true ↔ ∃ range ∈ ranges, range.1 ≤ code ∧ code ≤ range.2 := by
  simp [inRanges]

/-- No code point lies in ranges of two tables that do not overlap. -/
theorem not_inRanges_of_disjoint {ranges others : List (Nat × Nat)} {code : Nat}
    (h : ∀ range ∈ ranges, ∀ other ∈ others, range.2 < other.1 ∨ other.2 < range.1)
    (hIn : inRanges ranges code = true) : ¬inRanges others code = true := by
  rw [inRanges_eq_true_iff] at hIn ⊢
  obtain ⟨range, hRange, hFrom, hTo⟩ := hIn
  rintro ⟨other, hOther, hFrom', hTo'⟩
  have hApart := h range hRange other hOther
  omega

/-- Only the characters of one table take no column. -/
theorem charWidth_pos (h : ¬inRanges zeroWidthRanges c.toNat = true) : 0 < charWidth c := by
  fun_cases charWidth c with
  | case2 code hLater hZero => exact absurd hZero h
  | _ => decide

/-- The Khmer letters take a column, for they are not in that table. -/
theorem charWidth_pos_of_khmerLetter (h : isKhmerLetter c = true) : 0 < charWidth c := by
  refine charWidth_pos (not_inRanges_of_disjoint ?_ h)
  decide +kernel

/-- The columns counted for the right part of a ligature that its left part takes back. -/
def LigatureEnd.owed : LigatureEnd → Int
  | linkedTifinagh | khmerLetter => 1
  | _ => 0

/-- The columns counted so far that a character in front may take back. -/
def Follower.owed : Follower → Int
  | joinedRegion => 1
  | joinedRegions even => if even then 0 else 1
  | ligature part _ => part.owed
  | _ => 0

/-- Whether what a step counts, and what was owed before it, is enough for what is owed
after it. -/
def Covers (before : Int) (step : Int × Follower) : Prop :=
  step.2.owed ≤ step.1 + before

instance (before : Int) (step : Int × Follower) : Decidable (Covers before step) :=
  inferInstanceAs (Decidable (_ ≤ _))

theorem LigatureEnd.owed_nonneg (part : LigatureEnd) : 0 ≤ part.owed := by
  fun_cases LigatureEnd.owed part <;> decide

@[simp] theorem LigatureEnd.owed_join (part : LigatureEnd) : part.join.owed = part.owed := by
  cases part <;> rfl

namespace Follower

@[simp] theorem owed_plain : plain.owed = 0 := rfl

@[simp] theorem owed_picture : picture.owed = 0 := rfl

theorem owed_nonneg (follower : Follower) : 0 ≤ follower.owed := by
  cases follower with
  | joinedRegions even => cases even <;> decide
  | ligature part style => exact part.owed_nonneg
  | _ => exact Int.zero_le_ofNat _

/-- A style that is declined adds to no debt. -/
theorem owed_decline (style : Style) (follower : Follower) :
    (follower.decline style).owed ≤ follower.owed := by
  fun_cases decline style follower with
  | case1 | case2 => exact Int.le_refl _
  | case3 => exact follower.owed_nonneg

theorem owed_selectPicture (follower : Follower) :
    follower.selectPicture.owed ≤ follower.owed := by
  fun_cases selectPicture follower with
  | case1 | case2 => exact Int.le_refl _
  | case3 => exact follower.owed_nonneg

theorem owed_selectText (follower : Follower) : follower.selectText.owed ≤ follower.owed := by
  fun_cases selectText follower with
  | case1 => exact Int.le_refl _
  | case2 => exact follower.owed_nonneg

end Follower

@[simp] theorem covers_mk {before added : Int} {left : Follower} :
    Covers before (added, left) ↔ left.owed ≤ added + before := Iff.rfl

theorem Covers.mono {before more : Int} (h : Covers before step) (hMore : before ≤ more) :
    Covers more step :=
  Int.le_trans h (Int.add_le_add_left hMore step.1)

/-- By itself, a character counts what it may have to give back. -/
theorem covers_aloneWidth (c : Char) : Covers 0 (aloneWidth c) := by
  have hAdded : (0 : Int) ≤ if c = '\n' then 0 else (charWidth c : Int) := by
    split <;> omega
  rw [Covers, aloneWidth]
  -- of all letters, only the Khmer ones owe a column by themselves
  fun_cases Follower.ofChar c with
  | case13 hLine _ _ _ _ _ _ _ _ _ _ _ hKhmer =>
      have hWidth := charWidth_pos_of_khmerLetter hKhmer
      rw [if_neg hLine, Follower.owed, LigatureEnd.owed]
      omega
  | _ => simpa [Follower.owed, LigatureEnd.owed] using hAdded

/-- A run of tags counts nothing that it could not give back. -/
theorem TagRun.covers_before? {run : TagRun} (h : run.before? c = some step) : Covers 0 step := by
  revert h
  fun_cases TagRun.before? c run <;> rintro ⟨⟩ <;> exact Int.le_refl _

/-- A character in front of a ligature takes back no more than the ligature owes. -/
theorem LigatureEnd.covers_before? {part : LigatureEnd} (h : part.before? c = some step) :
    Covers part.owed step := by
  revert h
  fun_cases LigatureEnd.before? c part with
  | case4 | case5 =>
      -- a joiner or a mark in front of any part leaves it as it is
      rintro ⟨⟩
      simp [Follower.owed]
  | _ => rintro ⟨⟩ <;> simp [Follower.owed, LigatureEnd.owed]

/-- A character in front of anything else takes back no more than that owes. -/
theorem Follower.covers_before? {follower : Follower} (h : follower.before? c = some step) :
    Covers follower.owed step := by
  revert h
  fun_cases Follower.before? c follower with
  | case17 run => exact TagRun.covers_before?
  | case20 even | case21 even =>
      -- the last of an odd number of regions has been counted, and one more takes it back
      rintro ⟨⟩
      cases even <;> decide
  | case23 part style => exact LigatureEnd.covers_before?
  | _ => rintro ⟨⟩ <;> simp [owed]

/-- No character takes back more than is owed behind it. -/
theorem covers_widthBefore (c : Char) (follower : Follower) :
    Covers follower.owed (widthBefore c follower) := by
  have hOwed := follower.owed_nonneg
  have hPicture := follower.owed_decline .picture
  fun_cases widthBefore c follower with
  | case1 =>
      rw [covers_mk, Follower.owed_picture]
      split <;> omega
  | case2 | case6 =>
      rw [covers_mk, Follower.owed_plain]
      omega
  | case3 => exact (covers_aloneWidth c).mono hOwed
  | case4 =>
      rw [covers_mk, Int.zero_add]
      exact Int.le_trans (Follower.owed_selectPicture _) hPicture
  | case5 =>
      rw [covers_mk, Int.zero_add]
      exact Int.le_trans (Follower.owed_selectText _) hPicture
  | case7 =>
      have hText := Int.le_trans (Follower.owed_decline .text _) hPicture
      cases hBefore : ((follower.decline .picture).decline .text).before? c with
      | none => exact (covers_aloneWidth c).mono hOwed
      | some step => exact (Follower.covers_before? hBefore).mono hText

@[simp] theorem widthChars_nil : widthChars [] = (0, .plain) := rfl

theorem widthChars_cons (c : Char) (cs : List Char) :
    widthChars (c :: cs) =
      ((widthBefore c (widthChars cs).2).1 + (widthChars cs).1,
        (widthBefore c (widthChars cs).2).2) := rfl

/-- All that may be taken back has been counted. -/
theorem owed_le_widthChars (cs : List Char) : (widthChars cs).2.owed ≤ (widthChars cs).1 := by
  induction cs with
  | nil => exact Int.le_refl 0
  | cons c cs ih =>
      have hStep := covers_widthBefore c (widthChars cs).2
      rw [Covers] at hStep
      rw [widthChars_cons]
      dsimp only
      omega

/-- So no text takes fewer columns than none. -/
theorem coe_width (s : String) : (width s : Int) = (widthChars s.toList).1 :=
  Int.toNat_of_nonneg (Int.le_trans (Follower.owed_nonneg _) (owed_le_widthChars s.toList))

/-- Where the second of two texts is of no matter to the first, each is counted by
itself. -/
theorem widthChars_append (hPlain : (widthChars ds).2 = .plain) (cs : List Char) :
    widthChars (cs ++ ds) = ((widthChars cs).1 + (widthChars ds).1, (widthChars cs).2) := by
  induction cs with
  | nil =>
      rw [List.nil_append, widthChars_nil, Int.zero_add, ← hPlain]
  | cons c cs ih =>
      rw [List.cons_append, widthChars_cons, ih, widthChars_cons, Int.add_assoc]

/-- Whether a text is of no matter to what stands in front of it. -/
def Detached (s : String) : Prop :=
  (widthChars s.toList).2 = .plain

/-- Two texts are as wide as both together, if the second is of no matter to the first. -/
theorem width_append (h : Detached t) (s : String) : width (s ++ t) = width s + width t := by
  have hBoth := coe_width (s ++ t)
  have hFirst := coe_width s
  have hSecond := coe_width t
  rw [String.toList_append, widthChars_append h] at hBoth
  dsimp only at hBoth
  omega

/-- Whether a character takes one column, and is of no matter to what stands in front of
it, when that is so of what stands behind it. -/
def Steady (c : Char) : Prop :=
  widthBefore c .plain = (1, .plain)

instance (c : Char) : Decidable (Steady c) :=
  inferInstanceAs (Decidable (widthBefore c .plain = (1, .plain)))

/-- Steady characters count one column each and are of no matter to each other. -/
theorem widthChars_of_steady (h : ∀ c ∈ cs, Steady c) :
    widthChars cs = ((cs.length : Int), .plain) := by
  induction cs with
  | nil => rfl
  | cons c cs ih =>
      rw [List.forall_mem_cons] at h
      have hFirst : widthBefore c .plain = (1, .plain) := h.1
      rw [widthChars_cons, ih h.2, hFirst, List.length_cons, Int.natCast_succ, Int.add_comm]

/-- Whether a text is made of such characters alone. -/
def Uniform (s : String) : Prop :=
  ∀ c ∈ s.toList, Steady c

theorem Steady.uniform (h : Steady c) (hChars : s.toList = [c]) : Uniform s := by
  intro d hd
  rw [hChars, List.mem_singleton] at hd
  rwa [hd]

theorem Uniform.detached (h : Uniform s) : Detached s := by
  rw [Detached, widthChars_of_steady h]

/-- A uniform text takes a column for each character. -/
theorem Uniform.width_eq (h : Uniform s) : width s = s.length := by
  rw [width, widthChars_of_steady h, ← String.length_toList]
  rfl

/-- A blank stands for itself, whatever is behind it. -/
theorem widthBefore_blank (follower : Follower) : widthBefore ' ' follower = (1, .plain) := by
  have hStyled : inRanges styledRanges ' '.toNat = false := by decide
  have hAlone : aloneWidth ' ' = (1, .plain) := by decide
  rw [widthBefore, hStyled, Bool.and_false, if_neg Bool.false_ne_true, if_pos (by decide),
    if_neg (by simp), hAlone]

/-- A text that begins with a blank is of no matter to what stands in front of it. -/
theorem detached_blank (s : String) : Detached (" " ++ s) := by
  rw [Detached, String.toList_append]
  exact congrArg Prod.snd (widthBefore_blank _)

/-- A blank in front of a text adds one column. -/
theorem width_blank (s : String) : width (" " ++ s) = width s + 1 := by
  have hBoth := coe_width (" " ++ s)
  have hText := coe_width s
  rw [String.toList_append] at hBoth
  change _ = (widthChars (' ' :: s.toList)).1 at hBoth
  rw [widthChars_cons, widthBefore_blank] at hBoth
  dsimp only at hBoth
  omega

end VirtualShell.Text
