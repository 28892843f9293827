import Mathlib.Data.String.Basic
import VirtualShell.Text.Split
/-!
How a text falls into pieces. The pieces of a text that has the separator
somewhere are the pieces of what stands before it and those of what stands behind
it, and a text that does not have it is one piece. What stands before it is also
one of the beginnings of the text, and no text comes before those in order.
-/

namespace VirtualShell.Text

variable {sep : Char}

theorem splitChars_eq_splitOn (sep : Char) (cs : List Char) :
    splitChars sep cs = cs.splitOn sep := by
  induction cs with
  | nil => rfl
  | cons c cs ih =>
      rw [splitChars, List.splitOn_cons_eq_if_modifyHead, ih]
      simp only [beq_iff_eq]
      split
      · rfl
      · cases hPieces : cs.splitOn sep with
        | nil => exact absurd hPieces (List.splitOn_ne_nil sep cs)
        | cons piece pieces => rfl

/-- A separator parts the pieces before it from those after it. -/
theorem split_append (sep : Char) (before after : List Char) :
    split sep (String.ofList (before ++ sep :: after)) =
      split sep (String.ofList before) ++ split sep (String.ofList after) := by
  simp only [split, String.toList_ofList, splitChars_eq_splitOn, List.splitOn_append_cons_self,
    List.map_append]

theorem split_of_not_mem {s : String} (h : sep ∉ s.toList) : split sep s = [s] := by
  rw [split, splitChars_eq_splitOn, List.splitOn_eq_singleton h, List.map_singleton,
    String.ofList_toList]

/-- Joined texts fall into the texts that were joined, if none of them has the
separator. -/
theorem split_join {texts : List String} (hSome : texts ≠ [])
    (h : ∀ text ∈ texts, sep ∉ text.toList) : split sep (join (String.singleton sep) texts) = texts := by
  induction texts with
  | nil => exact absurd rfl hSome
  | cons text rest ih =>
      rw [List.forall_mem_cons] at h
      cases rest with
      | nil => exact split_of_not_mem h.1
      | cons next rest =>
          have hChars : join (String.singleton sep) (text :: next :: rest) =
              String.ofList (text.toList ++ sep :: (join (String.singleton sep) (next :: rest)).toList) := by
            rw [join, ← String.toList_inj]
            simp
          rw [hChars, split_append, String.ofList_toList, String.ofList_toList, split_of_not_mem h.1,
            ih (List.cons_ne_nil _ _) h.2, List.singleton_append]

/-- Characters are a piece without separator, or they begin with one that ends at
a separator. -/
@[elab_as_elim]
theorem splitInduction (sep : Char) {motive : List Char → Prop}
    (piece : ∀ name, sep ∉ name → motive name)
    (more : ∀ name rest, sep ∉ name → motive rest → motive (name ++ sep :: rest))
    (cs : List Char) : motive cs := by
  by_cases hMem : sep ∈ cs
  · obtain ⟨name, rest, hSplit, hName⟩ := List.eq_append_cons_of_mem hMem
    have hShorter : rest.length < cs.length := by
      rw [hSplit, List.length_append, List.length_cons]
      omega
    rw [hSplit]
    exact more name rest hName (splitInduction sep piece more rest)
  · exact piece cs hMem
termination_by cs.length

/-! Cutting at the first separator -/

theorem cutChars_append {before : List Char} (h : sep ∉ before) (rest : List Char) :
    cutChars sep (before ++ sep :: rest) = (before, some rest) := by
  induction before with
  | nil => simp [cutChars]
  | cons c cs ih =>
      rw [List.mem_cons, not_or] at h
      simp [cutChars, Ne.symm h.1, ih h.2]

theorem cutChars_of_not_mem {cs : List Char} (h : sep ∉ cs) : cutChars sep cs = (cs, none) := by
  induction cs with
  | nil => rfl
  | cons c cs ih =>
      rw [List.mem_cons, not_or] at h
      simp [cutChars, Ne.symm h.1, ih h.2]

/-- A text is cut behind its first word. -/
theorem cut_append {word : String} (h : ' ' ∉ word.toList) (rest : String) :
    cut ' ' (word ++ " " ++ rest) = (word, some rest) := by
  have hChars : (word ++ " " ++ rest).toList = word.toList ++ ' ' :: rest.toList := by simp
  rw [cut, hChars, cutChars_append h]
  simp

/-- A text without the separator is not cut. -/
theorem cut_of_not_mem {s : String} (h : sep ∉ s.toList) : cut sep s = (s, none) := by
  rw [cut, cutChars_of_not_mem h]
  simp

/-- A text with a blank is a word without one, the blank and the rest. -/
theorem exists_word_of_mem {s : String} (h : ' ' ∈ s.toList) :
    ∃ word rest, s = word ++ " " ++ rest ∧ ' ' ∉ word.toList := by
  obtain ⟨before, after, hChars, hBefore⟩ := List.eq_append_cons_of_mem h
  refine ⟨String.ofList before, String.ofList after, ?_, by rwa [String.toList_ofList]⟩
  rw [← String.toList_inj, hChars]
  simp

/-! Beginnings -/

variable {s beginning : String}

/-- What begins with a text goes on from it. -/
theorem startsWith_iff : startsWith s beginning = true ↔ ∃ rest, s = beginning ++ rest := by
  rw [startsWith, List.isPrefixOf_iff_prefix]
  constructor
  · rintro ⟨rest, hRest⟩
    exact ⟨String.ofList rest, by rw [← String.toList_inj, ← hRest]; simp⟩
  · rintro ⟨rest, rfl⟩
    exact ⟨rest.toList, String.toList_append.symm⟩

theorem startsWith_self (s : String) : startsWith s s = true :=
  startsWith_iff.mpr ⟨"", String.append_empty.symm⟩

/-- A beginning of a beginning is one of the text as well. -/
theorem startsWith_of_append {more : String} (h : startsWith s (beginning ++ more) = true) :
    startsWith s beginning = true := by
  obtain ⟨rest, rfl⟩ := startsWith_iff.mp h
  exact startsWith_iff.mpr ⟨more ++ rest, String.append_assoc⟩

/-- No text comes before its own beginnings. -/
theorem not_lt_of_startsWith (h : startsWith s beginning = true) : ¬ s < beginning := by
  obtain ⟨rest, hRest⟩ := List.isPrefixOf_iff_prefix.mp h
  rw [String.lt_iff_toList_lt, ← hRest]
  induction beginning.toList with
  | nil => exact List.not_lt_nil _
  | cons c cs ih =>
      rw [List.cons_append, List.cons_lt_cons_iff, not_or]
      exact ⟨Char.lt_irrefl c, fun hLess => ih hLess.2⟩

end VirtualShell.Text
