import VirtualShell.Text.Lowercase
import Mathlib.Data.List.Basic
/-!
Lower case piece by piece. It is no map on characters, for a capital sigma
becomes one of two letters by what stands around it. Where there is no sigma,
texts are lowercased one character at a time; and where there is one, the lower
case shows it.
-/

namespace VirtualShell.Text

/-- A character in lower case by itself. -/
def lowerAlone (c : Char) : List Char :=
  lowerAt [] c []

/-- Only the sigma is put into lower case by what stands around it. -/
theorem lowerAt_eq_lowerAlone {c : Char} (h : c ≠ 'Σ') (before after : List Char) :
    lowerAt before c after = lowerAlone c := by
  rw [lowerAlone, lowerAt, lowerAt, if_neg h, if_neg h]

/-- The 128 characters of one byte have the lower case of the letters a to z. -/
theorem lowerAlone_of_ascii {c : Char} (hAscii : c.toNat < 0x80) : lowerAlone c = [c.toLower] := by
  have hSigma : c ≠ 'Σ' := by
    rintro rfl
    exact absurd hAscii (by decide)
  have hDotted : c ≠ 'İ' := by
    rintro rfl
    exact absurd hAscii (by decide)
  rw [lowerAlone, lowerAt, if_neg hSigma, if_neg hDotted, lowerSingle, if_pos hAscii]

/-- A text without a sigma is put into lower case character by character. -/
theorem lowerChars_eq_flatMap {cs : List Char} (h : 'Σ' ∉ cs) (before : List Char) :
    lowerChars before cs = cs.flatMap lowerAlone := by
  induction cs generalizing before with
  | nil => rfl
  | cons c cs ih =>
      rw [List.mem_cons, not_or] at h
      rw [lowerChars, List.flatMap_cons, lowerAt_eq_lowerAlone (Ne.symm h.1), ih h.2]

theorem toList_lowercase {s : String} (h : 'Σ' ∉ s.toList) :
    (lowercase s).toList = s.toList.flatMap lowerAlone := by
  rw [lowercase, String.toList_ofList, lowerChars_eq_flatMap h]

/-- Without a sigma, the lower case of two texts in a row is that of each. -/
theorem lowercase_append {s t : String} (hs : 'Σ' ∉ s.toList) (ht : 'Σ' ∉ t.toList) :
    lowercase (s ++ t) = lowercase s ++ lowercase t := by
  have hBoth : 'Σ' ∉ (s ++ t).toList := by
    rw [String.toList_append, List.mem_append, not_or]
    exact ⟨hs, ht⟩
  rw [← String.toList_inj, toList_lowercase hBoth, String.toList_append, String.toList_append,
    List.flatMap_append, toList_lowercase hs, toList_lowercase ht]

/-- A sigma is there in lower case, in one of its two forms. -/
theorem sigma_mem_lowerChars {cs : List Char} (h : 'Σ' ∈ cs) (before : List Char) :
    'σ' ∈ lowerChars before cs ∨ 'ς' ∈ lowerChars before cs := by
  induction cs generalizing before with
  | nil => cases h
  | cons c cs ih =>
      rw [lowerChars, List.mem_append, List.mem_append]
      rcases List.mem_cons.mp h with rfl | hLater
      · rw [lowerAt, if_pos rfl]
        split
        · exact .inr (.inl (List.mem_singleton_self _))
        · exact .inl (.inl (List.mem_singleton_self _))
      · exact (ih hLater (c :: before)).imp .inr .inr

/-- A text whose lower case has neither of the small sigmas has no sigma. -/
theorem sigma_not_mem_of_lowercase {s : String} (hSigma : 'σ' ∉ (lowercase s).toList)
    (hFinal : 'ς' ∉ (lowercase s).toList) : 'Σ' ∉ s.toList := by
  intro hMem
  rw [lowercase, String.toList_ofList] at hSigma hFinal
  exact (sigma_mem_lowerChars hMem []).elim hSigma hFinal

/-- A text of characters that are their own lower case is its own. -/
theorem lowercase_eq_self {s : String} (hSigma : 'Σ' ∉ s.toList)
    (h : ∀ c ∈ s.toList, lowerAlone c = [c]) : lowercase s = s := by
  rw [← String.toList_inj, toList_lowercase hSigma]
  calc
    s.toList.flatMap lowerAlone = s.toList.flatMap fun c => [c] := List.flatMap_congr h
    _ = s.toList := List.flatMap_singleton' s.toList

end VirtualShell.Text
