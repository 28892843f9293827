import VirtualShell.Text.Split
import Mathlib.Tactic.SplitIfs
import Mathlib.Data.String.Basic
/-!
Texts as bytes of UTF-8. The encoding keeps the order of texts: to compare two
texts code point by code point is to compare their bytes, so that it makes no
difference which of the two is meant where names are said to be in order.
-/

namespace VirtualShell.Text

/-- The bytes of a text in UTF-8. -/
def bytes (s : String) : List UInt8 :=
  s.toUTF8.data.toList

/-- The bytes of a text are those of its characters. -/
theorem bytes_eq_flatMap (s : String) : bytes s = s.toList.flatMap String.utf8EncodeChar := by
  rw [bytes, String.toUTF8, ← String.utf8Encode_toList, List.utf8Encode,
    List.toList_data_toByteArray]

theorem ofNat_lt_ofNat_iff {a b : Nat} (ha : a < 256) (hb : b < 256) :
    UInt8.ofNat a < UInt8.ofNat b ↔ a < b := by
  rw [UInt8.lt_iff_toNat_lt, UInt8.toNat_ofNat_of_lt' ha, UInt8.toNat_ofNat_of_lt' hb]

theorem ofNat_eq_ofNat_iff {a b : Nat} (ha : a < 256) (hb : b < 256) :
    UInt8.ofNat a = UInt8.ofNat b ↔ a = b := by
  rw [← UInt8.toNat_inj, UInt8.toNat_ofNat_of_lt' ha, UInt8.toNat_ofNat_of_lt' hb]

/-- The bytes of a smaller character are smaller, whatever follows: either its
first byte is, for it takes less bytes or its leading bits are smaller, or the
two differ first in six bits further on. -/
theorem encode_append_lt {c d : Char} (h : c < d) (cs ds : List UInt8) :
    String.utf8EncodeChar c ++ cs < String.utf8EncodeChar d ++ ds := by
  have hLess : c.val.toNat < d.val.toNat := h
  have hBound : d.val.toNat < 1114112 := by
    rcases d.valid with hLow | hHigh <;> omega
  have hTwo (n : Nat) : n / 4096 = n / 64 / 64 := by omega
  have hThree (n : Nat) : n / 262144 = n / 64 / 64 / 64 := by omega
  simp only [String.utf8EncodeChar, hTwo, hThree]
  generalize c.val.toNat = v at *
  generalize d.val.toNat = w at *
  -- at each digit of base 64 the two are in order, or agree from there upwards
  have hDigit {a b : Nat} (hOrder : a < b ∨ a = b) :
      a / 64 < b / 64 ∨ a / 64 = b / 64 ∧ a % 64 < b % 64 ∨ a = b := by
    omega
  have hFirst := hDigit (.inl hLess)
  have hSecond : v / 64 / 64 < w / 64 / 64 ∨ _ := hDigit (by omega)
  have hThird : v / 64 / 64 / 64 < w / 64 / 64 / 64 ∨ _ := hDigit (by omega)
  split_ifs <;>
    simp (disch := omega) only [List.cons_append, List.nil_append, List.cons_lt_cons_iff,
      ofNat_lt_ofNat_iff, ofNat_eq_ofNat_iff] <;>
    omega

/-- Characters that come earlier are encoded by bytes that come earlier. -/
theorem flatMap_encode_lt {cs ds : List Char} (h : cs < ds) :
    cs.flatMap String.utf8EncodeChar < ds.flatMap String.utf8EncodeChar := by
  induction h with
  | @nil d ds =>
      have hBytes : String.utf8EncodeChar d ≠ [] := by
        rw [← List.length_pos_iff, String.length_utf8EncodeChar]
        exact d.utf8Size_pos
      obtain ⟨first, more, hEncode⟩ := List.exists_cons_of_ne_nil hBytes
      rw [List.flatMap_nil, List.flatMap_cons, hEncode, List.cons_append]
      exact List.nil_lt_cons _ _
  | rel hLess =>
      rw [List.flatMap_cons, List.flatMap_cons]
      exact encode_append_lt hLess _ _
  | cons _ ih =>
      rw [List.flatMap_cons, List.flatMap_cons]
      exact List.append_left_lt ih

/-- Texts compare like their bytes. -/
theorem bytes_lt_bytes_iff {s t : String} : bytes s < bytes t ↔ s < t := by
  have hEncode {s t : String} (h : s < t) : bytes s < bytes t := by
    rw [bytes_eq_flatMap, bytes_eq_flatMap]
    exact flatMap_encode_lt (String.lt_iff_toList_lt.mp h)
  refine ⟨fun hBytes => ?_, hEncode⟩
  rcases lt_trichotomy s t with hLess | rfl | hGreater
  · exact hLess
  · exact absurd hBytes (List.lt_irrefl _)
  · exact absurd hBytes (List.lt_asymm (hEncode hGreater))

theorem bytes_le_bytes_iff {s t : String} : bytes s ≤ bytes t ↔ s ≤ t := by
  rw [← List.not_lt, bytes_lt_bytes_iff, not_lt]

/-- The bytes of a text tell the text. -/
theorem bytes_inj {s t : String} : bytes s = bytes t ↔ s = t := by
  refine ⟨fun hSame => ?_, congrArg bytes⟩
  have hLe : s ≤ t := bytes_le_bytes_iff.mp (hSame ▸ List.le_refl _)
  have hGe : t ≤ s := bytes_le_bytes_iff.mp (hSame ▸ List.le_refl _)
  exact le_antisymm hLe hGe

/-- It makes no difference for lists of texts either. -/
theorem map_bytes_lt_iff {ss ts : List String} : ss.map bytes < ts.map bytes ↔ ss < ts := by
  induction ss generalizing ts with
  | nil => cases ts <;> simp
  | cons s ss ih =>
      cases ts with
      | nil => simp
      | cons t ts =>
          rw [List.map_cons, List.map_cons, List.cons_lt_cons_iff, List.cons_lt_cons_iff,
            bytes_lt_bytes_iff, bytes_inj, ih]

/-! Positions behind the end. -/

theorem takeBytesChars_of_le {n : Nat} {cs : List Char} (h : byteLength cs ≤ n) :
    takeBytesChars n cs = cs := by
  induction cs generalizing n with
  | nil => rw [takeBytesChars]
  | cons c cs ih =>
      rw [byteLength] at h
      rw [takeBytesChars, if_pos (by omega), ih (by omega)]

theorem byteLength_toList (s : String) : byteLength s.toList = s.utf8ByteSize := by
  have hChars (cs : List Char) : byteLength cs = (String.ofList cs).utf8ByteSize := by
    induction cs with
    | nil => rfl
    | cons c cs ih =>
        rw [byteLength, ih, String.utf8ByteSize_ofList, String.utf8ByteSize_ofList,
          String.utf8Len_cons, Nat.add_comm]
  rw [hChars, String.ofList_toList]

/-- A text up to its own end is the whole text. -/
theorem takeBytes_utf8ByteSize (s : String) : takeBytes s.utf8ByteSize s = s := by
  rw [takeBytes, takeBytesChars_of_le (byteLength_toList s).le, String.ofList_toList]

end VirtualShell.Text
