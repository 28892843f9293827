import Mathlib.Data.List.Pairwise
import Mathlib.Data.List.Sort
import VirtualShell.Proofs.Text.Blank
import VirtualShell.Proofs.Text.Bytes
/-!
What the words of a text are, apart from how they are found. A word is a maximal
run of characters that are not white space, at its place among the bytes of the
text; the words come in order, with white space between them, and leave out
nothing but white space. Only one list of words is like that.
-/

namespace VirtualShell

namespace Text

theorem byteLength_append (front back : List Char) :
    byteLength (front ++ back) = byteLength front + byteLength back := by
  induction front with
  | nil => simp [byteLength]
  | cons c cs ih => rw [List.cons_append, byteLength, byteLength, ih, Nat.add_assoc]

theorem byteLength_ofList (cs : List Char) : byteLength cs = (bytes (String.ofList cs)).length := by
  induction cs with
  | nil => rfl
  | cons c cs ih =>
      rw [bytes_eq_flatMap, String.toList_ofList] at ih
      rw [byteLength, ih, bytes_eq_flatMap, String.toList_ofList, List.flatMap_cons,
        List.length_append, String.length_utf8EncodeChar]

theorem bytes_append (s t : String) : bytes (s ++ t) = bytes s ++ bytes t := by
  rw [bytes_eq_flatMap, bytes_eq_flatMap, bytes_eq_flatMap, String.toList_append,
    List.flatMap_append]

/-- Whether a character stands at a position among characters that begin at an
offset. Positions count bytes. -/
def StandsAt (offset : Nat) (cs : List Char) (c : Char) (position : Nat) : Prop :=
  ∃ front back, cs = front ++ c :: back ∧ position = offset + byteLength front

variable {offset position : Nat} {cs front : List Char} {c d : Char}

theorem standsAt_cons : StandsAt offset (d :: cs) c position ↔
    (c = d ∧ position = offset) ∨ StandsAt (offset + d.utf8Size) cs c position := by
  constructor
  · rintro ⟨front, back, hChars, rfl⟩
    rcases List.cons_eq_append_iff.mp hChars with ⟨rfl, hRest⟩ | ⟨more, rfl, hRest⟩
    · rw [List.cons.injEq] at hRest
      exact .inl ⟨hRest.1, rfl⟩
    · exact .inr ⟨more, back, hRest, by rw [byteLength, Nat.add_assoc]⟩
  · rintro (⟨rfl, rfl⟩ | ⟨front, back, rfl, rfl⟩)
    · exact ⟨[], cs, rfl, rfl⟩
    · exact ⟨d :: front, back, rfl, by rw [byteLength, Nat.add_assoc]⟩

/-- A character stands as far behind what is put in front as that is long. -/
theorem StandsAt.append (h : StandsAt (offset + byteLength front) cs c position) :
    StandsAt offset (front ++ cs) c position := by
  obtain ⟨before, back, rfl, rfl⟩ := h
  exact ⟨front ++ before, back, by simp, by rw [byteLength_append, Nat.add_assoc]⟩

/-- A character of two texts in a row stands in one of them. -/
theorem StandsAt.of_append (h : StandsAt offset (front ++ cs) c position) :
    (c ∈ front ∧ offset ≤ position ∧ position < offset + byteLength front) ∨
      StandsAt (offset + byteLength front) cs c position := by
  induction front generalizing offset with
  | nil => exact .inr h
  | cons d front ih =>
      have hSize := d.utf8Size_pos
      rw [byteLength]
      rcases standsAt_cons.mp h with ⟨rfl, rfl⟩ | hLater
      · exact .inl ⟨List.mem_cons_self, by omega, by omega⟩
      · rcases ih hLater with ⟨hMem, hFirst, hLast⟩ | hBehind
        · exact .inl ⟨List.mem_cons_of_mem _ hMem, by omega, by omega⟩
        · rw [Nat.add_assoc] at hBehind
          exact .inr hBehind

end Text

namespace Word

/-- Characters fall apart into white space and runs without white space. -/
@[elab_as_elim]
theorem runInduction {motive : List Char → Prop} (nil : motive [])
    (blank : ∀ c cs, Text.isBlank c = true → motive cs → motive (c :: cs))
    (run : ∀ chars rest, chars ≠ [] → (∀ c ∈ chars, Text.isBlank c = false) →
      (∀ c ∈ rest.head?, Text.isBlank c = true) → motive rest → motive (chars ++ rest))
    (cs : List Char) : motive cs := by
  -- what holds of the rest has to hold behind a run that has begun, too
  suffices h : motive cs ∧ ∀ chars, chars ≠ [] → (∀ c ∈ chars, Text.isBlank c = false) →
      motive (chars ++ cs) from h.1
  induction cs with
  | nil => exact ⟨nil, fun chars hChars hRun => run chars [] hChars hRun nofun nil⟩
  | cons c cs ih =>
      cases hBlank : Text.isBlank c with
      | true =>
          have hHere : motive (c :: cs) := blank c cs hBlank ih.1
          refine ⟨hHere, fun chars hChars hRun => run chars (c :: cs) hChars hRun ?_ hHere⟩
          intro d hd
          cases hd
          exact hBlank
      | false =>
          refine ⟨ih.2 [c] (List.cons_ne_nil _ _) (by simpa using hBlank), ?_⟩
          intro chars hChars hRun
          have hMore := ih.2 (chars ++ [c]) (by simp) (by
            intro d hd
            rcases List.mem_append.mp hd with hOld | hNew
            · exact hRun d hOld
            · rw [List.mem_singleton.mp hNew, hBlank])
          rwa [List.append_assoc] at hMore

/-- Whether a word is a maximal run at its place among characters that begin at
an offset: it has the characters that stand there, none of them is white space,
and around them there is white space or nothing. -/
inductive Run (offset : Nat) (cs : List Char) (w : Word) : Prop where
  | intro (front back : List Char) (hChars : cs = front ++ w.chars ++ back)
      (hStart : w.start = offset + Text.byteLength front) (hSome : w.chars ≠ [])
      (hWord : ∀ c ∈ w.chars, Text.isBlank c = false)
      (hFront : ∀ c ∈ front.getLast?, Text.isBlank c = true)
      (hBack : ∀ c ∈ back.head?, Text.isBlank c = true) : Run offset cs w

/-- Whether white space stands between two words. -/
def Parted (offset : Nat) (cs : List Char) (w v : Word) : Prop :=
  ∃ c position, Text.StandsAt offset cs c position ∧ Text.isBlank c = true ∧
    w.stop ≤ position ∧ position < v.start

variable {offset position : Nat} {cs chars rest : List Char} {c : Char} {w v : Word}

theorem run_cons_of_blank (h : Text.isBlank c = true) :
    Run offset (c :: cs) w ↔ Run (offset + c.utf8Size) cs w := by
  constructor
  · rintro ⟨front, back, hChars, hStart, hSome, hWord, hFront, hBack⟩
    cases front with
    | nil =>
        -- the first character would have to be one of the word
        obtain ⟨d, more, hMore⟩ := List.exists_cons_of_ne_nil hSome
        rw [hMore, List.nil_append, List.cons_append, List.cons.injEq] at hChars
        rw [hChars.1, hWord d (by simp [hMore])] at h
        cases h
    | cons d front =>
        rw [List.cons_append, List.cons_append, List.cons.injEq] at hChars
        obtain ⟨rfl, hRest⟩ := hChars
        refine ⟨front, back, hRest, ?_, hSome, hWord, fun e he => hFront e ?_, hBack⟩
        · rw [hStart, Text.byteLength, Nat.add_assoc]
        · rw [List.getLast?_cons, he]
          rfl
  · rintro ⟨front, back, rfl, hStart, hSome, hWord, hFront, hBack⟩
    refine ⟨c :: front, back, rfl, ?_, hSome, hWord, fun d hd => ?_, hBack⟩
    · rw [hStart, Text.byteLength, Nat.add_assoc]
    · rw [List.getLast?_cons, Option.mem_some_iff] at hd
      cases hLast : front.getLast? with
      | none =>
          rw [hLast] at hd
          exact hd ▸ h
      | some e =>
          rw [hLast] at hd
          exact hd ▸ hFront e hLast

/-- Behind characters without white space it is seen where they end. -/
theorem takeWhile_append (hRun : ∀ c ∈ chars, Text.isBlank c = false)
    (hRest : ∀ c ∈ rest.head?, Text.isBlank c = true) :
    (chars ++ rest).takeWhile (fun c => !Text.isBlank c) = chars := by
  have hNone : rest.takeWhile (fun c => !Text.isBlank c) = [] := by
    cases rest with
    | nil => rfl
    | cons c rest => simp [hRest c rfl]
  rw [List.takeWhile_append_of_pos (by simpa using hRun), hNone, List.append_nil]

theorem eq_nil_of_getLast? (hRun : ∀ c ∈ chars, Text.isBlank c = false)
    (hLast : ∀ c ∈ chars.getLast?, Text.isBlank c = true) : chars = [] := by
  rw [← List.getLast?_eq_none_iff, Option.eq_none_iff_forall_not_mem]
  intro c hc
  have hBlank := hLast c hc
  rw [hRun c (List.mem_of_getLast? hc)] at hBlank
  cases hBlank

/-- A run that ends at a blank is the first, and the others are behind it. -/
theorem run_append (hChars : chars ≠ []) (hRun : ∀ c ∈ chars, Text.isBlank c = false)
    (hRest : ∀ c ∈ rest.head?, Text.isBlank c = true) :
    Run offset (chars ++ rest) w ↔
      w = ⟨offset, chars⟩ ∨ Run (offset + Text.byteLength chars) rest w := by
  constructor
  · rintro ⟨front, back, hSplit, hStart, hSome, hWord, hFront, hBack⟩
    rw [List.append_assoc] at hSplit
    rcases List.append_eq_append_iff.mp hSplit with ⟨more, rfl, rfl⟩ | ⟨more, rfl, hHere⟩
    · -- the word begins behind the run, and there is white space in between
      right
      have hMore : more ≠ [] := by
        rintro rfl
        rw [List.append_nil] at hFront
        exact hChars (eq_nil_of_getLast? hRun hFront)
      rw [List.getLast?_append_of_ne_nil chars hMore] at hFront
      refine ⟨more, back, by simp, ?_, hSome, hWord, hFront, hBack⟩
      rw [hStart, Text.byteLength_append, Nat.add_assoc]
    · -- the word begins in the run, hence where the run does
      left
      have hNil : front = [] :=
        eq_nil_of_getLast? (fun c hc => hRun c (List.mem_append_left _ hc)) hFront
      subst hNil
      rw [List.nil_append] at hRun
      have hSame : w.chars = more := by
        rw [← takeWhile_append hWord hBack, hHere, takeWhile_append hRun hRest]
      obtain ⟨start, chars⟩ := w
      cases hStart
      cases hSame
      rfl
  · rintro (rfl | ⟨front, back, rfl, hStart, hSome, hWord, hFront, hBack⟩)
    · exact ⟨[], rest, rfl, rfl, hChars, hRun, nofun, hRest⟩
    · have hGap : front ≠ [] := by
        rintro rfl
        obtain ⟨c, more, hMore⟩ := List.exists_cons_of_ne_nil hSome
        have hBlank := hRest c (by simp [hMore])
        rw [hWord c (by simp [hMore])] at hBlank
        cases hBlank
      refine ⟨chars ++ front, back, by simp, ?_, hSome, hWord, ?_, hBack⟩
      · rw [hStart, Text.byteLength_append, Nat.add_assoc]
      · rwa [List.getLast?_append_of_ne_nil chars hGap]

/-- The words that are found are the maximal runs. -/
theorem mem_scan_iff : w ∈ scan offset cs ↔ Run offset cs w := by
  induction cs using runInduction generalizing offset with
  | nil =>
      rw [scan]
      refine iff_of_false List.not_mem_nil ?_
      rintro ⟨front, back, hChars, _, hSome, _⟩
      simp [hSome] at hChars
  | blank c cs hBlank ih => rw [scan_blank hBlank, run_cons_of_blank hBlank, ih]
  | run chars rest hChars hRun hRest ih =>
      rw [scan_append hChars hRun hRest, run_append hChars hRun hRest, List.mem_cons, ih]

theorem Parted.append (front : List Char)
    (h : Parted (offset + Text.byteLength front) cs w v) : Parted offset (front ++ cs) w v := by
  obtain ⟨c, position, hStands, hBlank, hBefore, hBehind⟩ := h
  exact ⟨c, position, hStands.append, hBlank, hBefore, hBehind⟩

/-- The words come in order, with white space between any two of them. -/
theorem pairwise_scan (offset : Nat) (cs : List Char) :
    (scan offset cs).Pairwise (Parted offset cs) := by
  induction cs using runInduction generalizing offset with
  | nil => exact .nil
  | blank c cs hBlank ih =>
      rw [scan_blank hBlank]
      exact (ih (offset + c.utf8Size)).imp fun h => Parted.append [c] h
  | run chars rest hChars hRun hRest ih =>
      rw [scan_append hChars hRun hRest]
      refine .cons (fun v hv => ?_) ((ih _).imp (Parted.append chars))
      cases rest with
      | nil => cases hv
      | cons gap rest =>
          have hGap : Text.isBlank gap = true := hRest gap rfl
          rw [scan_blank hGap] at hv
          have hStart := le_start hv
          have hSize := gap.utf8Size_pos
          exact ⟨gap, offset + Text.byteLength chars, ⟨chars, rest, rfl, rfl⟩, hGap, le_refl _,
            by omega⟩

/-- Every character that is not white space stands in a word. -/
theorem exists_mem_scan_of_standsAt (h : Text.StandsAt offset cs c position)
    (hBlank : Text.isBlank c = false) :
    ∃ w ∈ scan offset cs, w.start ≤ position ∧ position < w.stop := by
  induction cs using runInduction generalizing offset with
  | nil =>
      obtain ⟨front, back, hChars, _⟩ := h
      simp at hChars
  | blank d cs hGap ih =>
      rw [scan_blank hGap]
      rcases Text.standsAt_cons.mp h with ⟨rfl, _⟩ | hLater
      · rw [hGap] at hBlank
        cases hBlank
      · exact ih hLater
  | run chars rest hChars hRun hRest ih =>
      rw [scan_append hChars hRun hRest]
      rcases h.of_append with ⟨_, hFirst, hLast⟩ | hLater
      · exact ⟨_, List.mem_cons_self, hFirst, hLast⟩
      · obtain ⟨w, hw, hSpan⟩ := ih hLater
        exact ⟨w, List.mem_cons_of_mem _ hw, hSpan⟩

theorem start_lt_stop_of_run (h : Run offset cs w) : w.start < w.stop := by
  obtain ⟨front, back, _, _, hSome, _⟩ := h
  obtain ⟨c, more, hMore⟩ := List.exists_cons_of_ne_nil hSome
  have hSize := c.utf8Size_pos
  rw [stop, hMore, Text.byteLength]
  omega

/-- A position is in no more than one of words that are parted. -/
theorem eq_of_pairwise_parted {words : List Word} (hWords : words.Pairwise (Parted offset cs))
    (hw : w ∈ words) (hv : v ∈ words) (hwSpan : w.start ≤ position ∧ position < w.stop)
    (hvSpan : v.start ≤ position ∧ position < v.stop) : w = v := by
  by_contra hOther
  have hApart : words.Pairwise fun w v => w.stop < v.start ∨ v.stop < w.start := by
    refine hWords.imp fun h => ?_
    obtain ⟨_, _, _, _, hBefore, hBehind⟩ := h
    omega
  have hSymm : Std.Symm fun w v : Word => w.stop < v.start ∨ v.stop < w.start :=
    ⟨fun _ _ h => h.symm⟩
  have hTwo := hApart.forall hw hv hOther
  omega

end Word

namespace Text

/-- What it takes to be the words of a text. -/
structure Segmented (s : String) (found : List Word) : Prop where
  /-- Each is a maximal run of characters that are not white space, -/
  run : ∀ w ∈ found, Word.Run 0 s.toList w
  /-- and its text is what the bytes of its span say. -/
  slice : ∀ w ∈ found, ((bytes s).drop w.start).take (w.stop - w.start) = bytes w.text
  /-- They come in order, with white space in between, -/
  parted : found.Pairwise (Word.Parted 0 s.toList)
  /-- and whatever is not white space is in one of them. -/
  covered : ∀ c position, StandsAt 0 s.toList c position → isBlank c = false →
    ∃! w, w ∈ found ∧ w.start ≤ position ∧ position < w.stop

/-- A run is cut out of the bytes of the text by where it starts and stops. -/
theorem slice_of_run {s : String} {w : Word} (h : Word.Run 0 s.toList w) :
    ((bytes s).drop w.start).take (w.stop - w.start) = bytes w.text := by
  obtain ⟨front, back, hChars, hStart, _⟩ := h
  have hText : s = String.ofList front ++ w.text ++ String.ofList back := by
    rw [← String.toList_inj, hChars]
    simp [Word.text]
  have hFront : w.start = (bytes (String.ofList front)).length := by
    rw [hStart, Nat.zero_add, byteLength_ofList]
  have hLength : w.stop - w.start = (bytes w.text).length := by
    rw [Word.stop, Word.text, Nat.add_sub_cancel_left, byteLength_ofList]
  rw [hText, bytes_append, bytes_append, List.append_assoc, hFront, List.drop_left, ← hFront,
    hLength, List.take_left]

/-- The words of a text are a segmentation of it. -/
theorem segmented_words (s : String) : Segmented s (words s) where
  run _ hw := Word.mem_scan_iff.mp hw
  slice _ hw := slice_of_run (Word.mem_scan_iff.mp hw)
  parted := Word.pairwise_scan 0 s.toList
  covered c position hStands hBlank := by
    obtain ⟨w, hw, hSpan⟩ := Word.exists_mem_scan_of_standsAt hStands hBlank
    refine ⟨w, ⟨hw, hSpan⟩, fun v hv => ?_⟩
    exact Word.eq_of_pairwise_parted (Word.pairwise_scan 0 s.toList) hv.1 hw hv.2 hSpan

/-- Every maximal run is among the words: its first character is in one of
them, and in the words that are found no two share a character. -/
theorem Segmented.mem_of_run {s : String} {found : List Word} (h : Segmented s found) {w : Word}
    (hRun : Word.Run 0 s.toList w) : w ∈ found := by
  have hSpan := Word.start_lt_stop_of_run hRun
  have hFound : w ∈ words s := Word.mem_scan_iff.mpr hRun
  obtain ⟨front, back, hChars, hStart, hSome, hWord, _⟩ := hRun
  obtain ⟨c, more, hMore⟩ := List.exists_cons_of_ne_nil hSome
  have hStands : StandsAt 0 s.toList c w.start :=
    ⟨front, more ++ back, by simp [hChars, hMore], hStart⟩
  obtain ⟨v, ⟨hv, hvSpan⟩, _⟩ := h.covered c w.start hStands (hWord c (by simp [hMore]))
  have hvFound : v ∈ words s := Word.mem_scan_iff.mpr (h.run v hv)
  have hSame : v = w := Word.eq_of_pairwise_parted (Word.pairwise_scan 0 s.toList) hvFound hFound
    hvSpan ⟨le_refl _, hSpan⟩
  rwa [← hSame]

/-- The words of a segmentation start one after the other. -/
theorem Segmented.ascending {s : String} {found : List Word} (h : Segmented s found) :
    found.Pairwise fun w v => w.start < v.start := by
  refine (List.pairwise_iff_forall_sublist.mpr fun {w v} hPair => ?_)
  have hw : w ∈ found := hPair.subset (by simp)
  have hSpan := Word.start_lt_stop_of_run (h.run w hw)
  obtain ⟨_, _, _, _, hBefore, hBehind⟩ := List.pairwise_iff_forall_sublist.mp h.parted hPair
  omega

/-- The words of a text are the only list of its maximal runs in order. -/
theorem segmented_iff {s : String} {found : List Word} : Segmented s found ↔ found = words s := by
  constructor
  · intro h
    have hIrrefl : Std.Irrefl fun w v : Word => w.start < v.start := ⟨fun w => lt_irrefl w.start⟩
    have hAntisymm : Std.Antisymm fun w v : Word => w.start < v.start :=
      ⟨fun _ _ hLess hGreater => absurd hLess (lt_asymm hGreater)⟩
    apply h.ascending.eq_of_mem_iff (segmented_words s).ascending
    intro w
    exact ⟨fun hw => (segmented_words s).mem_of_run (h.run w hw),
      fun hw => h.mem_of_run ((segmented_words s).run w hw)⟩
  · rintro rfl
    exact segmented_words s

end Text

end VirtualShell
