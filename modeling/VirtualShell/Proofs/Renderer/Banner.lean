import VirtualShell.Proofs.Text.Width
import VirtualShell.Renderer.Banner
/-!
The box around texts is a rectangle, whatever the texts are: wide, combining or empty,
or none at all. All that this takes of a width is that what a box is drawn of takes one
column each, and that no text between it takes more or fewer columns on account of it.
The cells of a terminal are a width of that kind.
-/

namespace VirtualShell

namespace Banner

variable {width : String → Nat} {texts : List String} {s t : String}

/-- The characters that boxes are drawn of. -/
def strokes : List Char :=
  ['╔', '═', '╗', '║', ' ', '╚', '╝']

/-- Whether a text is drawn of them alone. -/
def Drawn (s : String) : Prop :=
  ∀ c ∈ s.toList, c ∈ strokes

/-- What boxes ask of the width of texts. -/
structure Measures (width : String → Nat) : Prop where
  stroke : ∀ c ∈ strokes, width (String.singleton c) = 1
  /-- What is drawn behind a text adds to it, -/
  behind : ∀ s t, Drawn t → width (s ++ t) = width s + width t
  /-- and so does the side in front of it. -/
  front : ∀ s, width ("║ " ++ s) = width "║ " + width s

theorem drawn_append : Drawn (s ++ t) ↔ Drawn s ∧ Drawn t := by
  rw [Drawn, String.toList_append, List.forall_mem_append]
  rfl

theorem drawn_of_toList (c : Char) (hChars : s.toList = [c]) (h : c ∈ strokes) : Drawn s := by
  rw [Drawn, hChars, List.forall_mem_singleton]
  exact h

theorem drawn_repeated {c : Char} (h : c ∈ strokes) (count : Nat) : Drawn (repeated c count) := by
  intro d hd
  rw [repeated, String.toList_ofList] at hd
  rwa [List.eq_of_mem_replicate hd]

theorem length_repeated (c : Char) (count : Nat) : (repeated c count).length = count := by
  rw [repeated, String.length_ofList, List.length_replicate]

namespace Measures

theorem width_empty (h : Measures width) : width "" = 0 := by
  have hTwice : width ("" ++ "") = width "" + width "" := h.behind "" "" (by simp [Drawn])
  rw [String.append_empty] at hTwice
  omega

/-- What is drawn takes as many columns as it has characters. -/
theorem width_drawn (h : Measures width) (hDrawn : Drawn s) : width s = s.length := by
  have hChars (cs : List Char) (hCs : ∀ c ∈ cs, c ∈ strokes) :
      width (String.ofList cs) = cs.length := by
    induction cs with
    | nil => exact h.width_empty
    | cons c cs ih =>
        rw [List.forall_mem_cons] at hCs
        have hRest : Drawn (String.ofList cs) := by
          rw [Drawn, String.toList_ofList]
          exact hCs.2
        have hSplit : String.ofList (c :: cs) = String.singleton c ++ String.ofList cs := by
          rw [← String.toList_inj]
          simp
        rw [hSplit, h.behind _ _ hRest, h.stroke c hCs.1, ih hCs.2, List.length_cons, Nat.add_comm]
  have hAll := hChars s.toList hDrawn
  rwa [String.ofList_toList, String.length_toList] at hAll

/-- An edge takes two columns more than the line between its corners. -/
theorem width_edge (h : Measures width) (l r : Char) {left right : String}
    (hLeft : left.toList = [l]) (hRight : right.toList = [r]) (hFirst : l ∈ strokes)
    (hLast : r ∈ strokes) (count : Nat) :
    width (left ++ repeated '═' count ++ right) = count + 2 := by
  have hLine : Drawn (repeated '═' count) := drawn_repeated (by simp [strokes]) count
  have hEdge : Drawn (left ++ repeated '═' count ++ right) :=
    drawn_append.mpr ⟨drawn_append.mpr ⟨drawn_of_toList l hLeft hFirst, hLine⟩,
      drawn_of_toList r hRight hLast⟩
  rw [h.width_drawn hEdge, String.length_append, String.length_append, length_repeated,
    ← String.length_toList, ← String.length_toList, hLeft, hRight, List.length_singleton,
    List.length_singleton]
  omega

theorem width_top (h : Measures width) (count : Nat) : width (top count) = count + 2 :=
  h.width_edge '╔' '╗' rfl rfl (by simp [strokes]) (by simp [strokes]) count

theorem width_bottom (h : Measures width) (count : Nat) : width (bottom count) = count + 2 :=
  h.width_edge '╚' '╝' rfl rfl (by simp [strokes]) (by simp [strokes]) count

/-- Between the sides a text keeps the columns that it has by itself. -/
theorem width_between (h : Measures width) (text : String) (count : Nat) :
    width ("║ " ++ text ++ repeated ' ' count ++ "║") = width text + count + 3 := by
  have hSide : Drawn "║" := drawn_of_toList '║' rfl (by simp [strokes])
  have hBlank : Drawn " " := drawn_of_toList ' ' rfl (by simp [strokes])
  have hBlanks : Drawn (repeated ' ' count) := drawn_repeated (by simp [strokes]) count
  have hBehind : Drawn (repeated ' ' count ++ "║") := drawn_append.mpr ⟨hBlanks, hSide⟩
  have hFront : width "║ " = 2 := by
    have hSplit : "║ " = "║" ++ " " := rfl
    rw [hSplit, h.width_drawn (drawn_append.mpr ⟨hSide, hBlank⟩)]
    rfl
  calc
    _ = width ("║ " ++ text ++ (repeated ' ' count ++ "║")) := by rw [String.append_assoc]
    _ = width ("║ " ++ text) + (count + 1) := by
      rw [h.behind _ _ hBehind, h.width_drawn hBehind, String.length_append, length_repeated]
      rfl
    _ = 2 + width text + (count + 1) := by rw [h.front, hFront]
    _ = _ := by omega

end Measures

/-- The columns of the widest of texts; without texts there are none. -/
structure Widest (width : String → Nat) (texts : List String) (columns : Nat) : Prop where
  le : ∀ text ∈ texts, width text ≤ columns
  reached : texts = [] ∧ columns = 0 ∨ ∃ text ∈ texts, width text = columns

/-- The room inside a box is made for the widest text. -/
theorem exists_widest (width : String → Nat) (texts : List String) :
    ∃ columns, Widest width texts columns ∧ inner width texts = columns + 2 := by
  refine ⟨(texts.map width).foldl max 0, ?_, rfl⟩
  rw [List.foldl_max, Nat.zero_max]
  cases hMax : (texts.map width).max? with
  | none =>
      rw [List.max?_eq_none_iff, List.map_eq_nil_iff] at hMax
      subst hMax
      exact ⟨List.forall_mem_nil _, .inl ⟨rfl, rfl⟩⟩
  | some columns =>
      obtain ⟨hMem, hLe⟩ := List.max?_eq_some_iff.mp hMax
      obtain ⟨text, hText, hWidth⟩ := List.mem_map.mp hMem
      exact ⟨fun other hOther => hLe _ (List.mem_map_of_mem hOther), .inr ⟨text, hText, hWidth⟩⟩

/-- Lines that draw a box around texts of so many columns: an edge above and an edge
below, and between them every text as it is. -/
structure Rectangular (width : String → Nat) (texts : List String) (columns : Nat)
    (lines : List String) : Prop where
  length_eq : lines.length = texts.length + 2
  straight : ∀ line ∈ lines, width line = columns + 4
  top_eq : lines.head? = some ("╔" ++ repeated '═' (columns + 2) ++ "╗")
  bottom_eq : lines.getLast? = some ("╚" ++ repeated '═' (columns + 2) ++ "╝")
  /-- The blanks behind a text fill what it leaves of the columns. -/
  between : ∀ i text, texts[i]? = some text → ∃ count, width text + count = columns + 1 ∧
    lines[i + 1]? = some ("║ " ++ text ++ repeated ' ' count ++ "║")
  /-- There are columns enough for each text and the blank in front of it. -/
  room : ∀ text ∈ texts, 1 + width text ≤ inner width texts

/-- A box that is as wide inside as its widest text and two blanks is rectangular. -/
theorem rectangular_of_widest (h : Measures width) {columns : Nat}
    (hWidest : Widest width texts columns) (hInner : inner width texts = columns + 2) :
    Rectangular width texts columns (box width texts) := by
  have hRoom : ∀ text ∈ texts, 1 + width text ≤ inner width texts := by
    intro text hText
    have hLe := hWidest.le text hText
    omega
  refine ⟨by simp [box], ?_, ?_, ?_, ?_, hRoom⟩
  · intro line hLine
    rw [box, List.mem_append, List.mem_cons, List.mem_map, List.mem_singleton] at hLine
    rcases hLine with (rfl | ⟨text, hText, rfl⟩) | rfl
    · rw [h.width_top, hInner]
    · have hFits := hRoom text hText
      rw [middle, h.width_between]
      omega
    · rw [h.width_bottom, hInner]
  · rw [← hInner]
    rfl
  · rw [box, List.getLast?_concat, hInner]
    rfl
  · intro i text hText
    have hFits := hRoom text (List.mem_of_getElem? hText)
    obtain ⟨hInside, _⟩ := List.getElem?_eq_some_iff.mp hText
    refine ⟨inner width texts - 1 - width text, by omega, ?_⟩
    rw [box, List.getElem?_append_left (by simpa using hInside), List.getElem?_cons_succ,
      List.getElem?_map, hText]
    rfl

/-- Under any width of that kind, the box around texts is a rectangle that is four
columns wider than the widest of them. -/
theorem exists_rectangular_box (h : Measures width) (texts : List String) :
    ∃ columns, Widest width texts columns ∧
      Rectangular width texts columns (box width texts) := by
  obtain ⟨columns, hWidest, hInner⟩ := exists_widest width texts
  exact ⟨columns, hWidest, rectangular_of_widest h hWidest hInner⟩

/-- No stroke takes more than one column, or depends on what stands behind it. -/
theorem steady_of_mem_strokes : ∀ c ∈ strokes, Text.Steady c := by
  simp only [strokes, List.forall_mem_cons]
  refine ⟨?_, ?_, ?_, ?_, ?_, ?_, ?_, List.forall_mem_nil _⟩ <;> decide +kernel

/-- The strokes are measured one by one. -/
theorem Drawn.uniform (h : Drawn s) : Text.Uniform s :=
  fun c hc => steady_of_mem_strokes c (h c hc)

/-- The cells that texts take on a terminal are such a width. -/
theorem measures_width : Measures Text.width where
  stroke c hc := by
    have hUniform : Text.Uniform (String.singleton c) :=
      (steady_of_mem_strokes c hc).uniform (String.toList_singleton c)
    rw [hUniform.width_eq, String.length_singleton]
  behind s t hDrawn := Text.width_append hDrawn.uniform.detached s
  front s := by
    have hSplit : "║ " = "║" ++ " " := rfl
    have hBlank : Text.Uniform " " := (drawn_of_toList ' ' rfl (by simp [strokes])).uniform
    have hLength : " ".length = 1 := rfl
    rw [hSplit, String.append_assoc, Text.width_append (Text.detached_blank s), Text.width_blank,
      Text.width_append hBlank.detached, hBlank.width_eq, hLength]
    omega

end Banner

namespace Renderer

/-- Without colours the banner is the bare box. -/
theorem banner_plain (texts : List String) :
    (⟨false⟩ : Renderer).banner texts = Banner.box Text.width texts :=
  List.map_id'' (fun _ => rfl) _

/-- The box around texts is a rectangle that is four columns wider than the widest of
them. That is so under any width that does for boxes, and hence of what is shown on a
terminal without colour. -/
theorem banner_rectangular :
    (∀ width, Banner.Measures width → ∀ texts, ∃ columns, Banner.Widest width texts columns ∧
      Banner.Rectangular width texts columns (Banner.box width texts)) ∧
    ∀ texts, ∃ columns, Banner.Widest Text.width texts columns ∧
      Banner.Rectangular Text.width texts columns ((⟨false⟩ : Renderer).banner texts) := by
  refine ⟨fun _ h texts => Banner.exists_rectangular_box h texts, fun texts => ?_⟩
  rw [banner_plain]
  exact Banner.exists_rectangular_box Banner.measures_width texts

/-- Characters count for such a width as well, by which a box is drawn that a terminal
would not show straight. -/
theorem banner_rectangular_length :
    Banner.Measures String.length ∧ (Banner.box String.length ["观", ""])[2]? = some "║   ║" ∧
      ∃ columns, Banner.Rectangular String.length ["观", ""] columns
        (Banner.box String.length ["观", ""]) := by
  have hMeasures : Banner.Measures String.length :=
    ⟨fun _ _ => String.length_singleton, fun s t _ => String.length_append s t,
      fun s => String.length_append "║ " s⟩
  obtain ⟨columns, _, hRectangular⟩ :=
    banner_rectangular.1 String.length hMeasures ["观", ""]
  exact ⟨hMeasures, by decide, columns, hRectangular⟩

example : (⟨false⟩ : Renderer).banner ["Ω-IX", "观察者", ""] =
    ["╔════════╗", "║ Ω-IX   ║", "║ 观察者 ║", "║        ║", "╚════════╝"] := by
  decide +kernel

end Renderer

end VirtualShell
