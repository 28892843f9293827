import VirtualShell.Proofs.Store.Validation
import VirtualShell.Store.Drawing
/-!
Drawings tell trees apart. A line begins with a connector if it belongs to an
entry of the drawn directory itself, and with a column if it belongs to anything
deeper; so the lines fall apart into those of one entry after the other, whatever
the names are. A slash at the end of a line can only mean a directory, since no
name has one.
-/

namespace VirtualShell

namespace Drawing

/-- What stands in front of an entry. -/
def connector (last : Bool) : String :=
  if last then lastBranch else branch

/-- The column below a directory. -/
def column (last : Bool) : String :=
  if last then blank else pipe

/-- Whether a line begins with a column. -/
def isDeeper (line : String) : Bool :=
  line.toList.head?.any fun c => c = '│' || c = ' '

theorem isDeeper_column (last : Bool) (text : String) : isDeeper (column last ++ text) = true := by
  cases last <;> simp [isDeeper, column, blank, pipe]

theorem isDeeper_connector (last : Bool) (text : String) :
    isDeeper (connector last ++ text) = false := by
  cases last <;> simp [isDeeper, connector, lastBranch, branch]

/-- A connector can be read off a line, and what follows it can be too. -/
theorem connector_append_inj {last last' : Bool} {text text' : String}
    (h : connector last ++ text = connector last' ++ text') : last = last' ∧ text = text' := by
  have hChars : (connector last).toList ++ text.toList = (connector last').toList ++ text'.toList := by
    simpa using congrArg String.toList h
  have hLength : (connector last).toList.length = (connector last').toList.length := by
    cases last <;> cases last' <;> simp [connector, lastBranch, branch]
  obtain ⟨hConnector, hText⟩ := List.append_inj hChars hLength
  have hInjective : ∀ last last', connector last = connector last' → last = last' := by decide
  exact ⟨hInjective last last' (String.toList_inj.mp hConnector), String.toList_inj.mp hText⟩

end Drawing

/-- What stands behind the key of a node. -/
def Node.mark : Node → String
  | file _ => ""
  | dir _ => "/"

/-- The lines below a node, drawn by themselves. -/
def Node.linesBelow : Node → List String
  | file _ => []
  | dir d => d.entries.draw ""

namespace Entries

/-- The same keys in the same order, and the same kinds of nodes under them, at
every depth. -/
inductive SameShape : Entries → Entries → Prop where
  | nil : SameShape nil nil
  | file {key : String} {f f' : File} {rest rest' : Entries} (hRest : SameShape rest rest') :
      SameShape (file key f rest) (file key f' rest')
  | dir {key name name' : String} {children children' rest rest' : Entries}
      (hChildren : SameShape children children') (hRest : SameShape rest rest') :
      SameShape (dir key name children rest) (dir key name' children' rest')

/-- At every depth, each key may name an entry. -/
def ValidNames : Entries → Prop
  | nil => True
  | file key _ rest => validName key = true ∧ rest.ValidNames
  | dir key _ children rest => validName key = true ∧ children.ValidNames ∧ rest.ValidNames

variable {a b rest rest' : Entries} {key key' : String} {node node' : Node}

theorem WellFormed.validNames (h : a.WellFormed) : a.ValidNames := by
  induction a with
  | nil => trivial
  | file key f rest ih => exact ⟨h.1.2, ih h.2⟩
  | dir key name children rest ihChildren ihRest =>
      exact ⟨h.1.2, ihChildren h.2.1, ihRest h.2.2⟩

/-! From a drawing to the shape. -/

/-- What stands around a drawing stands in front of each of its lines. -/
theorem draw_append (columns more : String) (entries : Entries) :
    entries.draw (columns ++ more) = (entries.draw more).map (columns ++ ·) := by
  induction entries generalizing more with
  | nil => rfl
  | file key f rest ih => simp [draw, ih, String.append_assoc]
  | dir key name children rest ihChildren ihRest =>
      simp [draw, String.append_assoc, ihChildren, ihRest]

theorem draw_cons (key : String) (node : Node) (rest : Entries) :
    (cons key node rest).draw "" =
      (Drawing.connector rest.isEmpty ++ (key ++ node.mark)) ::
        (node.linesBelow.map (Drawing.column rest.isEmpty ++ ·) ++ rest.draw "") := by
  cases node with
  | file f => simp [cons, draw, Node.mark, Node.linesBelow, Drawing.connector]
  | dir d =>
      rw [Node.linesBelow, ← draw_append, String.append_empty]
      simp [cons, draw, Node.mark, Drawing.connector, Drawing.column, String.append_assoc]

/-- The lines below an entry come before the first line with a connector. -/
theorem takeWhile_isDeeper (last : Bool) (lines : List String) (rest : Entries) :
    (lines.map (Drawing.column last ++ ·) ++ rest.draw "").takeWhile Drawing.isDeeper =
      lines.map (Drawing.column last ++ ·) := by
  have hDeeper : ∀ line ∈ lines.map (Drawing.column last ++ ·), Drawing.isDeeper line = true := by
    intro line hLine
    obtain ⟨text, _, rfl⟩ := List.mem_map.mp hLine
    exact Drawing.isDeeper_column last text
  have hFirst : (rest.draw "").takeWhile Drawing.isDeeper = [] := by
    cases rest using consInduction with
    | nil => rfl
    | cons key node rest => simp [draw_cons, Drawing.isDeeper_connector]
  rw [List.takeWhile_append_of_pos hDeeper, hFirst, List.append_nil]

/-- No valid name is another text with a slash behind. -/
theorem ne_append_slash (h : validName key = true) (text : String) : key ≠ text ++ "/" := by
  rintro rfl
  have hSlash := (validName_iff.mp h).2.2.2
  simp at hSlash

/-- The mark behind a name tells directories from files. -/
theorem append_mark_inj (hKey : validName key = true) (hKey' : validName key' = true)
    (h : key ++ node.mark = key' ++ node'.mark) : key = key' ∧ node.kind = node'.kind := by
  cases node with
  | file f =>
      cases node' with
      | file f' => exact ⟨by simpa [Node.mark] using h, rfl⟩
      | dir d' => exact absurd (by simpa [Node.mark] using h) (ne_append_slash hKey key')
  | dir d =>
      cases node' with
      | file f' => exact absurd (by simpa [Node.mark] using h.symm) (ne_append_slash hKey' key)
      | dir d' => exact ⟨by simpa [Node.mark, ← String.toList_inj] using h, rfl⟩

/-- All that a drawing shows of its first entry can be read off. -/
theorem draw_cons_inj (node node' : Node) (hKey : validName key = true)
    (hKey' : validName key' = true)
    (h : (cons key node rest).draw "" = (cons key' node' rest').draw "") :
    (key = key' ∧ node.kind = node'.kind) ∧ node.linesBelow = node'.linesBelow ∧
      rest.draw "" = rest'.draw "" := by
  rw [draw_cons, draw_cons, List.cons.injEq] at h
  obtain ⟨hLine, hLines⟩ := h
  obtain ⟨hLast, hText⟩ := Drawing.connector_append_inj hLine
  rw [hLast] at hLines
  have hBelow : node.linesBelow.map (Drawing.column rest'.isEmpty ++ ·) =
      node'.linesBelow.map (Drawing.column rest'.isEmpty ++ ·) := by
    rw [← takeWhile_isDeeper _ node.linesBelow rest, hLines, takeWhile_isDeeper]
  refine ⟨append_mark_inj hKey hKey' hText, ?_, ?_⟩
  · have hInjective : Function.Injective (Drawing.column rest'.isEmpty ++ ·) := by
      intro s t hSame
      simpa [← String.toList_inj] using hSame
    exact hInjective.list_map hBelow
  · rw [hBelow] at hLines
    exact List.append_cancel_left hLines

/-- A drawing tells the shape of what it shows. -/
theorem sameShape_of_draw_eq (ha : a.ValidNames) (hb : b.ValidNames)
    (h : a.draw "" = b.draw "") : a.SameShape b := by
  induction a generalizing b with
  | nil =>
      cases b with
      | nil => exact .nil
      | file key' f' rest' => cases h
      | dir key' name' children' rest' => cases h
  | file key f rest ih =>
      cases b with
      | nil => cases h
      | file key' f' rest' =>
          obtain ⟨⟨rfl, _⟩, _, hRest⟩ := draw_cons_inj (.file f) (.file f') ha.1 hb.1 h
          exact .file (ih ha.2 hb.2 hRest)
      | dir key' name' children' rest' =>
          obtain ⟨⟨_, hKind⟩, _⟩ :=
            draw_cons_inj (.file f) (.dir ⟨name', children'⟩) ha.1 hb.1 h
          cases hKind
  | dir key name children rest ihChildren ihRest =>
      cases b with
      | nil => cases h
      | file key' f' rest' =>
          obtain ⟨⟨_, hKind⟩, _⟩ :=
            draw_cons_inj (.dir ⟨name, children⟩) (.file f') ha.1 hb.1 h
          cases hKind
      | dir key' name' children' rest' =>
          obtain ⟨⟨rfl, _⟩, hBelow, hRest⟩ :=
            draw_cons_inj (.dir ⟨name, children⟩) (.dir ⟨name', children'⟩) ha.1 hb.1 h
          exact .dir (ihChildren ha.2.1 hb.2.1 hBelow) (ihRest ha.2.2 hb.2.2 hRest)

/-! From the shape to a drawing. -/

theorem SameShape.isEmpty (h : a.SameShape b) : a.isEmpty = b.isEmpty := by
  cases h <;> rfl

/-- Entries of one shape are drawn alike. -/
theorem SameShape.draw (h : a.SameShape b) (columns : String) : a.draw columns = b.draw columns := by
  induction h generalizing columns with
  | nil => rfl
  | file hRest ih => rw [Entries.draw, Entries.draw, hRest.isEmpty, ih]
  | dir hChildren hRest ihChildren ihRest =>
      rw [Entries.draw, Entries.draw, hRest.isEmpty, ihChildren, ihRest]

end Entries

/-! The shape of directories whose entries are in order is all that paths can
tell of it. -/

/-- Two files, or two directories of the same shape. -/
inductive Node.SameShape : Node → Node → Prop where
  | file {f f' : File} : SameShape (file f) (file f')
  | dir {d e : Directory} (hEntries : d.entries.SameShape e.entries) : SameShape (dir d) (dir e)

/-- The kind of what names lead to from a node. -/
def Node.kindAt? (node : Node) (names : List String) : Option NodeKind :=
  (node.descend? names).map Node.kind

theorem Node.kindAt?_dir_cons (d : Directory) (name : String) (rest : List String) :
    (dir d).kindAt? (name :: rest) = (d.entries.find? name).bind (·.kindAt? rest) := by
  rw [kindAt?, descend?_dir_cons, Directory.child?, Option.map_bind]
  rfl

namespace Entries

variable {a b rest rest' : Entries} {key key' : String} {node node' : Node}

/-- In entries of one shape, nodes of one shape are found under the same names. -/
theorem SameShape.find? (h : a.SameShape b) (wanted : String) :
    Option.Rel Node.SameShape (a.find? wanted) (b.find? wanted) := by
  induction h with
  | nil => exact .none
  | file hRest ih =>
      rw [Entries.find?, Entries.find?]
      split
      · exact .some .file
      · exact ih
  | dir hChildren hRest _ ih =>
      rw [Entries.find?, Entries.find?]
      split
      · exact .some (.dir hChildren)
      · exact ih

end Entries

/-- Below nodes of one shape, the same paths lead to the same kinds. -/
theorem Node.SameShape.kindAt? {node node' : Node} (h : node.SameShape node')
    (names : List String) : node.kindAt? names = node'.kindAt? names := by
  induction names generalizing node node' with
  | nil => cases h <;> rfl
  | cons name rest ih =>
      cases h with
      | file => rfl
      | @dir d e hEntries =>
          rw [kindAt?_dir_cons, kindAt?_dir_cons]
          have hFound := hEntries.find? name
          generalize d.entries.find? name = found, e.entries.find? name = found' at hFound ⊢
          cases hFound with
          | none => rfl
          | some hNode => exact ih hNode

namespace Entries

variable {a b rest rest' : Entries} {key key' name name' : String} {node node' : Node}

/-- Behind the first of entries in order there is no other one with its key. -/
theorem kindAt?_rest (h : (cons key node rest).Ordered) (name wanted : String)
    (more : List String) :
    (Node.dir ⟨name, rest⟩).kindAt? (wanted :: more) =
      if key = wanted then none else (Node.dir ⟨name, cons key node rest⟩).kindAt? (wanted :: more) := by
  rw [Node.kindAt?_dir_cons, Node.kindAt?_dir_cons, find?_cons]
  split
  · next hSame =>
      rw [← hSame, h.find?_rest]
      rfl
  · rfl

theorem kindAt?_first (name key : String) (node : Node) (rest : Entries) (more : List String) :
    (Node.dir ⟨name, cons key node rest⟩).kindAt? (key :: more) = node.kindAt? more := by
  rw [Node.kindAt?_dir_cons, find?_cons, if_pos rfl]
  rfl

/-- The first of some entries is seen under its key. -/
theorem kindAt?_nil_ne_cons (name name' key : String) (node : Node) (rest : Entries) :
    ¬ ∀ names, (Node.dir ⟨name, nil⟩).kindAt? names =
      (Node.dir ⟨name', cons key node rest⟩).kindAt? names := by
  intro h
  have hFirst := h [key]
  rw [Node.kindAt?_dir_cons, kindAt?_first, Node.kindAt?, Node.descend?_nil] at hFirst
  cases hFirst

/-- The first key is not behind the first key of entries that have it. -/
theorem le_of_kindAt?_ne_none (h : (cons key node rest).Ordered) {wanted : String}
    (hWanted : (Node.dir ⟨name, cons key node rest⟩).kindAt? [wanted] ≠ none) : key ≤ wanted := by
  cases hFind : (cons key node rest).find? wanted with
  | none =>
      rw [Node.kindAt?_dir_cons, hFind] at hWanted
      exact absurd rfl hWanted
  | some found => exact h.le_of_find? hFind

/-- Of entries in order, all that paths tell can be told of the first entry and
of the rest. -/
theorem kindAt?_cons_inj (node node' : Node) (ha : (cons key node rest).Ordered)
    (hb : (cons key' node' rest').Ordered)
    (h : ∀ names, (Node.dir ⟨name, cons key node rest⟩).kindAt? names =
      (Node.dir ⟨name', cons key' node' rest'⟩).kindAt? names) :
    key = key' ∧ (∀ names, node.kindAt? names = node'.kindAt? names) ∧
      ∀ names, (Node.dir ⟨name, rest⟩).kindAt? names = (Node.dir ⟨name', rest'⟩).kindAt? names := by
  have hLe : key ≤ key' := by
    apply le_of_kindAt?_ne_none ha
    rw [h, kindAt?_first, Node.kindAt?, Node.descend?_nil]
    exact Option.some_ne_none _
  have hGe : key' ≤ key := by
    apply le_of_kindAt?_ne_none hb
    rw [← h, kindAt?_first, Node.kindAt?, Node.descend?_nil]
    exact Option.some_ne_none _
  obtain rfl := le_antisymm hLe hGe
  refine ⟨rfl, fun names => ?_, fun names => ?_⟩
  · rw [← kindAt?_first name key node rest, h, kindAt?_first]
  · cases names with
    | nil => rfl
    | cons wanted more => rw [kindAt?_rest ha, kindAt?_rest hb, h]

/-- Entries in order have one shape if the same paths lead to the same kinds. -/
theorem sameShape_of_kindAt? (ha : a.Ordered) (hb : b.Ordered)
    (h : ∀ names, (Node.dir ⟨name, a⟩).kindAt? names = (Node.dir ⟨name', b⟩).kindAt? names) :
    a.SameShape b := by
  induction a generalizing b name name' with
  | nil =>
      cases b with
      | nil => exact .nil
      | file key' f' rest' => exact absurd h (kindAt?_nil_ne_cons _ _ key' (.file f') rest')
      | dir key' dirName' children' rest' =>
          exact absurd h (kindAt?_nil_ne_cons _ _ key' (.dir ⟨dirName', children'⟩) rest')
  | file key f rest ih =>
      cases b with
      | nil =>
          have hSame := fun names => (h names).symm
          exact absurd hSame (kindAt?_nil_ne_cons _ _ key (.file f) rest)
      | file key' f' rest' =>
          obtain ⟨rfl, _, hRest⟩ := kindAt?_cons_inj (.file f) (.file f') ha hb h
          exact .file (ih ha.2 hb.2 hRest)
      | dir key' dirName' children' rest' =>
          obtain ⟨_, hNode, _⟩ := kindAt?_cons_inj (.file f) (.dir ⟨dirName', children'⟩) ha hb h
          cases hNode []
  | dir key dirName children rest ihChildren ihRest =>
      cases b with
      | nil =>
          have hSame := fun names => (h names).symm
          exact absurd hSame (kindAt?_nil_ne_cons _ _ key (.dir ⟨dirName, children⟩) rest)
      | file key' f' rest' =>
          obtain ⟨_, hNode, _⟩ := kindAt?_cons_inj (.dir ⟨dirName, children⟩) (.file f') ha hb h
          cases hNode []
      | dir key' dirName' children' rest' =>
          obtain ⟨rfl, hNode, hRest⟩ :=
            kindAt?_cons_inj (.dir ⟨dirName, children⟩) (.dir ⟨dirName', children'⟩) ha hb h
          exact .dir (ihChildren ha.2.1 hb.2.1 hNode) (ihRest ha.2.2 hb.2.2 hRest)

end Entries

/-- The names in a store are valid. -/
theorem Store.validNames_of_ofTree {root : Directory} {store : Store}
    (h : ofTree root = .ok store) : store.root.entries.ValidNames := by
  obtain ⟨hRoot, rfl⟩ := ofTree_eq_ok_iff.mp h
  exact hRoot.2.validNames

namespace Directory

variable {d e : Directory}

/-- The shape of a directory in order is what its paths lead to. -/
theorem sameShape_iff_kindAt? (hd : d.entries.Ordered) (he : e.entries.Ordered) :
    d.entries.SameShape e.entries ↔ ∀ names, (Node.dir d).kindAt? names = (Node.dir e).kindAt? names := by
  constructor
  · intro h names
    have hNodes : (Node.dir d).SameShape (.dir e) := .dir h
    exact hNodes.kindAt? names
  · intro h
    exact Entries.sameShape_of_kindAt? hd he h

/-- Drawings are unambiguous. Two directories in which all names are valid are
drawn by the same lines if and only if they have the same shape: if their
entries are in order, if and only if any names that lead to a node of some kind
in one of them lead to one of that kind in the other. -/
theorem draw_eq_draw_iff (hd : d.entries.ValidNames) (he : e.entries.ValidNames) :
    (d.entries.draw "" = e.entries.draw "" ↔ d.entries.SameShape e.entries) ∧
    (d.entries.Ordered → e.entries.Ordered →
      (d.entries.draw "" = e.entries.draw "" ↔
        ∀ names, (Node.dir d).kindAt? names = (Node.dir e).kindAt? names)) := by
  have hShape : d.entries.draw "" = e.entries.draw "" ↔ d.entries.SameShape e.entries :=
    ⟨Entries.sameShape_of_draw_eq hd he, fun h => h.draw ""⟩
  refine ⟨hShape, fun hd he => ?_⟩
  rw [hShape, sameShape_iff_kindAt? hd he]

/-- A file whose name looks like the lines of two entries. -/
theorem draw_eq_draw_iff_imitated :
    let child : Entries := .file "b" ⟨"b", "", false⟩ .nil
    let imitation : File := ⟨"│   └── b\n└── c", "", false⟩
    let d : Directory := ⟨rootName, .dir "a" "a" child (.file "c" ⟨"c", "", true⟩ .nil)⟩
    let e : Directory := ⟨rootName, .dir "a" "a" .nil (.file imitation.name imitation .nil)⟩
    Store.ofTree d = .ok ⟨d⟩ ∧ Store.ofTree e = .ok ⟨e⟩ ∧
      (d.entries.ValidNames ∧ e.entries.ValidNames ∧ d.entries.Ordered ∧ e.entries.Ordered) ∧
      d.entries.draw "" ≠ e.entries.draw "" := by
  intro child imitation d e
  have hdStore : Store.ofTree d = .ok ⟨d⟩ := rfl
  have heStore : Store.ofTree e = .ok ⟨e⟩ := by decide
  have hd : d.entries.ValidNames := Store.validNames_of_ofTree hdStore
  have he : e.entries.ValidNames := Store.validNames_of_ofTree heStore
  have hdOrdered : d.entries.Ordered := ⟨by decide, ⟨by decide, trivial⟩, by decide, trivial⟩
  have heOrdered : e.entries.Ordered := ⟨by decide, trivial, by decide, trivial⟩
  refine ⟨hdStore, heStore, ⟨hd, he, hdOrdered, heOrdered⟩, fun hDraw => ?_⟩
  have hKind := ((draw_eq_draw_iff hd he).2 hdOrdered heOrdered).mp hDraw ["a", "b"]
  exact absurd hKind (by decide)

end Directory

end VirtualShell
