import VirtualShell.Proofs.Store.Layout
/-!
What a tree is blamed for that may not become a store. The search for a flaw is
compared with the paths of the tree, which stand in order: a directory comes
before all that it holds, and its entries come in the order of the bytes of their
keys. The entry that is blamed is the first one on them that breaks a rule.
-/

namespace VirtualShell

/-- Whether a node may stand under a key: the key is its own name, and a name that
an entry may have. -/
def Node.StandsUnder (node : Node) (key : String) : Prop :=
  key = node.name ∧ EntryName key

/-- The first flaw below a node that is shown as a place. -/
def Node.flawBelow? (place : String) : Node → Option SeedFlaw
  | file _ => none
  | dir d => d.entries.firstFlaw? place

namespace Directory

/-- The flaw of the entry that a path leads to, below a directory that is shown as
a place. -/
def flawAt? (d : Directory) (place : String) (path : List String) : Option SeedFlaw :=
  match (Node.dir d).descend? path, path.getLast? with
  | some node, some key => Entries.keyFlaw? (Text.join "/" (place :: path.dropLast)) key node.name
  | _, _ => none

/-- What an entry that may not stand under its key is blamed for: a name that is not
its key before anything else. The names are those that lead to its directory. -/
def blame (names : List String) (key : String) (node : Node) : SeedFlaw :=
  if key = node.name then .invalidEntry key (Text.join "/" (rootName :: names))
  else .misnamed key (Text.join "/" (rootName :: names)) node.name

/-- The first entry of a tree that may not stand under its key. -/
structure Offender (root : Directory) (names : List String) (key : String) (node : Node) :
    Prop where
  reached : (Node.dir root).descend? (names ++ [key]) = some node
  misplaced : ¬ node.StandsUnder key
  first : ∀ earlier other found, (Node.dir root).descend? (earlier ++ [other]) = some found →
    (earlier ++ [other]).map Text.bytes < (names ++ [key]).map Text.bytes →
    found.StandsUnder other

end Directory

namespace Entries

variable {entries : Entries} {key place : String} {node : Node} {names : List String}

theorem keyFlaw?_eq_none_iff_standsUnder :
    keyFlaw? place key node.name = none ↔ node.StandsUnder key := by
  rw [keyFlaw?_eq_none_iff, validName_iff, Node.StandsUnder]

theorem keyFlaw?_of_misplaced (h : ¬ node.StandsUnder key) :
    keyFlaw? (Text.join "/" (rootName :: names)) key node.name =
      some (Directory.blame names key node) := by
  rw [Node.StandsUnder, ← validName_iff] at h
  rw [keyFlaw?, Directory.blame]
  by_cases hSame : key = node.name
  · have hName : ¬ validName key = true := fun hName => h ⟨hSame, hName⟩
    rw [if_neg (not_not.mpr hSame), if_neg hName, if_pos hSame]
  · rw [if_pos hSame, if_neg hSame]

/-- An entry is looked at before what is below it, and that before the entries after
it. -/
theorem firstFlaw?_cons (place key : String) (node : Node) (rest : Entries) :
    (cons key node rest).firstFlaw? place =
      (keyFlaw? place key node.name).or
        ((node.flawBelow? (place ++ "/" ++ key)).or (rest.firstFlaw? place)) := by
  cases node with
  | file f => rfl
  | dir d => exact Option.or_assoc

/-! The flaw at a path, past the first entry and below it -/

theorem flawAt?_first (name place key : String) (node : Node) (rest : Entries) :
    Directory.flawAt? ⟨name, cons key node rest⟩ place [key] = keyFlaw? place key node.name := by
  rw [Directory.flawAt?, descend?_first, Node.descend?_nil]
  rfl

theorem flawAt?_below (name place key : String) (d : Directory) (rest : Entries)
    {path : List String} (hPath : path ≠ []) :
    Directory.flawAt? ⟨name, cons key (.dir d) rest⟩ place (key :: path) =
      d.flawAt? (place ++ "/" ++ key) path := by
  have hPlace : Text.join "/" (place :: key :: path.dropLast) =
      Text.join "/" ((place ++ "/" ++ key) :: path.dropLast) := by
    cases path.dropLast <;> simp [Text.join, String.append_assoc]
  rw [Directory.flawAt?, Directory.flawAt?, descend?_first, List.dropLast_cons_of_ne_nil hPath,
    List.getLast?_cons_of_ne_nil hPath, hPlace]

theorem flawAt?_rest (name place : String) (node : Node) (rest : Entries) {key other : String}
    (hOther : key ≠ other) (more : List String) :
    Directory.flawAt? ⟨name, cons key node rest⟩ place (other :: more) =
      Directory.flawAt? ⟨name, rest⟩ place (other :: more) := by
  rw [Directory.flawAt?, Directory.flawAt?, descend?_rest name node rest hOther]

/-- The search comes to the entries in the order of their paths. -/
theorem firstFlaw?_eq_head? (h : entries.Ordered) (name place : String) :
    entries.firstFlaw? place =
      (entries.paths.filterMap (Directory.flawAt? ⟨name, entries⟩ place)).head? := by
  induction entries using treeInduction generalizing name place with
  | nil => rfl
  | cons key node rest ihBelow ihRest =>
      obtain ⟨hFirst, hNode, hRest⟩ := ordered_cons.mp h
      have hBelow : node.flawBelow? (place ++ "/" ++ key) =
          ((node.pathsBelow.map (key :: ·)).filterMap
            (Directory.flawAt? ⟨name, cons key node rest⟩ place)).head? := by
        cases node with
        | file f => rfl
        | dir d =>
            rw [Node.flawBelow?, Node.pathsBelow, ihBelow d rfl hNode d.name, List.filterMap_map]
            congr 1
            apply List.filterMap_congr
            intro path hPath
            exact (flawAt?_below name place key d rest (ne_nil_of_mem_paths hPath)).symm
      have hPast : rest.firstFlaw? place =
          (rest.paths.filterMap
            (Directory.flawAt? ⟨name, cons key node rest⟩ place)).head? := by
        rw [ihRest hRest name]
        congr 1
        apply List.filterMap_congr
        intro path hPath
        obtain ⟨other, more, rfl, hOther⟩ := exists_cons_of_mem_paths hPath
        exact (flawAt?_rest name place node rest (hFirst other hOther).ne more).symm
      rw [firstFlaw?_cons, hBelow, hPast, paths_cons, List.filterMap_cons, flawAt?_first,
        List.filterMap_append]
      cases keyFlaw? place key node.name <;> simp [List.head?_append]

end Entries

namespace Directory

variable {root : Directory} {names : List String} {key : String} {node : Node} {flaw : SeedFlaw}

/-- What is wrong at a path is what is wrong with its last entry. -/
theorem flawAt?_concat (d : Directory) (place : String) (names : List String) (key : String) :
    d.flawAt? place (names ++ [key]) =
      ((Node.dir d).descend? (names ++ [key])).bind fun node =>
        Entries.keyFlaw? (Text.join "/" (place :: names)) key node.name := by
  rw [flawAt?, List.getLast?_concat, List.dropLast_concat]
  cases (Node.dir d).descend? (names ++ [key]) <;> rfl

/-- A path has a flaw if it leads to an entry that may not stand under its key. -/
theorem flawAt?_eq_some_iff :
    root.flawAt? rootName (names ++ [key]) = some flaw ↔
      ∃ node, (Node.dir root).descend? (names ++ [key]) = some node ∧
        ¬ node.StandsUnder key ∧ flaw = blame names key node := by
  rw [flawAt?_concat, Option.bind_eq_some_iff]
  apply exists_congr
  intro node
  apply and_congr_right
  intro _
  by_cases hNode : node.StandsUnder key
  · rw [Entries.keyFlaw?_eq_none_iff_standsUnder.mpr hNode]
    simp [hNode]
  · rw [Entries.keyFlaw?_of_misplaced hNode]
    simp [hNode, eq_comm]

/-- Nothing is wrong at a path that leads nowhere, or to an entry that may stand there. -/
theorem flawAt?_eq_none_iff :
    root.flawAt? rootName (names ++ [key]) = none ↔
      ∀ node, (Node.dir root).descend? (names ++ [key]) = some node → node.StandsUnder key := by
  rw [flawAt?_concat, Option.bind_eq_none_iff]
  simp only [Entries.keyFlaw?_eq_none_iff_standsUnder]

theorem mem_paths_of_reached (h : root.entries.Ordered)
    (hReach : (Node.dir root).descend? (names ++ [key]) = some node) :
    names ++ [key] ∈ root.entries.paths :=
  (Entries.mem_paths_iff h root.name _).mpr ⟨by simp, node, hReach⟩

/-- A search that finds nothing has come to every entry, -/
theorem standsUnder_of_firstFlaw? (h : root.entries.Ordered)
    (hNone : root.entries.firstFlaw? rootName = none)
    (hReach : (Node.dir root).descend? (names ++ [key]) = some node) : node.StandsUnder key := by
  rw [Entries.firstFlaw?_eq_head? h root.name, List.head?_filterMap,
    List.findSome?_eq_none_iff] at hNone
  exact flawAt?_eq_none_iff.mp (hNone _ (mem_paths_of_reached h hReach)) node hReach

/-- and one that finds something has come to no offence before. -/
theorem exists_offender_of_firstFlaw? (h : root.entries.Ordered)
    (hSome : root.entries.firstFlaw? rootName = some flaw) :
    ∃ names key node, root.Offender names key node ∧ flaw = blame names key node := by
  have hOrder := (Entries.pairwise_paths h).imp Text.map_bytes_lt_iff.mpr
  rw [Entries.firstFlaw?_eq_head? h root.name, List.head?_filterMap,
    List.findSome?_eq_some_iff] at hSome
  obtain ⟨before, path, after, hPaths, hFlaw, hBefore⟩ := hSome
  have hPath : path ∈ root.entries.paths := by
    rw [hPaths]
    exact List.mem_append_right _ List.mem_cons_self
  rcases List.eq_nil_or_concat path with rfl | ⟨names, key, rfl⟩
  · exact absurd rfl (Entries.ne_nil_of_mem_paths hPath)
  rw [List.concat_eq_append] at *
  obtain ⟨node, hReach, hNode, hBlame⟩ := flawAt?_eq_some_iff.mp hFlaw
  refine ⟨names, key, node, ⟨hReach, hNode, ?_⟩, hBlame⟩
  intro earlier other found hFound hLess
  have hMem := mem_paths_of_reached h hFound
  rw [hPaths, List.pairwise_append, List.pairwise_cons] at hOrder
  rw [hPaths, List.mem_append, List.mem_cons] at hMem
  rcases hMem with hMem | hSame | hMem
  · exact flawAt?_eq_none_iff.mp (hBefore _ hMem) found hFound
  · rw [hSame] at hLess
    exact absurd hLess (List.lt_irrefl _)
  · exact absurd hLess (List.lt_asymm (hOrder.2.1.1 _ hMem))

/-- Of two offenders, neither can come before the other. -/
theorem Offender.unique {names' : List String} {key' : String} {node' : Node}
    (h : root.Offender names key node) (h' : root.Offender names' key' node') :
    names = names' ∧ key = key' ∧ node = node' := by
  have hPath : names ++ [key] = names' ++ [key'] := by
    rcases lt_trichotomy (names ++ [key]) (names' ++ [key']) with hLess | hSame | hLess
    · exact absurd (h'.first _ _ _ h.reached (Text.map_bytes_lt_iff.mpr hLess)) h.misplaced
    · exact hSame
    · exact absurd (h.first _ _ _ h'.reached (Text.map_bytes_lt_iff.mpr hLess)) h'.misplaced
  have hNode := h.reached
  rw [hPath, h'.reached] at hNode
  obtain ⟨hNames, hKey⟩ := List.append_inj' hPath rfl
  exact ⟨hNames, List.singleton_inj.mp hKey, (Option.some.inj hNode).symm⟩

/-- A tree is well formed if and only if it is named as the root and all its entries may
stand under their keys. -/
theorem wellFormed_iff_standsUnder (hOrdered : root.entries.Ordered) :
    root.WellFormed ↔ root.name = rootName ∧ ∀ names key node,
      (Node.dir root).descend? (names ++ [key]) = some node → node.StandsUnder key := by
  rw [WellFormed, ← @Entries.firstFlaw?_eq_none_iff root.entries rootName]
  apply and_congr_right
  intro _
  constructor
  · intro hNone names key node hReach
    exact standsUnder_of_firstFlaw? hOrdered hNone hReach
  · intro hAll
    by_contra hFlaw
    obtain ⟨flaw, hSome⟩ := Option.ne_none_iff_exists'.mp hFlaw
    obtain ⟨names, key, node, hOffender, _⟩ := exists_offender_of_firstFlaw? hOrdered hSome
    exact hOffender.misplaced (hAll names key node hOffender.reached)

end Directory

namespace Store

variable {root : Directory}

/-- The search that finds an offender decides what a tree of the right name is
blamed for. -/
theorem ofTree_eq_error_iff (hOrdered : root.entries.Ordered) (hName : root.name = rootName)
    (fault : Fault) :
    ofTree root = .error fault ↔ ∃ names key node, root.Offender names key node ∧
      fault = Fault.of (.seed (Directory.blame names key node)) := by
  rw [ofTree, Directory.firstFlaw?, if_neg (not_not.mpr hName)]
  cases hFlaw : root.entries.firstFlaw? rootName with
  | none =>
      constructor
      · intro hFault
        cases hFault
      · rintro ⟨names, key, node, hOffender, _⟩
        exact absurd (Directory.standsUnder_of_firstFlaw? hOrdered hFlaw hOffender.reached)
          hOffender.misplaced
  | some flaw =>
      obtain ⟨names, key, node, hOffender, rfl⟩ :=
        Directory.exists_offender_of_firstFlaw? hOrdered hFlaw
      constructor
      · intro hFault
        cases hFault
        exact ⟨names, key, node, hOffender, rfl⟩
      · rintro ⟨names', key', node', hOther, rfl⟩
        obtain ⟨rfl, rfl, rfl⟩ := hOffender.unique hOther
        rfl

/-- A tree whose entries are in order becomes a store, and stays what it is, exactly
if it bears the name of the root and every entry at every depth stands under its own
name, which is one for an entry. If it bears that name and yet does not become a
store, then its first offender is blamed, with the path of the directory around. -/
theorem ofTree_blames (hOrdered : root.entries.Ordered) :
    (∀ store, ofTree root = .ok store ↔
      (root.name = rootName ∧ ∀ names key node,
        (Node.dir root).descend? (names ++ [key]) = some node → node.StandsUnder key) ∧
      store = ⟨root⟩) ∧
    (root.name = rootName → ∀ fault, ofTree root = .error fault ↔
      ∃ names key node, root.Offender names key node ∧
        fault = Fault.of (.seed (Directory.blame names key node))) ∧
    ∀ names key node, let fault := Fault.of (.seed (Directory.blame names key node))
      fault.kind = .invalidSeed ∧
        fault.message =
          if key = node.name then
            "invalid entry name '" ++ key ++ "' under '" ++ Text.join "/" (rootName :: names) ++ "'"
          else
            "entry '" ++ key ++ "' under '" ++ Text.join "/" (rootName :: names) ++
              "' is named '" ++ node.name ++ "'" := by
  refine ⟨fun store => ?_, fun hName => ofTree_eq_error_iff hOrdered hName, ?_⟩
  · rw [ofTree_eq_ok_iff, Directory.wellFormed_iff_standsUnder hOrdered]
  · intro names key node
    refine ⟨rfl, ?_⟩
    change (Directory.blame names key node).message = _
    rw [Directory.blame]
    split <;> rfl

/-- An entry with two faults, in a directory that comes before another offender. -/
theorem ofTree_blames_small :
    let inner : Entries := .file "b" ⟨"b", "", false⟩ (.file "c/" ⟨"d", "", true⟩ .nil)
    let root : Directory := ⟨rootName, .dir "a" "a" inner (.dir "z" "y" .nil .nil)⟩
    root.entries.Ordered ∧ root.name = rootName ∧
      (Fault.of (.seed (.misnamed "c/" "root/a" "d"))).message =
        "entry 'c/' under 'root/a' is named 'd'" ∧
      ∃ names key node, root.Offender names key node ∧
        Directory.blame names key node = .misnamed "c/" "root/a" "d" := by
  intro inner root
  have hOrdered : root.entries.Ordered :=
    ⟨by decide, ⟨by decide, by decide, trivial⟩, by decide, trivial, trivial⟩
  have hFault : ofTree root = .error (Fault.of (.seed (.misnamed "c/" "root/a" "d"))) := by decide
  obtain ⟨names, key, node, hOffender, hBlame⟩ :=
    ((ofTree_blames hOrdered).2.1 rfl _).mp hFault
  refine ⟨hOrdered, rfl, by decide, names, key, node, hOffender, ?_⟩
  injection hBlame with hCause
  injection hCause with hFlaw
  exact hFlaw.symm

end Store

end VirtualShell
