import Mathlib.Data.List.Infix
import VirtualShell.Proofs.Store.Drawing
import VirtualShell.Proofs.Text.Bytes
/-!
What a drawing looks like, line by line. Each entry below a directory has one
line, which the path to it decides: the path tells the names, the places of
these among their siblings give the columns and the connector, and the kind of
the entry gives the slash. The lines stand in the order of the paths.
-/

namespace VirtualShell

namespace Entries

/-- The paths of the entries and of all that is below them, each entry before
what is below it. -/
def paths : Entries → List (List String)
  | nil => []
  | file key _ rest => [key] :: rest.paths
  | dir key _ children rest => [key] :: (children.paths.map (key :: ·) ++ rest.paths)

end Entries

/-- The paths of all that is below a node. -/
def Node.pathsBelow : Node → List (List String)
  | file _ => []
  | dir d => d.entries.paths

/-- Whether a path leads to something below a node. -/
def Node.Leads (node : Node) (path : List String) : Prop :=
  path ≠ [] ∧ ∃ found, node.descend? path = some found

namespace Directory

/-- Whether the last name of a path is the greatest one in the directory in which
it is an entry. -/
def endsGreatest (d : Directory) (path : List String) : Bool :=
  match (Node.dir d).descend? path.dropLast, path.getLast? with
  | some (.dir around), some name =>
    around.entries.keys.all fun key => Text.bytes key ≤ Text.bytes name
  | _, _ => false

/-- The line of what a path leads to: a column for every directory on the way,
a connector, the last name, and a slash behind a directory. -/
def lineAt (d : Directory) (path : List String) : String :=
  String.join (path.dropLast.inits.tail.map fun way => Drawing.column (d.endsGreatest way)) ++
    (Drawing.connector (d.endsGreatest path) ++
      (path.getLastD "" ++ if (Node.dir d).kindAt? path = some .dir then "/" else ""))

/-- Lines that show all that is below a directory, one for each path that leads
to something, in the order of the bytes of the paths, name by name. -/
structure LaidOut (d : Directory) (paths : List (List String)) (lines : List String) :
    Prop where
  mem : ∀ path, path ∈ paths ↔ (Node.dir d).Leads path
  ascending : paths.Pairwise fun path later => path.map Text.bytes < later.map Text.bytes
  lines : lines = paths.map d.lineAt

end Directory

namespace Entries

variable {entries rest : Entries} {key name : String} {node : Node} {path : List String}

/-- The paths of entries are that of the first, those below it and those of the others. -/
theorem paths_cons (key : String) (node : Node) (rest : Entries) :
    (cons key node rest).paths = [key] :: (node.pathsBelow.map (key :: ·) ++ rest.paths) := by
  cases node <;> rfl

theorem exists_cons_of_mem_paths (h : path ∈ entries.paths) :
    ∃ key more, path = key :: more ∧ key ∈ entries.keys := by
  induction entries using consInduction with
  | nil => cases h
  | cons key node rest ih =>
      rw [paths_cons, List.mem_cons, List.mem_append, List.mem_map] at h
      rw [keys_cons]
      rcases h with rfl | ⟨more, _, rfl⟩ | hRest
      · exact ⟨key, [], rfl, List.mem_cons_self⟩
      · exact ⟨key, more, rfl, List.mem_cons_self⟩
      · obtain ⟨other, more, rfl, hKey⟩ := ih hRest
        exact ⟨other, more, rfl, List.mem_cons_of_mem _ hKey⟩

/-! What the first entry has to do with the others. -/

/-- A path to another key leads to the same place without the first entry. -/
theorem descend?_rest (name : String) (node : Node) (rest : Entries) {key other : String}
    (hOther : key ≠ other) (more : List String) :
    (Node.dir ⟨name, cons key node rest⟩).descend? (other :: more) =
      (Node.dir ⟨name, rest⟩).descend? (other :: more) := by
  rw [Node.descend?_dir_cons, Node.descend?_dir_cons, Directory.child?, Directory.child?,
    find?_cons, if_neg hOther]

theorem descend?_first (name key : String) (node : Node) (rest : Entries) (more : List String) :
    (Node.dir ⟨name, cons key node rest⟩).descend? (key :: more) = node.descend? more := by
  rw [Node.descend?_dir_cons, Directory.child?, find?_cons, if_pos rfl, Option.bind_some]

/-- A path leads to the first of entries in order, below it, or past it. -/
theorem leads_cons_iff (h : (cons key node rest).Ordered) :
    (Node.dir ⟨name, cons key node rest⟩).Leads path ↔
      path = [key] ∨ (∃ more, node.Leads more ∧ key :: more = path) ∨
        (Node.dir ⟨name, rest⟩).Leads path := by
  cases path with
  | nil => simp [Node.Leads]
  | cons first more =>
      by_cases hFirst : key = first
      · subst hFirst
        have hPast : ¬ (Node.dir ⟨name, rest⟩).Leads (key :: more) := by
          rintro ⟨_, found, hFound⟩
          rw [Node.descend?_dir_cons, Directory.child?, h.find?_rest] at hFound
          cases hFound
        cases more with
        | nil => simp [Node.Leads, descend?_first]
        | cons second more =>
            rw [or_iff_left hPast]
            simp [Node.Leads, descend?_first]
      · have hHere : first :: more ≠ [key] := fun hSame => hFirst (List.cons.inj hSame).1.symm
        have hBelow : ¬ ∃ below, node.Leads below ∧ key :: below = first :: more := by
          rintro ⟨below, _, hSame⟩
          exact hFirst (List.cons.inj hSame).1
        rw [or_iff_right hHere, or_iff_right hBelow, Node.Leads, Node.Leads,
          descend?_rest name node rest hFirst]

theorem not_leads_nil (name : String) (path : List String) : ¬ (Node.dir ⟨name, nil⟩).Leads path := by
  rintro ⟨hPath, found, hFound⟩
  obtain ⟨first, more, rfl⟩ := List.exists_cons_of_ne_nil hPath
  cases hFound

theorem not_leads_file (f : File) (path : List String) : ¬ (Node.file f).Leads path := by
  rintro ⟨hPath, found, hFound⟩
  obtain ⟨first, more, rfl⟩ := List.exists_cons_of_ne_nil hPath
  cases hFound

/-- The paths that are listed are those that lead to something. -/
theorem mem_paths_iff (h : entries.Ordered) (name : String) (path : List String) :
    path ∈ entries.paths ↔ (Node.dir ⟨name, entries⟩).Leads path := by
  induction entries using treeInduction generalizing name path with
  | nil => exact iff_of_false List.not_mem_nil (not_leads_nil name path)
  | cons key node rest ihBelow ihRest =>
      obtain ⟨_, hNode, hRest⟩ := ordered_cons.mp h
      have hBelow (path : List String) : path ∈ node.pathsBelow ↔ node.Leads path := by
        cases node with
        | file f => exact iff_of_false List.not_mem_nil (not_leads_file f path)
        | dir d => exact ihBelow d rfl hNode d.name path
      simp only [paths_cons, leads_cons_iff h, List.mem_cons, List.mem_append, List.mem_map,
        hBelow, ihRest hRest name]

theorem ne_nil_of_mem_paths (h : path ∈ entries.paths) : path ≠ [] := by
  obtain ⟨key, more, rfl, _⟩ := exists_cons_of_mem_paths h
  exact List.cons_ne_nil _ _

/-- The paths are listed in order: the keys are, and an entry comes before what
is below it. -/
theorem pairwise_paths (h : entries.Ordered) : entries.paths.Pairwise (· < ·) := by
  induction entries using treeInduction with
  | nil => exact .nil
  | cons key node rest ihBelow ihRest =>
      obtain ⟨hFirst, hNode, hRest⟩ := ordered_cons.mp h
      have hBelow : node.pathsBelow.Pairwise (· < ·) ∧ ∀ path ∈ node.pathsBelow, path ≠ [] := by
        cases node with
        | file f => exact ⟨.nil, nofun⟩
        | dir d => exact ⟨ihBelow d rfl hNode, fun _ hPath => ne_nil_of_mem_paths hPath⟩
      have hPast : ∀ path ∈ rest.paths, ∀ more, key :: more < path := by
        intro path hPath more
        obtain ⟨other, rest, rfl, hKey⟩ := exists_cons_of_mem_paths hPath
        exact List.cons_lt_cons_iff.mpr (.inl (hFirst other hKey))
      rw [paths_cons, List.pairwise_cons, List.pairwise_append, List.pairwise_map]
      refine ⟨fun path hPath => ?_, ?_, ihRest hRest, fun path hPath later hLater => ?_⟩
      · rcases List.mem_append.mp hPath with hMap | hLater
        · obtain ⟨more, hMore, rfl⟩ := List.mem_map.mp hMap
          obtain ⟨first, more, rfl⟩ := List.exists_cons_of_ne_nil (hBelow.2 more hMore)
          exact List.cons_lt_cons_iff.mpr (.inr ⟨rfl, List.nil_lt_cons _ _⟩)
        · exact hPast path hLater []
      · exact hBelow.1.imp fun hPaths => List.cons_lt_cons_iff.mpr (.inr ⟨rfl, hPaths⟩)
      · obtain ⟨more, _, rfl⟩ := List.mem_map.mp hPath
        exact hPast later hLater more

end Entries

namespace Directory

variable {d e : Directory} {key : String} {way more : List String}

theorem endsGreatest_singleton (d : Directory) (key : String) :
    d.endsGreatest [key] = d.entries.keys.all fun other => other ≤ key := by
  simp [endsGreatest, Text.bytes_le_bytes_iff]

/-- Whether a path ends in the greatest key is told in the directory that it ends in. -/
theorem endsGreatest_cons (h : d.child? key = some (.dir e)) (hMore : more ≠ []) :
    d.endsGreatest (key :: more) = e.endsGreatest more := by
  rw [endsGreatest, endsGreatest, List.dropLast_cons_of_ne_nil hMore, Node.descend?_dir_cons, h,
    Option.bind_some, List.getLast?_cons_of_ne_nil hMore]

theorem ne_nil_of_mem_inits {names : List String} (h : way ∈ names.inits.tail) : way ≠ [] := by
  cases names with
  | nil => cases h
  | cons name rest =>
      obtain ⟨_, _, rfl⟩ := List.mem_map.mp h
      exact List.cons_ne_nil _ _

/-- Below a directory every line has one more column, by whether other entries follow that
directory. -/
theorem lineAt_cons (h : d.child? key = some (.dir e)) (hMore : more ≠ []) :
    d.lineAt (key :: more) = Drawing.column (d.endsGreatest [key]) ++ e.lineAt more := by
  have hInits : (key :: more).dropLast.inits.tail =
      [key] :: more.dropLast.inits.tail.map (key :: ·) := by
    rw [List.dropLast_cons_of_ne_nil hMore, List.inits_cons, List.tail_cons]
    cases more.dropLast <;> simp
  have hColumns : (more.dropLast.inits.tail.map (key :: ·)).map
        (fun way => Drawing.column (d.endsGreatest way)) =
      more.dropLast.inits.tail.map fun way => Drawing.column (e.endsGreatest way) := by
    rw [List.map_map]
    apply List.map_congr_left
    intro way hWay
    rw [Function.comp, endsGreatest_cons h (ne_nil_of_mem_inits hWay)]
  have hLast : (key :: more).getLastD "" = more.getLastD "" := by
    obtain ⟨first, more, rfl⟩ := List.exists_cons_of_ne_nil hMore
    rfl
  have hKind : (Node.dir d).kindAt? (key :: more) = (Node.dir e).kindAt? more := by
    rw [Node.kindAt?_dir_cons, ← child?, h, Option.bind_some]
  rw [lineAt, lineAt, hInits, List.map_cons, hColumns, String.join_cons, hLast, hKind,
    endsGreatest_cons h hMore, String.append_assoc]

variable {node : Node} {rest : Entries} {name other : String}

/-- The first of the keys in order is the greatest only if it is alone. -/
theorem all_keys_le_first (h : (Entries.cons key node rest).Ordered) :
    ((Entries.cons key node rest).keys.all fun other => other ≤ key) = rest.isEmpty := by
  obtain ⟨hFirst, _, _⟩ := Entries.ordered_cons.mp h
  cases rest using Entries.consInduction with
  | nil => simp [Entries.isEmpty]
  | cons next node' rest =>
      have hNext : ¬ next ≤ key := not_le.mpr (hFirst next (by simp))
      have hSome : (Entries.cons next node' rest).isEmpty = false := by cases node' <;> rfl
      simp [hNext, hSome]

/-- The line of the first entry, which is the greatest if it is the only one. -/
theorem lineAt_first (h : (Entries.cons key node rest).Ordered) (name : String) :
    lineAt ⟨name, .cons key node rest⟩ [key] =
      Drawing.connector rest.isEmpty ++ (key ++ node.mark) := by
  have hMark : (if some node.kind = some .dir then "/" else "") = node.mark := by
    cases node <;> rfl
  rw [lineAt, endsGreatest_singleton, all_keys_le_first h, Entries.kindAt?_first, Node.kindAt?,
    Node.descend?_nil, Option.map_some, hMark]
  simp

/-- Behind the first entry it makes no difference that it is there. -/
theorem endsGreatest_rest (h : (Entries.cons key node rest).Ordered) (hOther : other ∈ rest.keys)
    (name : String) (more : List String) :
    endsGreatest ⟨name, .cons key node rest⟩ (other :: more) =
      endsGreatest ⟨name, rest⟩ (other :: more) := by
  have hLess : key < other := (Entries.ordered_cons.mp h).1 other hOther
  cases more with
  | nil => simp [endsGreatest_singleton, hLess.le]
  | cons next more =>
      rw [endsGreatest, endsGreatest, List.dropLast_cons_cons,
        Entries.descend?_rest name node rest hLess.ne]

/-- The lines of later entries are not changed by an entry before them. -/
theorem lineAt_rest (h : (Entries.cons key node rest).Ordered) (hOther : other ∈ rest.keys)
    (name : String) (more : List String) :
    lineAt ⟨name, .cons key node rest⟩ (other :: more) = lineAt ⟨name, rest⟩ (other :: more) := by
  have hLess : key < other := (Entries.ordered_cons.mp h).1 other hOther
  have hColumns : ∀ way ∈ (other :: more).dropLast.inits.tail,
      endsGreatest ⟨name, .cons key node rest⟩ way = endsGreatest ⟨name, rest⟩ way := by
    intro way hWay
    cases more with
    | nil => cases hWay
    | cons next more =>
        rw [List.dropLast_cons_cons, List.inits_cons, List.tail_cons] at hWay
        obtain ⟨way, _, rfl⟩ := List.mem_map.mp hWay
        exact endsGreatest_rest h hOther name way
  have hKind : (Node.dir ⟨name, .cons key node rest⟩).kindAt? (other :: more) =
      (Node.dir ⟨name, rest⟩).kindAt? (other :: more) := by
    rw [Entries.kindAt?_rest h, if_neg hLess.ne]
  rw [lineAt, lineAt, endsGreatest_rest h hOther, hKind]
  congr 2
  apply List.map_congr_left
  intro way hWay
  rw [hColumns way hWay]

end Directory

namespace Entries

variable {entries : Entries}

/-- A drawing has one line for each path, and that is the line at the path. -/
theorem draw_eq_map_lineAt (h : entries.Ordered) (name : String) :
    entries.draw "" = entries.paths.map (Directory.lineAt ⟨name, entries⟩) := by
  induction entries using treeInduction generalizing name with
  | nil => rfl
  | cons key node rest ihBelow ihRest =>
      obtain ⟨_, hNode, hRest⟩ := ordered_cons.mp h
      have hBelow : node.linesBelow.map (Drawing.column rest.isEmpty ++ ·) =
          (node.pathsBelow.map (key :: ·)).map (Directory.lineAt ⟨name, cons key node rest⟩) := by
        cases node with
        | file f => rfl
        | dir d =>
            rw [Node.linesBelow, Node.pathsBelow, ihBelow d rfl hNode d.name, List.map_map,
              List.map_map]
            apply List.map_congr_left
            intro path hPath
            have hChild : (⟨name, cons key (.dir d) rest⟩ : Directory).child? key = some (.dir d) := by
              rw [Directory.child?, find?_cons, if_pos rfl]
            rw [Function.comp, Function.comp,
              Directory.lineAt_cons hChild (ne_nil_of_mem_paths hPath),
              Directory.endsGreatest_singleton, Directory.all_keys_le_first h]
      have hPast : rest.draw "" =
          rest.paths.map (Directory.lineAt ⟨name, cons key node rest⟩) := by
        rw [ihRest hRest name]
        apply List.map_congr_left
        intro path hPath
        obtain ⟨other, more, rfl, hOther⟩ := exists_cons_of_mem_paths hPath
        rw [Directory.lineAt_rest h hOther]
      rw [draw_cons, paths_cons, List.map_cons, List.map_append, Directory.lineAt_first h, hBelow,
        hPast]

end Entries

/-- Directories with their entries in order are drawn line by line as their paths
say. -/
theorem Directory.laidOut_draw {d : Directory} (h : d.entries.Ordered) :
    d.LaidOut d.entries.paths (d.entries.draw "") where
  mem := Entries.mem_paths_iff h d.name
  ascending := (Entries.pairwise_paths h).imp Text.map_bytes_lt_iff.mpr
  lines := Entries.draw_eq_map_lineAt h d.name

end VirtualShell
