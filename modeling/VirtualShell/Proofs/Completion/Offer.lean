import VirtualShell.Proofs.Completion
import VirtualShell.Proofs.Text.Bytes
/-!
What is offered, against what would go through. Completion looks at the entries
of the current directory, and the commands look up one name and check what they
find. On a session that was reached the two come to the same: an operand is
offered for `cd` or `cat` if and only if the command takes it.
-/

namespace VirtualShell

namespace Session

variable {session : Session} {name : String}

/-- The operands that are offered for `cd` are those by which it moves, but for
the two that lead to the root. -/
theorem mem_operands_cd_iff (h : session.Orderly) :
    name ∈ Completion.operands .cd session.snapshot ↔
      name ≠ "" ∧ name ≠ "/" ∧ ∃ moved, session.changeDirectory name = .ok moved := by
  constructor
  · intro hMem
    obtain ⟨after, outcome, hRun, _, hMeans⟩ := exists_run_of_mem_operands h hMem
    refine ⟨hMeans.ne_empty, hMeans.ne_slash, ?_⟩
    rw [Builtin.run_cd, List.head?_cons, Option.getD_some] at hRun
    cases hMove : session.changeDirectory name with
    | ok moved => exact ⟨moved, rfl⟩
    | error fault =>
        rw [hMove] at hRun
        cases hRun
  · rintro ⟨hEmpty, hSlash, moved, hMove⟩
    rw [changeDirectory, Cursor.move] at hMove
    by_cases hDots : name = ".."
    · rw [hDots]
      exact List.mem_cons_self
    · rw [if_neg hDots, if_neg (not_or.mpr ⟨hEmpty, hSlash⟩)] at hMove
      cases hChild : (session.cursor.directory session.store).child? name with
      | none =>
          rw [hChild] at hMove
          cases hMove
      | some node =>
          rw [hChild] at hMove
          cases node with
          | file f => cases hMove
          | dir d =>
              apply List.mem_cons_of_mem
              exact Completion.mem_entriesOf_iff.mpr ⟨_, Entries.mem_toList_of_find? hChild, rfl⟩

/-- The operands that are offered for `cat` are those that it reads. -/
theorem mem_operands_cat_iff (h : session.Orderly) :
    name ∈ Completion.operands .cat session.snapshot ↔
      ∃ result, Builtin.cat.run [name] session = .ok result := by
  constructor
  · intro hMem
    obtain ⟨after, outcome, hRun, _⟩ := exists_run_of_mem_operands h hMem
    exact ⟨_, hRun⟩
  · rintro ⟨result, hRun⟩
    rw [Builtin.run_cat_cons] at hRun
    cases hChild : session.directory.child? name with
    | none =>
        rw [hChild] at hRun
        cases hRun
    | some node =>
        rw [hChild] at hRun
        cases node with
        | dir d => cases hRun
        | file f =>
            exact Completion.mem_entriesOf_iff.mpr ⟨_, Entries.mem_toList_of_find? hChild, rfl⟩

/-- No entry is named like the way up, so that it is offered once. -/
theorem dots_not_mem_entriesOf (h : session.Orderly) (kind : NodeKind) :
    ".." ∉ Completion.entriesOf kind session.directory := by
  intro hMem
  exact (exists_entry_of_mem_entriesOf h hMem).1.2.2.1 rfl

end Session

namespace Completion

variable {session : Session} {word beginning : String}

/-- Names in ascending order of their bytes. -/
def Ascending (names : List String) : Prop :=
  names.Pairwise fun first second => Text.bytes first < Text.bytes second

theorem ascending_iff {names : List String} : Ascending names ↔ names.Pairwise (· < ·) :=
  List.Pairwise.iff fun _ _ => Text.bytes_lt_bytes_iff

theorem ascending_matching {names : List String} (h : names.Pairwise (· < ·))
    (fragment : String) : Ascending (matching fragment names) :=
  ascending_iff.mpr (h.filter _)

theorem Ascending.nodup {names : List String} (h : Ascending names) : names.Nodup :=
  (ascending_iff.mp h).imp ne_of_lt

/-- The flags of an app are listed in order. -/
theorem pairwise_flags (builtin : Builtin) : builtin.flags.Pairwise (· < ·) := by
  cases builtin with
  | ai | cam => exact List.pairwise_singleton _ _
  | _ => exact .nil

/-- What is offered behind a word and a blank, by the command that the word
names in whatever letter case. -/
structure Offers (session : Session) (word beginning : String) (candidates : List String) :
    Prop where
  /-- For `cd` all that it moves by, but for what leads to the root, -/
  moves : Text.lowercase word = "cd" → ∀ name, name ∈ candidates ↔
    Text.startsWith name beginning = true ∧ name ≠ "" ∧ name ≠ "/" ∧
      ∃ moved, session.changeDirectory name = .ok moved
  /-- each once, the way up before the directories, and these in order. -/
  movesOrder : Text.lowercase word = "cd" → candidates.Nodup ∧
    ∃ names, ".." ∉ names ∧ Ascending names ∧
      candidates = if Text.startsWith ".." beginning then ".." :: names else names
  /-- For `cat` all that it reads, each once and in order. -/
  reads : Text.lowercase word = "cat" → ∀ name, name ∈ candidates ↔
    Text.startsWith name beginning = true ∧
      ∃ result, Builtin.cat.run [name] session = .ok result
  readsOrder : Text.lowercase word = "cat" → candidates.Nodup ∧ Ascending candidates
  /-- For anything else the flags of models, which only some applications have. -/
  flags : Text.lowercase word ≠ "cd" → Text.lowercase word ≠ "cat" → ' ' ∉ word.toList →
    ∀ name, name ∈ candidates ↔
      Text.startsWith name beginning = true ∧ ∃ builtin app model,
        Builtin.named (Text.lowercase word) = some builtin ∧ builtin.app = some app ∧
          builtin.modelFlag = some (name, model)
  flagsOrder : Text.lowercase word ≠ "cd" → Text.lowercase word ≠ "cat" → ' ' ∉ word.toList →
    candidates.Nodup

/-- Behind a word that names a command there are the operands of the command. -/
theorem candidates_of_named (builtin : Builtin)
    (hNamed : Text.lowercase word = builtin.name) (beginning : String) (snapshot : Snapshot) :
    (ofLine (word ++ " " ++ beginning) snapshot).candidates =
      matching beginning (operands builtin snapshot) := by
  have hFound : Builtin.named (Text.lowercase word) = some builtin :=
    Builtin.named_eq_some_iff.mpr (.inl hNamed)
  have hWord := Text.not_mem_of_blankFree (Builtin.ne_empty_and_blankFree_of_named hFound).2
  rw [ofLine_append hWord, hNamed, operandsNamed_name]

theorem matching_cons (fragment first : String) (rest : List String) :
    matching fragment (first :: rest) =
      if Text.startsWith first fragment then first :: matching fragment rest
      else matching fragment rest :=
  List.filter_cons

/-! Other commands -/

/-- Besides `cd` and `cat`, flags are all that is proposed. -/
theorem operands_eq_flags {builtin : Builtin} (hCd : builtin ≠ .cd) (hCat : builtin ≠ .cat)
    (snapshot : Snapshot) : operands builtin snapshot = builtin.flags := by
  cases builtin with
  | cd => exact absurd rfl hCd
  | cat => exact absurd rfl hCat
  | _ => rfl

theorem operands_of_named {builtin : Builtin} (hCd : Text.lowercase word ≠ "cd")
    (hCat : Text.lowercase word ≠ "cat") (hNamed : Builtin.named (Text.lowercase word) = some builtin)
    (snapshot : Snapshot) : operands builtin snapshot = builtin.flags := by
  have hName := Builtin.named_eq_some_iff.mp hNamed
  apply operands_eq_flags
  · rintro rfl
    exact hName.elim hCd fun hAlias => nomatch hAlias.2
  · rintro rfl
    exact hName.elim hCat fun hAlias => nomatch hAlias.2

/-- What is proposed behind any other word are the flags of the app that it opens. -/
theorem mem_operandsNamed_iff_flag {name : String} {snapshot : Snapshot}
    (hCd : Text.lowercase word ≠ "cd") (hCat : Text.lowercase word ≠ "cat") :
    name ∈ operandsNamed (Text.lowercase word) snapshot ↔ ∃ builtin app model,
      Builtin.named (Text.lowercase word) = some builtin ∧ builtin.app = some app ∧
        builtin.modelFlag = some (name, model) := by
  rw [mem_operandsNamed_iff]
  constructor
  · rintro ⟨builtin, hNamed, hMem⟩
    rw [operands_of_named hCd hCat hNamed, Builtin.mem_flags_iff] at hMem
    obtain ⟨model, hFlag⟩ := hMem
    obtain ⟨app, hApp⟩ := Builtin.exists_app_of_modelFlag hFlag
    exact ⟨builtin, app, model, hNamed, hApp, hFlag⟩
  · rintro ⟨builtin, app, model, hNamed, _, hFlag⟩
    refine ⟨builtin, hNamed, ?_⟩
    rw [operands_of_named hCd hCat hNamed, Builtin.mem_flags_iff]
    exact ⟨model, hFlag⟩

/-- Flags are proposed in order, and behind other words nothing is. -/
theorem pairwise_operandsNamed (hCd : Text.lowercase word ≠ "cd")
    (hCat : Text.lowercase word ≠ "cat") (snapshot : Snapshot) :
    (operandsNamed (Text.lowercase word) snapshot).Pairwise (· < ·) := by
  rw [operandsNamed]
  cases hNamed : Builtin.named (Text.lowercase word) with
  | none => exact .nil
  | some builtin =>
      dsimp only
      rw [operands_of_named hCd hCat hNamed]
      exact pairwise_flags builtin

/-- A session in order offers what its commands would take. -/
theorem offers_of_orderly (h : session.Orderly) (word beginning : String) :
    Offers session word beginning
      (ofLine (word ++ " " ++ beginning) session.snapshot).candidates where
  moves hCd name := by
    rw [candidates_of_named .cd hCd, mem_matching_iff, and_comm,
      Session.mem_operands_cd_iff h]
  movesOrder hCd := by
    have hEntries := pairwise_entriesOf h.ordered_directory .dir
    have hNames := ascending_matching hEntries beginning
    have hDots : ".." ∉ matching beginning (entriesOf .dir session.directory) := fun hMem =>
      Session.dots_not_mem_entriesOf h .dir (mem_of_mem_matching hMem)
    rw [candidates_of_named .cd hCd]
    refine ⟨?_, _, hDots, hNames, matching_cons _ _ _⟩
    have hNodup : (operands .cd session.snapshot).Nodup := List.nodup_cons.mpr
      ⟨Session.dots_not_mem_entriesOf h .dir, hEntries.imp ne_of_lt⟩
    exact List.Pairwise.filter _ hNodup
  reads hCat name := by
    rw [candidates_of_named .cat hCat, mem_matching_iff, and_comm,
      Session.mem_operands_cat_iff h]
  readsOrder hCat := by
    have hEntries := pairwise_entriesOf h.ordered_directory .file
    have hNames := ascending_matching hEntries beginning
    rw [candidates_of_named .cat hCat]
    exact ⟨hNames.nodup, hNames⟩
  flags hCd hCat hWord name := by
    rw [ofLine_append hWord, mem_matching_iff, and_comm, mem_operandsNamed_iff_flag hCd hCat]
  flagsOrder hCd hCat hWord := by
    rw [ofLine_append hWord]
    exact (ascending_matching (pairwise_operandsNamed hCd hCat session.snapshot) beginning).nodup

variable {seed : OrderedSeed} {user : String} {limit : Option Nat}

/-- On whatever session a run leads to from a seed whose entries are in order,
exactly that is offered behind a word and a blank which would go through. -/
theorem offers_performAll (hStart : Session.start seed.toSeed user limit = .ok session)
    (actions : List Session.Action) (word beginning : String) :
    Offers (session.performAll actions) word beginning
      (ofLine (word ++ " " ++ beginning) (session.performAll actions).snapshot).candidates :=
  offers_of_orderly (Session.orderly_performAll hStart actions) word beginning

/-- The way up stands before a directory whose name begins with it, and neither
a file nor a directory that a file has replaced is a way. -/
theorem offers_performAll_small :
    let seed : OrderedSeed :=
      ⟨⟨⟨rootName, .dir "..a" "..a" .nil (.file "..b" ⟨"..b", "text", true⟩
        (.dir "..c" "..c" .nil .nil))⟩, []⟩, by decide⟩
    let session : Session := { store := ⟨seed.tree⟩, user := "guest" }
    let reached := session.performAll [.execute "touch ..c"]
    Session.start seed.toSeed "guest" none = .ok session ∧
      (ofLine "Cd ." reached.snapshot).candidates = ["..", "..a"] ∧
      Offers reached "Cd" "." ["..", "..a"] ∧ Offers reached "cat" "" ["..b", "..c"] := by
  intro seed session reached
  have hStart : Session.start seed.toSeed "guest" none = .ok session := rfl
  have hMoves : (ofLine "Cd ." reached.snapshot).candidates = ["..", "..a"] := by decide
  have hReads : (ofLine "cat " reached.snapshot).candidates = ["..b", "..c"] := by decide
  refine ⟨hStart, hMoves, ?_, ?_⟩
  · rw [← hMoves]
    exact offers_performAll hStart [.execute "touch ..c"] "Cd" "."
  · rw [← hReads]
    exact offers_performAll hStart [.execute "touch ..c"] "cat" ""

end Completion

end VirtualShell
