import VirtualShell.Completion
import VirtualShell.Proofs.Cursor
import VirtualShell.Proofs.Session.Run
import VirtualShell.Proofs.Text.Split
/-!
What an offered candidate means once it stands in the line. Completion cuts a
line at its first blank and takes all behind it for one operand, while a command
takes its words apart at any white space. The two agree on every operand without
white space, and such an operand does what it was offered for: the entries that
are offered are those that the store has under their names at that moment.
-/

namespace VirtualShell

namespace Builtin

variable {builtin : Builtin} {flag : String} {model : Model}

/-- The flags that are offered for a command are those that it recognises. -/
theorem mem_flags_iff : flag ∈ builtin.flags ↔ ∃ model, builtin.modelFlag = some (flag, model) := by
  cases builtin <;> simp [flags, modelFlag, eq_comm]

/-- Only a command that opens an application recognises a flag. -/
theorem exists_app_of_modelFlag (h : builtin.modelFlag = some (flag, model)) :
    ∃ app, builtin.app = some app := by
  cases builtin <;> cases h <;> exact ⟨_, rfl⟩

/-- No flag is empty or a slash, the two operands by which `cd` goes to the root. -/
theorem ne_empty_and_ne_slash_of_modelFlag (h : builtin.modelFlag = some (flag, model)) :
    flag ≠ "" ∧ flag ≠ "/" := by
  cases builtin <;> cases h <;> decide

/-- A flag by itself asks for its model. -/
theorem requestedModel_flag (h : builtin.modelFlag = some (flag, model)) :
    builtin.requestedModel [flag] = some model := by
  simp [requestedModel, h]

/-- A builtin that opens an app leaves the session as it was. It asks for the app, with
the model that its operands request. -/
theorem run_of_app {app : App} (h : builtin.app = some app) (args : List String)
    (session : Session) :
    builtin.run args session =
      .ok (session, .ofEffect (.launch app (builtin.requestedModel args))) := by
  cases builtin <;> cases h <;> rfl

end Builtin

namespace Completion

/-- The entries of one kind are the names under which the directory has nodes of that
kind. -/
theorem mem_entriesOf_iff {kind : NodeKind} {d : Directory} {name : String} :
    name ∈ entriesOf kind d ↔ ∃ node, (name, node) ∈ d.entries.toList ∧ node.kind = kind := by
  simp [entriesOf]

/-- Operands are proposed only for a word that calls a builtin. -/
theorem mem_operandsNamed_iff {command operand : String} {snapshot : Snapshot} :
    operand ∈ operandsNamed command snapshot ↔
      ∃ builtin, Builtin.named command = some builtin ∧ operand ∈ operands builtin snapshot := by
  rw [operandsNamed]
  cases Builtin.named command <;> simp

theorem mem_matching_iff {fragment name : String} {names : List String} :
    name ∈ matching fragment names ↔ name ∈ names ∧ Text.startsWith name fragment = true :=
  List.mem_filter

theorem mem_of_mem_matching {fragment name : String} {names : List String}
    (h : name ∈ matching fragment names) : name ∈ names :=
  (mem_matching_iff.mp h).1

/-- All that is offered for a command are names of commands. -/
theorem exists_builtin_of_mem_matching {fragment name : String}
    (h : name ∈ matching fragment (Builtin.all.map Builtin.name)) :
    ∃ builtin : Builtin, builtin.name = name := by
  obtain ⟨builtin, _, hName⟩ := List.mem_map.mp (mem_of_mem_matching h)
  exact ⟨builtin, hName⟩

/-- Of ascending names, the first that begins with one of them is that one. -/
theorem head?_matching {names : List String} (hNames : names.Pairwise (· < ·)) {name : String}
    (hMem : name ∈ names) : (matching name names).head? = some name := by
  have hSorted : (matching name names).Pairwise (· < ·) := hNames.filter _
  have hFound : name ∈ matching name names :=
    List.mem_filter.mpr ⟨hMem, Text.startsWith_self name⟩
  have hBegin : ∀ other ∈ matching name names, Text.startsWith other name = true :=
    fun _ hOther => (List.mem_filter.mp hOther).2
  cases hMatching : matching name names with
  | nil =>
      rw [hMatching] at hFound
      cases hFound
  | cons first rest =>
      rw [hMatching] at hSorted hFound hBegin
      rcases List.mem_cons.mp hFound with rfl | hLater
      · rfl
      · exact absurd (List.rel_of_pairwise_cons hSorted hLater)
          (Text.not_lt_of_startsWith (hBegin first List.mem_cons_self))

theorem pairwise_entriesOf {d : Directory} (h : d.entries.Ordered) (kind : NodeKind) :
    (entriesOf kind d).Pairwise (· < ·) :=
  h.pairwise_keys.sublist (List.filter_sublist.map _)

/-- As long as nothing stands behind a blank, it is the command that is completed. -/
theorem ofLine_of_not_mem {line : String} (hLine : line ≠ "") (hBlank : ' ' ∉ line.toList)
    (snapshot : Snapshot) :
    ofLine line snapshot =
      ⟨.command, Text.lowercase line,
        matching (Text.lowercase line) (Builtin.all.map Builtin.name)⟩ := by
  rw [ofLine, if_neg hLine, Text.cut_of_not_mem hBlank]

/-- Behind the first blank the operand is completed, from what the command proposes. -/
theorem ofLine_append {word : String} (hWord : ' ' ∉ word.toList) (operand : String)
    (snapshot : Snapshot) :
    ofLine (word ++ " " ++ operand) snapshot =
      ⟨.operand (Text.lowercase word), operand,
        matching operand (operandsNamed (Text.lowercase word) snapshot)⟩ := by
  have hLine : word ++ " " ++ operand ≠ "" := by simp
  rw [ofLine, if_neg hLine, Text.cut_append hWord]

/-- Everything that completing a line can come to. -/
inductive Completed (snapshot : Snapshot) : String → Completion → Prop where
  | nothing : Completed snapshot "" ⟨.command, "", []⟩
  | command {line : String} (hLine : line ≠ "") (hBlank : ' ' ∉ line.toList) :
      Completed snapshot line
        ⟨.command, Text.lowercase line,
          matching (Text.lowercase line) (Builtin.all.map Builtin.name)⟩
  | operand {word operand : String} (hWord : ' ' ∉ word.toList) :
      Completed snapshot (word ++ " " ++ operand)
        ⟨.operand (Text.lowercase word), operand,
          matching operand (operandsNamed (Text.lowercase word) snapshot)⟩

/-- Every line is completed in one of these three ways. -/
theorem completed_ofLine (line : String) (snapshot : Snapshot) :
    Completed snapshot line (ofLine line snapshot) := by
  by_cases hBlank : ' ' ∈ line.toList
  · obtain ⟨word, operand, rfl, hWord⟩ := Text.exists_word_of_mem hBlank
    rw [ofLine_append hWord]
    exact .operand hWord
  · by_cases hLine : line = ""
    · subst hLine
      exact .nothing
    · rw [ofLine_of_not_mem hLine hBlank]
      exact .command hLine hBlank

/-- An accepted operand stands behind the command and one blank. -/
theorem accept_operand {word : String} (hWord : ' ' ∉ word.toList)
    (command operand fragment candidate : String) (candidates : List String) :
    accept ⟨.operand command, fragment, candidates⟩ (word ++ " " ++ operand) candidate =
      word ++ " " ++ candidate := by
  simp only [accept, Text.cut_append hWord]

theorem operandsNamed_name (builtin : Builtin) (snapshot : Snapshot) :
    operandsNamed builtin.name snapshot = operands builtin snapshot := by
  rw [operandsNamed, Builtin.named_eq_some_iff.mpr (.inl rfl)]

/-- Behind the name of a command and a blank, its operands are completed. -/
theorem ofLine_lineOf (builtin : Builtin) (operand : String) (snapshot : Snapshot) :
    ofLine (Command.lineOf builtin operand) snapshot =
      ⟨.operand builtin.name, operand, matching operand (operands builtin snapshot)⟩ := by
  have hBlank : ' ' ∉ builtin.name.toList := Text.not_mem_of_blankFree builtin.blankFree_name
  rw [Command.lineOf, ofLine_append hBlank, builtin.lowercase_name, operandsNamed_name]

end Completion

namespace Session

/-- What an operand that is offered for a command means on a session: where
the session then stands, what it answers, and the effect. -/
inductive Means (session : Session) :
    Builtin → String → Cursor → List Line → Option Effect → Prop where
  | parent : Means session .cd ".." session.cursor.parent [] none
  | directory {name : String} {d : Directory} {cursor : Cursor} (hName : EntryName name)
      (hEntry : session.store.resolve? (session.cursor.path ++ [name]) = some (.dir d))
      (hPath : cursor.path = session.cursor.path ++ [name]) :
      Means session .cd name cursor [] none
  | content {name : String} {f : File} (hName : EntryName name)
      (hEntry : session.store.resolve? (session.cursor.path ++ [name]) = some (.file f)) :
      Means session .cat name session.cursor [Line.output f.content] none
  | model {builtin : Builtin} {app : App} {flag : String} {model : Model}
      (hApp : builtin.app = some app) (hFlag : builtin.modelFlag = some (flag, model)) :
      Means session builtin flag session.cursor [] (some (.launch app (some model)))

variable {session : Session} {builtin : Builtin} {operand : String}

/-- An empty operand means nothing, so that none is offered. -/
theorem Means.ne_empty {cursor : Cursor} {answers : List Line} {effect : Option Effect}
    (h : session.Means builtin operand cursor answers effect) : operand ≠ "" := by
  cases h with
  | parent => decide
  | directory hName | content hName => exact hName.1
  | model _ hFlag => exact (Builtin.ne_empty_and_ne_slash_of_modelFlag hFlag).1

/-- A slash is the name of no entry and no flag, so that none is offered. -/
theorem Means.ne_slash {cursor : Cursor} {answers : List Line} {effect : Option Effect}
    (h : session.Means builtin operand cursor answers effect) : operand ≠ "/" := by
  cases h with
  | parent => decide
  | directory hName | content hName =>
      rintro rfl
      exact hName.2.2.2 (by decide)
  | model _ hFlag => exact (Builtin.ne_empty_and_ne_slash_of_modelFlag hFlag).2

/-- An entry that is offered is there under its name. -/
theorem exists_entry_of_mem_entriesOf (h : session.Orderly) {kind : NodeKind} {name : String}
    (hMem : name ∈ Completion.entriesOf kind session.directory) :
    EntryName name ∧ ∃ node, node.kind = kind ∧ session.directory.child? name = some node ∧
      session.store.resolve? (session.cursor.path ++ [name]) = some node := by
  obtain ⟨node, hEntry, hKind⟩ := Completion.mem_entriesOf_iff.mp hMem
  have hDirectory := h.consistent.directory
  have hName : EntryName name := (h.consistent.named _ _ hDirectory _ _ hEntry).2
  have hResolve := Store.resolve?_entry h.ordered hDirectory hEntry
  have hChild := hResolve
  rw [Store.resolve?_child hDirectory] at hChild
  exact ⟨hName, node, hKind, hChild, hResolve⟩

/-- A command goes through with every operand that is offered for it. -/
theorem exists_run_of_mem_operands (h : session.Orderly)
    (hMem : operand ∈ Completion.operands builtin session.snapshot) :
    ∃ after outcome, builtin.run [operand] session = .ok (after, outcome) ∧
      after.store = session.store ∧
      session.Means builtin operand after.cursor outcome.answers outcome.effect := by
  cases builtin with
  | cd =>
      rw [Builtin.run_cd, changeDirectory, List.head?_cons, Option.getD_some]
      rcases List.mem_cons.mp hMem with rfl | hEntries
      · exact ⟨_, _, rfl, rfl, .parent⟩
      · obtain ⟨hName, node, hKind, hChild, hEntry⟩ :=
          exists_entry_of_mem_entriesOf h hEntries
        cases node with
        | file f => cases hKind
        | dir d =>
            rw [Cursor.move_child hName hChild]
            exact ⟨_, _, rfl, rfl, .directory hName hEntry rfl⟩
  | cat =>
      obtain ⟨hName, node, hKind, hChild, hEntry⟩ := exists_entry_of_mem_entriesOf h hMem
      cases node with
      | dir d => cases hKind
      | file f =>
          rw [Builtin.run_cat_cons, hChild]
          exact ⟨_, _, rfl, rfl, .content hName hEntry⟩
  | _ =>
      dsimp only [Completion.operands] at hMem
      obtain ⟨model, hFlag⟩ := Builtin.mem_flags_iff.mp hMem
      obtain ⟨app, hApp⟩ := Builtin.exists_app_of_modelFlag hFlag
      rw [Builtin.run_of_app hApp, Builtin.requestedModel_flag hFlag]
      exact ⟨_, _, rfl, rfl, .model hApp hFlag⟩

end Session

namespace Completion

/-- What a line is worth in which a candidate for a segment of some input was
taken over. -/
inductive Accepted (session : Session) (input candidate line : String) : Segment → Prop where
  | command {builtin : Builtin} {raw : String} (hName : builtin.name = candidate)
      (hParse : Command.parse line = some ⟨.builtin builtin, raw, []⟩) :
      Accepted session input candidate line .command
  /-- The command is that of the input, and what was offered is its only
  operand unless the words of a line part it. -/
  | operand {builtin : Builtin} {name : String} (hNamed : Builtin.named name = some builtin)
      (hInput : Command.builtinOf input = some builtin)
      (hParse : (∃ raw, Command.parse line = some ⟨.builtin builtin, raw, [candidate]⟩) ↔
        Text.BlankFree candidate)
      (hRun : Text.BlankFree candidate →
        ¬ (session.execute line).2.Fails ∧ (session.execute line).1.store = session.store ∧
          session.Means builtin candidate (session.execute line).1.cursor
            (session.execute line).2.answers (session.execute line).2.effect) :
      Accepted session input candidate line (.operand name)

variable {session : Session} {input candidate : String}

theorem accepted_command (builtin : Builtin) :
    Accepted session input builtin.name builtin.name .command :=
  .command rfl (Command.parse_name builtin)

/-- Accepting an operand gives a line on which the command takes that operand as it was
offered. -/
theorem accepted_operand (h : session.Orderly) {word fragment : String}
    (hMem : candidate ∈ operandsNamed (Text.lowercase word) session.snapshot) :
    Accepted session (word ++ " " ++ fragment) candidate (word ++ " " ++ candidate)
      (.operand (Text.lowercase word)) := by
  obtain ⟨builtin, hNamed, hOffered⟩ := mem_operandsNamed_iff.mp hMem
  obtain ⟨after, outcome, hRun, hStore, hMeans⟩ :=
    Session.exists_run_of_mem_operands h hOffered
  have hParse := Command.parse_named_append hNamed candidate
  have hWords : Text.wordTexts candidate = [candidate] ↔ Text.BlankFree candidate := by
    rw [Text.wordTexts_eq_singleton_iff]
    exact and_iff_right hMeans.ne_empty
  refine .operand hNamed ?_ ?_ fun hBlank => ?_
  · rw [Command.builtinOf, Command.parse_named_append hNamed]
    rfl
  · rw [← hWords, hParse]
    simp
  · rw [hWords.mpr hBlank] at hParse
    obtain ⟨hNoError, hSame, hCursor, hAnswers, hEffect⟩ :=
      Session.execute_of_builtin_run_ok hParse rfl hRun
    rw [hSame, hCursor, hAnswers, hEffect]
    exact ⟨hNoError, hStore, hMeans⟩

/-- Both kinds of candidates are taken as they were offered, by any session in order. -/
theorem accepted_of_orderly (h : session.Orderly)
    (hMem : candidate ∈ (ofLine input session.snapshot).candidates) :
    Accepted session input candidate ((ofLine input session.snapshot).accept input candidate)
      (ofLine input session.snapshot).segment := by
  have hCompleted := completed_ofLine input session.snapshot
  generalize ofLine input session.snapshot = completion at hMem hCompleted ⊢
  cases hCompleted with
  | nothing => cases hMem
  | command hLine hBlank =>
      dsimp only at hMem
      obtain ⟨builtin, rfl⟩ := exists_builtin_of_mem_matching hMem
      exact accepted_command builtin
  | operand hWord =>
      rw [accept_operand hWord]
      exact accepted_operand h (mem_of_mem_matching hMem)

variable {seed : OrderedSeed} {user : String} {limit : Option Nat}

/-- On whatever session a run leads to from a seed whose entries are in order,
as they are in all that documents hold, every candidate that is offered for a
line keeps its promise. -/
theorem accepted_of_mem_candidates (hStart : Session.start seed.toSeed user limit = .ok session)
    (actions : List Session.Action)
    (hMem : candidate ∈ (ofLine input (session.performAll actions).snapshot).candidates) :
    Accepted (session.performAll actions) input candidate
      ((ofLine input (session.performAll actions).snapshot).accept input candidate)
      (ofLine input (session.performAll actions).snapshot).segment :=
  accepted_of_orderly (Session.orderly_performAll hStart actions) hMem

/-- Of two files in a directory, only the one without a blank in its name is
shown when it is accepted. -/
theorem accepted_of_mem_candidates_small :
    let docs : Directory :=
      ⟨"docs", .file "a note" ⟨"a note", "", false⟩ (.file "a.txt" ⟨"a.txt", "text", true⟩ .nil)⟩
    let seed : OrderedSeed :=
      ⟨⟨⟨rootName, Entries.nil.insert "docs" (.dir docs)⟩, []⟩, by decide⟩
    let session : Session := { store := ⟨seed.tree⟩, user := "guest" }
    let reached := session.performAll [.execute "cd docs"]
    Session.start seed.toSeed "guest" none = .ok session ∧
      (ofLine "CAT a" reached.snapshot).candidates = ["a note", "a.txt"] ∧
      Accepted reached "CAT a" "a note" "CAT a note" (.operand "cat") ∧
      Accepted reached "CAT a" "a.txt" "CAT a.txt" (.operand "cat") := by
  intro docs seed session reached
  have hStart : Session.start seed.toSeed "guest" none = .ok session := rfl
  have hCandidates : (ofLine "CAT a" reached.snapshot).candidates = ["a note", "a.txt"] := by
    decide
  have hSegment : (ofLine "CAT a" reached.snapshot).segment = .operand "cat" := by decide
  have hNote : "a note" ∈ (ofLine "CAT a" reached.snapshot).candidates := by
    rw [hCandidates]
    decide
  have hText : "a.txt" ∈ (ofLine "CAT a" reached.snapshot).candidates := by
    rw [hCandidates]
    decide
  rw [← hSegment]
  refine ⟨hStart, hCandidates, ?_, ?_⟩
  · exact accepted_of_mem_candidates hStart [.execute "cd docs"] hNote
  · exact accepted_of_mem_candidates hStart [.execute "cd docs"] hText

end Completion

end VirtualShell
