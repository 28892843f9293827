import VirtualShell.Completion.Editor
import VirtualShell.Proofs.Completion.Offer
import VirtualShell.Proofs.Text.Lowercase
import Mathlib.Data.Bool.AllAny
/-!
Taking over what is offered. There are three ways to it: the preview that stands
behind the line, the hint of the editor and the tab key. They lead to the same
line, except that the preview leaves the letter case of a command as it was
typed. And what was taken over stays: it is then the first that is offered, and
nothing is left to preview.
-/

namespace VirtualShell

/-- The way up begins with the name of no entry. -/
theorem not_startsWith_dots {name : String} (hName : EntryName name) :
    ¬ Text.startsWith ".." name = true := by
  intro hBegin
  have hPrefix : name.toList <+: ['.', '.'] := List.isPrefixOf_iff_prefix.mp hBegin
  have hCases : name.toList = [] ∨ name.toList = ['.'] ∨ name.toList = ['.', '.'] := by
    simpa [List.prefix_cons_iff, and_or_left, exists_or] using hPrefix
  obtain ⟨hEmpty, hDot, hDots, _⟩ := hName
  rcases hCases with hChars | hChars | hChars
  · exact hEmpty (String.toList_inj.mp hChars)
  · exact hDot (String.toList_inj.mp hChars)
  · exact hDots (String.toList_inj.mp hChars)

namespace Builtin

variable {builtin : Builtin} {typed rest : String}

/-- Names are plain letters in lower case. -/
theorem plain_name (builtin : Builtin) :
    ∀ c ∈ builtin.name.toList, c.toNat < 0x80 ∧ c.toLower = c := by
  rw [← List.all_iff_forall_prop]
  cases builtin <;> decide

/-- What begins a name in some letter case holds no sigma. -/
theorem sigma_not_mem_of_name (h : builtin.name = Text.lowercase typed ++ rest) :
    'Σ' ∉ typed.toList := by
  have hPlain : ∀ c ∈ (Text.lowercase typed).toList, c.toNat < 0x80 := by
    intro c hc
    refine (builtin.plain_name c ?_).1
    rw [h, String.toList_append]
    exact List.mem_append_left _ hc
  refine Text.sigma_not_mem_of_lowercase (fun hSigma => ?_) fun hFinal => ?_
  · exact absurd (hPlain _ hSigma) (by decide)
  · exact absurd (hPlain _ hFinal) (by decide)

/-- A beginning of a name in any letter case and the rest of the name are the
name in some letter case. -/
theorem lowercase_append (h : builtin.name = Text.lowercase typed ++ rest) :
    Text.lowercase (typed ++ rest) = builtin.name := by
  have hPlain : ∀ c ∈ rest.toList, c.toNat < 0x80 ∧ c.toLower = c := by
    intro c hc
    apply builtin.plain_name
    rw [h, String.toList_append]
    exact List.mem_append_right _ hc
  have hSigma : 'Σ' ∉ rest.toList := fun hMem => absurd (hPlain _ hMem).1 (by decide)
  have hRest : Text.lowercase rest = rest := by
    apply Text.lowercase_eq_self hSigma
    intro c hc
    rw [Text.lowerAlone_of_ascii (hPlain c hc).1, (hPlain c hc).2]
  rw [Text.lowercase_append (sigma_not_mem_of_name h) hSigma, hRest, h]

end Builtin

namespace Completion

variable {session : Session} {snapshot : Snapshot} {completion : Completion}
  {builtin : Builtin} {line command operand candidate best : String}

/-! Previews -/

/-- The preview goes on from the fragment to the first candidate. -/
theorem append_ghost_of_startsWith (hFirst : completion.candidates.head? = some best)
    (hBegin : Text.startsWith best completion.fragment = true) :
    completion.fragment ++ completion.ghost = best := by
  obtain ⟨rest, rfl⟩ := Text.startsWith_iff.mp hBegin
  obtain ⟨others, hCandidates⟩ := List.head?_eq_some_iff.mp hFirst
  rw [ghost, hCandidates, ← String.toList_inj]
  simp [← String.length_toList]

/-- Nothing is previewed behind a fragment that is itself offered first. -/
theorem ghost_of_first_eq (hFirst : completion.candidates.head? = some completion.fragment) :
    completion.ghost = "" := by
  have hSame := append_ghost_of_startsWith hFirst (Text.startsWith_self _)
  rw [← String.toList_inj, String.toList_append, List.append_right_eq_self] at hSame
  exact String.toList_eq_nil_iff.mp hSame

theorem ghost_of_nil (h : completion.candidates = []) : completion.ghost = "" := by
  rw [ghost, h]

theorem Completed.startsWith_of_mem (h : Completed snapshot line completion)
    (hMem : candidate ∈ completion.candidates) :
    Text.startsWith candidate completion.fragment = true := by
  cases h with
  | nothing => cases hMem
  | command | operand =>
      dsimp only at hMem ⊢
      exact (mem_matching_iff.mp hMem).2

/-- The preview is what is missing from the first candidate. -/
theorem Completed.append_ghost (h : Completed snapshot line completion)
    (hFirst : completion.candidates.head? = some best) :
    completion.fragment ++ completion.ghost = best :=
  append_ghost_of_startsWith hFirst (h.startsWith_of_mem (List.mem_of_mem_head? hFirst))

/-! Behind a command the preview and the tab key give the same line. -/

/-- On an operand the preview and the first candidate lead to the same line. -/
theorem Completed.acceptGhost_eq_accept (h : Completed snapshot line completion)
    (hSegment : completion.segment = .operand command)
    (hFirst : completion.candidates.head? = some best) :
    completion.acceptGhost line = completion.accept line best := by
  have hBest := h.append_ghost hFirst
  cases h with
  | nothing | command => cases hSegment
  | operand hWord => rw [accept_operand hWord, acceptGhost, String.append_assoc, hBest]

/-- Nothing that was typed is lost. -/
theorem Completed.startsWith_accept (h : Completed snapshot line completion)
    (hSegment : completion.segment = .operand command) (hMem : candidate ∈ completion.candidates) :
    Text.startsWith (completion.accept line candidate) line = true := by
  have hBegin := h.startsWith_of_mem hMem
  cases h with
  | nothing | command => cases hSegment
  | operand hWord =>
      obtain ⟨rest, rfl⟩ := Text.startsWith_iff.mp hBegin
      rw [accept_operand hWord, ← String.append_assoc]
      exact Text.startsWith_iff.mpr ⟨rest, rfl⟩

/-! For a command they differ in letter case alone. -/

/-- On a command the preview completes the name of a builtin, whatever the letter case
of what was typed. -/
theorem Completed.exists_name (h : Completed snapshot line completion)
    (hSegment : completion.segment = .command)
    (hFirst : completion.candidates.head? = some best) :
    ∃ builtin : Builtin, best = builtin.name ∧
      builtin.name = Text.lowercase line ++ completion.ghost := by
  have hBest := h.append_ghost hFirst
  cases h with
  | nothing => cases hFirst
  | operand => cases hSegment
  | command hLine hBlank =>
      dsimp only at hFirst
      obtain ⟨builtin, rfl⟩ := exists_builtin_of_mem_matching (List.mem_of_mem_head? hFirst)
      exact ⟨builtin, rfl, hBest.symm⟩

/-! What was taken over is the first that is offered. -/

/-- Of the operands that begin with an offered one, that one comes first. -/
theorem head?_matching_operands (h : session.Orderly)
    (hMem : operand ∈ operands builtin session.snapshot) :
    (matching operand (operands builtin session.snapshot)).head? = some operand := by
  have hDirectory := h.ordered_directory
  by_cases hCd : builtin = .cd
  · subst hCd
    rw [operands, matching_cons]
    rcases List.mem_cons.mp hMem with rfl | hEntry
    · rw [if_pos (Text.startsWith_self _), List.head?_cons]
    · have hName := (Session.exists_entry_of_mem_entriesOf h hEntry).1
      rw [if_neg (not_startsWith_dots hName)]
      exact head?_matching (pairwise_entriesOf hDirectory .dir) hEntry
  by_cases hCat : builtin = .cat
  · subst hCat
    exact head?_matching (pairwise_entriesOf hDirectory .file) hMem
  · rw [operands_eq_flags hCd hCat] at hMem ⊢
    exact head?_matching (pairwise_flags builtin) hMem

/-- No name of a command begins with another one. -/
theorem matching_name (builtin : Builtin) :
    matching builtin.name (Builtin.all.map Builtin.name) = [builtin.name] := by
  cases builtin <;> decide

/-- How a completion stands to a line in which a candidate was taken over. -/
structure Settled (completion : Completion) (line candidate : String) : Prop where
  first : completion.candidates.head? = some candidate
  ghost : completion.ghost = ""
  accept : completion.accept line candidate = line
  acceptGhost : completion.acceptGhost line = line

theorem settled_of_first (hFirst : completion.candidates.head? = some completion.fragment)
    (hAccept : completion.accept line completion.fragment = line) :
    Settled completion line completion.fragment := by
  have hGhost := ghost_of_first_eq hFirst
  refine ⟨hFirst, hGhost, hAccept, ?_⟩
  rw [acceptGhost, hGhost, String.append_empty]

/-- The name of a builtin is settled as a command. -/
theorem settled_name (builtin : Builtin) (snapshot : Snapshot) :
    (ofLine builtin.name snapshot).segment = .command ∧
      Settled (ofLine builtin.name snapshot) builtin.name builtin.name := by
  have hBlank := Text.not_mem_of_blankFree builtin.blankFree_name
  rw [ofLine_of_not_mem builtin.name_ne_empty hBlank, builtin.lowercase_name, matching_name]
  exact ⟨rfl, settled_of_first rfl rfl⟩

/-- An offered operand is settled behind its command. -/
theorem settled_operand (h : session.Orderly) {word : String} (hWord : ' ' ∉ word.toList)
    (hMem : candidate ∈ operandsNamed (Text.lowercase word) session.snapshot) :
    (ofLine (word ++ " " ++ candidate) session.snapshot).segment =
        .operand (Text.lowercase word) ∧
      Settled (ofLine (word ++ " " ++ candidate) session.snapshot)
        (word ++ " " ++ candidate) candidate := by
  obtain ⟨builtin, hNamed, hOffered⟩ := mem_operandsNamed_iff.mp hMem
  rw [ofLine_append hWord, operandsNamed, hNamed]
  refine ⟨rfl, settled_of_first ?_ (accept_operand hWord _ _ _ _ _)⟩
  exact head?_matching_operands h hOffered

/-- Whatever a session in order offers is settled once it was accepted. -/
theorem settled_of_orderly (h : session.Orderly)
    (hMem : candidate ∈ (ofLine line session.snapshot).candidates) :
    let accepted := (ofLine line session.snapshot).accept line candidate
    (ofLine accepted session.snapshot).segment = (ofLine line session.snapshot).segment ∧
      Settled (ofLine accepted session.snapshot) accepted candidate := by
  have hCompleted := completed_ofLine line session.snapshot
  generalize ofLine line session.snapshot = completion at hMem hCompleted ⊢
  cases hCompleted with
  | nothing => cases hMem
  | command hLine hBlank =>
      dsimp only at hMem
      obtain ⟨builtin, rfl⟩ := exists_builtin_of_mem_matching hMem
      exact settled_name builtin session.snapshot
  | operand hWord =>
      rw [accept_operand hWord]
      exact settled_operand h hWord (mem_of_mem_matching hMem)

variable {seed : OrderedSeed} {user : String} {limit : Option Nat}

/-- On whatever session a run leads to from a seed whose entries are in order,
every candidate that is taken over stays in the line: completion then offers it
first, in the same segment, has nothing to preview, and gives the same line when
it is taken over again. -/
theorem settled_of_mem_candidates (hStart : Session.start seed.toSeed user limit = .ok session)
    (actions : List Session.Action)
    (hMem : candidate ∈ (ofLine line (session.performAll actions).snapshot).candidates) :
    let snapshot := (session.performAll actions).snapshot
    let accepted := (ofLine line snapshot).accept line candidate
    (ofLine accepted snapshot).segment = (ofLine line snapshot).segment ∧
      Settled (ofLine accepted snapshot) accepted candidate :=
  settled_of_orderly (Session.orderly_performAll hStart actions) hMem

/-- A name with blanks stays although another one goes on from it, and so does
the way up. -/
theorem settled_of_mem_candidates_small :
    let seed : OrderedSeed :=
      ⟨⟨⟨rootName, .dir "..a" "..a" .nil (.file "a  b" ⟨"a  b", "", false⟩
        (.file "a  b c" ⟨"a  b c", "", false⟩ .nil))⟩, []⟩, by decide⟩
    let session : Session := { store := ⟨seed.tree⟩, user := "guest" }
    let reached := session.performAll [.execute "touch a"]
    Session.start seed.toSeed "guest" none = .ok session ∧
      (ofLine "CAT a " reached.snapshot).candidates = ["a  b", "a  b c"] ∧
      (ofLine "CAT a  b" reached.snapshot).segment = .operand "cat" ∧
      Settled (ofLine "CAT a  b" reached.snapshot) "CAT a  b" "a  b" ∧
      Settled (ofLine "cd .." reached.snapshot) "cd .." ".." := by
  intro seed session reached
  have hStart : Session.start seed.toSeed "guest" none = .ok session := rfl
  have hCandidates : (ofLine "CAT a " reached.snapshot).candidates = ["a  b", "a  b c"] := by
    decide
  have hName : "a  b" ∈ (ofLine "CAT a " reached.snapshot).candidates := by
    rw [hCandidates]
    decide
  have hDots : ".." ∈ (ofLine "cd " reached.snapshot).candidates := by decide
  have hRead := settled_of_mem_candidates hStart [.execute "touch a"] hName
  have hMove := settled_of_mem_candidates hStart [.execute "touch a"] hDots
  exact ⟨hStart, hCandidates, hRead.1, hRead.2, hMove.2⟩

/-! The editor -/

/-- With the cursor at the end of the line, the tab key replaces the whole line by what
accepting a candidate gives. -/
theorem tab_end (line : String) (snapshot : Snapshot) :
    tab line line.utf8ByteSize snapshot =
      ⟨0, (ofLine line snapshot).candidates.map fun candidate =>
        (candidate, (ofLine line snapshot).accept line candidate)⟩ := by
  rw [tab, Text.takeBytes_utf8ByteSize]

/-- With the cursor at the end of the line, the hint is the preview. -/
theorem hint_end (line : String) (snapshot : Snapshot) :
    hint line line.utf8ByteSize snapshot = (ofLine line snapshot).preview := by
  rw [hint, if_neg (lt_irrefl _)]

theorem preview_eq_some_iff {text : String} :
    completion.preview = some text ↔ completion.ghost = text ∧ text ≠ "" := by
  rw [preview]
  by_cases hGhost : completion.ghost = ""
  · rw [if_pos hGhost, hGhost]
    exact iff_of_false nofun fun hText => hText.2 hText.1.symm
  · rw [if_neg hGhost, Option.some_inj]
    exact ⟨fun hText => ⟨hText, hText ▸ hGhost⟩, And.left⟩

/-- How the candidates for a line, their preview, the offers of the tab key and
the hint behind the line agree with each other. -/
structure Agrees (line : String) (completion : Completion) (offer : TabOffer)
    (hint : Option String) : Prop where
  begins : ∀ candidate ∈ completion.candidates,
    Text.startsWith candidate completion.fragment = true
  /-- The tab key offers every candidate, in place of the whole line. -/
  offered : offer.start = 0 ∧ offer.choices.map Prod.fst = completion.candidates
  /-- The preview goes on from the fragment to the first candidate. -/
  preview : ∀ best, completion.candidates.head? = some best →
    completion.fragment ++ completion.ghost = best
  noPreview : completion.candidates = [] → completion.ghost = ""
  /-- An operand may be taken over in either way, -/
  operand : ∀ command best, completion.segment = .operand command →
    completion.candidates.head? = some best →
      completion.acceptGhost line = completion.accept line best
  /-- and nothing that was typed is lost. -/
  kept : ∀ command, completion.segment = .operand command →
    ∀ choice ∈ offer.choices, Text.startsWith choice.2 line = true
  /-- A command is the same in either way but for its letter case. -/
  command : ∀ best, completion.segment = .command → completion.candidates.head? = some best →
    Text.lowercase (completion.acceptGhost line) = best ∧
      ∃ builtin raw raw',
        Command.parse (completion.acceptGhost line) = some ⟨.builtin builtin, raw, []⟩ ∧
        Command.parse (completion.accept line best) = some ⟨.builtin builtin, raw', []⟩
  hinted : hint.isSome = true ↔ completion.ghost ≠ ""
  /-- The line and the hint behind it are the first line that the tab key
  offers, again but for the letter case of a command. -/
  hint : ∀ text, hint = some text → ∃ choice, offer.choices.head? = some choice ∧
    (∀ command, completion.segment = .operand command → line ++ text = choice.2) ∧
    (completion.segment = .command →
      Text.lowercase line ++ text = choice.2 ∧ Text.lowercase (line ++ text) = choice.2)

/-- The fragment, the preview, both ways to accept and the tab key agree, on any line
that was completed. -/
theorem Completed.agrees (h : Completed snapshot line completion) :
    Agrees line completion
      ⟨0, completion.candidates.map fun candidate => (candidate, completion.accept line candidate)⟩
      completion.preview where
  begins _ hMem := h.startsWith_of_mem hMem
  offered := ⟨rfl, by rw [List.map_map]; exact List.map_id _⟩
  preview _ hFirst := h.append_ghost hFirst
  noPreview := ghost_of_nil
  operand _ _ hSegment hFirst := h.acceptGhost_eq_accept hSegment hFirst
  kept command hSegment choice hChoice := by
    obtain ⟨candidate, hMem, rfl⟩ := List.mem_map.mp hChoice
    exact h.startsWith_accept hSegment hMem
  command best hSegment hFirst := by
    obtain ⟨builtin, rfl, hName⟩ := h.exists_name hSegment hFirst
    have hLower : Text.lowercase (completion.acceptGhost line) = builtin.name :=
      Builtin.lowercase_append hName
    have hNamed : Builtin.named (Text.lowercase (completion.acceptGhost line)) = some builtin := by
      rw [hLower, Builtin.named_eq_some_iff]
      exact .inl rfl
    have hAccept : completion.accept line builtin.name = builtin.name := by rw [accept, hSegment]
    rw [hAccept]
    exact ⟨hLower, builtin, _, _, Command.parse_named hNamed, Command.parse_name builtin⟩
  hinted := by
    rw [Option.isSome_iff_exists]
    simp [preview_eq_some_iff]
  hint text hText := by
    obtain ⟨rfl, hGhost⟩ := preview_eq_some_iff.mp hText
    cases hCandidates : completion.candidates with
    | nil => exact absurd (ghost_of_nil hCandidates) hGhost
    | cons best others =>
        have hFirst : completion.candidates.head? = some best := by rw [hCandidates]; rfl
        refine ⟨(best, completion.accept line best), rfl, ?_, ?_⟩
        · intro command hSegment
          exact h.acceptGhost_eq_accept hSegment hFirst
        · intro hSegment
          obtain ⟨builtin, rfl, hName⟩ := h.exists_name hSegment hFirst
          rw [accept, hSegment]
          exact ⟨hName.symm, Builtin.lowercase_append hName⟩

/-- Whatever line is completed against whatever snapshot, all that the editor
shows at its end and all that may be taken over there agree. -/
theorem agrees_ofLine (line : String) (snapshot : Snapshot) :
    Agrees line (ofLine line snapshot) (tab line line.utf8ByteSize snapshot)
      (hint line line.utf8ByteSize snapshot) := by
  rw [tab_end, hint_end]
  exact (completed_ofLine line snapshot).agrees

end Completion

end VirtualShell
