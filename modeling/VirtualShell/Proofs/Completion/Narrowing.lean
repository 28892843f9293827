import VirtualShell.Proofs.Completion.Acceptance
/-!
Typing on. A line that goes on within its segment is offered what it was offered
before, less what no longer begins with it. For an operand that is plain, since
its fragment goes on too. The fragment of a command need not: lower case depends
on what follows. But a fragment that begins the name of a command holds no
letter of that kind.
-/

namespace VirtualShell

/-- A name that begins with the lower case of a text begins with that of each
beginning of the text. -/
theorem Builtin.startsWith_of_append {builtin : Builtin} {typed more : String}
    (h : Text.startsWith builtin.name (Text.lowercase (typed ++ more)) = true) :
    Text.startsWith builtin.name (Text.lowercase typed) = true := by
  obtain ⟨rest, hName⟩ := Text.startsWith_iff.mp h
  have hSigma : 'Σ' ∉ typed.toList ∧ 'Σ' ∉ more.toList := by
    simpa [not_or] using sigma_not_mem_of_name hName
  rw [Text.lowercase_append hSigma.1 hSigma.2] at h
  exact Text.startsWith_of_append h

namespace Completion

variable {line typed : String} {snapshot : Snapshot}

/-- How a completion stands to that of the same line with more typed behind. -/
structure Narrowed (typed : String) (before after : Completion) : Prop where
  segment : after.segment = before.segment
  /-- An operand goes on as it is typed. -/
  fragment : ∀ command, before.segment = .operand command →
    after.fragment = before.fragment ++ typed
  candidates : after.candidates =
    before.candidates.filter fun candidate => Text.startsWith candidate after.fragment
  /-- Nothing comes in new, and nothing changes its place. -/
  sublist : after.candidates.Sublist before.candidates

/-- Of the same names, those that begin with one fragment are among those that
begin with another one, if that is the shorter of the two as far as these names
are concerned. -/
theorem narrowed_matching {segment : Segment} {shorter longer : String} {names : List String}
    (hFragment : ∀ command, segment = .operand command → longer = shorter ++ typed)
    (hNames : ∀ name ∈ names, Text.startsWith name longer = true →
      Text.startsWith name shorter = true) :
    Narrowed typed ⟨segment, shorter, matching shorter names⟩
      ⟨segment, longer, matching longer names⟩ := by
  have hMatching : matching longer names = matching longer (matching shorter names) := by
    rw [matching, matching, matching, List.filter_filter]
    apply List.filter_congr
    intro name hName
    have hBoth := hNames name hName
    cases hLonger : Text.startsWith name longer with
    | true => simp [hBoth hLonger]
    | false => rfl
  refine ⟨rfl, hFragment, hMatching, ?_⟩
  dsimp only
  rw [hMatching]
  exact List.filter_sublist

/-- Letters typed behind part of a command only drop candidates. -/
theorem narrowed_command (hLine : line ≠ "") (hBlank : ' ' ∉ line.toList)
    (hTyped : ' ' ∉ typed.toList) :
    Narrowed typed (ofLine line snapshot) (ofLine (line ++ typed) snapshot) := by
  have hLonger : line ++ typed ≠ "" := by simp [hLine]
  have hNoBlank : ' ' ∉ (line ++ typed).toList := by simp [hBlank, hTyped]
  rw [ofLine_of_not_mem hLine hBlank, ofLine_of_not_mem hLonger hNoBlank]
  apply narrowed_matching
  · exact nofun
  · intro name hName hBegin
    obtain ⟨builtin, _, rfl⟩ := List.mem_map.mp hName
    exact Builtin.startsWith_of_append hBegin

/-- Whatever is typed behind the first blank only drops candidates. -/
theorem narrowed_operand (hBlank : ' ' ∈ line.toList) :
    Narrowed typed (ofLine line snapshot) (ofLine (line ++ typed) snapshot) := by
  obtain ⟨word, operand, rfl, hWord⟩ := Text.exists_word_of_mem hBlank
  have hLonger : word ++ " " ++ operand ++ typed = word ++ " " ++ (operand ++ typed) :=
    String.append_assoc
  rw [hLonger, ofLine_append hWord, ofLine_append hWord]
  apply narrowed_matching
  · intro _ _
    rfl
  · intro name _ hBegin
    exact Text.startsWith_of_append hBegin

/-- To type on in the same segment only narrows what is offered. The candidates
are those of before that begin with the new fragment, in the same order, so that
none comes up which was not there already. -/
theorem narrowed_ofLine_append (hLine : line ≠ "")
    (hSegment : ' ' ∈ line.toList ∨ ' ' ∉ typed.toList) (snapshot : Snapshot) :
    Narrowed typed (ofLine line snapshot) (ofLine (line ++ typed) snapshot) := by
  by_cases hBlank : ' ' ∈ line.toList
  · exact narrowed_operand hBlank
  · exact narrowed_command hLine hBlank (hSegment.resolve_left hBlank)

/-- A capital sigma ends a word in one place and not in the other, and names go
on with blanks. -/
theorem narrowed_ofLine_append_small :
    let files : Entries :=
      .file "a" ⟨"a", "", false⟩ (.file "a  b" ⟨"a  b", "", false⟩
        (.file "a c" ⟨"a c", "", false⟩ .nil))
    let snapshot : Snapshot := ⟨⟨⟨rootName, files⟩⟩, Cursor.root⟩
    (("CAT a" ≠ "" ∧ (' ' ∈ "CAT a".toList ∨ ' ' ∉ "  ".toList)) ∧
      ("C" ≠ "" ∧ (' ' ∈ "C".toList ∨ ' ' ∉ "AΣ".toList))) ∧
    (ofLine "CAT a" snapshot).candidates = ["a", "a  b", "a c"] ∧
    (ofLine "CAT a  " snapshot).candidates = ["a  b"] ∧
    Narrowed "  " (ofLine "CAT a" snapshot) (ofLine "CAT a  " snapshot) ∧
    Narrowed "AΣ" (ofLine "C" snapshot) (ofLine "CAΣ" snapshot) := by
  intro files snapshot
  have hBlanks : "CAT a" ≠ "" ∧ (' ' ∈ "CAT a".toList ∨ ' ' ∉ "  ".toList) := by decide
  have hWord : "C" ≠ "" ∧ (' ' ∈ "C".toList ∨ ' ' ∉ "AΣ".toList) := by decide
  refine ⟨⟨hBlanks, hWord⟩, by decide, by decide, ?_, ?_⟩
  · exact narrowed_ofLine_append hBlanks.1 hBlanks.2 snapshot
  · exact narrowed_ofLine_append hWord.1 hWord.2 snapshot

end Completion

end VirtualShell
