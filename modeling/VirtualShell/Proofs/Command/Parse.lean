import VirtualShell.Proofs.Command
import VirtualShell.Proofs.Text.Word
/-!
Reading a line, as a whole. Its words are its maximal runs without white space
and the command is made of them alone, so that any line with the same words is
read as the same command.
-/

namespace VirtualShell

namespace Command

variable {line word : String} {command : Command}

/-- What a first word selects: the command of that name in some letter case, or
none. -/
inductive Selects (word : String) : CommandKind → Prop where
  | name {builtin : Builtin} (hName : Text.lowercase word = builtin.name) :
      Selects word (.builtin builtin)
  | second (hName : Text.lowercase word = Builtin.importAlias) :
      Selects word (.builtin .importFile)
  | unknown (hNames : ∀ builtin : Builtin, Text.lowercase word ≠ builtin.name)
      (hSecond : Text.lowercase word ≠ Builtin.importAlias) :
      Selects word (.unknown (Text.lowercase word))

/-- Every word selects the command that the table of names has for it. -/
theorem selects_kindOf (word : String) : Selects word (kindOf word) := by
  cases hNamed : Builtin.named (Text.lowercase word) with
  | some builtin =>
      rw [kindOf_eq_builtin_iff.mpr hNamed]
      rcases Builtin.named_eq_some_iff.mp hNamed with hName | ⟨hSecond, rfl⟩
      · exact .name hName
      · exact .second hSecond
  | none =>
      rw [kindOf_of_named_none hNamed]
      refine .unknown (fun builtin hName => ?_) fun hSecond => ?_
      · rw [Builtin.named_eq_some_iff.mpr (.inl hName)] at hNamed
        cases hNamed
      · rw [Builtin.named_eq_some_iff.mpr (.inr ⟨hSecond, rfl⟩)] at hNamed
        cases hNamed

/-- Lines with the same words are read as the same command, up to the text that
is echoed. -/
theorem parse_congr {other : String} (h : Text.wordTexts other = Text.wordTexts line) :
    parse other = (parse line).map fun command => { command with raw := Text.trim other } := by
  rw [parse, parse]
  have hWords : wordsOf other = wordsOf line := by rw [wordsOf_eq, wordsOf_eq, h]
  rw [wordsOf, wordsOf] at hWords
  rw [hWords]
  cases (Text.words (Text.trim line)).map Word.text <;> rfl

/-- How a command stands to the line that it was read from. -/
structure Parsed (line : String) (command : Command) : Prop where
  /-- It is echoed without the white space at its ends, and only without that. -/
  raw : ∃ front back, line.toList = front ++ command.raw.toList ++ back ∧
    front.all Text.isBlank = true ∧ back.all Text.isBlank = true
  trimmed : (∀ c ∈ command.raw.toList.head?, Text.isBlank c = false) ∧
    ∀ c ∈ command.raw.toList.getLast?, Text.isBlank c = false
  /-- The first word selects what it is, and the others are its operands as
  they stand. -/
  words : ∃ first rest, Text.words line = first :: rest ∧ command.args = rest.map Word.text ∧
    Selects first.text command.kind
  /-- Its echo is read as the same command. -/
  again : parse command.raw = some command

/-- A parsed command agrees with the words of its line, and the text it keeps is parsed
to the same command. -/
theorem parsed_of_parse (h : parse line = some command) : Parsed line command := by
  obtain ⟨word, args, hWords, rfl⟩ := parse_eq_some_iff.mp h
  rw [wordsOf_eq, Text.wordTexts, List.map_eq_cons_iff] at hWords
  obtain ⟨first, rest, hFound, rfl, rfl⟩ := hWords
  obtain ⟨front, back, hChars, hFront, hBack⟩ := Text.exists_append_trimChars line.toList
  exact {
    raw := ⟨front, back, by rwa [Text.trim, String.toList_ofList], hFront, hBack⟩
    trimmed := by
      rw [Text.trim, String.toList_ofList]
      exact Text.isBlank_ends_trimChars line.toList
    words := ⟨first, rest, hFound, rfl, selects_kindOf first.text⟩
    again := by rw [parse_trim, h] }

/-- The words of a line with single blanks between them are read as the line is,
but for the echo. -/
theorem parse_join_words (line : String) :
    (parse (Text.join " " ((Text.words line).map Word.text))).map
        (fun command => (command.kind, command.args)) =
      (parse line).map fun command => (command.kind, command.args) := by
  have hJoined : Text.wordTexts (Text.join " " (Text.wordTexts line)) = Text.wordTexts line :=
    Text.wordTexts_join fun _ hWord => Text.ne_empty_and_blankFree_of_mem_wordTexts hWord
  rw [← Text.wordTexts, parse_congr hJoined, Option.map_map]
  rfl

/-- The whole of what reading a line means. The words of a line are the one list
of its maximal runs without white space in order; a line is no command if and
only if there is nothing but white space in it; every command is made of the words of
its line; and the white space around them makes no difference to it. -/
theorem parse_spec (line : String) :
    (∀ found, Text.Segmented line found ↔ found = Text.words line) ∧
    (parse line = none ↔ ∀ c ∈ line.toList, Text.isBlank c = true) ∧
    (∀ command, parse line = some command → Parsed line command) ∧
    (parse (Text.join " " ((Text.words line).map Word.text))).map
        (fun command => (command.kind, command.args)) =
      (parse line).map fun command => (command.kind, command.args) := by
  refine ⟨fun _ => Text.segmented_iff, ?_, fun _ => parsed_of_parse, parse_join_words line⟩
  rw [parse_eq_none_iff, Text.allBlank, List.all_eq_true]

end Command

end VirtualShell
