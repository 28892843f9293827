import VirtualShell.Command
import VirtualShell.Proofs.Text.Blank
/-!
From a line to its command. A line without a word is blank and nothing else; on
any other line the first word, in lower case, decides.
-/

namespace VirtualShell

namespace Builtin

/-- Commands are found by their names, and importing by its second name too. -/
theorem named_eq_some_iff {word : String} {builtin : Builtin} :
    named word = some builtin ↔
      word = builtin.name ∨ (word = importAlias ∧ builtin = importFile) := by
  by_cases hAlias : word = importAlias
  · have hNames : importAlias ≠ builtin.name := by cases builtin <;> decide
    simp [named, hAlias, hNames, eq_comm]
  · rw [named, if_neg hAlias]
    constructor
    · intro hFind
      have hName := List.find?_some hFind
      exact .inl (of_decide_eq_true hName).symm
    · rintro (rfl | ⟨hWord, _⟩)
      · cases builtin <;> rfl
      · exact absurd hWord hAlias

theorem name_ne_empty (builtin : Builtin) : builtin.name ≠ "" := by
  cases builtin <;> decide

theorem blankFree_name (builtin : Builtin) : Text.BlankFree builtin.name := by
  cases builtin <;> decide

theorem lowercase_name (builtin : Builtin) : Text.lowercase builtin.name = builtin.name := by
  cases builtin <;> decide

/-- Every command is called by its name. -/
theorem named_lowercase_name (builtin : Builtin) :
    named (Text.lowercase builtin.name) = some builtin := by
  rw [builtin.lowercase_name, named_eq_some_iff]
  exact .inl rfl

/-- What names a command in some letter case is a single word. -/
theorem ne_empty_and_blankFree_of_named {word : String} {builtin : Builtin}
    (h : named (Text.lowercase word) = some builtin) : word ≠ "" ∧ Text.BlankFree word := by
  have hLower : Text.lowercase word ≠ "" ∧ Text.BlankFree (Text.lowercase word) := by
    rcases named_eq_some_iff.mp h with hName | ⟨hAlias, _⟩
    · rw [hName]
      exact ⟨name_ne_empty builtin, blankFree_name builtin⟩
    · rw [hAlias]
      decide
  constructor
  · rintro rfl
    exact hLower.1 rfl
  · exact Text.blankFree_of_lowercase hLower.2

end Builtin

namespace Command

/-- The words of a line, as its command is made of them. -/
def wordsOf (line : String) : List String :=
  (Text.words (Text.trim line)).map Word.text

/-- A line whose first word is a name, in whatever letter case, and that has
the operands behind it. -/
def Calls (line name : String) (args : List String) : Prop :=
  ∃ word, wordsOf line = word :: args ∧ Text.lowercase word = name

theorem wordsOf_eq (line : String) : wordsOf line = Text.wordTexts line :=
  Text.wordTexts_trim line

/-- White space at the ends of a line makes no difference. -/
theorem parse_trim (line : String) : parse (Text.trim line) = parse line := by
  rw [parse, parse, Text.trim_trim]

/-- Only a line of blanks holds no command. -/
theorem parse_eq_none_iff {line : String} : parse line = none ↔ Text.allBlank line = true := by
  rw [← Text.allBlank_trim, ← Text.words_eq_nil_iff, parse]
  cases Text.words (Text.trim line) <;> simp

/-- The first word of a line says which command it is and the other words are its
operands. The text that is kept is the trimmed line. -/
theorem parse_eq_some_iff {line : String} {command : Command} :
    parse line = some command ↔
      ∃ word args, wordsOf line = word :: args ∧ command = ⟨kindOf word, Text.trim line, args⟩ := by
  rw [parse, wordsOf]
  cases (Text.words (Text.trim line)).map Word.text with
  | nil => simp
  | cons word args =>
      constructor
      · intro h
        exact ⟨word, args, rfl, (Option.some.inj h).symm⟩
      · rintro ⟨_, _, hWords, rfl⟩
        cases hWords
        rfl

theorem raw_of_parse {line : String} {command : Command} (h : parse line = some command) :
    command.raw = Text.trim line := by
  obtain ⟨word, args, _, rfl⟩ := parse_eq_some_iff.mp h
  rfl

/-- Which builtin a word calls depends on the word in lower case alone. -/
theorem kindOf_eq_builtin_iff {word : String} {builtin : Builtin} :
    kindOf word = .builtin builtin ↔ Builtin.named (Text.lowercase word) = some builtin := by
  rw [kindOf]
  cases Builtin.named (Text.lowercase word) <;> simp

/-- A word that calls no builtin is an unknown command, kept in lower case. -/
theorem kindOf_of_named_none {word : String} (h : Builtin.named (Text.lowercase word) = none) :
    kindOf word = .unknown (Text.lowercase word) := by
  rw [kindOf, h]

/-- A line whose first word calls a builtin is a call of it with the other words. -/
theorem parse_of_wordTexts {line word : String} {args : List String} {builtin : Builtin}
    (hWords : Text.wordTexts line = word :: args)
    (hNamed : Builtin.named (Text.lowercase word) = some builtin) :
    parse line = some ⟨.builtin builtin, Text.trim line, args⟩ := by
  rw [← wordsOf_eq] at hWords
  rw [← kindOf_eq_builtin_iff.mpr hNamed]
  exact parse_eq_some_iff.mpr ⟨word, args, hWords, rfl⟩

/-- A word that names a command is a line that calls it. -/
theorem parse_named {word : String} {builtin : Builtin}
    (hNamed : Builtin.named (Text.lowercase word) = some builtin) :
    parse word = some ⟨.builtin builtin, Text.trim word, []⟩ := by
  have hWords : Text.wordTexts word = [word] :=
    Text.wordTexts_eq_singleton_iff.mpr (Builtin.ne_empty_and_blankFree_of_named hNamed)
  exact parse_of_wordTexts hWords hNamed

theorem parse_name (builtin : Builtin) :
    parse builtin.name = some ⟨.builtin builtin, Text.trim builtin.name, []⟩ :=
  parse_named builtin.named_lowercase_name

/-- Behind a word that names a command and a blank, all words are operands. -/
theorem parse_named_append {word : String} {builtin : Builtin}
    (hNamed : Builtin.named (Text.lowercase word) = some builtin) (rest : String) :
    parse (word ++ " " ++ rest) =
      some ⟨.builtin builtin, Text.trim (word ++ " " ++ rest), Text.wordTexts rest⟩ := by
  obtain ⟨hWord, hBlank⟩ := Builtin.ne_empty_and_blankFree_of_named hNamed
  exact parse_of_wordTexts (Text.wordTexts_append hWord hBlank rest) hNamed

/-- The line that calls a command by its name with one operand. -/
def lineOf (builtin : Builtin) (operand : String) : String :=
  builtin.name ++ " " ++ operand

/-- A name and one operand without blanks are read as that call of the builtin. -/
theorem parse_lineOf (builtin : Builtin) {operand : String} (hOperand : operand ≠ "")
    (hBlank : Text.BlankFree operand) :
    parse (lineOf builtin operand) =
      some ⟨.builtin builtin, Text.trim (lineOf builtin operand), [operand]⟩ := by
  rw [lineOf, parse_named_append builtin.named_lowercase_name,
    Text.wordTexts_eq_singleton_iff.mpr ⟨hOperand, hBlank⟩]

theorem builtin?_eq_some_iff {command : Command} {builtin : Builtin} :
    command.builtin? = some builtin ↔ command.kind = .builtin builtin := by
  rw [builtin?]
  cases command.kind <;> simp

/-- A line calls a command other than importing by its name alone. -/
theorem calls_iff {line : String} {command : Command} (hParse : parse line = some command)
    (builtin : Builtin) (hBuiltin : builtin ≠ .importFile) (args : List String) :
    Calls line builtin.name args ↔ command.kind = .builtin builtin ∧ command.args = args := by
  obtain ⟨first, rest, hWords, rfl⟩ := parse_eq_some_iff.mp hParse
  have hKind : kindOf first = .builtin builtin ↔ Text.lowercase first = builtin.name := by
    rw [kindOf_eq_builtin_iff, Builtin.named_eq_some_iff]
    exact or_iff_left fun hAlias => hBuiltin hAlias.2
  rw [hKind]
  constructor
  · rintro ⟨word, hSame, hName⟩
    rw [hWords, List.cons.injEq] at hSame
    obtain ⟨rfl, rfl⟩ := hSame
    exact ⟨hName, rfl⟩
  · rintro ⟨hName, rfl⟩
    exact ⟨first, hWords, hName⟩

/-- A line that calls one builtin calls no other. The import is left out, for it has two
names. -/
theorem not_calls {line : String} {command : Command} (hParse : parse line = some command)
    {builtin : Builtin} (hKind : command.kind = .builtin builtin) (other : Builtin)
    (hOther : builtin ≠ other) (hImport : other ≠ .importFile) (args : List String) :
    ¬ Calls line other.name args := by
  intro hCalls
  have hSame := ((calls_iff hParse other hImport args).mp hCalls).1
  rw [hKind, CommandKind.builtin.injEq] at hSame
  exact hOther hSame

theorem not_calls_of_blank {line : String} (h : Text.allBlank line = true) (name : String)
    (args : List String) : ¬ Calls line name args := by
  rintro ⟨word, hWords, _⟩
  have hSome := parse_eq_some_iff.mpr ⟨word, args, hWords, rfl⟩
  rw [parse_eq_none_iff.mpr h] at hSome
  cases hSome

theorem not_blank_of_parse {line : String} {command : Command} (h : parse line = some command) :
    ¬ Text.allBlank line = true := by
  rw [← parse_eq_none_iff, h]
  exact Option.some_ne_none command

/-- The command of the table that a line calls. -/
def builtinOf (line : String) : Option Builtin :=
  (parse line).bind builtin?

/-- A line calls a command by its name, and importing by its second name too. -/
theorem builtinOf_eq_some_iff {line : String} {builtin : Builtin} :
    builtinOf line = some builtin ↔
      ∃ args, Calls line builtin.name args ∨
        (builtin = .importFile ∧ Calls line Builtin.importAlias args) := by
  rw [builtinOf, Option.bind_eq_some_iff]
  constructor
  · rintro ⟨command, hParse, hBuiltin⟩
    obtain ⟨word, args, hWords, rfl⟩ := parse_eq_some_iff.mp hParse
    rw [builtin?_eq_some_iff, kindOf_eq_builtin_iff, Builtin.named_eq_some_iff] at hBuiltin
    refine ⟨args, ?_⟩
    rcases hBuiltin with hName | ⟨hName, hImport⟩
    · exact .inl ⟨word, hWords, hName⟩
    · exact .inr ⟨hImport, word, hWords, hName⟩
  · rintro ⟨args, hCalls⟩
    have hNamed : ∃ word, wordsOf line = word :: args ∧
        Builtin.named (Text.lowercase word) = some builtin := by
      rcases hCalls with ⟨word, hWords, hName⟩ | ⟨hImport, word, hWords, hName⟩
      · exact ⟨word, hWords, Builtin.named_eq_some_iff.mpr (.inl hName)⟩
      · exact ⟨word, hWords, Builtin.named_eq_some_iff.mpr (.inr ⟨hName, hImport⟩)⟩
    obtain ⟨word, hWords, hNamed⟩ := hNamed
    refine ⟨_, parse_eq_some_iff.mpr ⟨word, args, hWords, rfl⟩, ?_⟩
    rw [builtin?_eq_some_iff, kindOf_eq_builtin_iff]
    exact hNamed

end Command

end VirtualShell
