import VirtualShell.Json.Reader
import VirtualShell.Proofs.Json.Token
/-!
Written values are read as they were meant. What a value is written as is
fixed by its tokens: the text gives back the tokens, and the machine that reads
them finishes the value wherever it stands.
-/

namespace VirtualShell.Json

/-- Induction over values through the items and the fields of containers. -/
@[elab_as_elim]
theorem induction {motive : Json → Prop} (null : motive .null)
    (bool : ∀ value, motive (.bool value)) (number : ∀ value, motive (.number value))
    (text : ∀ value, motive (.text value)) (unpaired : motive .unpaired)
    (array : ∀ items, (∀ item ∈ items, motive item) → motive (.array items))
    (object : ∀ fields, (∀ field ∈ fields, motive field.2) → motive (.object fields)) :
    ∀ value, motive value
  | .null => null
  | .bool value => bool value
  | .number value => number value
  | .text value => text value
  | .unpaired => unpaired
  | .array items => array items fun item _ =>
      induction null bool number text unpaired array object item
  | .object fields => object fields fun field _ =>
      induction null bool number text unpaired array object field.2
termination_by value => sizeOf value
decreasing_by
  · have := List.sizeOf_lt_of_mem ‹item ∈ items›
    simp; omega
  · have h1 := List.sizeOf_lt_of_mem ‹field ∈ fields›
    obtain ⟨key, value⟩ := field
    simp at h1 ⊢; omega

mutual

/-- The tokens as which a value is written. -/
def tokens : Json → List Token
  | null => [.null]
  | bool value => [.bool value]
  | number value => [.number value]
  | text value => [.text value]
  | unpaired => [.unpaired]
  | array items => .openArray :: itemTokens items ++ [.closeArray]
  | object fields => .openObject :: fieldTokens fields ++ [.closeObject]

def itemTokens : List Json → List Token
  | [] => []
  | [item] => item.tokens
  | item :: next :: rest => item.tokens ++ .comma :: itemTokens (next :: rest)

def fieldTokens : List (String × Json) → List Token
  | [] => []
  | [(key, value)] => .text key :: .colon :: value.tokens
  | (key, value) :: next :: rest =>
    .text key :: .colon :: value.tokens ++ .comma :: fieldTokens (next :: rest)

end

namespace Reader

theorem run_cons (reader : Reader) (token : Token) (rest : List Token) :
    reader.run (token :: rest) = (reader.step token).bind (·.run rest) := by
  rw [run]
  cases reader.step token <;> rfl

/-- Reading the tokens of a value finishes it, whatever is open and whatever follows. -/
def Reads (value : Json) : Prop :=
  ∀ frames rest, run ⟨frames, .value⟩ (value.tokens ++ rest) = run ⟨frames, .finished value⟩ rest

/-- Where an array may still end, a value opens its list of items. -/
theorem run_firstItem (value : Json) (frames : List Frame) (rest : List Token) :
    run ⟨frames, .firstItem⟩ (value.tokens ++ rest) =
      run ⟨.items [] :: frames, .value⟩ (value.tokens ++ rest) := by
  cases value <;> rfl

/-- The items of an array are read one after the other, behind those that were read
before. -/
theorem run_items {items : List Json} (hItems : ∀ item ∈ items, Reads item) (hSome : items ≠ [])
    (frames : List Frame) (before : List Json) (rest : List Token) :
    run ⟨.items before :: frames, .value⟩ (itemTokens items ++ .closeArray :: rest) =
      run ⟨frames, .finished (.array (before.reverse ++ items))⟩ rest := by
  induction items generalizing before with
  | nil => exact absurd rfl hSome
  | cons item more ih =>
      rw [List.forall_mem_cons] at hItems
      obtain ⟨hFirst, hMore⟩ := hItems
      cases more with
      | nil =>
          rw [itemTokens, hFirst, run_cons]
          simp [step, resume]
      | cons next more =>
          rw [itemTokens, List.append_assoc, hFirst, List.cons_append, run_cons]
          have hNext := ih hMore (List.cons_ne_nil _ _) (item :: before)
          rw [List.reverse_cons, List.append_assoc] at hNext
          exact hNext

/-- The field as it stands in an object that is being read. -/
def draft (field : String × Json) : DraftField :=
  (some field.1, field.2)

/-- Fields whose names are all known make an object. -/
theorem ofDraft_map_draft (fields : List (String × Json)) :
    ofDraft (fields.map draft) = .object fields := by
  have hAll : (fields.map draft).mapM (fun field => field.1.map fun key => (key, field.2)) =
      some fields := by
    induction fields with
    | nil => rfl
    | cons field rest ih => simp [draft, ih]
  rw [ofDraft, hAll]

/-- The fields of an object are read one after the other, behind those that were read
before. -/
theorem run_fields {fields : List (String × Json)} (hFields : ∀ field ∈ fields, Reads field.2)
    (hSome : fields ≠ []) (frames : List Frame) (before : List DraftField) (rest : List Token) :
    run ⟨frames, .key before⟩ (fieldTokens fields ++ .closeObject :: rest) =
      run ⟨frames, .finished (ofDraft (before.reverse ++ fields.map draft))⟩ rest := by
  induction fields generalizing before with
  | nil => exact absurd rfl hSome
  | cons field more ih =>
      rw [List.forall_mem_cons] at hFields
      obtain ⟨hFirst, hMore⟩ := hFields
      obtain ⟨key, value⟩ := field
      have hOpen (tokens : List Token) :
          run ⟨frames, .key before⟩ (.text key :: .colon :: tokens) =
            run ⟨.field before (some key) :: frames, .value⟩ tokens := rfl
      cases more with
      | nil =>
          rw [fieldTokens, List.cons_append, List.cons_append, hOpen, hFirst, run_cons]
          simp [step, resume, draft]
      | cons next more =>
          rw [fieldTokens, List.append_assoc, List.cons_append, List.cons_append, hOpen, hFirst,
            List.cons_append, run_cons]
          have hNext := ih hMore (List.cons_ne_nil _ _) ((some key, value) :: before)
          rw [List.reverse_cons, List.append_assoc] at hNext
          exact hNext

theorem exists_itemTokens (item : Json) (rest : List Json) :
    ∃ more, itemTokens (item :: rest) = item.tokens ++ more := by
  cases rest with
  | nil => exact ⟨[], (List.append_nil _).symm⟩
  | cons next rest => exact ⟨_, rfl⟩

/-- Every value is finished by its own tokens. -/
theorem reads (value : Json) : Reads value := by
  induction value using Json.induction with
  | null | bool | number | text | unpaired => exact fun frames rest => rfl
  | array items ih =>
      intro frames rest
      cases items with
      | nil => rfl
      | cons item more =>
          have hItems := run_items ih (List.cons_ne_nil _ _) frames [] rest
          obtain ⟨others, hTokens⟩ := exists_itemTokens item more
          rw [hTokens, List.append_assoc, ← run_firstItem, ← List.append_assoc, ← hTokens] at hItems
          rw [tokens, List.append_assoc, List.cons_append]
          exact hItems
  | object fields ih =>
      intro frames rest
      cases fields with
      | nil => rfl
      | cons field more =>
          have hFields := run_fields ih (List.cons_ne_nil _ _) frames [] rest
          rw [List.reverse_nil, List.nil_append, ofDraft_map_draft] at hFields
          rw [tokens, List.append_assoc, List.cons_append, ← hFields]
          cases more <;> rfl

end Reader

/-! From the text of a value to its tokens. -/

theorem endsNumber_cons {c : Char} (h : c.isDigit = false ∧ c ≠ '.' ∧ c ≠ 'e' ∧ c ≠ 'E')
    (rest : List Char) : EndsNumber (c :: rest) := by
  rintro d hd
  cases hd
  exact h

/-- The text of a value gives its tokens, in front of whatever the rest gives. -/
def Tokenizes (value : Json) : Prop :=
  ∀ rest, EndsNumber rest → tokens? (value.write ++ rest) = (tokens? rest).map (value.tokens ++ ·)

theorem tokens?_comma (rest : List Char) :
    tokens? (',' :: rest) = (tokens? rest).map (.comma :: ·) :=
  tokens?_of_token? rfl

/-- Items that are written with commas are cut into the tokens of the items. -/
theorem tokens?_writeItems {items : List Json} (hItems : ∀ item ∈ items, Tokenizes item)
    {rest : List Char} (hRest : EndsNumber rest) :
    tokens? (writeItems items ++ rest) = (tokens? rest).map (itemTokens items ++ ·) := by
  induction items with
  | nil => simp [writeItems, itemTokens]
  | cons item more ih =>
      rw [List.forall_mem_cons] at hItems
      obtain ⟨hFirst, hMore⟩ := hItems
      cases more with
      | nil =>
          rw [writeItems, itemTokens]
          exact hFirst rest hRest
      | cons next more =>
          have hComma := endsNumber_cons (c := ',') (by decide) (writeItems (next :: more) ++ rest)
          rw [writeItems, itemTokens, List.append_assoc, List.cons_append, hFirst _ hComma,
            tokens?_comma, ih hMore]
          simp [Function.comp_def]

theorem tokens?_key (key : String) (rest : List Char) :
    tokens? (writeText key ++ ':' :: rest) = (tokens? rest).map (.text key :: .colon :: ·) := by
  have hColon : token? (':' :: rest) = some (.colon, rest) := rfl
  rw [tokens?_of_token? (token?_writeText key _), tokens?_of_token? hColon, Option.map_map]
  rfl

/-- Fields that are written with commas are cut into the tokens of the fields. -/
theorem tokens?_writeFields {fields : List (String × Json)}
    (hFields : ∀ field ∈ fields, Tokenizes field.2) {rest : List Char} (hRest : EndsNumber rest) :
    tokens? (writeFields fields ++ rest) = (tokens? rest).map (fieldTokens fields ++ ·) := by
  induction fields with
  | nil => simp [writeFields, fieldTokens]
  | cons field more ih =>
      rw [List.forall_mem_cons] at hFields
      obtain ⟨hFirst, hMore⟩ := hFields
      obtain ⟨key, value⟩ := field
      cases more with
      | nil =>
          rw [writeFields, fieldTokens, List.append_assoc, List.cons_append, tokens?_key,
            hFirst rest hRest, Option.map_map]
          rfl
      | cons next more =>
          have hComma := endsNumber_cons (c := ',') (by decide) (writeFields (next :: more) ++ rest)
          rw [writeFields, fieldTokens, List.append_assoc, List.append_assoc, List.cons_append,
            List.cons_append, tokens?_key, hFirst _ hComma, tokens?_comma, ih hMore]
          simp [Function.comp_def]

/-- Every value is written as its own tokens. -/
theorem tokenizes (value : Json) : Tokenizes value := by
  induction value using Json.induction with
  | null | unpaired => exact fun rest _ => tokens?_of_token? rfl
  | bool value =>
      intro rest _
      cases value <;> exact tokens?_of_token? rfl
  | number value => exact fun rest hRest => tokens?_of_token? (token?_writeNumber value hRest)
  | text value => exact fun rest _ => tokens?_of_token? (token?_writeText value rest)
  | array items ih =>
      intro rest _
      have hOpen : ∀ cs, token? ('[' :: cs) = some (.openArray, cs) := fun _ => rfl
      have hClose : token? (']' :: rest) = some (.closeArray, rest) := rfl
      have hEnds := endsNumber_cons (c := ']') (by decide) rest
      rw [write, tokens, List.append_assoc, List.cons_append, tokens?_of_token? (hOpen _),
        List.singleton_append, tokens?_writeItems ih hEnds, tokens?_of_token? hClose]
      simp [Function.comp_def]
  | object fields ih =>
      intro rest _
      have hOpen : ∀ cs, token? ('\x7b' :: cs) = some (.openObject, cs) := fun _ => rfl
      have hClose : token? ('\x7d' :: rest) = some (.closeObject, rest) := rfl
      have hEnds := endsNumber_cons (c := '\x7d') (by decide) rest
      rw [write, tokens, List.append_assoc, List.cons_append, tokens?_of_token? (hOpen _),
        List.singleton_append, tokens?_writeFields ih hEnds, tokens?_of_token? hClose]
      simp [Function.comp_def]

/-- Every value is read back from its text. -/
theorem parse?_toText (value : Json) : parse? value.toText = some value := by
  have hEnd : EndsNumber [] := nofun
  have hTokens : tokens? value.write = some value.tokens := by
    have hAll := tokenizes value [] hEnd
    rwa [List.append_nil, tokens?, Option.map_some, List.append_nil] at hAll
  have hRun : Reader.run {} value.tokens = some ⟨[], .finished value⟩ := by
    have hAll := Reader.reads value [] []
    rwa [List.append_nil] at hAll
  simp only [parse?, toText, String.toList_ofList, hTokens, hRun, Reader.result?]

end VirtualShell.Json
