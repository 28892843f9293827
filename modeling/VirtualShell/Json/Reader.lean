import VirtualShell.Json.Token
/-!
Reading a JSON value from its tokens. A machine goes over the tokens once and
keeps the containers that are still open, innermost first; the text is one value
if the machine ends with a finished value and nothing open.
-/

namespace VirtualShell.Json

/-- A field of an object that is being read. A key with half of a surrogate
pair is no text. -/
abbrev DraftField := Option String × Json

/-- The object of fields. One key that is no text spoils it as a whole. -/
def ofDraft (fields : List DraftField) : Json :=
  match fields.mapM fun field => field.1.map fun key => (key, field.2) with
  | some fields => .object fields
  | none => .unpaired

/-- A container that is still open, with its finished parts, latest first. -/
inductive Frame where
  | items (before : List Json)
  | field (before : List DraftField) (key : Option String)
deriving Repr

/-- What the machine waits for. -/
inductive Phase where
  | value
  /-- The first item of an array, or its end. -/
  | firstItem
  /-- The first key of an object, or its end. -/
  | firstKey
  | key (before : List DraftField)
  | colon (before : List DraftField) (key : Option String)
  | finished (value : Json)
deriving Repr

structure Reader where
  openFrames : List Frame := []
  phase : Phase := .value
deriving Repr

namespace Reader

/-- Begin a value with a token. -/
def begin (frames : List Frame) : Token → Option Reader
  | .null => some ⟨frames, .finished .null⟩
  | .bool value => some ⟨frames, .finished (.bool value)⟩
  | .number value => some ⟨frames, .finished (.number value)⟩
  | .text value => some ⟨frames, .finished (.text value)⟩
  | .unpaired => some ⟨frames, .finished .unpaired⟩
  | .openArray => some ⟨frames, .firstItem⟩
  | .openObject => some ⟨frames, .firstKey⟩
  | _ => none

/-- Take a token behind a finished value into the innermost open container. -/
def resume (value : Json) : List Frame → Token → Option Reader
  | .items before :: frames, .comma => some ⟨.items (value :: before) :: frames, .value⟩
  | .items before :: frames, .closeArray =>
    some ⟨frames, .finished (.array (value :: before).reverse)⟩
  | .field before key :: frames, .comma => some ⟨frames, .key ((key, value) :: before)⟩
  | .field before key :: frames, .closeObject =>
    some ⟨frames, .finished (ofDraft ((key, value) :: before).reverse)⟩
  | _, _ => none

def step (reader : Reader) (token : Token) : Option Reader :=
  match reader.phase, token with
  | .value, _ => begin reader.openFrames token
  | .firstItem, .closeArray => some ⟨reader.openFrames, .finished (.array [])⟩
  | .firstItem, _ => begin (.items [] :: reader.openFrames) token
  | .firstKey, .closeObject => some ⟨reader.openFrames, .finished (.object [])⟩
  | .firstKey, .text key => some ⟨reader.openFrames, .colon [] (some key)⟩
  | .firstKey, .unpaired => some ⟨reader.openFrames, .colon [] none⟩
  | .key before, .text key => some ⟨reader.openFrames, .colon before (some key)⟩
  | .key before, .unpaired => some ⟨reader.openFrames, .colon before none⟩
  | .colon before key, .colon => some ⟨.field before key :: reader.openFrames, .value⟩
  | .finished value, _ => resume value reader.openFrames token
  | _, _ => none

def run (reader : Reader) : List Token → Option Reader
  | [] => some reader
  | token :: rest =>
    match reader.step token with
    | some next => next.run rest
    | none => none

/-- The value that was read, if it is complete. -/
def result? (reader : Reader) : Option Json :=
  match reader.openFrames, reader.phase with
  | [], .finished value => some value
  | _, _ => none

end Reader

/-- The value of a JSON text; `none` if the text is not one. -/
def parse? (s : String) : Option Json :=
  match tokens? s.toList with
  | none => none
  | some tokens =>
    match Reader.run {} tokens with
    | none => none
    | some reader => reader.result?

end VirtualShell.Json
