import VirtualShell.Fault
import VirtualShell.Json.Printer
import VirtualShell.Json.Reader
import VirtualShell.Json.Record
import VirtualShell.Seed
/-!
Seeds as JSON documents. A node carries its type as a field, or as the first
item if it is written as an array; the root is always a directory and needs
none. The nodes below the root are read whole: nothing in them may be unsound,
not even what is skipped, and they may not nest deeper than the limit.
-/

namespace VirtualShell

namespace File

def fields (f : File) : List (String × Json) :=
  [("name", .text f.name), ("content", .text f.content)]
    ++ if f.readOnly then [("readOnly", .bool true)] else []

def ofJson? (value : Json) : Option File :=
  match value.record? [["name"], ["content"], ["readOnly", "read_only"]] with
  | some [name, content, readOnly] => do
    let name ← Json.required Json.asText? name
    let content ← Json.optional "" Json.asText? content
    let readOnly ← Json.optional false Json.asBool? readOnly
    some { name, content, readOnly }
  | _ => none

end File

/-- The fields of the entries of a directory, each under its key. -/
def Entries.fields : Entries → List (String × Json)
  | nil => []
  | file key f rest => (key, .object (("type", .text "FILE") :: f.fields)) :: rest.fields
  | dir key name children rest =>
    (key, .object [("type", .text "DIR"), ("name", .text name),
      ("children", .object children.fields)]) :: rest.fields

namespace Directory

def fields (d : Directory) : List (String × Json) :=
  [("name", .text d.name), ("children", .object d.entries.fields)]

/-- Read entries in order and put each in its place among those before; the
last one under a key stays. -/
def entriesOf? (readNode : Json → Option Node) (found : Entries) :
    List (String × Json) → Option Entries
  | [] => some found
  | (key, value) :: rest =>
    match readNode value with
    | some node => entriesOf? readNode (found.insert key node) rest
    | none => none

def ofJson? (readNode : Json → Option Node) (value : Json) : Option Directory :=
  match value.record? [["name"], ["children"]] with
  | some [name, children] => do
    let name ← Json.required Json.asText? name
    let entries ← Json.optional Entries.nil
      (fun
        | .object fields => entriesOf? readNode .nil fields
        | _ => none) children
    some { name, entries }
  | _ => none

end Directory

namespace Node

def toJson : Node → Json
  | file f => .object (("type", .text "FILE") :: f.fields)
  | dir d => .object (("type", .text "DIR") :: d.fields)

/-- The kind that a type stands for. Inside another node a type may also be
given by number. -/
def kind? (inner : Bool) : Json → Option NodeKind
  | .text "FILE" => some .file
  | .text "DIR" => some .dir
  | .number value =>
    match inner, value.natural? with
    | true, some 0 => some .file
    | true, some 1 => some .dir
    | _, _ => none
  | _ => none

/-- The type of a node and the rest of its record. -/
def untag? : Json → Option (Json × Json)
  | .object fields =>
    match Json.labelled ["type"] fields with
    | [tag] => some (tag, .object (fields.filter (·.1 ≠ "type")))
    | _ => none
  | .array (tag :: items) => some (tag, .array items)
  | _ => none

/-- The node that a value describes, if its directories nest at most so
deep. -/
def ofJson? : Nat → Bool → Json → Option Node
  | 0, _, _ => none
  | levels + 1, inner, value =>
    match untag? value with
    | some (tag, record) =>
      match kind? inner tag with
      | some .file => (File.ofJson? record).map .file
      | some .dir => (Directory.ofJson? (ofJson? levels true) record).map .dir
      | none => none
    | none => none

/-- A node in a place where containers may nest so many levels more. -/
def ofWhole? (levels : Nat) (value : Json) : Option Node :=
  if value.isSound && value.depth ≤ levels then ofJson? (levels + 1) false value
  else none

end Node

namespace Contact

def toJson (contact : Contact) : Json :=
  .object
    [("id", .text contact.id), ("name", .text contact.name), ("role", .text contact.role),
     ("status", .text contact.status.code), ("clearance", .text contact.clearance.code),
     ("bio", .text contact.bio), ("personaPrompt", .text contact.persona)]

/-- The codes of a status. -/
def statusCodes : List (String × Status) :=
  Status.all.map fun status => (status.code, status)

/-- The codes of a clearance; the highest one has a second code in plain
letters. -/
def clearanceCodes : List (String × Clearance) :=
  (Clearance.all.map fun clearance => (clearance.code, clearance)) ++ [("OMEGA", .omega)]

def ofJson? (value : Json) : Option Contact :=
  match value.record? [["id"], ["name"], ["role"], ["status"], ["clearance"], ["bio"],
      ["personaPrompt"]] with
  | some [id, name, role, status, clearance, bio, persona] => do
    let id ← Json.required Json.asText? id
    let name ← Json.required Json.asText? name
    let role ← Json.required Json.asText? role
    let status ← Json.required (Json.asVariant? statusCodes) status
    let clearance ← Json.required (Json.asVariant? clearanceCodes) clearance
    let bio ← Json.optional "" Json.asText? bio
    let persona ← Json.optional "" Json.asText? persona
    some { id, name, role, status, clearance, bio, persona }
  | _ => none

end Contact

namespace Seed

/-- How many arrays and objects may nest in a document. -/
def nestingLimit : Nat := 127

def toJson (seed : Seed) : Json :=
  .object
    [("filesystem", .object seed.tree.fields),
     ("contacts", .array (seed.contacts.map Contact.toJson))]

/-- The seed that a value describes. Three containers stand around each child
of the root: the seed, the root and its children. -/
def ofJson? (value : Json) : Option Seed :=
  match value.record? [["filesystem"], ["contacts"]] with
  | some [tree, contacts] => do
    let tree ← Json.required (Directory.ofJson? (Node.ofWhole? (nestingLimit - 3))) tree
    let contacts ← Json.optional [] (Json.asList? Contact.ofJson?) contacts
    some { tree, contacts }
  | _ => none

/-- The seed that a document describes. -/
def read (document : String) : Except Fault Seed :=
  match (Json.parse? document).bind ofJson? with
  | some seed => .ok seed
  | none => .error (Fault.of .malformedJson)

/-- A seed as a document. -/
def toDocument (seed : Seed) : String :=
  seed.toJson.toText

end Seed

end VirtualShell
