import VirtualShell.Toml.Statement
/-!
TOML documents: the statements of a text, taken together in order to one table.
An assignment belongs to the table of the last header before it.
-/

namespace VirtualShell.Toml

/-- A document that is being read: its fields so far, and the path of the table
to which assignments belong. -/
structure Draft where
  fields : Fields := []
  current : List String := []

namespace Draft

/-- Apply a change to the table that headers call by a path. -/
def change (draft : Draft) (path : List String) (f : Origin → Fields → Option Fields) :
    Option Fields :=
  modify false path f .header draft.fields

def add (draft : Draft) : Statement → Option Draft
  | .openTable parents key =>
    (draft.change parents (openTable key)).map fun fields => ⟨fields, parents ++ [key]⟩
  | .openNextTable parents key =>
    (draft.change parents (openNextTable key)).map fun fields => ⟨fields, parents ++ [key]⟩
  | .assign path key value =>
    (draft.change draft.current (assign path key value)).map fun fields =>
      { draft with fields }

def addAll (draft : Draft) : List Statement → Option Draft
  | [] => some draft
  | statement :: rest =>
    match draft.add statement with
    | some next => next.addAll rest
    | none => none

end Draft

/-- A text without a byte order mark in front. -/
def dropMark : List Char → List Char
  | '\uFEFF' :: rest => rest
  | cs => cs

/-- The fields of a TOML text; nothing if the text is not one. -/
def parse? (s : String) : Option Fields := do
  let tokens ← tokens? (dropMark s.toList)
  let statements ← statements? tokens
  let draft ← Draft.addAll {} statements
  some draft.fields

end VirtualShell.Toml
