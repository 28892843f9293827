/-!
TOML values. A table remembers how it came about, because that decides whether
it may still be extended: by a header, by a dotted key, or not at all.
-/

namespace VirtualShell

/-- How a table came about. -/
inductive Toml.Origin where
  /-- It is written in braces and complete. -/
  | inline
  /-- It has a header of its own. -/
  | header
  /-- Only headers of tables below it have been seen. -/
  | implied
  /-- A dotted key leads through it. -/
  | dotted
deriving DecidableEq, Repr

inductive Toml where
  | text (value : String)
  | integer (value : Int)
  | float
  | bool (value : Bool)
  /-- A date, a time of day, or both. -/
  | moment
  | array (items : List Toml)
  | table (origin : Toml.Origin) (fields : List (String × Toml))
  /-- Tables under one header in double brackets, latest first. -/
  | tables (latestFirst : List (List (String × Toml)))
deriving Repr

namespace Toml

/-- Fields by their keys, each key once. -/
abbrev Fields := List (String × Toml)

namespace Fields

def find? (fields : Fields) (key : String) : Option Toml :=
  (List.find? (fun field => field.1 = key) fields).map (·.2)

/-- Put a value under a key, in place of what is there. -/
def set (key : String) (value : Toml) : Fields → Fields
  | [] => [(key, value)]
  | (other, kept) :: rest =>
    if other = key then (key, value) :: rest else (other, kept) :: set key value rest

end Fields

/-- Apply a change to a table under a key, which comes into being if there is
none. A dotted key extends no table that is complete in itself; nothing extends
a table in braces. Of several tables under one header the latest is meant. -/
def enter (dotted : Bool) (change : Origin → Fields → Option Fields) : Option Toml → Option Toml
  | none =>
    let origin := if dotted then .dotted else .implied
    (change origin []).map (.table origin)
  | some (.table origin fields) =>
    if origin = .inline ∨ (dotted ∧ origin = .header) then none
    else (change origin fields).map (.table origin)
  | some (.tables (latest :: earlier)) =>
    (change .header latest).map fun changed => .tables (changed :: earlier)
  | some _ => none

/-- Apply a change to the table that a path of keys leads to. -/
def modify (dotted : Bool) :
    List String → (Origin → Fields → Option Fields) → Origin → Fields → Option Fields
  | [], change, origin, fields => change origin fields
  | key :: rest, change, _, fields =>
    (enter dotted (modify dotted rest change) (fields.find? key)).map fun table =>
      fields.set key table

/-- Give a value to a key, which no value has had yet. A table that has been
opened for one notation takes no keys in another. -/
def assignHere (path : List String) (key : String) (value : Toml) (origin : Origin)
    (fields : Fields) : Option Fields :=
  if (origin = .dotted) = (path = []) then none
  else match fields.find? key with
    | some _ => none
    | none => some (fields.set key value)

/-- Give a value to a dotted key in a table. -/
def assign (path : List String) (key : String) (value : Toml) (origin : Origin)
    (fields : Fields) : Option Fields :=
  modify true path (assignHere path key value) origin fields

/-- Open a table by its header. -/
def openTable (key : String) (_ : Origin) (fields : Fields) : Option Fields :=
  match fields.find? key with
  | none => some (fields.set key (.table .header []))
  | some (.table .implied kept) => some (fields.set key (.table .header kept))
  | some _ => none

/-- Open one more table under a header in double brackets. -/
def openNextTable (key : String) (_ : Origin) (fields : Fields) : Option Fields :=
  match fields.find? key with
  | none => some (fields.set key (.tables [[]]))
  | some (.tables earlier) => some (fields.set key (.tables ([] :: earlier)))
  | some _ => none

end Toml

end VirtualShell
