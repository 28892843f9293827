import VirtualShell.Json.Value
/-!
Records in JSON. A record is written as an object, or as an array of its
fields in order. In an object the fields may come in any order and other fields
are skipped, but no field may come twice; an array may stop early and may not go
on too long.
-/

namespace VirtualShell.Json

/-- The values that an object gives to a field, under any of its labels. -/
def labelled (labels : List String) (fields : List (String × Json)) : List Json :=
  (fields.filter fun field => labels.contains field.1).map (·.2)

/-- The value of each field of a record, absent ones as `none`; the labels of
each field are given. -/
def record? (slots : List (List String)) : Json → Option (List (Option Json))
  | object fields =>
    slots.mapM fun labels =>
      match labelled labels fields with
      | [] => some none
      | [value] => some (some value)
      | _ => none
  | array items =>
    if items.length ≤ slots.length then
      some (items.map some ++ List.replicate (slots.length - items.length) none)
    else none
  | _ => none

/-- A field that must be there. -/
def required {α : Type} (read : Json → Option α) : Option Json → Option α
  | some value => read value
  | none => none

/-- A field with a default. A null is not the absence of the field. -/
def optional {α : Type} (default : α) (read : Json → Option α) : Option Json → Option α
  | some value => read value
  | none => some default

/-- A value that may be null. -/
def nullable {α : Type} (read : Json → Option α) : Json → Option (Option α)
  | null => some none
  | value => (read value).map some

def asText? : Json → Option String
  | text value => some value
  | _ => none

def asBool? : Json → Option Bool
  | bool value => some value
  | _ => none

def asNatural? : Json → Option Nat
  | number value => value.natural?
  | _ => none

/-- The items of an array, each read. -/
def asList? {α : Type} (read : Json → Option α) : Json → Option (List α)
  | array items => items.mapM read
  | _ => none

/-- One of a closed set of values by its codes. It is written as a text, or as
an object whose only field has the code as its label and null as its value. -/
def asVariant? {α : Type} (variants : List (String × α)) (value : Json) : Option α :=
  match value with
  | text code => (variants.find? (·.1 = code)).map (·.2)
  | object [(code, null)] => (variants.find? (·.1 = code)).map (·.2)
  | _ => none

end VirtualShell.Json
