import VirtualShell.Fault
import VirtualShell.Json.Reader
import VirtualShell.Json.Record
import VirtualShell.Line
/-!
Lines as JSON documents.
-/

namespace VirtualShell

def LineKind.codes : List (String × LineKind) :=
  LineKind.all.map fun kind => (kind.name, kind)

namespace Line

def toJson (line : Line) : Json :=
  .object
    ([("kind", .text line.kind.name), ("content", .text line.content)]
      ++ match line.path with
        | some path => [("path", .text path)]
        | none => [])

def ofJson? (value : Json) : Option Line :=
  match value.record? [["kind"], ["content"], ["path"]] with
  | some [kind, content, path] => do
    let kind ← Json.required (Json.asVariant? LineKind.codes) kind
    let content ← Json.required Json.asText? content
    let path ← Json.optional none (Json.nullable Json.asText?) path
    some { kind, content, path }
  | _ => none

/-- The line that a document describes. -/
def read (document : String) : Except Fault Line :=
  match (Json.parse? document).bind ofJson? with
  | some line => .ok line
  | none => .error (Fault.of .malformedJson)

end Line

end VirtualShell
