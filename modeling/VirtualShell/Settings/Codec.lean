import VirtualShell.Host.Files
import VirtualShell.Json.Reader
import VirtualShell.Json.Record
import VirtualShell.Settings
import VirtualShell.Toml.Document
/-!
Settings as documents, in TOML or JSON. What the settings are called and which
defaults they have is said once; a format tells how records and values are
written in it. Fields that no setting has are skipped.
-/

namespace VirtualShell

/-- How one kind of document writes records and plain values. -/
structure DocumentFormat (α : Type) where
  /-- The values of the fields with the given labels, absent ones as nothing. -/
  record? : List String → α → Option (List (Option α))
  text? : α → Option String
  bool? : α → Option Bool
  natural? : α → Option Nat
  /-- Whether a value stands for a setting that is not set. -/
  isNull : α → Bool

namespace DocumentFormat

def json : DocumentFormat Json where
  record? labels := Json.record? (labels.map fun label => [label])
  text? := Json.asText?
  bool? := Json.asBool?
  natural? := Json.asNatural?
  isNull value := match value with
    | .null => true
    | _ => false

/-- The first items of an array as the fields of a record; it may be longer or
shorter than the record. -/
def slots {α : Type} (count : Nat) (items : List α) : List (Option α) :=
  (List.range count).map fun i => items[i]?

def toml : DocumentFormat Toml where
  record? labels value := match value with
    | .table _ fields => some (labels.map (Toml.Fields.find? fields))
    | .array items => some (slots labels.length items)
    | .tables latestFirst =>
      some (slots labels.length (latestFirst.reverse.map (Toml.table .header)))
    | .moment => some (labels.map fun _ => none)
    | _ => none
  text? value := match value with
    | .text s => some s
    | _ => none
  bool? value := match value with
    | .bool b => some b
    | _ => none
  natural? value := match value with
    | .integer (.ofNat n) => some n
    | _ => none
  isNull _ := false

variable {α β : Type}

/-- The value of a field, or its default if the field is absent. -/
def field (read : α → Option β) (default : β) : Option α → Option β
  | some value => read value
  | none => some default

/-- The value of a field that may be null; an absent one is as good as
null. -/
def nullable (format : DocumentFormat α) (read : α → Option β) : Option α → Option (Option β)
  | some value => if format.isNull value then some none else (read value).map some
  | none => some none

end DocumentFormat

section

variable {α : Type} (format : DocumentFormat α)

def HistorySettings.ofDocument? (value : α) : Option HistorySettings :=
  match format.record? ["max_entries"] value with
  | some [maxEntries] => do
    let maxEntries ← format.nullable format.natural? maxEntries
    some { maxEntries }
  | _ => none

def DisplaySettings.ofDocument? (value : α) : Option DisplaySettings :=
  match format.record? ["color", "banner", "scrollback"] value with
  | some [color, banner, scrollback] => do
    let defaults : DisplaySettings := {}
    let color ← DocumentFormat.field format.bool? defaults.color color
    let banner ← DocumentFormat.field format.bool? defaults.banner banner
    let scrollback ← DocumentFormat.field format.natural? defaults.scrollback scrollback
    some { color, banner, scrollback }
  | _ => none

def LoggingSettings.ofDocument? (value : α) : Option LoggingSettings :=
  match format.record? ["level", "json"] value with
  | some [level, json] => do
    let defaults : LoggingSettings := {}
    let level ← DocumentFormat.field format.text? defaults.level level
    let json ← DocumentFormat.field format.bool? defaults.json json
    some { level, json }
  | _ => none

/-- The settings that a value describes. -/
def Settings.ofDocument? (value : α) : Option Settings :=
  match format.record? ["user", "seed_path", "history", "ui", "logging"] value with
  | some [user, seedPath, history, display, logging] => do
    let defaults : Settings := {}
    let user ← DocumentFormat.field format.text? defaults.user user
    let seedPath ← format.nullable format.text? seedPath
    let history ← DocumentFormat.field (HistorySettings.ofDocument? format) {} history
    let display ← DocumentFormat.field (DisplaySettings.ofDocument? format) {} display
    let logging ← DocumentFormat.field (LoggingSettings.ofDocument? format) {} logging
    some { user, seedPath, history, display, logging }
  | _ => none

end

namespace Settings

def ofToml? (document : String) : Option Settings :=
  match Toml.parse? document with
  | some fields => ofDocument? .toml (.table .header fields)
  | none => none

def ofJson? (document : String) : Option Settings :=
  match Json.parse? document with
  | some value => ofDocument? .json value
  | none => none

/-- The settings in a file, given what reading the file gave. The extension of
the file's name tells its format. -/
def ofFile (path : String) (content : Except HostFault String) : Except SettingsFault Settings :=
  match content with
  | .error _ => .error (.unreadable path)
  | .ok document =>
    match HostPath.extension? path with
    | some "toml" =>
      match ofToml? document with
      | some settings => .ok settings
      | none => .error .malformedToml
    | some "json" =>
      match ofJson? document with
      | some settings => .ok settings
      | none => .error .malformedJson
    | _ => .error (.unknownFormat path)

/-- Where settings are looked for below the directory for settings. -/
def defaultFile : String := "crtsh/config.toml"

end Settings

end VirtualShell
