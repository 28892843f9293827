import VirtualShell.Scrollback
/-!
What a user can set for a terminal. Every setting has a default.
-/

namespace VirtualShell

structure HistorySettings where
  /-- How many lines the history keeps; all of them if there is no limit. -/
  maxEntries : Option Nat := none
deriving DecidableEq, Repr

structure DisplaySettings where
  color : Bool := true
  banner : Bool := true
  scrollback : Nat := Scrollback.defaultCapacity
deriving DecidableEq, Repr

structure LoggingSettings where
  level : String := "warn"
  json : Bool := false
deriving DecidableEq, Repr

structure Settings where
  user : String := "guest"
  /-- A file to take the seed from, in place of the built-in seed. -/
  seedPath : Option String := none
  history : HistorySettings := {}
  display : DisplaySettings := {}
  logging : LoggingSettings := {}
deriving DecidableEq, Repr

/-- Why there are no settings to be had from a file. -/
inductive SettingsFault where
  | unreadable (path : String)
  | malformedToml
  | malformedJson
  | unknownFormat (path : String)
deriving DecidableEq, Repr

def SettingsFault.message : SettingsFault → String
  | unreadable path => "Failed to read config file: " ++ path
  | malformedToml => "Failed to parse TOML config file"
  | malformedJson => "Failed to parse JSON config file"
  | unknownFormat path =>
    "Unsupported config format for " ++ path ++ " (expected .toml or .json)"

end VirtualShell
