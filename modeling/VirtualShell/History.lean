import VirtualShell.Text.Blank
/-!
The lines that were submitted, oldest first, and the place of somebody who
browses them. The place counts back from the newest line.
-/

namespace VirtualShell

structure History where
  entries : List String := []
  /-- How many lines are kept; all of them if there is no limit. -/
  limit : Option Nat := none
  /-- The line that is shown while browsing, counted from the newest. -/
  browse : Option Nat := none
deriving DecidableEq, Repr

namespace History

def empty : History := {}

/-- An empty history that keeps at most so many lines, and at least one. -/
def limited (most : Nat) : History :=
  { limit := some (max most 1) }

/-- An empty history under a limit, if there is one. -/
def withLimit : Option Nat → History
  | some most => limited most
  | none => empty

/-- The newest entries that a limit leaves. -/
def newest (limit : Option Nat) (entries : List String) : List String :=
  match limit with
  | some most => entries.drop (entries.length - most)
  | none => entries

/-- Record a line without the white space at its ends, and end browsing.
A blank line is not recorded. -/
def push (history : History) (line : String) : History :=
  let trimmed := Text.trim line
  if trimmed = "" then { history with browse := none }
  else
    { history with
      entries := newest history.limit (history.entries ++ [trimmed])
      browse := none }

def length (history : History) : Nat :=
  history.entries.length

/-- The line that is `n` before the newest. -/
def recent (history : History) (n : Nat) : Option String :=
  history.entries.reverse[n]?

/-- Go to the next older line; the oldest one stays. -/
def older (history : History) : Option String × History :=
  if history.entries.isEmpty then (none, history)
  else
    let place := match history.browse with
      | none => 0
      | some n => min (n + 1) (history.length - 1)
    (history.recent place, { history with browse := some place })

/-- Go to the next newer line. Behind the newest one browsing ends with empty
input; nothing happens to somebody who does not browse. -/
def newer (history : History) : Option String × History :=
  match history.browse with
  | none => (none, history)
  | some 0 => (some "", { history with browse := none })
  | some (n + 1) => (history.recent n, { history with browse := some n })

/-- End browsing. -/
def resetBrowse (history : History) : History :=
  { history with browse := none }

/-- The two ways in which somebody browses. -/
inductive Direction where
  | older
  | newer
deriving DecidableEq, Repr

/-- One step in a direction, with the text that it shows if it shows one. -/
def step (history : History) : Direction → Option String × History
  | .older => history.older
  | .newer => history.newer

end History

end VirtualShell
