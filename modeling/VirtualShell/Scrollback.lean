import VirtualShell.Session.Outcome
/-!
The lines that a terminal can scroll back to, oldest first. Only so many of the
newest are kept, and at least one.
-/

namespace VirtualShell

structure Scrollback where
  capacity : Nat
  lines : List Line := []
deriving DecidableEq, Repr

namespace Scrollback

def defaultCapacity : Nat := 10000

/-- An empty scrollback that keeps at most so many lines, and at least one. -/
def ofCapacity (capacity : Nat) : Scrollback :=
  { capacity := max capacity 1 }

/-- Add a line. When as many lines are kept as there may be, the oldest goes. -/
def push (scrollback : Scrollback) (line : Line) : Scrollback :=
  let kept :=
    if scrollback.lines.length = scrollback.capacity then scrollback.lines.drop 1
    else scrollback.lines
  { scrollback with lines := kept ++ [line] }

/-- Add lines in order. -/
def pushAll (scrollback : Scrollback) (lines : List Line) : Scrollback :=
  lines.foldl push scrollback

def clear (scrollback : Scrollback) : Scrollback :=
  { scrollback with lines := [] }

/-- Take the lines of an outcome, and tell which of them are to be shown. The
effect of clearing takes away all lines, those of its own outcome too; any other
effect is left to the caller. -/
def apply (scrollback : Scrollback) (outcome : Outcome) : List Line × Scrollback :=
  if outcome.effect = some .clearScrollback then ([], (scrollback.pushAll outcome.lines).clear)
  else (outcome.lines, scrollback.pushAll outcome.lines)

/-- Take the lines of an outcome, and hand back an outcome for the caller: the lines
that are to be shown, and the effect as it was. -/
def absorb (scrollback : Scrollback) (outcome : Outcome) : Outcome × Scrollback :=
  (⟨(scrollback.apply outcome).1, outcome.effect⟩, (scrollback.apply outcome).2)

end Scrollback

end VirtualShell
