import VirtualShell.Store.Node
/-!
A directory drawn as a tree of lines. Each entry has one line: a column unit
for every directory around it, a connector, its key, and a slash if it is a
directory. The units tell whether further entries follow.
-/

namespace VirtualShell

namespace Drawing

/-- In front of an entry that others follow. -/
def branch : String := "├── "

/-- In front of the last entry of a directory. -/
def lastBranch : String := "└── "

/-- The column below a directory that other entries follow. -/
def pipe : String := "│   "

/-- The column below the last directory of a directory. -/
def blank : String := "    "

end Drawing

/-- The lines of the entries and of all below them, each after the columns of
the directories around. -/
def Entries.draw (columns : String) : Entries → List String
  | nil => []
  | file key _ rest =>
    (columns ++ (if rest.isEmpty then Drawing.lastBranch else Drawing.branch) ++ key)
      :: rest.draw columns
  | dir key _ children rest =>
    (columns ++ (if rest.isEmpty then Drawing.lastBranch else Drawing.branch) ++ key ++ "/")
      :: children.draw (columns ++ if rest.isEmpty then Drawing.blank else Drawing.pipe)
      ++ rest.draw columns

end VirtualShell
