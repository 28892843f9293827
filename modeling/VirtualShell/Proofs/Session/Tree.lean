import VirtualShell.Proofs.Session.Protocol
import VirtualShell.Proofs.Store.Layout
/-!
What `tree` shows: a dot for the current directory, and below it the lines of
all that the directory holds.
-/

namespace VirtualShell

namespace Session

variable {session : Session}

/-- `tree` draws the current directory below a dot, whatever its operands. -/
theorem run_tree (args : List String) (session : Session) :
    Builtin.tree.run args session =
      .ok (session, .ofLines (("." :: session.directory.entries.draw "").map Line.output)) := rfl

theorem execute_tree {line : String} (h : Command.builtinOf line = some .tree) :
    (session.execute line).2 =
      .ofLines (session.echoOf line ::
        ("." :: session.directory.entries.draw "").map Line.output) :=
  outcome_of_builtinOf h fun args => run_tree args session

/-- Every directory whose entries are in order is laid out by its drawing; and
on whatever session a run leads to from a seed whose entries are in order, `tree`
shows a dot and then what lays out the current directory. -/
theorem tree_laidOut :
    (∀ d : Directory, d.entries.Ordered → ∃ paths, d.LaidOut paths (d.entries.draw "")) ∧
    ∀ (seed : OrderedSeed) (user : String) (limit : Option Nat) (session : Session),
      start seed.toSeed user limit = .ok session → ∀ actions,
      ∃ paths texts, (session.performAll actions).directory.LaidOut paths texts ∧
        (∀ args, Builtin.tree.run args (session.performAll actions) =
          .ok (session.performAll actions, .ofLines (("." :: texts).map Line.output))) ∧
        ∀ line, Command.builtinOf line = some .tree →
          ((session.performAll actions).execute line).2 =
            .ofLines ((session.performAll actions).echoOf line ::
              ("." :: texts).map Line.output) := by
  refine ⟨fun d h => ⟨_, Directory.laidOut_draw h⟩, ?_⟩
  intro seed user limit session hStart actions
  have hDirectory := (orderly_performAll hStart actions).ordered_directory
  exact ⟨_, _, Directory.laidOut_draw hDirectory, fun args => run_tree args _,
    fun _ => execute_tree⟩

/-- A directory under the last of two names, and a name that looks like the line
of an entry in it; the same from a session that has moved and written. -/
theorem tree_laidOut_small :
    let inner : Entries := .file "│   └── b" ⟨"│   └── b", "", false⟩ .nil
    let d : Directory :=
      ⟨rootName, .dir "a" "a" (.file "b" ⟨"b", "", true⟩ .nil) (.dir "c d" "c d" inner .nil)⟩
    let lines := ["├── a/", "│   └── b", "└── c d/", "    └── │   └── b"]
    let seed : OrderedSeed := ⟨⟨d, []⟩, by decide⟩
    let session : Session := { store := ⟨d⟩, user := "guest" }
    let after := session.performAll [.changeDirectory "c d", .execute "touch b"]
    d.entries.Ordered ∧ d.entries.draw "" = lines ∧ (∃ paths, d.LaidOut paths lines) ∧
    start seed.toSeed "guest" none = .ok session ∧ Command.builtinOf " TREE " = some .tree ∧
    ∃ paths texts, after.directory.LaidOut paths texts ∧
      (after.execute " TREE ").2 =
        .ofLines (after.echoOf " TREE " :: ("." :: texts).map Line.output) := by
  intro inner d lines seed session after
  have hOrdered : d.entries.Ordered := by decide
  have hDraw : d.entries.draw "" = lines := by decide
  have hStart : start seed.toSeed "guest" none = .ok session := by decide
  have hLine : Command.builtinOf " TREE " = some .tree := by decide
  refine ⟨hOrdered, hDraw, ?_, hStart, hLine, ?_⟩
  · rw [← hDraw]
    exact tree_laidOut.1 d hOrdered
  · obtain ⟨paths, texts, hLaidOut, _, hShown⟩ :=
      tree_laidOut.2 seed "guest" none session hStart _
    exact ⟨paths, texts, hLaidOut, hShown " TREE " hLine⟩

end Session

end VirtualShell
