import VirtualShell.Proofs.Completion
import VirtualShell.Proofs.Session.Listing
/-!
A file in the current directory, as the commands see it. What `touch` has
created is found by reading, listing, moving and completing alike, since all of
them look for the one entry that the write left in the directory.
-/

namespace VirtualShell

namespace Session

variable {session after : Session} {builtin : Builtin} {name : String} {f : File}
  {outcome : Outcome} {fault : Fault}

/-! Lines with one operand -/

/-- A builtin that goes through on one name shows the echo and its own lines. -/
theorem execute_lineOf_of_ok (hName : name ≠ "") (hBlank : Text.BlankFree name)
    (hRun : builtin.run [name] session = .ok (after, outcome)) :
    (session.execute (Command.lineOf builtin name)).2 =
      ⟨session.echoOf (Command.lineOf builtin name) :: outcome.lines, outcome.effect⟩ := by
  have hParse := Command.parse_lineOf builtin hName hBlank
  rw [← echo_of_parse hParse, execute_of_run_ok hParse hRun]

/-- A builtin that is refused on one name shows the echo and the message. -/
theorem execute_lineOf_of_error (hName : name ≠ "") (hBlank : Text.BlankFree name)
    (hRun : builtin.run [name] session = .error fault) :
    (session.execute (Command.lineOf builtin name)).2 =
      .ofLines [session.echoOf (Command.lineOf builtin name),
        Line.error (builtin.name ++ ": " ++ fault.message)] := by
  have hParse := Command.parse_lineOf builtin hName hBlank
  rw [← echo_of_parse hParse, execute_of_run_error hParse hRun]
  rfl

/-! A file in the current directory -/

/-- `cat` shows the content of a file in the current directory. -/
theorem cat_of_file (hName : name ≠ "") (hBlank : Text.BlankFree name)
    (hFile : session.directory.child? name = some (.file f)) :
    (session.execute (Command.lineOf .cat name)).2 =
      .ofLines [session.echoOf (Command.lineOf .cat name), Line.output f.content] := by
  have hRun : Builtin.cat.run [name] session =
      .ok (session, .ofLines [Line.output f.content]) := by
    rw [Builtin.run_cat_cons, hFile]
  exact execute_lineOf_of_ok hName hBlank hRun

theorem cd_of_file (hName : EntryName name) (hBlank : Text.BlankFree name)
    (hFile : session.directory.child? name = some (.file f)) :
    (session.execute (Command.lineOf .cd name)).2 =
      .ofLines [session.echoOf (Command.lineOf .cd name),
        Line.error ("cd: " ++ (Fault.notADirectory name).message)] := by
  have hRun : Builtin.cd.run [name] session = .error (Fault.notADirectory name) := by
    rw [Builtin.run_cd, changeDirectory, List.head?_cons, Option.getD_some,
      Cursor.move_file hName hFile]
    rfl
  exact execute_lineOf_of_error hName.1 hBlank hRun

/-- A file is the first to be offered where its whole name stands behind `cat`. -/
theorem head?_candidates_of_file (h : session.Orderly)
    (hFile : session.directory.child? name = some (.file f)) :
    (Completion.ofLine (Command.lineOf .cat name) session.snapshot).candidates.head? =
      some name := by
  rw [Completion.ofLine_lineOf]
  apply Completion.head?_matching (Completion.pairwise_entriesOf h.ordered_directory .file)
  exact Completion.mem_entriesOf_iff.mpr ⟨_, Entries.mem_toList_of_find? hFile, rfl⟩

/-- A file is not offered for `cd`. -/
theorem not_mem_candidates_of_file (h : session.Orderly) (hName : EntryName name)
    (hFile : session.directory.child? name = some (.file f)) :
    name ∉ (Completion.ofLine (Command.lineOf .cd name) session.snapshot).candidates := by
  rw [Completion.ofLine_lineOf]
  intro hMem
  rcases List.mem_cons.mp (Completion.mem_of_mem_matching hMem) with hDots | hEntries
  · exact hName.2.2.1 hDots
  · obtain ⟨node, hEntry, hKind⟩ := Completion.mem_entriesOf_iff.mp hEntries
    have hFound : session.directory.child? name = some node :=
      h.ordered_directory.find?_of_mem_toList hEntry
    rw [hFile] at hFound
    cases hFound
    cases hKind

/-! What `touch` does -/

/-- `touch` goes through for the names of entries, unless a file that can only be read is
in the way. -/
theorem touch_goes_iff (h : session.Consistent) (hName : name ≠ "")
    (hBlank : Text.BlankFree name) :
    ¬ (session.execute (Command.lineOf .touch name)).2.Fails ↔
      EntryName name ∧ ∀ f, session.directory.child? name = some (.file f) → f.readOnly = false := by
  have hWrite : (∃ store, session.store.insertFile session.cursor.path name placeholderContent =
      .ok store) ↔ _ := Store.exists_insertFile_iff h.directory
  rw [← hWrite]
  cases hInsert : session.store.insertFile session.cursor.path name placeholderContent with
  | ok store =>
      have hRun : Builtin.touch.run [name] session =
          .ok ({ session with store }, .ofLines [Line.success ("created " ++ name)]) := by
        rw [Builtin.run_touch_cons, writeFile, hInsert]
        rfl
      have hParse := Command.parse_lineOf .touch hName hBlank
      exact iff_of_true (execute_of_builtin_run_ok hParse rfl hRun).1 ⟨store, rfl⟩
  | error fault =>
      have hRun : Builtin.touch.run [name] session = .error fault := by
        rw [Builtin.run_touch_cons, writeFile, hInsert]
        rfl
      rw [execute_lineOf_of_error hName hBlank hRun]
      refine iff_of_false (not_not.mpr ⟨_, List.mem_cons_of_mem _ List.mem_cons_self, rfl⟩) ?_
      rintro ⟨store, hStore⟩
      cases hStore

/-- A `touch` that goes through stays in its place and writes there. -/
theorem insert_of_touch (hName : name ≠ "") (hBlank : Text.BlankFree name)
    (hGoes : ¬ (session.execute (Command.lineOf .touch name)).2.Fails) :
    (session.execute (Command.lineOf .touch name)).1.cursor = session.cursor ∧
      session.store.insertFile session.cursor.path name placeholderContent =
        .ok (session.execute (Command.lineOf .touch name)).1.store := by
  have hParse := Command.parse_lineOf .touch hName hBlank
  have hCalls : Command.Calls (Command.lineOf .touch name) "touch" [name] :=
    (Command.calls_iff hParse .touch nofun [name]).mpr ⟨rfl, rfl⟩
  have hFramed := (execute_executed session (Command.lineOf .touch name)).framed
  obtain ⟨written, more, hArgs, hCursor, hInsert⟩ := hFramed.touched [name] hCalls hGoes
  cases hArgs
  exact ⟨hCursor, hInsert⟩

/-- Where a file was written, the directory has it in place of whatever it had
under its name. -/
theorem entries_of_insert {content : String} (h : session.Orderly) (hAfter : after.Orderly)
    (hCursor : after.cursor = session.cursor)
    (hInsert : session.store.insertFile session.cursor.path name content = .ok after.store) :
    after.directory.entries =
      session.directory.entries.insert name (.file ⟨name, content, false⟩) := by
  have hRewritten := Store.rewritten_of_insertFile hInsert
  have hDirectory := hAfter.consistent.directory
  rw [hCursor] at hDirectory
  have hFile : Node.Ordered (.file ⟨name, content, false⟩) := trivial
  apply hAfter.ordered_directory.ext (h.ordered_directory.insert name hFile)
  intro key
  have hReached := (Store.resolve?_child hDirectory key).symm
  rw [Entries.find?_insert]
  split
  · next hSame =>
      rw [← hSame] at hReached
      exact hSame ▸ hReached.trans hRewritten.target
  · next hOther =>
      -- the path of another key is neither below the written place nor around it
      have hBeside : ¬ session.cursor.path ++ [name] <+: session.cursor.path ++ [key] := by
        rw [List.prefix_append_right_inj, List.cons_prefix_cons]
        exact fun hPrefix => hOther hPrefix.1
      have hBelow : ¬ session.cursor.path ++ [key] <+: session.cursor.path := by
        intro hPrefix
        have hLength := hPrefix.length_le
        simp at hLength
      have hSame := hRewritten.elsewhere _ hBeside fun hAbove => hBelow hAbove.2
      exact (hReached.trans hSame).trans (Store.resolve?_child h.consistent.directory key)

/-- What becomes of a name for which `touch` goes through. -/
structure Created (before after : Session) (name : String) : Prop where
  /-- It is read with the placeholder as its content. -/
  read : (after.execute (Command.lineOf .cat name)).2 =
    .ofLines [after.echoOf (Command.lineOf .cat name), Line.output placeholderContent]
  /-- It is listed once, as a file, and not as a directory, -/
  listed : (after.execute "ls").2.lines.countP
    (fun line => line.kind = .output ∧ line.content = name) = 1
  unmarked : ∀ line ∈ (after.execute "ls").2.lines, line.kind = .output →
    line.content ≠ name ++ "/"
  /-- and all other entries are listed as they were. -/
  others : ∃ old new,
    (before.execute "ls").2 = .ofLines (before.echoOf "ls" :: Builtin.listingLines old) ∧
      (after.execute "ls").2 = .ofLines (after.echoOf "ls" :: Builtin.listingLines new) ∧
      before.store.list before.cursor.path = .ok old ∧
      after.store.list before.cursor.path = .ok new ∧
      (new.filter fun entry => entry.1 ≠ name) = old.filter fun entry => entry.1 ≠ name
  /-- No move leads into it. -/
  closed : (after.execute (Command.lineOf .cd name)).2 =
    .ofLines [after.echoOf (Command.lineOf .cd name),
      Line.error ("cd: " ++ (Fault.notADirectory name).message)]
  /-- It is the first to be offered for reading, and is not offered for moving. -/
  offered : (Completion.ofLine (Command.lineOf .cat name) after.snapshot).candidates.head? =
    some name
  notOffered : name ∉ (Completion.ofLine (Command.lineOf .cd name) after.snapshot).candidates
  /-- It may be created once more, which changes nothing. -/
  again : ¬ (after.execute (Command.lineOf .touch name)).2.Fails ∧
    (after.execute (Command.lineOf .touch name)).1.store = after.store

/-- A file that was written into the current directory is there for every command. -/
theorem created_of_insert (h : session.Orderly) (hAfter : after.Orderly)
    (hName : EntryName name) (hBlank : Text.BlankFree name)
    (hCursor : after.cursor = session.cursor)
    (hInsert : session.store.insertFile session.cursor.path name placeholderContent =
      .ok after.store) :
    Created session after name := by
  have hEntries := entries_of_insert h hAfter hCursor hInsert
  have hFile : after.directory.child? name = some (.file ⟨name, placeholderContent, false⟩) := by
    rw [Directory.child?, hEntries, Entries.find?_insert, if_pos rfl]
  have hHere := h.consistent
  have hThere := hAfter.consistent
  have hAgain := (touch_goes_iff hThere hName.1 hBlank).mpr
    ⟨hName, fun f hOther => by rw [hFile] at hOther; cases hOther; rfl⟩
  refine ⟨cat_of_file hName.1 hBlank hFile, countP_ls_of_file hAfter hName hFile,
    ls_unmarked_of_file hAfter hFile, ?_, cd_of_file hName hBlank hFile,
    head?_candidates_of_file hAfter hFile, not_mem_candidates_of_file hAfter hName hFile,
    hAgain, ?_⟩
  · refine ⟨_, _, execute_ls hHere, execute_ls hThere, Store.list_of_dir hHere.directory, ?_, ?_⟩
    · rw [← hCursor]
      exact Store.list_of_dir hThere.directory
    · rw [Directory.listing, hEntries]
      exact Directory.filter_listing_insert session.directory name _
  · have hSecond := (insert_of_touch hName.1 hBlank hAgain).2
    rw [Store.insertFile_eq_self hName hThere.directory hFile hAfter.ordered] at hSecond
    exact (Except.ok.inj hSecond).symm

theorem created_of_touch (h : session.Orderly) (hName : name ≠ "") (hBlank : Text.BlankFree name)
    (hGoes : ¬ (session.execute (Command.lineOf .touch name)).2.Fails) :
    Created session (session.execute (Command.lineOf .touch name)).1 name := by
  have hEntryName := ((touch_goes_iff h.consistent hName hBlank).mp hGoes).1
  obtain ⟨hCursor, hInsert⟩ := insert_of_touch hName hBlank hGoes
  have hTurn := (execute_executed session (Command.lineOf .touch name)).turn
  exact created_of_insert h (h.of_turn hTurn) hEntryName hBlank hCursor hInsert

variable {seed : OrderedSeed} {user : String} {limit : Option Nat}

/-- On whatever session a run leads to from a seed whose entries are in order,
`touch` goes through with every name that an entry may have, unless a read-only
file has it; and what it has created is one and the same to all commands. -/
theorem touch_created (hStart : start seed.toSeed user limit = .ok session)
    (actions : List Action) (name : String) (hName : name ≠ "") (hBlank : Text.BlankFree name) :
    let reached := session.performAll actions
    let touched := reached.execute (Command.lineOf .touch name)
    (¬ touched.2.Fails ↔
      EntryName name ∧ ∀ f, reached.directory.child? name = some (.file f) → f.readOnly = false) ∧
      (¬ touched.2.Fails → Created reached touched.1 name) := by
  intro reached touched
  have hOrderly : reached.Orderly := orderly_performAll hStart actions
  exact ⟨touch_goes_iff hOrderly.consistent hName hBlank, created_of_touch hOrderly hName hBlank⟩

/-- A directory gives way to the new file, and a read-only file does not. -/
theorem touch_created_small :
    let seed : OrderedSeed :=
      ⟨⟨⟨rootName, .dir "docs" "docs" .nil (.file "log" ⟨"log", "text", true⟩ .nil)⟩, []⟩,
        by decide⟩
    let session : Session := { store := ⟨seed.tree⟩, user := "guest" }
    let reached := session.performAll [.execute "touch a.txt"]
    start seed.toSeed "guest" none = .ok session ∧
      (reached.execute "touch log").2.Fails ∧
      Created reached (reached.execute "touch docs").1 "docs" := by
  intro seed session reached
  have hStart : start seed.toSeed "guest" none = .ok session := rfl
  have hLog := touch_created hStart [.execute "touch a.txt"] "log" (by decide) (by decide)
  have hDocs := touch_created hStart [.execute "touch a.txt"] "docs" (by decide) (by decide)
  have hFile : reached.directory.child? "log" = some (.file ⟨"log", "text", true⟩) := by decide
  have hDir : reached.directory.child? "docs" = some (.dir ⟨"docs", .nil⟩) := by decide
  refine ⟨hStart, ?_, hDocs.2 (hDocs.1.mpr ⟨validName_iff.mp (by decide), ?_⟩)⟩
  · by_contra hGoes
    have hWritable := (hLog.1.mp hGoes).2 _ hFile
    cases hWritable
  · intro f hOther
    rw [hDir] at hOther
    cases hOther

end Session

end VirtualShell
