import VirtualShell.Host.Path
import VirtualShell.Proofs.Store.Insert
import VirtualShell.Proofs.Text.Split
/-!
Which name a path of the host ends in. The steps of a path are found by cutting it
at its slashes; that a path ends in a name is said here of its characters, without
any cutting. Whatever a path ends in can be the name of an entry.
-/

namespace VirtualShell.HostPath

/-- The characters behind the last step of a path: slashes, and single dots behind
slashes. -/
inductive Idle : List Char → Prop where
  | nil : Idle []
  | slash {rest : List Char} (hRest : Idle rest) : Idle ('/' :: rest)
  | dot {rest : List Char} (hRest : Idle rest) : Idle ('/' :: '.' :: rest)

/-- Whether a path ends in a name: the name stands at the beginning of the path or
behind a slash, and nothing but slashes and dots follows it. -/
def EndsIn (path name : String) : Prop :=
  ∃ front back, path.toList = front ++ name.toList ++ back ∧
    (∀ c ∈ front.getLast?, c = '/') ∧ Idle back ∧ EntryName name

variable {path name : String} {cs front back : List Char}

/-- A slash parts a path into the steps before it and the steps after it. -/
theorem steps_append (before after : List Char) :
    steps (String.ofList (before ++ '/' :: after)) =
      steps (String.ofList before) ++ steps (String.ofList after) := by
  rw [steps, Text.split_append, List.filter_append, steps, steps]

/-- Without a slash a path is one step, or none if it is empty or a dot. -/
theorem steps_of_slashFree (h : '/' ∉ name.toList) :
    steps name = if name = "" ∨ name = "." then [] else [name] := by
  rw [steps, Text.split_of_not_mem h, List.filter_singleton]
  by_cases hEmpty : name = "" <;> by_cases hDot : name = "." <;> simp [hEmpty, hDot]

/-- A piece that is a step is the name of one. -/
theorem eq_of_getLast?_steps (hSlash : '/' ∉ cs)
    (h : (steps (String.ofList cs)).getLast? = some name) :
    cs = name.toList ∧ name ≠ "" ∧ name ≠ "." ∧ '/' ∉ name.toList := by
  have hPiece : '/' ∉ (String.ofList cs).toList := by rwa [String.toList_ofList]
  rw [steps_of_slashFree hPiece] at h
  split at h
  · cases h
  · next hStep =>
      cases h
      rw [not_or] at hStep
      exact ⟨String.toList_ofList.symm, hStep.1, hStep.2, hPiece⟩

/-- Behind the last step there are no steps. -/
theorem Idle.steps_append (h : Idle back) (front : List Char) :
    steps (String.ofList (front ++ back)) = steps (String.ofList front) := by
  induction h generalizing front with
  | nil => rw [List.append_nil]
  | @slash rest hRest ih =>
      have hNone : steps (String.ofList ([] ++ rest)) = [] := ih []
      rw [HostPath.steps_append, ← List.nil_append rest, hNone, List.append_nil]
  | @dot rest hRest ih =>
      have hNone : steps (String.ofList (['.'] ++ rest)) = [] := ih ['.']
      rw [HostPath.steps_append, ← List.singleton_append, hNone, List.append_nil]

/-- A piece that is no step adds nothing behind the last one. -/
theorem Idle.cons_piece (hRest : Idle back) (hSlash : '/' ∉ cs)
    (hNone : steps (String.ofList cs) = []) : Idle ('/' :: (cs ++ back)) := by
  rw [steps_of_slashFree (by rwa [String.toList_ofList])] at hNone
  split at hNone
  · next hPiece =>
      rcases hPiece with hEmpty | hDot
      · obtain rfl : cs = [] := by simpa using congrArg String.toList hEmpty
        exact .slash hRest
      · obtain rfl : cs = ['.'] := by simpa using congrArg String.toList hDot
        exact .dot hRest
  · cases hNone

/-- A rest without steps leads nowhere further, behind a slash. -/
theorem idle_of_steps_eq_nil (h : steps (String.ofList cs) = []) : Idle ('/' :: cs) := by
  induction cs using Text.splitInduction '/' with
  | piece name hName => simpa using Idle.nil.cons_piece hName h
  | more name rest hName ih =>
      rw [steps_append, List.append_eq_nil_iff] at h
      exact (ih h.2).cons_piece hName h.1

/-- The last step stands in the path, between slashes and what is idle. -/
theorem exists_of_getLast?_steps (h : (steps (String.ofList cs)).getLast? = some name) :
    ∃ front back, cs = front ++ name.toList ++ back ∧ (∀ c ∈ front.getLast?, c = '/') ∧
      Idle back ∧ name ≠ "" ∧ name ≠ "." ∧ '/' ∉ name.toList := by
  induction cs using Text.splitInduction '/' with
  | piece piece hPiece =>
      obtain ⟨hName, hGood⟩ := eq_of_getLast?_steps hPiece h
      exact ⟨[], [], by simpa using hName, nofun, .nil, hGood⟩
  | more piece rest hPiece ih =>
      rw [steps_append, List.getLast?_append] at h
      cases hLast : (steps (String.ofList rest)).getLast? with
      | none =>
          rw [hLast, Option.none_or] at h
          obtain ⟨rfl, hGood⟩ := eq_of_getLast?_steps hPiece h
          rw [List.getLast?_eq_none_iff] at hLast
          exact ⟨[], '/' :: rest, rfl, nofun, idle_of_steps_eq_nil hLast, hGood⟩
      | some last =>
          rw [hLast, Option.some_or] at h
          cases h
          obtain ⟨front, back, rfl, hFront, hBack, hGood⟩ := ih hLast
          refine ⟨piece ++ '/' :: front, back, by simp, fun c hc => ?_, hBack, hGood⟩
          rw [List.getLast?_append_cons] at hc
          cases front with
          | nil => exact (Option.mem_some.mp hc).symm
          | cons first more => exact hFront c hc

/-- What a path ends in can name an entry. -/
theorem EndsIn.entryName (h : EndsIn path name) : EntryName name := by
  obtain ⟨_, _, _, _, _, hName⟩ := h
  exact hName

/-- The last step of a path that ends in a name is that name. -/
theorem EndsIn.getLast?_steps (h : EndsIn path name) : (steps path).getLast? = some name := by
  obtain ⟨front, back, hPath, hFront, hBack, hEmpty, hDot, _, hSlash⟩ := h
  have hOwn : steps name = [name] := by
    rw [steps_of_slashFree hSlash, if_neg (not_or.mpr ⟨hEmpty, hDot⟩)]
  rw [← String.ofList_toList (s := path), hPath, hBack.steps_append]
  rcases List.eq_nil_or_concat front with rfl | ⟨before, last, rfl⟩
  · rw [List.nil_append, String.ofList_toList, hOwn]
    rfl
  · obtain rfl : last = '/' := hFront last (by simp)
    rw [List.concat_eq_append, List.append_assoc, List.singleton_append, steps_append,
      String.ofList_toList, hOwn, List.getLast?_concat]

/-- The name that a path ends in is found, and nothing else is taken for it. -/
theorem fileName?_eq_some_iff : fileName? path = some name ↔ EndsIn path name := by
  constructor
  · intro h
    rw [fileName?] at h
    split at h
    · next last hLast =>
        split at h
        · cases h
        · next hUp =>
            cases h
            rw [← String.ofList_toList (s := path)] at hLast
            obtain ⟨front, back, hPath, hFront, hBack, hEmpty, hDot, hSlash⟩ :=
              exists_of_getLast?_steps hLast
            exact ⟨front, back, hPath, hFront, hBack, hEmpty, hDot, hUp, hSlash⟩
    · cases h
  · intro h
    obtain ⟨_, _, hUp, _⟩ := h.entryName
    rw [fileName?, h.getLast?_steps]
    exact if_neg hUp

example : ["docs/a/./", "./a//", "a/..", "/.", ""].map fileName? =
    [some "a", some "a", none, none, none] := by decide

end VirtualShell.HostPath
