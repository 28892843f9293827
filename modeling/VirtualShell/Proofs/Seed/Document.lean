import VirtualShell.Proofs.Json.Reader
import VirtualShell.Proofs.Json.Record
import VirtualShell.Proofs.Seed
/-!
Seeds and their documents. A seed is read back from what is written of it as long
as that does not nest too deep. A document may be written in other ways: it may
leave out defaults, give a key twice, or give records as arrays. The nodes of its
seed may then nest deeper than the document, by the one container of the children
of an innermost directory; but nodes begin at every other level only, and the
limit lies between two of them.
-/

namespace VirtualShell

namespace File

/-- The fields of a file are read as that file. -/
theorem ofJson?_fields (f : File) : ofJson? (.object f.fields) = some f := by
  obtain ⟨name, content, readOnly⟩ := f
  cases readOnly <;> rfl

end File

namespace Contact

/-- A written contact is read as that contact. -/
theorem ofJson?_toJson (contact : Contact) : ofJson? contact.toJson = some contact := by
  have hStatus : ∀ status, Json.asVariant? statusCodes (.text (Status.code status)) = some status := by
    intro status
    cases status <;> rfl
  have hClearance : ∀ clearance,
      Json.asVariant? clearanceCodes (.text (Clearance.code clearance)) = some clearance := by
    intro clearance
    cases clearance <;> rfl
  obtain ⟨id, name, role, status, clearance, bio, persona⟩ := contact
  have hRecord : (toJson ⟨id, name, role, status, clearance, bio, persona⟩).record? [["id"], ["name"],
      ["role"], ["status"], ["clearance"], ["bio"], ["personaPrompt"]] =
      some [some (.text id), some (.text name), some (.text role), some (.text status.code),
        some (.text clearance.code), some (.text bio), some (.text persona)] := rfl
  simp [ofJson?, hRecord, Json.required, Json.optional, Json.asText?, hStatus, hClearance]

end Contact

theorem Entries.fields_cons (key : String) (node : Node) (rest : Entries) :
    (cons key node rest).fields = (key, node.toJson) :: rest.fields := by
  cases node <;> rfl

theorem Entries.fieldsDepth_le_iff {entries : Entries} {levels : Nat} :
    Json.fieldsDepth entries.fields ≤ levels ↔
      ∀ key node, (key, node) ∈ entries.toList → node.toJson.depth ≤ levels := by
  induction entries using consInduction with
  | nil => simp [fields, toList, Json.fieldsDepth]
  | cons key node rest ih =>
      rw [fields_cons, Json.fieldsDepth, Nat.max_le, ih, toList_cons]
      simp [or_imp, forall_and]

theorem Entries.fieldsSound_fields (entries : Entries) : Json.fieldsSound entries.fields = true := by
  induction entries with
  | nil => rfl
  | file key f rest ih =>
      obtain ⟨name, content, readOnly⟩ := f
      cases readOnly <;> simp [fields, File.fields, Json.fieldsSound, Json.isSound, ih]
  | dir key name children rest ihChildren ihRest =>
      simp [fields, Json.fieldsSound, Json.isSound, ihChildren, ihRest]

namespace Directory

variable {readNode : Json → Option Node}

/-- Written entries are added to those found before, and hide them where the keys are the
same. -/
theorem exists_entriesOf? {entries : Entries} (found : Entries) (hOrdered : entries.Ordered)
    (hRead : ∀ key node, (key, node) ∈ entries.toList → readNode node.toJson = some node) :
    ∃ read, entriesOf? readNode found entries.fields = some read ∧
      ∀ key, read.find? key = (entries.find? key).or (found.find? key) := by
  induction entries using Entries.consInduction generalizing found with
  | nil => exact ⟨found, rfl, fun key => rfl⟩
  | cons key node rest ih =>
      rw [Entries.toList_cons] at hRead
      have hNode := hRead key node List.mem_cons_self
      have hLater := fun key node hMem => hRead key node (List.mem_cons_of_mem _ hMem)
      obtain ⟨read, hEntries, hFind⟩ :=
        ih (found.insert key node) (Entries.ordered_cons.mp hOrdered).2.2 hLater
      refine ⟨read, ?_, fun wanted => ?_⟩
      · rw [Entries.fields_cons, entriesOf?, hNode]
        exact hEntries
      · rw [hFind, Entries.find?_insert, Entries.find?_cons]
        split
        · next hSame => rw [← hSame, hOrdered.find?_rest, Option.none_or, Option.some_or]
        · rfl

/-- The fields of a directory are read as that directory, if its nodes are. -/
theorem ofJson?_fields {d : Directory} (hOrdered : d.entries.Ordered)
    (hNodes : ∀ value node, readNode value = some node → node.Ordered)
    (hRead : ∀ key node, (key, node) ∈ d.entries.toList → readNode node.toJson = some node) :
    ofJson? readNode (.object d.fields) = some d := by
  obtain ⟨name, entries⟩ := d
  obtain ⟨read, hEntries, hFind⟩ := exists_entriesOf? .nil hOrdered hRead
  have hNil : Entries.nil.Ordered := trivial
  have hSame : read = entries := by
    refine (ordered_of_entriesOf? hNodes hNil hEntries).ext hOrdered fun key => ?_
    rw [hFind, Entries.find?_nil, Option.or_none]
  have hRecord : (Json.object (fields ⟨name, entries⟩)).record? [["name"], ["children"]] =
      some [some (.text name), some (.object entries.fields)] := rfl
  simp [ofJson?, hRecord, Json.required, Json.optional, Json.asText?, hEntries, hSame]

end Directory

namespace Node

/-- Nothing in a written node is out of range or unpaired. -/
theorem isSound_toJson (node : Node) : node.toJson.isSound = true := by
  have hSound := Entries.fieldsSound_fields (.cons "" node .nil)
  rw [Entries.fields_cons, Json.fieldsSound, Bool.and_eq_true] at hSound
  exact hSound.1

theorem depth_file (f : File) : (file f).toJson.depth = 1 := by
  obtain ⟨name, content, readOnly⟩ := f
  cases readOnly <;> rfl

theorem depth_dir (d : Directory) :
    (dir d).toJson.depth = 2 + Json.fieldsDepth d.entries.fields := by
  simp [toJson, Directory.fields, Json.depth, Json.fieldsDepth]
  omega

theorem untag?_file (f : File) : untag? (file f).toJson = some (.text "FILE", .object f.fields) := by
  obtain ⟨name, content, readOnly⟩ := f
  cases readOnly <;> rfl

theorem untag?_dir (d : Directory) : untag? (dir d).toJson = some (.text "DIR", .object d.fields) :=
  rfl

/-- A node is read back where there is room for all that nests in it. -/
theorem ofJson?_toJson {levels : Nat} {node : Node} (hOrdered : node.Ordered)
    (hDepth : node.toJson.depth ≤ levels) (inner : Bool) :
    ofJson? (levels + 1) inner node.toJson = some node := by
  induction levels generalizing node inner with
  | zero =>
      cases node with
      | file f => rw [depth_file] at hDepth; omega
      | dir d => rw [depth_dir] at hDepth; omega
  | succ levels ih =>
      cases node with
      | file f =>
          rw [ofJson?, untag?_file]
          simp only [kind?, File.ofJson?_fields, Option.map_some]
      | dir d =>
          have hChildren : ∀ key child, (key, child) ∈ d.entries.toList →
              ofJson? (levels + 1) true child.toJson = some child := by
            intro key child hMem
            have hChild : child.Ordered :=
              Entries.Ordered.of_find? hOrdered (Entries.Ordered.find?_of_mem_toList hOrdered hMem)
            rw [depth_dir] at hDepth
            have hBelow := Entries.fieldsDepth_le_iff.mp (Nat.le_refl _) key child hMem
            exact ih hChild (by omega) true
          rw [ofJson?, untag?_dir]
          simp only [kind?]
          rw [Directory.ofJson?_fields hOrdered (fun _ _ hNode => ordered_of_ofJson? hNode) hChildren,
            Option.map_some]

/-- A node that is read whole is read as it was written. -/
theorem ofWhole?_toJson {levels : Nat} {node : Node} (hOrdered : node.Ordered)
    (hDepth : node.toJson.depth ≤ levels) : ofWhole? levels node.toJson = some node := by
  rw [ofWhole?, isSound_toJson, Bool.true_and, decide_eq_true hDepth, if_pos rfl]
  exact ofJson?_toJson hOrdered hDepth false

end Node

/-! From a document to the depth of its seed. -/

namespace Node

/-- The type of a node stands in a container, and the rest of its record nests
no deeper. -/
theorem depth_of_untag? {value tag record : Json} (h : untag? value = some (tag, record)) :
    record.depth ≤ value.depth := by
  rw [untag?.eq_def] at h
  split at h
  · next fields =>
      split at h
      · cases h
        have hFilter : Json.fieldsDepth (fields.filter (·.1 ≠ "type")) ≤ Json.fieldsDepth fields := by
          rw [Json.fieldsDepth_le_iff]
          intro field hField
          exact Json.fieldsDepth_le_iff.mp (Nat.le_refl _) field (List.mem_of_mem_filter hField)
        rw [Json.depth, Json.depth]
        omega
      · cases h
  · cases h
    rw [Json.depth, Json.depth, Json.itemsDepth]
    omega
  · cases h

end Node

namespace Directory

variable {readNode : Json → Option Node}

/-- Entries are no deeper than the nodes that are read from their fields. -/
theorem depth_of_entriesOf? {fields : List (String × Json)} {found entries : Entries} {levels : Nat}
    (hFound : Json.fieldsDepth found.fields ≤ levels)
    (hRead : ∀ field ∈ fields, ∀ node, readNode field.2 = some node → node.toJson.depth ≤ levels)
    (h : entriesOf? readNode found fields = some entries) :
    Json.fieldsDepth entries.fields ≤ levels := by
  induction fields generalizing found with
  | nil =>
      cases h
      exact hFound
  | cons field rest ih =>
      obtain ⟨key, value⟩ := field
      rw [List.forall_mem_cons] at hRead
      rw [entriesOf?] at h
      split at h
      · next node hNode =>
          refine ih ?_ hRead.2 h
          rw [Entries.fieldsDepth_le_iff] at hFound ⊢
          intro k m hMem
          rcases Entries.mem_toList_insert hMem with ⟨_, rfl⟩ | hOld
          · exact hRead.1 _ hNode
          · exact hFound k m hOld
      · cases h

/-- The entries of a directory that was read nest as deep as the nodes that
were read for them; without any, only the directory itself is a container. -/
theorem depth_of_ofJson? {value : Json} {d : Directory} {grow : Nat → Nat}
    (hGrow : Monotone grow)
    (hRead : ∀ value node, readNode value = some node → node.toJson.depth ≤ grow value.depth)
    (h : ofJson? readNode value = some d) :
    1 ≤ value.depth ∧ (d.entries = .nil ∨
      ∃ levels, levels + 2 ≤ value.depth ∧ Json.fieldsDepth d.entries.fields ≤ grow levels) := by
  rw [ofJson?] at h
  split at h
  · next name children hFields =>
      obtain ⟨hValue, hParts⟩ := Json.depth_of_record? hFields
      refine ⟨hValue, ?_⟩
      simp only [Option.bind_eq_bind, Option.bind_eq_some_iff] at h
      obtain ⟨name, _, entries, hEntries, hSame⟩ := h
      cases hSame
      cases children with
      | none =>
          cases hEntries
          exact .inl rfl
      | some children =>
          have hPart := hParts children (by simp)
          rw [Json.optional] at hEntries
          split at hEntries
          · next fields =>
              rw [Json.depth] at hPart
              refine .inr ⟨Json.fieldsDepth fields, by omega, ?_⟩
              have hNil : Json.fieldsDepth Entries.nil.fields ≤ grow (Json.fieldsDepth fields) :=
                Nat.zero_le _
              refine depth_of_entriesOf? hNil ?_ hEntries
              intro field hField node hNode
              have hField := Json.fieldsDepth_le_iff.mp (Nat.le_refl _) field hField
              exact (hRead _ _ hNode).trans (hGrow hField)
          · cases hEntries
  · cases h

end Directory

namespace Node

/-- An even number of levels, just enough for so many. -/
def evenLevels (levels : Nat) : Nat :=
  2 * ((levels + 1) / 2)

theorem monotone_evenLevels : Monotone evenLevels := by
  intro a b h
  unfold evenLevels
  omega

/-- A node that was read nests no deeper than the value that it was read from,
but for one level where that leaves out the children of an innermost directory. -/
theorem depth_of_ofJson? {levels : Nat} {inner : Bool} {value : Json} {node : Node}
    (h : ofJson? levels inner value = some node) : node.toJson.depth ≤ evenLevels value.depth := by
  induction levels generalizing inner value node with
  | zero => cases h
  | succ levels ih =>
      rw [ofJson?] at h
      split at h
      · next tag record hTag =>
          have hRecord := depth_of_untag? hTag
          split at h
          · obtain ⟨f, hFile, rfl⟩ := Option.map_eq_some_iff.mp h
            have hValue : 1 ≤ record.depth := by
              rw [File.ofJson?] at hFile
              split at hFile
              · next hFields => exact (Json.depth_of_record? hFields).1
              · cases hFile
            rw [depth_file, evenLevels]
            omega
          · obtain ⟨d, hDirectory, rfl⟩ := Option.map_eq_some_iff.mp h
            obtain ⟨hValue, hEntries⟩ :=
              Directory.depth_of_ofJson? monotone_evenLevels (fun _ _ hNode => ih hNode) hDirectory
            rw [depth_dir]
            rcases hEntries with hNil | ⟨below, hBelow, hDepth⟩
            · rw [hNil, Entries.fields, Json.fieldsDepth, evenLevels]
              omega
            · unfold evenLevels at hDepth ⊢
              omega
          · cases h
      · cases h

end Node

namespace Seed

/-- A seed is within the limit if and only if its entries leave room for what stands
around them. -/
theorem depth_toJson (seed : Seed) :
    seed.toJson.depth ≤ nestingLimit ↔ Json.fieldsDepth seed.tree.entries.fields ≤ nestingLimit - 3 := by
  have hContacts : Json.itemsDepth (seed.contacts.map Contact.toJson) ≤ 1 := by
    rw [Json.itemsDepth_le_iff]
    intro item hItem
    obtain ⟨contact, _, rfl⟩ := List.mem_map.mp hItem
    exact Nat.le_refl 1
  simp only [toJson, Directory.fields, Json.depth, Json.fieldsDepth, nestingLimit]
  omega

/-- The tree of a seed is read as it was written, if its entries are in order and it is
not too deep. -/
theorem ofJson?_toJson {seed : Seed} (hOrdered : seed.tree.entries.Ordered)
    (hDepth : seed.toJson.depth ≤ nestingLimit) : ofJson? seed.toJson = some seed := by
  rw [depth_toJson, Entries.fieldsDepth_le_iff] at hDepth
  have hTree : Directory.ofJson? (Node.ofWhole? (nestingLimit - 3)) (.object seed.tree.fields) =
      some seed.tree := by
    refine Directory.ofJson?_fields hOrdered (fun _ _ hNode => Node.ordered_of_ofWhole? hNode) ?_
    intro key node hMem
    exact Node.ofWhole?_toJson (hOrdered.of_find? (hOrdered.find?_of_mem_toList hMem))
      (hDepth key node hMem)
  have hContacts := Json.asList?_map Contact.ofJson?_toJson seed.contacts
  have hRecord : seed.toJson.record? [["filesystem"], ["contacts"]] =
      some [some (.object seed.tree.fields), some (.array (seed.contacts.map Contact.toJson))] := rfl
  simp [ofJson?, hRecord, Json.required, Json.optional, hTree, hContacts]

/-- What is read as a seed can be written within the limit. -/
theorem depth_of_ofJson? {value : Json} {seed : Seed} (h : ofJson? value = some seed) :
    seed.toJson.depth ≤ nestingLimit := by
  have hWhole : ∀ value node, Node.ofWhole? (nestingLimit - 3) value = some node →
      node.toJson.depth ≤ nestingLimit - 3 := by
    intro value node hNode
    rw [Node.ofWhole?] at hNode
    split at hNode
    · next hValue =>
        rw [Bool.and_eq_true, decide_eq_true_eq] at hValue
        have hEven := Node.monotone_evenLevels hValue.2
        exact (Node.depth_of_ofJson? hNode).trans hEven
    · cases hNode
  rw [ofJson?] at h
  split at h
  · next tree contacts hFields =>
      simp only [Option.bind_eq_bind, Option.bind_eq_some_iff] at h
      obtain ⟨tree', hTree, contacts', _, hSame⟩ := h
      cases hSame
      rw [depth_toJson]
      cases tree with
      | none => cases hTree
      | some value =>
          have hGrow : Monotone fun _ : Nat => nestingLimit - 3 := monotone_const
          obtain ⟨_, hNil | ⟨below, _, hDepth⟩⟩ := Directory.depth_of_ofJson? hGrow hWhole hTree
          · rw [hNil]
            exact Nat.zero_le _
          · exact hDepth
  · cases h

/-- A seed in order and within the limit is read from its own document. -/
theorem read_toDocument {seed : Seed} (hOrdered : seed.tree.entries.Ordered)
    (hDepth : seed.toJson.depth ≤ nestingLimit) : read seed.toDocument = .ok seed := by
  rw [read, toDocument, Json.parse?_toText, Option.bind_some, ofJson?_toJson hOrdered hDepth]

/-- What is read from a document is within the limit, or it would not have been read. -/
theorem depth_of_read {document : String} {seed : Seed} (h : read document = .ok seed) :
    seed.toJson.depth ≤ nestingLimit := by
  rw [read] at h
  split at h
  · next found hFound =>
      cases h
      obtain ⟨value, _, hSeed⟩ := Option.bind_eq_some_iff.mp hFound
      exact depth_of_ofJson? hSeed
  · cases h

/-- The document of a seed is the text of its value, and it gives the seed back
if and only if the entries of the seed are in order and the value nests at most
as deep as the limit. Both hold of every seed that was read from a document,
however it was written; so its own document gives it again, and a session can
begin on the one if and only if it can begin on the other. -/
theorem toDocument_spec (seed : Seed) :
    Json.parse? seed.toDocument = some seed.toJson ∧
    (read seed.toDocument = .ok seed ↔
      seed.tree.entries.Ordered ∧ seed.toJson.depth ≤ nestingLimit) ∧
    ∀ document, read document = .ok seed →
      seed.toJson.depth ≤ nestingLimit ∧ read seed.toDocument = .ok seed ∧
        (read seed.toDocument).bind build = (read document).bind build := by
  refine ⟨Json.parse?_toText seed.toJson, ⟨fun h => ?_, fun h => ?_⟩, fun document h => ?_⟩
  · exact ⟨ordered_of_read h, depth_of_read h⟩
  · exact read_toDocument h.1 h.2
  · have hAgain := read_toDocument (ordered_of_read h) (depth_of_read h)
    exact ⟨depth_of_read h, hAgain, by rw [hAgain, h]⟩

/-- A document of arrays, with a key that comes twice, a second code for a
clearance, and an innermost directory that has no children written. -/
theorem toDocument_spec_arrays :
    let document := "[[\"root\", \x7b\"b\": [\"DIR\", \"b\"], \"a\": [\"FILE\", \"old\"], "
      ++ "\"a\": [\"FILE\", \"x\", \"\\u00e9\", true]\x7d], "
      ++ "[[\"AG-1\", \"Mercer\", \"Field\", \x7b\"BUSY\": null\x7d, \"OMEGA\"]]]"
    let tree : Directory := ⟨rootName, .file "a" ⟨"x", "é", true⟩ (.dir "b" "b" .nil .nil)⟩
    let seed : Seed := ⟨tree, [⟨"AG-1", "Mercer", "Field", .busy, .omega, "", ""⟩]⟩
    read document = .ok seed ∧ read seed.toDocument = .ok seed ∧ seed.toDocument ≠ document := by
  intro document tree seed
  have hRead : read document = .ok seed := by decide +kernel
  have hAgain := ((toDocument_spec seed).2.2 document hRead).2.1
  exact ⟨hRead, hAgain, by decide +kernel⟩

end Seed

end VirtualShell
