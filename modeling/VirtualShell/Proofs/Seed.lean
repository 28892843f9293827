import VirtualShell.Proofs.Store.Entries
import VirtualShell.Seed.BuiltIn
import VirtualShell.Seed.Codec
/-!
The trees of seeds have their entries in order. A document may give entries in
any order and may give a key twice: reading puts each entry in its place among
those before, and so does building a tree by hand. Where a seed comes from one of
the two, it is kept together with the proof of that.
-/

namespace VirtualShell

namespace Directory

variable {readNode : Json → Option Node}

/-- Entries that are read one after the other are inserted in order. -/
theorem ordered_of_entriesOf? {fields : List (String × Json)} {found entries : Entries}
    (hNodes : ∀ value node, readNode value = some node → node.Ordered) (hFound : found.Ordered)
    (h : entriesOf? readNode found fields = some entries) : entries.Ordered := by
  induction fields generalizing found with
  | nil =>
      cases h
      exact hFound
  | cons field rest ih =>
      obtain ⟨key, value⟩ := field
      rw [entriesOf?] at h
      split at h
      · next node hNode => exact ih (hFound.insert key (hNodes value node hNode)) h
      · cases h

/-- A directory is read in order if its nodes are. -/
theorem ordered_of_ofJson? {value : Json} {d : Directory}
    (hNodes : ∀ value node, readNode value = some node → node.Ordered)
    (h : ofJson? readNode value = some d) : d.entries.Ordered := by
  rw [ofJson?] at h
  split at h
  · next name children hFields =>
      simp only [Option.bind_eq_bind, Option.bind_eq_some_iff] at h
      obtain ⟨name, _, entries, hEntries, hSame⟩ := h
      cases hSame
      cases children with
      | none =>
          cases hEntries
          trivial
      | some children =>
          rw [Json.optional] at hEntries
          split at hEntries
          · have hNil : Entries.nil.Ordered := trivial
            exact ordered_of_entriesOf? hNodes hNil hEntries
          · cases hEntries
  · cases h

/-- Adding a node to a directory keeps its entries in order. -/
theorem ordered_add {d : Directory} {node : Node} (hEntries : d.entries.Ordered)
    (hNode : node.Ordered) : (d.add node).entries.Ordered :=
  hEntries.insert node.name hNode

end Directory

namespace Node

/-- Every node is read in order, to whatever depth. -/
theorem ordered_of_ofJson? {levels : Nat} {inner : Bool} {value : Json} {node : Node}
    (h : ofJson? levels inner value = some node) : node.Ordered := by
  induction levels generalizing inner value node with
  | zero => cases h
  | succ levels ih =>
      rw [ofJson?] at h
      split at h
      · split at h
        · obtain ⟨f, _, rfl⟩ := Option.map_eq_some_iff.mp h
          trivial
        · obtain ⟨d, hDirectory, rfl⟩ := Option.map_eq_some_iff.mp h
          exact Directory.ordered_of_ofJson? (fun _ _ hChild => ih hChild) hDirectory
        · cases h
      · cases h

/-- A node that is read whole is read in order. -/
theorem ordered_of_ofWhole? {levels : Nat} {value : Json} {node : Node}
    (h : ofWhole? levels value = some node) : node.Ordered := by
  rw [ofWhole?] at h
  split at h
  · exact ordered_of_ofJson? h
  · cases h

end Node

namespace Seed

/-- The tree of a seed is read in order. -/
theorem ordered_of_ofJson? {value : Json} {seed : Seed} (h : ofJson? value = some seed) :
    seed.tree.entries.Ordered := by
  rw [ofJson?] at h
  split at h
  · next tree contacts hFields =>
      simp only [Option.bind_eq_bind, Option.bind_eq_some_iff] at h
      obtain ⟨tree', hTree, contacts', _, hSame⟩ := h
      cases hSame
      cases tree with
      | none => cases hTree
      | some value =>
          exact Directory.ordered_of_ofJson? (fun _ _ hNode => Node.ordered_of_ofWhole? hNode) hTree
  · cases h

/-- Whatever a document says, the entries of its seed are in order. -/
theorem ordered_of_read {document : String} {seed : Seed} (h : read document = .ok seed) :
    seed.tree.entries.Ordered := by
  rw [read] at h
  split at h
  · next found hFound =>
      cases h
      obtain ⟨value, _, hSeed⟩ := Option.bind_eq_some_iff.mp hFound
      exact ordered_of_ofJson? hSeed
  · cases h

end Seed

namespace Archive

variable {nodes : List Node}

/-- A directory that is put together of nodes has whatever an empty one has and no
node takes away. -/
theorem directory_induction {motive : Directory → Prop} (name : String) (nodes : List Node)
    (empty : motive { name })
    (add : ∀ d, motive d → ∀ node ∈ nodes, motive (d.add node)) : motive (directory name nodes) :=
  List.foldlRecOn nodes Directory.add empty add

theorem name_directory (name : String) (nodes : List Node) : (directory name nodes).name = name :=
  directory_induction (motive := fun d => d.name = name) name nodes rfl fun _ hd _ _ => hd

/-- Whatever order the nodes come in, the entries are in order. -/
theorem ordered_directory (name : String) (h : ∀ node ∈ nodes, node.Ordered) :
    (directory name nodes).entries.Ordered :=
  directory_induction (motive := fun d => d.entries.Ordered) name nodes trivial
    fun _ hd node hNode => Directory.ordered_add hd (h node hNode)

/-- The entries are found under the names of the nodes. -/
theorem wellFormed_directory (name : String)
    (h : ∀ node ∈ nodes, validName node.name = true ∧ node.WellFormed) :
    (directory name nodes).entries.WellFormed :=
  directory_induction (motive := fun d => d.entries.WellFormed) name nodes trivial
    fun _ hd node hNode => hd.insert rfl (h node hNode).1 (h node hNode).2

end Archive

namespace Seed

/-- The built-in tree is put together in this way at every depth. -/
theorem ordered_builtIn : builtIn.tree.entries.Ordered := by
  have hDocuments : Archive.documents.entries.Ordered :=
    Archive.ordered_directory _ (by simp [Node.Ordered])
  have hTheories : Archive.theories.entries.Ordered :=
    Archive.ordered_directory _ (by simp [Node.Ordered])
  refine Archive.ordered_directory _ ?_
  simp [Node.Ordered, hDocuments, hTheories, Archive.logs, Archive.directory, Entries.Ordered]

/-- The built-in tree may become a store. -/
theorem wellFormed_builtIn : builtIn.tree.WellFormed := by
  have hDocuments : Archive.documents.entries.WellFormed :=
    Archive.wellFormed_directory _ (by simp [Node.WellFormed, Node.name, Archive.protocol,
      Archive.shiftLog, validName])
  have hTheories : Archive.theories.entries.WellFormed :=
    Archive.wellFormed_directory _ (by simp [Node.WellFormed, Node.name, Archive.creatimatter,
      Archive.mysterial, Archive.origins, validName])
  have hLogs : Archive.logs.entries.WellFormed := trivial
  refine ⟨Archive.name_directory _ _, Archive.wellFormed_directory _ ?_⟩
  simp only [List.forall_mem_cons, Node.WellFormed]
  refine ⟨⟨?_, hDocuments⟩, ⟨?_, hLogs⟩, ⟨?_, trivial⟩, ⟨?_, hTheories⟩, List.forall_mem_nil _⟩ <;>
    simp [Node.name, Archive.documents, Archive.logs, Archive.manual, Archive.theories,
      Archive.name_directory, validName]

end Seed

/-- A seed whose entries are in order at every depth. -/
structure OrderedSeed extends Seed where
  ordered : tree.entries.Ordered

namespace OrderedSeed

/-- The seed that a document describes. -/
def ofRead {document : String} {seed : Seed} (h : Seed.read document = .ok seed) : OrderedSeed :=
  ⟨seed, Seed.ordered_of_read h⟩

/-- The seed that needs no document. -/
def builtIn : OrderedSeed :=
  ⟨Seed.builtIn, Seed.ordered_builtIn⟩

end OrderedSeed

end VirtualShell
