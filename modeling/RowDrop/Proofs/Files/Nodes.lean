import RowDrop.Proofs.Associations
import RowDrop.Files.Access

/-!
# What the calls change in a tree

Three views say all that is known about a tree: the directory above a directory, the node under a
name of a directory, and the contents of a file. For every way in which a tree is changed there is
one lemma for each view, so that later proofs never open the list of nodes.
-/

namespace RowDrop.Tree

/-- The directory above a directory. -/
def parent? (tree : Tree) (inode : Inode) : Option Inode := (tree.directory? inode).map (·.1)

/-- The node under a name of a directory. -/
def child? (tree : Tree) (directory : Inode) (name : Name) : Option Inode :=
  (tree.entries directory).lookup name

variable {tree : Tree} {inode other directory parent : Inode} {name name' : Name}
variable {content content' : Content} {mode mode' : Nat} {target : Path}

theorem directory?_eq_some {entries : List (Name × Inode)} :
    tree.directory? inode = some (parent, entries) ↔
      tree.node? inode = some (.directory parent entries) := by
  unfold directory?
  split <;> simp_all

theorem file?_eq_some :
    tree.file? inode = some (content, mode) ↔ tree.node? inode = some (.file content mode) := by
  unfold file?
  split <;> simp_all

theorem isSome_file? :
    (tree.file? inode).isSome ↔ ∃ content mode, tree.node? inode = some (.file content mode) := by
  simp only [Option.isSome_iff_exists, Prod.exists, file?_eq_some]

theorem parent?_eq_some :
    tree.parent? inode = some parent ↔
      ∃ entries, tree.node? inode = some (.directory parent entries) := by
  simp only [parent?, Option.map_eq_some_iff, Prod.exists, exists_and_right, exists_eq_right,
    directory?_eq_some]

theorem isDirectory_iff : tree.isDirectory inode ↔ ∃ parent, tree.parent? inode = some parent := by
  simp [isDirectory, parent?, Option.isSome_iff_exists]

theorem isDirectory_of_parent? (h : tree.parent? inode = some parent) : tree.isDirectory inode :=
  isDirectory_iff.mpr ⟨parent, h⟩

/-- Only directories have names. -/
theorem isDirectory_of_child? (h : tree.child? directory name = some inode) :
    tree.isDirectory directory := by
  unfold child? entries at h
  unfold isDirectory
  cases found : tree.directory? directory with
  | none => simp [found] at h
  | some _ => rfl

theorem not_isDirectory_of_file? (h : (tree.file? inode).isSome) : ¬tree.isDirectory inode := by
  obtain ⟨content, mode, node⟩ := isSome_file?.mp h
  simp [isDirectory, directory?, node]

theorem not_isDirectory_of_link (h : tree.node? inode = some (.link target)) :
    ¬tree.isDirectory inode := by
  simp [isDirectory, directory?, h]

theorem not_file?_of_link (h : tree.node? inode = some (.link target)) :
    tree.file? inode = none := by
  simp [file?, h]

theorem lt_length_of_node? {node : Node} (h : tree.node? inode = some node) :
    inode < tree.nodes.length :=
  (List.getElem?_eq_some_iff.mp h).1

/-! ## Rewriting a file -/

/-- A file is written over: the other views stay. -/
theorem node?_setNode_of_file {node : Node} (h : (tree.file? inode).isSome) :
    (tree.setNode inode node).node? other =
      if inode = other then some node else tree.node? other := by
  obtain ⟨content, mode, found⟩ := isSome_file?.mp h
  rw [node?_setNode, if_pos (lt_length_of_node? found)]

theorem directory?_setNode_file (h : (tree.file? inode).isSome) :
    (tree.setNode inode (.file content mode)).directory? other = tree.directory? other := by
  unfold directory?
  rw [node?_setNode_of_file h]
  by_cases same : inode = other
  · subst same
    obtain ⟨_, _, found⟩ := isSome_file?.mp h
    simp [found]
  · rw [if_neg same]

@[simp] theorem directory?_setContent :
    (tree.setContent inode content).directory? other = tree.directory? other := by
  unfold setContent
  split
  case h_1 found => exact directory?_setNode_file (Option.isSome_of_eq_some found)
  case h_2 => rfl

@[simp] theorem directory?_setMode :
    (tree.setMode inode mode).directory? other = tree.directory? other := by
  unfold setMode
  split
  case h_1 found => exact directory?_setNode_file (Option.isSome_of_eq_some found)
  case h_2 => rfl

@[simp] theorem workdir_setContent : (tree.setContent inode content).workdir = tree.workdir := by
  unfold setContent
  split <;> rfl

@[simp] theorem workdir_setMode : (tree.setMode inode mode).workdir = tree.workdir := by
  unfold setMode
  split <;> rfl

theorem file?_setContent (h : tree.file? inode = some (content', mode)) :
    (tree.setContent inode content).file? inode = some (content, mode) := by
  rw [setContent, h, file?_eq_some, node?_setNode_of_file (Option.isSome_of_eq_some h), if_pos rfl]

theorem file?_setMode (h : tree.file? inode = some (content, mode')) :
    (tree.setMode inode mode).file? inode = some (content, mode) := by
  rw [setMode, h, file?_eq_some, node?_setNode_of_file (Option.isSome_of_eq_some h), if_pos rfl]

theorem node?_setContent_of_ne (h : inode ≠ other) :
    (tree.setContent inode content).node? other = tree.node? other := by
  unfold setContent
  split
  · exact node?_setNode_of_ne _ _ h
  · rfl

theorem node?_setMode_of_ne (h : inode ≠ other) :
    (tree.setMode inode mode).node? other = tree.node? other := by
  unfold setMode
  split
  · exact node?_setNode_of_ne _ _ h
  · rfl

theorem file?_setContent_of_ne (h : inode ≠ other) :
    (tree.setContent inode content).file? other = tree.file? other := by
  simp only [file?, node?_setContent_of_ne h]

theorem file?_setMode_of_ne (h : inode ≠ other) :
    (tree.setMode inode mode).file? other = tree.file? other := by
  simp only [file?, node?_setMode_of_ne h]

/-! ## A new file -/

/-- The number of a new node is not in use. -/
theorem node?_length (tree : Tree) : tree.node? tree.nodes.length = none := by
  simp [node?]

theorem node?_addNode_self (tree : Tree) (node : Node) :
    (tree.addNode node).2.node? tree.nodes.length = some node := by
  simp [node?, addNode]

theorem node?_addNode_of_some {node old : Node} (h : tree.node? inode = some old) :
    (tree.addNode node).2.node? inode = some old := by
  rw [node?_addNode tree node (lt_length_of_node? h), h]

theorem directory?_addNode_file :
    (tree.addNode (.file content mode)).2.directory? inode = tree.directory? inode := by
  rcases Nat.lt_trichotomy inode tree.nodes.length with old | new | beyond
  · simp only [directory?, node?_addNode tree _ old]
  · subst new
    simp [directory?, node?_addNode_self, node?_length]
  · have before : tree.node? inode = none := List.getElem?_eq_none (Nat.le_of_lt beyond)
    have after : (tree.addNode (.file content mode)).2.node? inode = none := by
      apply List.getElem?_eq_none
      simp only [addNode, List.length_append, List.length_singleton]
      exact beyond
    simp only [directory?, before, after]

/-! ## Names -/

theorem directory?_setEntries {entries : List (Name × Inode)} (h : tree.isDirectory directory) :
    (tree.setEntries directory entries).directory? other =
      if directory = other then (tree.parent? other).map (·, entries)
      else tree.directory? other := by
  obtain ⟨parent, above⟩ := isDirectory_iff.mp h
  obtain ⟨old, node⟩ := parent?_eq_some.mp above
  have small := lt_length_of_node? node
  unfold setEntries
  rw [node]
  by_cases same : directory = other
  · subst same
    rw [if_pos rfl, above]
    simp [directory?, node?_setNode, small]
  · rw [if_neg same]
    simp only [directory?, node?_setNode_of_ne _ _ same]

theorem node?_setEntries_of_file {entries : List (Name × Inode)}
    (h : tree.node? inode = some (.file content mode)) :
    (tree.setEntries directory entries).node? inode = some (.file content mode) := by
  unfold setEntries
  split
  case h_1 node =>
    rw [node?_setNode_of_ne _ _ (by rintro rfl; simp [h] at node), h]
  case h_2 => exact h

theorem node?_setEntries_of_link {entries : List (Name × Inode)}
    (h : tree.node? inode = some (.link target)) :
    (tree.setEntries directory entries).node? inode = some (.link target) := by
  unfold setEntries
  split
  case h_1 node =>
    rw [node?_setNode_of_ne _ _ (by rintro rfl; simp [h] at node), h]
  case h_2 => exact h

@[simp] theorem workdir_setEntries {entries : List (Name × Inode)} :
    (tree.setEntries directory entries).workdir = tree.workdir := by
  unfold setEntries
  split <;> rfl

theorem parent?_setEntries {entries : List (Name × Inode)} (h : tree.isDirectory directory) :
    (tree.setEntries directory entries).parent? other = tree.parent? other := by
  rw [parent?, directory?_setEntries h]
  split
  · cases tree.parent? other <;> rfl
  · rfl

theorem child?_setEntries_self {entries : List (Name × Inode)} (h : tree.isDirectory directory) :
    (tree.setEntries directory entries).child? directory name = entries.lookup name := by
  obtain ⟨parent, above⟩ := isDirectory_iff.mp h
  simp [child?, Tree.entries, directory?_setEntries h, above]

theorem child?_setEntries_of_ne {entries : List (Name × Inode)} (h : tree.isDirectory directory)
    (ne : directory ≠ other) :
    (tree.setEntries directory entries).child? other name = tree.child? other name := by
  simp [child?, Tree.entries, directory?_setEntries h, ne]

/-- A name that is bound leads to its node, and every other name leads where it led. -/
theorem child?_bind (h : tree.isDirectory directory) :
    (tree.bind directory name inode).child? other name' =
      if directory = other ∧ name' = name then some inode else tree.child? other name' := by
  unfold bind
  by_cases same : directory = other
  · subst same
    rw [child?_setEntries_self h]
    by_cases there : (tree.entries directory).any (·.1 = name)
    · rw [if_pos there, Associations.lookup_replace]
      by_cases sought : name' = name
      · obtain ⟨entry, member, named⟩ := List.any_eq_true.mp there
        have found : (tree.entries directory).lookup name ≠ none := by
          rw [Ne, List.lookup_eq_none_iff]
          intro all
          simpa [of_decide_eq_true named] using all entry member
        obtain ⟨old, found⟩ := Option.ne_none_iff_exists'.mp found
        simp [sought, found]
      · simp [sought, child?]
    · rw [if_neg there, List.lookup_append]
      have free := Associations.lookup_eq_none_of_all _ there
      by_cases sought : name' = name
      · simp [sought, free]
      · simp [sought, beq_false_of_ne sought, child?, List.lookup_cons]
  · rw [child?_setEntries_of_ne h same, if_neg (fun both => same both.1)]

/-- A name that is taken out leads nowhere, and every other name leads where it led. -/
theorem child?_unbind (h : tree.isDirectory directory) :
    (tree.unbind directory name).child? other name' =
      if directory = other ∧ name' = name then none else tree.child? other name' := by
  unfold unbind
  by_cases same : directory = other
  · subst same
    rw [child?_setEntries_self h, Associations.lookup_without]
    simp [child?]
  · rw [child?_setEntries_of_ne h same, if_neg (fun both => same both.1)]

end RowDrop.Tree
