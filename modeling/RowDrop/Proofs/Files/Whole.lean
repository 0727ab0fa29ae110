import RowDrop.Proofs.Files.Formed

/-!
# Names that lead to nodes

In a tree that was prepared by edits and then changed by programs every name of a directory leads to
a node. So a node that is new stands under no name yet. Such trees are well formed, too
(`Tree.Reachable.sound`).
-/

namespace RowDrop

namespace Tree

/-- Every name of a directory leads to a node. -/
def Whole (tree : Tree) : Prop :=
  ∀ directory name inode, tree.child? directory name = some inode → inode < tree.nodes.length

variable {tree after : Tree} {inode directory directory' : Inode} {name name' : Name}
variable {content : Content} {mode : Nat} {path source target : Path} {place : Place}

theorem Whole.exists_node (whole : tree.Whole) (found : tree.child? directory name = some inode) :
    ∃ node, tree.node? inode = some node :=
  ⟨_, List.getElem?_eq_getElem (whole directory name inode found)⟩

theorem whole_fresh : fresh.Whole := by
  intro directory name inode found
  match directory with
  | 0 | 1 =>
    replace found : List.lookup name [(_, _)] = some inode := found
    simp only [List.lookup_cons, List.lookup_nil] at found
    split at found <;> cases found
    decide
  | 2 => cases found
  | _ + 3 => cases found

/-! ## Names and nodes -/

@[simp] theorem length_setNode (tree : Tree) (inode : Inode) (node : Node) :
    (tree.setNode inode node).nodes.length = tree.nodes.length := by
  simp [setNode]

@[simp] theorem length_setEntries (tree : Tree) (directory : Inode)
    (entries : List (Name × Inode)) :
    (tree.setEntries directory entries).nodes.length = tree.nodes.length := by
  unfold setEntries
  split
  · simp
  · rfl

@[simp] theorem length_setContent (tree : Tree) (inode : Inode) (content : Content) :
    (tree.setContent inode content).nodes.length = tree.nodes.length := by
  unfold setContent
  split
  · simp
  · rfl

@[simp] theorem length_setMode (tree : Tree) (inode : Inode) (mode : Nat) :
    (tree.setMode inode mode).nodes.length = tree.nodes.length := by
  unfold setMode
  split
  · simp
  · rfl

@[simp] theorem length_bind (tree : Tree) (directory inode : Inode) (name : Name) :
    (tree.bind directory name inode).nodes.length = tree.nodes.length :=
  length_setEntries tree directory _

@[simp] theorem length_unbind (tree : Tree) (directory : Inode) (name : Name) :
    (tree.unbind directory name).nodes.length = tree.nodes.length :=
  length_setEntries tree directory _

@[simp] theorem length_addNode (tree : Tree) (node : Node) :
    (tree.addNode node).2.nodes.length = tree.nodes.length + 1 := by
  simp [addNode]

/-- The names of the directories stay. -/
theorem Whole.of_directory? (whole : tree.Whole) (le : tree.nodes.length ≤ after.nodes.length)
    (same : ∀ other, after.directory? other = tree.directory? other) : after.Whole := by
  intro other name inode found
  have found' : tree.child? other name = some inode := by
    rwa [child?, entries, same] at found
  exact Nat.lt_of_lt_of_le (whole other name inode found') le

theorem Whole.setContent (whole : tree.Whole) : (tree.setContent inode content).Whole :=
  whole.of_directory? (by simp) fun _ => directory?_setContent

theorem Whole.setMode (whole : tree.Whole) : (tree.setMode inode mode).Whole :=
  whole.of_directory? (by simp) fun _ => directory?_setMode

/-- A name may be bound to any node. -/
theorem Whole.bind (whole : tree.Whole) (isDirectory : tree.isDirectory directory)
    (there : inode < tree.nodes.length) : (tree.bind directory name inode).Whole := by
  intro other wanted child found
  rw [length_bind]
  rw [child?_bind isDirectory] at found
  split at found
  · obtain rfl := Option.some.inj found
    exact there
  · exact whole other wanted child found

theorem Whole.unbind (whole : tree.Whole) (isDirectory : tree.isDirectory directory) :
    (tree.unbind directory name).Whole := by
  intro other wanted child found
  rw [length_unbind]
  rw [child?_unbind isDirectory] at found
  split at found
  · cases found
  · exact whole other wanted child found

/-- A new node brings no names. -/
theorem Whole.addNode {node : Node} (whole : tree.Whole)
    (bare : ∀ parent entries, node = .directory parent entries → entries = []) :
    (tree.addNode node).2.Whole := by
  intro other wanted child found
  rw [length_addNode]
  obtain ⟨parent, above⟩ := isDirectory_iff.mp (isDirectory_of_child? found)
  obtain ⟨names, node'⟩ := parent?_eq_some.mp above
  have listed : names.lookup wanted = some child := by
    rwa [child?, entries, directory?_eq_some.mpr node'] at found
  have small := lt_length_of_node? node'
  rw [length_addNode] at small
  rcases Nat.lt_succ_iff_lt_or_eq.mp small with old | rfl
  · rw [node?_addNode tree node old] at node'
    refine Nat.lt_succ_of_lt (whole other wanted child ?_)
    rwa [child?, entries, directory?_eq_some.mpr node']
  · rw [node?_addNode_self] at node'
    rw [bare parent names (Option.some.inj node')] at listed
    cases listed

/-- A directory is put below another one and keeps its names. -/
theorem child?_setNode_directory {parent other : Inode} {entries : List (Name × Inode)}
    (h : tree.node? inode = some (.directory parent entries)) :
    (tree.setNode inode (.directory directory entries)).child? other name
      = tree.child? other name := by
  unfold child? Tree.entries directory?
  rw [node?_setNode, if_pos (lt_length_of_node? h)]
  split_ifs with same
  · rw [← same, h]
    rfl
  · rfl

theorem Whole.moveEntry (whole : tree.Whole) (isDirectory : tree.isDirectory directory)
    (isDirectory' : tree.isDirectory directory') (there : inode < tree.nodes.length) :
    (tree.moveEntry inode directory name directory' name').Whole := by
  have first : tree.Keeps (tree.unbind directory name) := .setEntries isDirectory
  have moved : ((tree.unbind directory name).bind directory' name' inode).Whole :=
    (whole.unbind isDirectory).bind ((first.isDirectory directory').mpr isDirectory')
      (by rwa [length_unbind])
  unfold Tree.moveEntry
  dsimp only
  split
  case h_1 entries node =>
    intro other wanted child found
    rw [length_setNode]
    rw [child?_setNode_directory node] at found
    exact moved other wanted child found
  case h_2 => exact moved

/-! ## Calls -/

/-- A walk ends at a name of a node. -/
theorem Walked.child?_eq_some {here : Inode} {names : List Name} {purpose : Purpose} {links : Nat}
    (h : tree.Walked purpose links here names (.entry inode directory name)) :
    tree.child? directory name = some inode := by
  generalize ends : Place.entry inode directory name = place at h
  induction h with
  | done | free => cases ends
  | entry _ _ found =>
    obtain ⟨rfl, rfl, rfl⟩ := Place.entry.inj ends
    exact found
  | stay _ _ _ ih | up _ _ ih | down _ _ _ _ _ ih | jump _ _ _ _ _ ih => exact ih ends

theorem Whole.lt_of_locate {purpose : Purpose} (whole : tree.Whole)
    (located : tree.locate purpose path = .ok (.entry inode directory name)) :
    inode < tree.nodes.length :=
  whole directory name inode (walked_of_walk (locate_eq_ok.mp located).2).child?_eq_some

/-- A node that brings no names may be added under a name that is free. -/
theorem Whole.newNode {node : Node} (whole : tree.Whole) (isDirectory : tree.isDirectory directory)
    (bare : ∀ parent entries, node = .directory parent entries → entries = []) :
    ((tree.addNode node).2.bind directory name (tree.addNode node).1).Whole := by
  obtain ⟨parent, above⟩ := isDirectory_iff.mp isDirectory
  obtain ⟨entries, found⟩ := parent?_eq_some.mp above
  refine (whole.addNode bare).bind ?_ ?_
  · exact isDirectory_of_parent? (parent?_eq_some.mpr ⟨entries, node?_addNode_of_some found⟩)
  · simp [Tree.addNode]

theorem whole_createFile (whole : tree.Whole)
    (h : tree.createFile path mode = .ok (inode, after)) : after.Whole := by
  obtain ⟨directory, name, -, -, rfl⟩ | ⟨directory, name, located, rfl, rfl⟩ := createFile_cases h
  · exact whole.setContent
  · exact whole.newNode (isDirectory_of_locate located rfl) nofun

theorem whole_copyFile (whole : tree.Whole)
    (h : tree.copyFile source target = .ok (content, after)) : after.Whole := by
  obtain ⟨_, _, _, _, _, -, created, -, rfl⟩ := copyFile_cases h
  exact (whole_createFile whole created).setMode.setContent

theorem whole_renameFile (whole : tree.Whole)
    (h : tree.renameFile source target = .ok after) : after.Whole := by
  rw [renameFile, bind_eq_ok] at h
  obtain ⟨first, origin, h⟩ := h
  obtain ⟨second, located, h⟩ := bind_eq_ok.mp h
  cases first with
  | directory => cases h
  | free directory name =>
    cases second <;> cases h
  | entry inode directory name =>
    have moved (directory' : Inode) (name' : Name) (within : IsWithin directory' second) :
        (tree.moveEntry inode directory name directory' name').Whole :=
      whole.moveEntry (isDirectory_of_locate origin rfl) (isDirectory_of_locate located within)
        (whole.lt_of_locate origin)
    cases second with
    | directory => cases h
    | free directory' name' =>
      simp only at h
      split at h
      · cases h
      · obtain rfl := Except.ok.inj h
        exact moved directory' name' rfl
    | entry other directory' name' =>
      simp only at h
      split_ifs at h
      · obtain rfl := Except.ok.inj h
        exact whole
      · obtain rfl := Except.ok.inj h
        exact moved directory' name' rfl

/-! ## Edits -/

theorem whole_put (whole : tree.Whole) (path : Path) (content : Content) :
    (tree.put path content).Whole := by
  unfold put
  split
  case h_1 created => exact (whole_createFile whole created).setContent
  case h_2 => exact whole

theorem whole_appendTo (whole : tree.Whole) (path : Path) (bytes : List UInt8) :
    (tree.appendTo path bytes).Whole := by
  unfold appendTo
  split
  case h_1 => exact whole.setContent
  case h_2 => exact whole
  case h_3 => exact whole_put whole path _

theorem whole_addAt {node : Inode → Node} (whole : tree.Whole) (path : Path)
    (bare : ∀ directory parent entries, node directory = .directory parent entries →
      entries = []) :
    (tree.addAt path node).Whole := by
  unfold addAt
  split
  case h_1 directory name located =>
    exact whole.newNode (isDirectory_of_locate located rfl) (bare directory)
  case h_2 => exact whole

theorem whole_makeDirectories (whole : tree.Whole) (path : Path) :
    (tree.makeDirectories path).Whole := by
  unfold makeDirectories
  induction prefixes path generalizing tree with
  | nil => exact whole
  | cons first rest ih =>
    apply ih
    apply whole_addAt whole
    intro directory parent entries same
    exact (Node.directory.inj same).2.symm

theorem whole_makeLink (whole : tree.Whole) (target path : Path) :
    (tree.makeLink target path).Whole :=
  whole_addAt whole path nofun

theorem whole_makeHardLink (whole : tree.Whole) (target path : Path) :
    (tree.makeHardLink target path).Whole := by
  unfold makeHardLink
  split
  case h_1 origin located =>
    exact whole.bind (isDirectory_of_locate located rfl) (whole.lt_of_locate origin)
  case h_2 => exact whole

theorem whole_move (whole : tree.Whole) (source target : Path) :
    (tree.move source target).Whole := by
  unfold move
  split
  case h_1 moved => exact whole_renameFile whole moved
  case h_2 => exact whole

theorem whole_changeMode (whole : tree.Whole) (path : Path) (mode : Nat) :
    (tree.changeMode path mode).Whole := by
  unfold changeMode
  split
  case h_1 => exact whole.setMode
  case h_2 => exact whole

theorem whole_remove (whole : tree.Whole) (path : Path) : (tree.remove path).Whole := by
  unfold remove
  split
  case h_1 located => exact whole.unbind (isDirectory_of_locate located rfl)
  case h_2 => exact whole

theorem Whole.edit (whole : tree.Whole) (edit : Edit) : (tree.edit edit).Whole := by
  cases edit with
  | put path content => exact whole_put whole path content
  | appendTo path bytes => exact whole_appendTo whole path bytes
  | makeDirectories path => exact whole_makeDirectories whole path
  | makeLink target path => exact whole_makeLink whole target path
  | makeHardLink target path => exact whole_makeHardLink whole target path
  | move source target => exact whole_move whole source target
  | changeMode path mode => exact whole_changeMode whole path mode
  | remove path => exact whole_remove whole path

end Tree

/-! ## Programs -/

theorem World.whole_change {α : Type} {world : World} {result : Except IoError (α × Tree)}
    (whole : world.files.Whole)
    (kept : ∀ value files, result = .ok (value, files) → files.Whole) :
    (world.change result).2.files.Whole := by
  unfold change
  split
  case h_1 => exact kept _ _ rfl
  case h_2 => exact whole

theorem World.whole_reply {world : World} (whole : world.files.Whole) (call : Call) :
    (world.reply call).2.files.Whole := by
  cases call with
  | openFile | isFile | getObject | putObject | note => exact whole
  | copyFile source target =>
    apply World.whole_change whole
    intro copied files h
    exact Tree.whole_copyFile whole (ok_of_permitted h)
  | createFile path =>
    apply World.whole_change whole
    intro inode files h
    exact Tree.whole_createFile whole (ok_of_permitted h)
  | writeOpened inode content => exact whole.setContent
  | writeFile path content =>
    apply World.whole_change whole
    intro value files h
    obtain ⟨⟨inode, created⟩, creation, written⟩ := map_eq_ok.mp (ok_of_permitted h)
    obtain ⟨-, rfl⟩ := Prod.mk.inj written
    exact (Tree.whole_createFile whole creation).setContent
  | renameFile source target =>
    apply World.whole_change whole
    intro value files h
    obtain ⟨moved, renamed, same⟩ := map_eq_ok.mp h
    obtain ⟨-, rfl⟩ := Prod.mk.inj same
    exact Tree.whole_renameFile whole renamed

/-- In a tree where every name leads to a node a program leaves it so. -/
theorem Program.whole_run {α : Type} (program : Program α) {world : World}
    (whole : world.files.Whole) : (program.run world).2.files.Whole := by
  induction program generalizing world with
  | done value => exact whole
  | step call next ih => exact ih _ (World.whole_reply whole call)

/-- The trees that come up: the fresh one, and what edits and programs make of a tree that comes up,
whoever runs the programs and whatever the stores hold. -/
inductive Tree.Reachable : Tree → Prop
  | fresh : Reachable fresh
  | edit {tree : Tree} (reachable : Reachable tree) (edit : Edit) : Reachable (tree.edit edit)
  | run {α : Type} {world : World} (reachable : Reachable world.files) (program : Program α) :
      Reachable (program.run world).2.files

/-- A tree that comes up is well formed, and every name in it leads to a node. -/
theorem Tree.Reachable.sound {tree : Tree} (h : tree.Reachable) :
    tree.WellFormed ∧ tree.Whole := by
  induction h with
  | fresh => exact ⟨wellFormed_fresh, whole_fresh⟩
  | edit _ edit ih => exact ⟨ih.1.edit edit, ih.2.edit edit⟩
  | run _ program ih => exact ⟨program.wellFormed_run ih.1, program.whole_run ih.2⟩

end RowDrop
