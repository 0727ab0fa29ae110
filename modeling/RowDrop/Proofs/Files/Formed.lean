import RowDrop.Files.Edit
import RowDrop.Program
import RowDrop.Proofs.Files.Calls

/-!
# The trees that come up

A tree is well formed at the beginning (`wellFormed_fresh`), and neither an edit
(`WellFormed.edit`) nor a call makes it lose this, so no program does (`Program.wellFormed_run`),
whoever runs it.
-/

namespace RowDrop

namespace Tree

variable {tree after : Tree} {here inode directory : Inode} {name : Name} {names : List Name}
variable {links : Nat} {purpose : Purpose} {place : Place} {path source target : Path}

theorem wellFormed_fresh : fresh.WellFormed where
  root := rfl
  workdir := rfl
  parent inode parent above := by
    match inode with
    | 0 | 1 | 2 =>
      obtain rfl := Option.some.inj above
      rfl
    | _ + 3 => cases above

/-! ## Places -/

/-- The directory in which a place is found. -/
def IsWithin (directory : Inode) : Place → Prop
  | .directory _ => False
  | .entry _ directory' _ | .free directory' _ => directory' = directory

/-- A name is found in a directory, or found free in one. -/
theorem Walked.isDirectory_of_within (h : tree.Walked purpose links here names place)
    (within : IsWithin directory place) : tree.isDirectory directory := by
  induction h with
  | done => cases within
  | free isDirectory =>
    obtain rfl := within
    exact isDirectory
  | entry _ _ found =>
    obtain rfl := within
    exact isDirectory_of_child? found
  | stay _ _ _ ih | up _ _ ih | down _ _ _ _ _ ih | jump _ _ _ _ _ ih => exact ih within

theorem isDirectory_of_locate (located : tree.locate purpose path = .ok place)
    (within : IsWithin directory place) : tree.isDirectory directory :=
  (walked_of_walk (locate_eq_ok.mp located).2).isDirectory_of_within within

/-! ## Names and nodes -/

theorem Keeps.ofEntries (tree : Tree) (directory : Inode) (entries : List (Name × Inode)) :
    tree.Keeps (tree.setEntries directory entries) := by
  by_cases isDirectory : tree.isDirectory directory
  · exact .setEntries isDirectory
  · have same : tree.setEntries directory entries = tree := by
      unfold Tree.setEntries
      split
      case h_1 node =>
        have above := parent?_eq_some.mpr ⟨_, node⟩
        exact absurd (isDirectory_of_parent? above) isDirectory
      case h_2 => rfl
    rw [same]
    exact .refl tree

theorem WellFormed.addNode (formed : tree.WellFormed) (node : Node)
    (above : ∀ parent entries, node = .directory parent entries → tree.isDirectory parent) :
    (tree.addNode node).2.WellFormed := by
  have keeps : ∀ inode, tree.isDirectory inode → (tree.addNode node).2.isDirectory inode := by
    intro inode isDirectory
    obtain ⟨parent, above⟩ := isDirectory_iff.mp isDirectory
    obtain ⟨entries, old⟩ := parent?_eq_some.mp above
    exact isDirectory_of_parent? (parent?_eq_some.mpr ⟨entries, node?_addNode_of_some old⟩)
  refine ⟨keeps _ formed.root, keeps _ formed.workdir, ?_⟩
  intro inode parent added
  obtain ⟨entries, found⟩ := parent?_eq_some.mp added
  apply keeps
  rcases Nat.lt_trichotomy inode tree.nodes.length with old | rfl | beyond
  · rw [node?_addNode tree node old] at found
    exact formed.parent inode parent (parent?_eq_some.mpr ⟨entries, found⟩)
  · rw [node?_addNode_self] at found
    exact above parent entries (Option.some.inj found)
  · have short := lt_length_of_node? found
    simp only [Tree.addNode, List.length_append, List.length_singleton] at short
    exact absurd beyond (Nat.not_lt.mpr (Nat.lt_succ_iff.mp short))

/-- A directory may be put below any other one. -/
theorem WellFormed.setDirectory {parent : Inode} {old entries : List (Name × Inode)}
    (formed : tree.WellFormed) (found : tree.node? inode = some (.directory parent old))
    (isDirectory : tree.isDirectory directory) :
    (tree.setNode inode (.directory directory entries)).WellFormed := by
  have node (other : Inode) : (tree.setNode inode (.directory directory entries)).node? other =
      if inode = other then some (.directory directory entries) else tree.node? other := by
    rw [node?_setNode, if_pos (lt_length_of_node? found)]
  have keeps : ∀ other, tree.isDirectory other →
      (tree.setNode inode (.directory directory entries)).isDirectory other := by
    intro other isDirectory
    obtain ⟨parent', above⟩ := isDirectory_iff.mp isDirectory
    obtain ⟨entries', old⟩ := parent?_eq_some.mp above
    by_cases same : inode = other
    · have new := (node other).trans (if_pos same)
      exact isDirectory_of_parent? (parent?_eq_some.mpr ⟨_, new⟩)
    · have kept := (node other).trans (if_neg same)
      exact isDirectory_of_parent? (parent?_eq_some.mpr ⟨_, kept.trans old⟩)
  refine ⟨keeps _ formed.root, keeps _ formed.workdir, ?_⟩
  intro other parent' above
  obtain ⟨entries', found'⟩ := parent?_eq_some.mp above
  apply keeps
  rw [node] at found'
  split_ifs at found' with same
  · obtain ⟨rfl, -⟩ := Node.directory.inj (Option.some.inj found')
    exact isDirectory
  · exact formed.parent other parent' (parent?_eq_some.mpr ⟨entries', found'⟩)

theorem WellFormed.moveEntry {directory' : Inode} {name' : Name} (formed : tree.WellFormed)
    (isDirectory : tree.isDirectory directory') :
    (tree.moveEntry inode directory name directory' name').WellFormed := by
  have first : tree.Keeps (tree.unbind directory name) := .ofEntries tree directory _
  have keeps : tree.Keeps ((tree.unbind directory name).bind directory' name' inode) :=
    first.trans (.ofEntries _ directory' _)
  unfold Tree.moveEntry
  dsimp only
  split
  case h_1 found =>
    exact (keeps.wellFormed formed).setDirectory found ((keeps.isDirectory _).mpr isDirectory)
  case h_2 => exact keeps.wellFormed formed

/-! ## Calls -/

theorem wellFormed_renameFile (formed : tree.WellFormed)
    (h : tree.renameFile source target = .ok after) : after.WellFormed := by
  rw [renameFile, bind_eq_ok] at h
  obtain ⟨first, -, h⟩ := h
  obtain ⟨second, located, h⟩ := bind_eq_ok.mp h
  cases first with
  | directory => cases h
  | free directory name =>
    cases second <;> cases h
  | entry inode directory name =>
    cases second with
    | directory => cases h
    | free directory' name' =>
      simp only at h
      split at h
      · cases h
      · obtain rfl := Except.ok.inj h
        exact formed.moveEntry (isDirectory_of_locate located rfl)
    | entry other directory' name' =>
      simp only at h
      split_ifs at h
      · obtain rfl := Except.ok.inj h
        exact formed
      · obtain rfl := Except.ok.inj h
        exact formed.moveEntry (isDirectory_of_locate located rfl)

theorem wellFormed_createFile {mode : Nat} (formed : tree.WellFormed)
    (h : tree.createFile path mode = .ok (inode, after)) : after.WellFormed :=
  (grows_of_createFile h).wellFormed formed

/-! ## Edits -/

theorem wellFormed_put (formed : tree.WellFormed) (path : Path) (content : Content) :
    (tree.put path content).WellFormed := by
  unfold put
  split
  case h_1 created =>
    exact (Keeps.setContent _ _ _).wellFormed (wellFormed_createFile formed created)
  case h_2 => exact formed

theorem wellFormed_appendTo (formed : tree.WellFormed) (path : Path) (bytes : List UInt8) :
    (tree.appendTo path bytes).WellFormed := by
  unfold appendTo
  split
  case h_1 => exact (Keeps.setContent _ _ _).wellFormed formed
  case h_2 => exact formed
  case h_3 => exact wellFormed_put formed path _

/-- A node may be added if it is put below the directory in which it stands. -/
theorem wellFormed_addAt {node : Inode → Node} (formed : tree.WellFormed) (path : Path)
    (below : ∀ directory parent entries, node directory = .directory parent entries →
      parent = directory) :
    (tree.addAt path node).WellFormed := by
  unfold addAt
  split
  case h_1 directory name located =>
    have isDirectory := isDirectory_of_locate located rfl
    refine (Keeps.ofEntries _ _ _).wellFormed (formed.addNode _ ?_)
    intro parent entries same
    rw [below directory parent entries same]
    exact isDirectory
  case h_2 => exact formed

theorem wellFormed_makeDirectories (formed : tree.WellFormed) (path : Path) :
    (tree.makeDirectories path).WellFormed := by
  unfold makeDirectories
  induction prefixes path generalizing tree with
  | nil => exact formed
  | cons first rest ih =>
    apply ih
    apply wellFormed_addAt formed
    intro directory parent entries same
    exact (Node.directory.inj same).1.symm

theorem wellFormed_makeLink (formed : tree.WellFormed) (target path : Path) :
    (tree.makeLink target path).WellFormed := by
  apply wellFormed_addAt formed
  intro directory parent entries same
  cases same

theorem wellFormed_makeHardLink (formed : tree.WellFormed) (target path : Path) :
    (tree.makeHardLink target path).WellFormed := by
  unfold makeHardLink
  split
  case h_1 => exact (Keeps.ofEntries _ _ _).wellFormed formed
  case h_2 => exact formed

theorem wellFormed_move (formed : tree.WellFormed) (source target : Path) :
    (tree.move source target).WellFormed := by
  unfold move
  split
  case h_1 moved => exact wellFormed_renameFile formed moved
  case h_2 => exact formed

theorem wellFormed_changeMode (formed : tree.WellFormed) (path : Path) (mode : Nat) :
    (tree.changeMode path mode).WellFormed := by
  unfold changeMode
  split
  case h_1 => exact (Keeps.setMode _ _ _).wellFormed formed
  case h_2 => exact formed

theorem wellFormed_remove (formed : tree.WellFormed) (path : Path) :
    (tree.remove path).WellFormed := by
  unfold remove
  split
  case h_1 => exact (Keeps.ofEntries _ _ _).wellFormed formed
  case h_2 => exact formed

theorem WellFormed.edit (formed : tree.WellFormed) (edit : Edit) : (tree.edit edit).WellFormed := by
  cases edit with
  | put path content => exact wellFormed_put formed path content
  | appendTo path bytes => exact wellFormed_appendTo formed path bytes
  | makeDirectories path => exact wellFormed_makeDirectories formed path
  | makeLink target path => exact wellFormed_makeLink formed target path
  | makeHardLink target path => exact wellFormed_makeHardLink formed target path
  | move source target => exact wellFormed_move formed source target
  | changeMode path mode => exact wellFormed_changeMode formed path mode
  | remove path => exact wellFormed_remove formed path

end Tree

/-! ## Programs -/

theorem World.wellFormed_change {α : Type} {world : World} {result : Except IoError (α × Tree)}
    (formed : world.files.WellFormed)
    (kept : ∀ value files, result = .ok (value, files) → files.WellFormed) :
    (world.change result).2.files.WellFormed := by
  unfold change
  split
  case h_1 => exact kept _ _ rfl
  case h_2 => exact formed

/-- What a step that is not refused gives. -/
theorem ok_of_permitted {α : Type} {refused : Bool} {result : Except IoError α} {value : α}
    (h : permitted refused result = .ok value) : result = .ok value := by
  cases refused with
  | true => cases h
  | false => exact h

theorem World.wellFormed_reply {world : World} (formed : world.files.WellFormed) (call : Call) :
    (world.reply call).2.files.WellFormed := by
  cases call with
  | openFile | isFile | getObject | putObject | note => exact formed
  | copyFile source target =>
    apply World.wellFormed_change formed
    intro copied files h
    exact (Tree.grows_of_copyFile (ok_of_permitted h)).wellFormed formed
  | createFile path =>
    apply World.wellFormed_change formed
    intro inode files h
    exact Tree.wellFormed_createFile formed (ok_of_permitted h)
  | writeOpened inode content => exact (Tree.Keeps.setContent _ _ _).wellFormed formed
  | writeFile path content =>
    apply World.wellFormed_change formed
    intro value files h
    obtain ⟨⟨inode, created⟩, creation, written⟩ := map_eq_ok.mp (ok_of_permitted h)
    obtain ⟨-, rfl⟩ := Prod.mk.inj written
    exact (Tree.Keeps.setContent _ _ _).wellFormed (Tree.wellFormed_createFile formed creation)
  | renameFile source target =>
    apply World.wellFormed_change formed
    intro value files h
    obtain ⟨moved, renamed, same⟩ := map_eq_ok.mp h
    obtain ⟨-, rfl⟩ := Prod.mk.inj same
    exact Tree.wellFormed_renameFile formed renamed

/-- A program leaves a well-formed tree well formed. -/
theorem Program.wellFormed_run {α : Type} (program : Program α) {world : World}
    (formed : world.files.WellFormed) : (program.run world).2.files.WellFormed := by
  induction program generalizing world with
  | done value => exact formed
  | step call next ih => exact ih _ (World.wellFormed_reply formed call)

end RowDrop
