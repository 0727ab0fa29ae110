import RowDrop.Proofs.Files.Walking

/-!
# What stays in a tree

No call takes a node away or makes another kind of node of it (`Tree.Keeps`), and writing files
only adds names (`Tree.Grows`). What names lead to stays as long as no name on the way changes
(`Leads.transfer`); in a tree that grew, everything that was found is found again (`Leads.grows`).
-/

namespace RowDrop.Tree

/-- Every node stays, of the same kind; directories stay where they are, and links lead on. -/
structure Keeps (tree after : Tree) : Prop where
  workdir : after.workdir = tree.workdir
  parent? : ∀ inode, after.parent? inode = tree.parent? inode
  file : ∀ inode, (tree.file? inode).isSome → (after.file? inode).isSome
  link : ∀ inode target,
    tree.node? inode = some (.link target) → after.node? inode = some (.link target)

/-- A name that leads to a node goes on leading to it. -/
def KeepsName (tree after : Tree) (directory : Inode) (name : Name) : Prop :=
  ∀ inode, tree.child? directory name = some inode → after.child? directory name = some inode

/-- Every node stays, and so does every name. -/
structure Grows (tree after : Tree) : Prop extends Keeps tree after where
  names : ∀ directory name, tree.KeepsName after directory name

variable {tree middle after : Tree} {here inode directory : Inode} {name : Name}
variable {names : List Name} {used : Nat} {content : Content} {mode : Nat}

namespace Keeps

theorem refl (tree : Tree) : tree.Keeps tree :=
  ⟨rfl, fun _ => rfl, fun _ file => file, fun _ _ link => link⟩

theorem trans (first : tree.Keeps middle) (second : middle.Keeps after) : tree.Keeps after where
  workdir := second.workdir.trans first.workdir
  parent? inode := (second.parent? inode).trans (first.parent? inode)
  file inode file := second.file inode (first.file inode file)
  link inode target link := second.link inode target (first.link inode target link)

theorem isDirectory (keeps : tree.Keeps after) (inode : Inode) :
    after.isDirectory inode ↔ tree.isDirectory inode := by
  rw [isDirectory_iff, isDirectory_iff, keeps.parent?]

theorem isPlain (keeps : tree.Keeps after) (h : tree.IsPlain inode) : after.IsPlain inode :=
  h.imp (keeps.isDirectory inode).mpr (keeps.file inode)

theorem wellFormed (keeps : tree.Keeps after) (formed : tree.WellFormed) : after.WellFormed where
  root := (keeps.isDirectory root).mpr formed.root
  workdir := by
    rw [keeps.workdir]
    exact (keeps.isDirectory _).mpr formed.workdir
  parent inode parent above := by
    rw [keeps.parent?] at above
    exact (keeps.isDirectory parent).mpr (formed.parent inode parent above)

theorem setContent (tree : Tree) (inode : Inode) (content : Content) :
    tree.Keeps (tree.setContent inode content) where
  workdir := workdir_setContent
  parent? _ := by simp [Tree.parent?]
  file other file := by
    by_cases same : inode = other
    · subst same
      obtain ⟨⟨old, mode⟩, found⟩ := Option.isSome_iff_exists.mp file
      simp [file?_setContent found]
    · rwa [file?_setContent_of_ne same]
  link other target link := by
    by_cases same : inode = other
    · subst same
      rwa [Tree.setContent, not_file?_of_link link]
    · rwa [node?_setContent_of_ne same]

theorem setMode (tree : Tree) (inode : Inode) (mode : Nat) :
    tree.Keeps (tree.setMode inode mode) where
  workdir := workdir_setMode
  parent? _ := by simp [Tree.parent?]
  file other file := by
    by_cases same : inode = other
    · subst same
      obtain ⟨⟨content, old⟩, found⟩ := Option.isSome_iff_exists.mp file
      simp [file?_setMode found]
    · rwa [file?_setMode_of_ne same]
  link other target link := by
    by_cases same : inode = other
    · subst same
      rwa [Tree.setMode, not_file?_of_link link]
    · rwa [node?_setMode_of_ne same]

theorem addFile (tree : Tree) (content : Content) (mode : Nat) :
    tree.Keeps (tree.addNode (.file content mode)).2 where
  workdir := rfl
  parent? _ := by simp only [Tree.parent?, directory?_addNode_file]
  file inode file := by
    obtain ⟨content, mode, found⟩ := isSome_file?.mp file
    exact isSome_file?.mpr ⟨content, mode, node?_addNode_of_some found⟩
  link inode target link := node?_addNode_of_some link

theorem setEntries {entries : List (Name × Inode)} (h : tree.isDirectory directory) :
    tree.Keeps (tree.setEntries directory entries) where
  workdir := workdir_setEntries
  parent? _ := parent?_setEntries h
  file inode file := by
    obtain ⟨content, mode, found⟩ := isSome_file?.mp file
    exact isSome_file?.mpr ⟨content, mode, node?_setEntries_of_file found⟩
  link inode target link := node?_setEntries_of_link link

end Keeps

namespace Grows

theorem trans (first : tree.Grows middle) (second : middle.Grows after) : tree.Grows after where
  toKeeps := first.toKeeps.trans second.toKeeps
  names directory name inode found :=
    second.names directory name inode (first.names directory name inode found)

theorem setContent (tree : Tree) (inode : Inode) (content : Content) :
    tree.Grows (tree.setContent inode content) where
  toKeeps := .setContent tree inode content
  names _ _ _ found := by simpa [child?, entries] using found

theorem setMode (tree : Tree) (inode : Inode) (mode : Nat) :
    tree.Grows (tree.setMode inode mode) where
  toKeeps := .setMode tree inode mode
  names _ _ _ found := by simpa [child?, entries] using found

/-- A new file under a free name. -/
theorem newFile (isDirectory : tree.isDirectory directory)
    (free : tree.child? directory name = none) (content : Content) (mode : Nat) :
    tree.Grows ((tree.addNode (.file content mode)).2.bind directory name tree.nodes.length) := by
  have added := Keeps.addFile tree content mode
  have above := (added.isDirectory directory).mpr isDirectory
  refine ⟨added.trans (.setEntries above), ?_⟩
  intro other name' inode found
  have ne : ¬(directory = other ∧ name' = name) := by
    rintro ⟨rfl, rfl⟩
    rw [free] at found
    cases found
  rw [child?_bind above, if_neg ne]
  simpa only [child?, entries, directory?_addNode_file] using found

end Grows

namespace Leads

/-- Names lead where they led, unless a name on the way has changed. A name that led elsewhere
than to the end was not on the way, and the end is not reached again through fewer links. -/
theorem transfer (keeps : tree.Keeps after) (h : tree.Leads here names used inode)
    (kept : ∀ directory name, tree.KeepsName after directory name ∨
      ∀ rest links, links ≤ used → ¬tree.Leads directory (name :: rest) links inode) :
    after.Leads here names used inode := by
  induction h with
  | here => exact .here
  | stay isDirectory special _ ih =>
    exact .stay ((keeps.isDirectory _).mpr isDirectory) special (ih kept)
  | up above _ ih => exact .up ((keeps.parent? _).trans above) (ih kept)
  | down isName short found plain rest ih =>
    rcases kept _ _ with same | elsewhere
    · exact .down isName short (same _ found) (keeps.isPlain plain) (ih kept)
    · exact absurd (.down isName short found plain rest) (elsewhere _ _ (Nat.le_refl _))
  | jump isName short found link rest ih =>
    rcases kept _ _ with same | elsewhere
    · refine .jump isName short (same _ found) (keeps.link _ _ link) (ih ?_)
      intro directory name
      exact (kept directory name).imp_right fun elsewhere rest links le =>
        elsewhere rest links (Nat.le_succ_of_le le)
    · exact absurd (.jump isName short found link rest) (elsewhere _ _ (Nat.le_refl _))

theorem grows (h : tree.Leads here names used inode) (growth : tree.Grows after) :
    after.Leads here names used inode :=
  h.transfer growth.toKeeps fun directory name => .inl (growth.names directory name)

end Leads

end RowDrop.Tree
