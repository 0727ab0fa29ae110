import RowDrop.Proofs.Files.Renaming
import RowDrop.Proofs.Files.Whole

/-!
# Names that are divided

Several programs work in one tree, and each of them has names of its own (`Division`). At the start
each of these names is free or stands for a regular file, and no two of them for the same one
(`Division.Sound`). As long as everyone keeps to the own names, the tree arises from the first one
by changes of files only (`Division.Arises`): directories and links stay, and so does what no name
of anyone stood for. Whoever changes the own names alone leaves the share of everyone else
(`Division.Changes.leaves`).
-/

namespace RowDrop

namespace Tree

variable {tree : Tree} {inode directory directory' : Inode} {name name' : Name}

theorem file?_of_isDirectory (h : tree.isDirectory inode) :
    tree.file? inode = none := by
  cases held : tree.file? inode with
  | none => rfl
  | some file => exact absurd h (not_isDirectory_of_file? (Option.isSome_of_eq_some held))

/-- Moving an entry that is no directory takes one name out and binds another one. -/
theorem moveEntry_eq (isDirectory : tree.isDirectory directory)
    (isDirectory' : tree.isDirectory directory') (plain : ¬tree.isDirectory inode) :
    tree.moveEntry inode directory name directory' name' =
      (tree.unbind directory name).bind directory' name' inode := by
  have first : tree.Keeps (tree.unbind directory name) := .setEntries isDirectory
  have keeps : tree.Keeps ((tree.unbind directory name).bind directory' name' inode) :=
    first.trans (.setEntries ((first.isDirectory directory').mpr isDirectory'))
  unfold moveEntry
  dsimp only
  split
  case h_1 node =>
    have above := isDirectory_of_parent? (parent?_eq_some.mpr ⟨_, node⟩)
    exact absurd ((keeps.isDirectory inode).mp above) plain
  case h_2 => rfl

theorem keeps_moveEntry (isDirectory : tree.isDirectory directory)
    (isDirectory' : tree.isDirectory directory') (plain : ¬tree.isDirectory inode) :
    tree.Keeps (tree.moveEntry inode directory name directory' name') := by
  have first : tree.Keeps (tree.unbind directory name) := .setEntries isDirectory
  rw [moveEntry_eq isDirectory isDirectory' plain]
  exact first.trans (.setEntries ((first.isDirectory directory').mpr isDirectory'))

theorem child?_moveEntry (isDirectory : tree.isDirectory directory)
    (isDirectory' : tree.isDirectory directory') (plain : ¬tree.isDirectory inode)
    (other : Inode) (wanted : Name) :
    (tree.moveEntry inode directory name directory' name').child? other wanted =
      if directory' = other ∧ wanted = name' then some inode
      else if directory = other ∧ wanted = name then none else tree.child? other wanted := by
  have first : tree.Keeps (tree.unbind directory name) := .setEntries isDirectory
  rw [moveEntry_eq isDirectory isDirectory' plain,
    child?_bind ((first.isDirectory directory').mpr isDirectory'), child?_unbind isDirectory]

theorem file?_moveEntry {file : Inode} (isDirectory : tree.isDirectory directory)
    (isDirectory' : tree.isDirectory directory') (plain : ¬tree.isDirectory inode)
    (h : (tree.file? file).isSome) :
    (tree.moveEntry inode directory name directory' name').file? file = tree.file? file := by
  have first : (tree.unbind directory name).file? file = tree.file? file := file?_unbind h
  rw [moveEntry_eq isDirectory isDirectory' plain, file?_bind (by rw [first]; exact h), first]

end Tree

/-- Names of a tree that are divided among several owners. -/
structure Division (ι : Type) where
  /-- The tree at the start. -/
  base : Tree
  /-- A name of a directory belongs to an owner. -/
  owns : ι → Inode → Name → Prop

namespace Division

open RowDrop.Tree

variable {ι : Type}

/-- No name has two owners, and the names that have one are free or stand for different regular
files. -/
structure Sound (division : Division ι) : Prop where
  formed : division.base.WellFormed
  whole : division.base.Whole
  apart : ∀ owner owner' directory name, division.owns owner directory name →
    division.owns owner' directory name → owner = owner'
  file : ∀ owner directory name inode, division.owns owner directory name →
    division.base.child? directory name = some inode → (division.base.file? inode).isSome
  distinct : ∀ owner owner' directory directory' name name' inode,
    division.owns owner directory name → division.owns owner' directory' name' →
    division.base.child? directory name = some inode →
    division.base.child? directory' name' = some inode → directory = directory' ∧ name = name'

/-- A tree that comes of changes under names that have an owner. -/
structure Arises (division : Division ι) (tree : Tree) : Prop where
  keeps : division.base.Keeps tree
  le : division.base.nodes.length ≤ tree.nodes.length
  /-- A name without owner leads where it led. -/
  names : ∀ directory name, (∀ owner, ¬division.owns owner directory name) →
    tree.child? directory name = division.base.child? directory name
  file : ∀ owner directory name inode, division.owns owner directory name →
    tree.child? directory name = some inode → (tree.file? inode).isSome
  distinct : ∀ owner owner' directory directory' name name' inode,
    division.owns owner directory name → division.owns owner' directory' name' →
    tree.child? directory name = some inode → tree.child? directory' name' = some inode →
    directory = directory' ∧ name = name'
  /-- An old file stands under a name of the owner that it had. -/
  origin : ∀ owner directory name inode, division.owns owner directory name →
    tree.child? directory name = some inode → inode < division.base.nodes.length →
    ∃ directory' name', division.owns owner directory' name' ∧
      division.base.child? directory' name' = some inode
  /-- A file that had no owner is as it was. -/
  others : ∀ inode, (division.base.file? inode).isSome →
    (∀ owner directory name, division.owns owner directory name →
      division.base.child? directory name ≠ some inode) →
    tree.file? inode = division.base.file? inode

/-- A name of an owner stands for a file, or stood for it at the start. -/
def Holds (division : Division ι) (owner : ι) (tree : Tree) (inode : Inode) : Prop :=
  ∃ directory name, division.owns owner directory name ∧
    (tree.child? directory name = some inode ∨ division.base.child? directory name = some inode)

/-- What belongs to an owner stays. -/
structure Leaves (division : Division ι) (owner : ι) (tree after : Tree) : Prop where
  names : ∀ directory name, division.owns owner directory name →
    after.child? directory name = tree.child? directory name
  files : ∀ inode, division.Holds owner tree inode → after.file? inode = tree.file? inode

variable {division : Division ι} {owner owner' : ι} {tree middle after : Tree}
variable {inode : Inode}

theorem Sound.arises (sound : division.Sound) : division.Arises division.base where
  keeps := .refl _
  le := Nat.le_refl _
  names _ _ _ := rfl
  file := sound.file
  distinct := sound.distinct
  origin _ directory name _ mine found _ := ⟨directory, name, mine, found⟩
  others _ _ _ := rfl

theorem Arises.file?_eq_none (h : division.Arises tree)
    (isDirectory : division.base.isDirectory inode) : tree.file? inode = none :=
  file?_of_isDirectory ((h.keeps.isDirectory inode).mpr isDirectory)

theorem Arises.not_isDirectory {directory : Inode} {name : Name} (h : division.Arises tree)
    (mine : division.owns owner directory name)
    (found : tree.child? directory name = some inode) : ¬tree.isDirectory inode :=
  not_isDirectory_of_file? (h.file owner directory name inode mine found)

/-- A file under a name that has an owner has its place in the list of nodes. -/
theorem Arises.lt_length {directory : Inode} {name : Name} (h : division.Arises tree)
    (mine : division.owns owner directory name)
    (found : tree.child? directory name = some inode) : inode < tree.nodes.length := by
  obtain ⟨content, mode, node⟩ := isSome_file?.mp (h.file owner directory name inode mine found)
  exact lt_length_of_node? node

/-- What an owner holds is a file. -/
theorem Holds.file (h : division.Holds owner tree inode) (sound : division.Sound)
    (arises : division.Arises tree) : (tree.file? inode).isSome := by
  obtain ⟨directory, name, mine, now | before⟩ := h
  · exact arises.file owner directory name inode mine now
  · exact arises.keeps.file inode (sound.file owner directory name inode mine before)

/-- No file is held by two owners. -/
theorem Holds.unique (h : division.Holds owner tree inode) (h' : division.Holds owner' tree inode)
    (sound : division.Sound) (arises : division.Arises tree) : owner = owner' := by
  -- a file that is held now and was held before has been held by the same owner
  have back {owner : ι} {directory : Inode} {name : Name}
      (mine : division.owns owner directory name)
      (now : tree.child? directory name = some inode)
      (old : inode < division.base.nodes.length) :=
    arises.origin owner directory name inode mine now old
  have atStart {owner owner' : ι} {directory directory' : Inode} {name name' : Name}
      (mine : division.owns owner directory name)
      (found : division.base.child? directory name = some inode)
      (mine' : division.owns owner' directory' name')
      (found' : division.base.child? directory' name' = some inode) : owner = owner' := by
    obtain ⟨rfl, rfl⟩ := sound.distinct _ _ _ _ _ _ _ mine mine' found found'
    exact sound.apart _ _ _ _ mine mine'
  obtain ⟨directory, name, mine, now | before⟩ := h
  · obtain ⟨directory', name', mine', now' | before'⟩ := h'
    · obtain ⟨rfl, rfl⟩ := arises.distinct _ _ _ _ _ _ _ mine mine' now now'
      exact sound.apart _ _ _ _ mine mine'
    · obtain ⟨_, _, mine, before⟩ := back mine now (sound.whole _ _ _ before')
      exact atStart mine before mine' before'
  · obtain ⟨directory', name', mine', now' | before'⟩ := h'
    · obtain ⟨_, _, mine', before'⟩ := back mine' now' (sound.whole _ _ _ before)
      exact atStart mine before mine' before'
    · exact atStart mine before mine' before'

namespace Leaves

theorem refl (division : Division ι) (owner : ι) (tree : Tree) : division.Leaves owner tree tree :=
  ⟨fun _ _ _ => rfl, fun _ _ => rfl⟩

theorem holds (h : division.Leaves owner tree after) :
    division.Holds owner after inode ↔ division.Holds owner tree inode := by
  refine exists₂_congr fun directory name => and_congr_right fun mine => ?_
  rw [h.names directory name mine]

theorem trans (first : division.Leaves owner tree middle)
    (second : division.Leaves owner middle after) : division.Leaves owner tree after where
  names directory name mine :=
    (second.names directory name mine).trans (first.names directory name mine)
  files inode mine := (second.files inode (first.holds.mpr mine)).trans (first.files inode mine)

end Leaves

/-! ## Changes of one share -/

/-- A change under names of one owner: a file is written, a file is new, or a name moves. -/
structure Changes (division : Division ι) (owner : ι) (tree after : Tree) : Prop where
  keeps : tree.Keeps after
  le : tree.nodes.length ≤ after.nodes.length
  names : ∀ directory name, ¬division.owns owner directory name →
    after.child? directory name = tree.child? directory name
  files : ∀ inode, (tree.file? inode).isSome →
    (∀ directory name, division.owns owner directory name →
      tree.child? directory name ≠ some inode) →
    after.file? inode = tree.file? inode
  /-- What stands under a name stood under one before, or it is new. -/
  origin : ∀ directory name inode, division.owns owner directory name →
    after.child? directory name = some inode →
    (∃ directory' name', division.owns owner directory' name' ∧
        tree.child? directory' name' = some inode) ∨
      inode = tree.nodes.length ∧ (after.file? inode).isSome
  distinct : ∀ directory directory' name name' inode, division.owns owner directory name →
    division.owns owner directory' name' → after.child? directory name = some inode →
    after.child? directory' name' = some inode → directory = directory' ∧ name = name'

namespace Changes

variable (h : division.Changes owner tree after) (sound : division.Sound)
  (arises : division.Arises tree)

include h sound arises

/-- Whoever changes the own names leaves what belongs to others. -/
theorem leaves (ne : owner' ≠ owner) : division.Leaves owner' tree after where
  names directory name mine :=
    h.names directory name fun both => ne (sound.apart _ _ _ _ mine both)
  files inode held := by
    refine h.files inode (held.file sound arises) fun directory name mine found => ne ?_
    exact held.unique ⟨directory, name, mine, .inl found⟩ sound arises

theorem file {directory : Inode} {name : Name} (mine : division.owns owner' directory name)
    (found : after.child? directory name = some inode) : (after.file? inode).isSome := by
  by_cases same : owner' = owner
  · subst same
    rcases h.origin directory name inode mine found with ⟨_, _, mine', found'⟩ | ⟨-, file⟩
    · exact h.keeps.file inode (arises.file _ _ _ _ mine' found')
    · exact file
  · rw [(h.leaves sound arises same).names directory name mine] at found
    exact h.keeps.file inode (arises.file _ _ _ _ mine found)

/-- What a name of another owner stands for, no name of this owner comes to stand for. -/
theorem elsewhere {directory directory' : Inode} {name name' : Name} (ne : owner' ≠ owner)
    (mine : division.owns owner directory name)
    (mine' : division.owns owner' directory' name')
    (found : after.child? directory name = some inode) :
    after.child? directory' name' ≠ some inode := by
  rw [(h.leaves sound arises ne).names directory' name' mine']
  intro found'
  rcases h.origin directory name inode mine found with ⟨_, _, mine'', found''⟩ | ⟨rfl, -⟩
  · obtain ⟨rfl, rfl⟩ := arises.distinct _ _ _ _ _ _ _ mine' mine'' found' found''
    exact ne (sound.apart _ _ _ _ mine' mine'')
  · exact Nat.lt_irrefl _ (arises.lt_length mine' found')

/-- The tree still arises from the one at the start. -/
theorem arises_after : division.Arises after where
  keeps := arises.keeps.trans h.keeps
  le := Nat.le_trans arises.le h.le
  names directory name free :=
    (h.names directory name (free owner)).trans (arises.names directory name free)
  file _ _ _ _ mine found := h.file sound arises mine found
  distinct first second directory directory' name name' inode mine mine' found found' := by
    by_cases same : first = owner
    · by_cases same' : second = owner
      · subst same same'
        exact h.distinct _ _ _ _ _ mine mine' found found'
      · subst same
        exact absurd found' (h.elsewhere sound arises same' mine mine' found)
    · by_cases same' : second = owner
      · subst same'
        exact absurd found (h.elsewhere sound arises same mine' mine found')
      · rw [(h.leaves sound arises same).names _ _ mine] at found
        rw [(h.leaves sound arises same').names _ _ mine'] at found'
        exact arises.distinct _ _ _ _ _ _ _ mine mine' found found'
  origin first directory name inode mine found old := by
    by_cases same : first = owner
    · subst same
      rcases h.origin directory name inode mine found with ⟨_, _, mine', found'⟩ | ⟨rfl, -⟩
      · exact arises.origin _ _ _ _ mine' found' old
      · exact absurd old (Nat.not_lt.mpr arises.le)
    · rw [(h.leaves sound arises same).names _ _ mine] at found
      exact arises.origin _ _ _ _ mine found old
  others inode file free := by
    rw [← arises.others inode file free]
    refine h.files inode (arises.keeps.file inode file) fun directory name mine found => ?_
    obtain ⟨content, mode, node⟩ := isSome_file?.mp file
    obtain ⟨_, _, mine', found'⟩ :=
      arises.origin _ _ _ _ mine found (lt_length_of_node? node)
    exact free _ _ _ mine' found'

end Changes

section Single

variable {directory : Inode} {name : Name}

/-- A file under an own name is written, or a file is new under an own name that was free. -/
theorem Changes.of_changesOnly (h : tree.ChangesOnly after inode directory name)
    (le : tree.nodes.length ≤ after.nodes.length) (arises : division.Arises tree)
    (mine : division.owns owner directory name)
    (found : after.child? directory name = some inode)
    (before : tree.child? directory name = some inode ∨
      inode = tree.nodes.length ∧ (after.file? inode).isSome) :
    division.Changes owner tree after := by
  -- no other own name stands for the file
  have alone {directory' : Inode} {name' : Name} (mine' : division.owns owner directory' name')
      (found' : tree.child? directory' name' = some inode) :
      directory = directory' ∧ name' = name := by
    rcases before with old | ⟨rfl, -⟩
    · obtain ⟨rfl, rfl⟩ := arises.distinct _ _ _ _ _ _ _ mine mine' old found'
      exact ⟨rfl, rfl⟩
    · exact absurd (arises.lt_length mine' found') (Nat.lt_irrefl _)
  refine ⟨h.toKeeps, le, ?_, ?_, ?_, ?_⟩
  · intro directory' name' other
    exact h.others _ _ fun both => other (both.1 ▸ both.2 ▸ mine)
  · intro other file free
    refine h.files other ?_ file
    rintro rfl
    rcases before with old | ⟨rfl, -⟩
    · exact free _ _ mine old
    · obtain ⟨content, mode, node⟩ := isSome_file?.mp file
      exact Nat.lt_irrefl _ (lt_length_of_node? node)
  · intro directory' name' other mine' found'
    by_cases here : directory = directory' ∧ name' = name
    · obtain ⟨rfl, rfl⟩ := here
      obtain rfl := Option.some.inj (found.symm.trans found')
      exact before.imp (fun old => ⟨_, _, mine, old⟩) id
    · rw [h.others _ _ here] at found'
      exact .inl ⟨_, _, mine', found'⟩
  · intro first second name₁ name₂ other mine₁ mine₂ found₁ found₂
    by_cases here₁ : directory = first ∧ name₁ = name
    · by_cases here₂ : directory = second ∧ name₂ = name
      · exact ⟨here₁.1.symm.trans here₂.1, here₁.2.trans here₂.2.symm⟩
      · obtain ⟨rfl, rfl⟩ := here₁
        obtain rfl := Option.some.inj (found.symm.trans found₁)
        rw [h.others _ _ here₂] at found₂
        exact absurd (alone mine₂ found₂) here₂
    · rw [h.others _ _ here₁] at found₁
      by_cases here₂ : directory = second ∧ name₂ = name
      · obtain ⟨rfl, rfl⟩ := here₂
        obtain rfl := Option.some.inj (found.symm.trans found₂)
        exact absurd (alone mine₁ found₁) here₁
      · rw [h.others _ _ here₂] at found₂
        exact arises.distinct _ _ _ _ _ _ _ mine₁ mine₂ found₁ found₂

/-- A file moves from one own name to another. -/
theorem Changes.moveEntry {directory' : Inode} {name' : Name} (arises : division.Arises tree)
    (mine : division.owns owner directory name) (mine' : division.owns owner directory' name')
    (found : tree.child? directory name = some inode)
    (isDirectory' : tree.isDirectory directory') :
    division.Changes owner tree (tree.moveEntry inode directory name directory' name') := by
  have isDirectory := isDirectory_of_child? found
  have plain := arises.not_isDirectory mine found
  have child := @child?_moveEntry tree inode directory directory' name name' isDirectory
    isDirectory' plain
  -- what stands under an own name stood under one before, and the file under the old name alone
  have back {other : Inode} {wanted : Name} {node : Inode}
      (there : (tree.moveEntry inode directory name directory' name').child? other wanted
        = some node) :
      (directory' = other ∧ wanted = name' ∧ node = inode) ∨
        (¬(directory = other ∧ wanted = name) ∧ tree.child? other wanted = some node) := by
    rw [child] at there
    split_ifs at there with target source
    · exact .inl ⟨target.1, target.2, (Option.some.inj there).symm⟩
    · exact .inr ⟨source, there⟩
  refine ⟨keeps_moveEntry isDirectory isDirectory' plain, ?_, ?_, ?_, ?_, ?_⟩
  · refine Nat.le_of_eq ?_
    rw [moveEntry_eq isDirectory isDirectory' plain, length_bind, length_unbind]
  · intro other wanted foreign
    have target : ¬(directory' = other ∧ wanted = name') := by
      rintro ⟨rfl, rfl⟩
      exact foreign mine'
    have source : ¬(directory = other ∧ wanted = name) := by
      rintro ⟨rfl, rfl⟩
      exact foreign mine
    rw [child, if_neg target, if_neg source]
  · intro other file _
    exact file?_moveEntry isDirectory isDirectory' plain file
  · intro other wanted node own there
    rcases back there with ⟨-, -, rfl⟩ | ⟨-, there⟩
    · exact .inl ⟨_, _, mine, found⟩
    · exact .inl ⟨_, _, own, there⟩
  · intro first second name₁ name₂ node own₁ own₂ there₁ there₂
    rcases back there₁ with ⟨rfl, rfl, rfl⟩ | ⟨source₁, stood₁⟩
    · rcases back there₂ with ⟨rfl, rfl, -⟩ | ⟨source₂, stood₂⟩
      · exact ⟨rfl, rfl⟩
      · obtain ⟨rfl, rfl⟩ := arises.distinct _ _ _ _ _ _ _ mine own₂ found stood₂
        exact absurd ⟨rfl, rfl⟩ source₂
    · rcases back there₂ with ⟨rfl, rfl, rfl⟩ | ⟨-, stood₂⟩
      · obtain ⟨rfl, rfl⟩ := arises.distinct _ _ _ _ _ _ _ mine own₁ found stood₁
        exact absurd ⟨rfl, rfl⟩ source₁
      · exact arises.distinct _ _ _ _ _ _ _ own₁ own₂ stood₁ stood₂

end Single

/-! ## Two trees with the same share -/

/-- Two nodes are one old node, or both new. -/
def Twins (division : Division ι) (inode other : Inode) : Prop :=
  inode = other ∨
    division.base.nodes.length ≤ inode ∧ division.base.nodes.length ≤ other

/-- A name is free in both trees, or stands for equal files. -/
inductive Shows (division : Division ι) (tree other : Tree) (directory : Inode) (name : Name) : Prop
  | free (here : tree.child? directory name = none) (there : other.child? directory name = none)
  | file {inode twin : Inode} (here : tree.child? directory name = some inode)
      (there : other.child? directory name = some twin) (twins : division.Twins inode twin)
      (same : tree.file? inode = other.file? twin)

theorem Shows.free_iff {other : Tree} {directory : Inode} {name : Name}
    (h : division.Shows tree other directory name) :
    tree.child? directory name = none ↔ other.child? directory name = none := by
  cases h with
  | free here there => simp [here, there]
  | file here there => simp [here, there]

theorem Shows.twins {other : Tree} {directory twin : Inode} {name : Name}
    (h : division.Shows tree other directory name)
    (found : tree.child? directory name = some inode)
    (found' : other.child? directory name = some twin) :
    division.Twins inode twin ∧ tree.file? inode = other.file? twin := by
  cases h with
  | free here => exact absurd (here.symm.trans found) nofun
  | file here there twins same =>
    obtain rfl := Option.some.inj (here.symm.trans found)
    obtain rfl := Option.some.inj (there.symm.trans found')
    exact ⟨twins, same⟩

/-- What belongs to an owner is equal in two trees. -/
structure Alike (division : Division ι) (owner : ι) (tree other : Tree) : Prop where
  shows : ∀ directory name, division.owns owner directory name →
    division.Shows tree other directory name
  old : ∀ directory name inode, division.owns owner directory name →
    division.base.child? directory name = some inode → tree.file? inode = other.file? inode

namespace Alike

variable {other : Tree} {after' : Tree}

theorem refl (division : Division ι) (owner : ι) (tree : Tree) :
    division.Alike owner tree tree where
  shows directory name mine := by
    cases found : tree.child? directory name with
    | none => exact .free found found
    | some inode => exact .file found found (.inl rfl) rfl
  old _ _ _ _ _ := rfl

/-- What others do on one side makes no difference. -/
theorem leave (h : division.Alike owner tree other) (leaves : division.Leaves owner tree after) :
    division.Alike owner after other where
  shows directory name mine := by
    cases h.shows directory name mine with
    | free here there => exact .free ((leaves.names _ _ mine).trans here) there
    | file here there twins same =>
      have kept := leaves.files _ ⟨directory, name, mine, .inl here⟩
      exact .file ((leaves.names _ _ mine).trans here) there twins (kept.trans same)
  old directory name inode mine found :=
    (leaves.files _ ⟨directory, name, mine, .inr found⟩).trans (h.old _ _ _ mine found)

theorem symm (h : division.Alike owner tree other) : division.Alike owner other tree where
  shows directory name mine := by
    cases h.shows directory name mine with
    | free here there => exact .free there here
    | file here there twins same => exact .file there here (twins.imp .symm .symm) same.symm
  old _ _ _ mine found := (h.old _ _ _ mine found).symm

variable {directory : Inode} {name : Name} {twin : Inode}

/-- The same is written under one own name of both trees. -/
theorem changesOnly (h : division.Alike owner tree other) (sound : division.Sound)
    (arises : division.Arises tree) (arises' : division.Arises other)
    (changes : tree.ChangesOnly after inode directory name)
    (changes' : other.ChangesOnly after' twin directory name)
    (mine : division.owns owner directory name)
    (found : after.child? directory name = some inode)
    (found' : after'.child? directory name = some twin)
    (before : tree.child? directory name = some inode ∨ inode = tree.nodes.length)
    (before' : other.child? directory name = some twin ∨ twin = other.nodes.length)
    (twins : division.Twins inode twin) (same : after.file? inode = after'.file? twin) :
    division.Alike owner after after' := by
  -- the files under all other own names stay
  have kept {tree after : Tree} {inode : Inode} (arises : division.Arises tree)
      (changes : tree.ChangesOnly after inode directory name)
      (before : tree.child? directory name = some inode ∨ inode = tree.nodes.length)
      {directory' : Inode} {name' : Name} {node : Inode}
      (mine' : division.owns owner directory' name')
      (elsewhere : ¬(directory = directory' ∧ name' = name))
      (there : tree.child? directory' name' = some node) : after.file? node = tree.file? node := by
    refine changes.files node ?_ (arises.file _ _ _ _ mine' there)
    rintro rfl
    rcases before with old | rfl
    · obtain ⟨rfl, rfl⟩ := arises.distinct _ _ _ _ _ _ _ mine mine' old there
      exact elsewhere ⟨rfl, rfl⟩
    · exact Nat.lt_irrefl _ (arises.lt_length mine' there)
  refine ⟨fun directory' name' mine' => ?_, fun directory' name' node mine' old => ?_⟩
  · by_cases here : directory = directory' ∧ name' = name
    · obtain ⟨rfl, rfl⟩ := here
      exact .file found found' twins same
    · cases h.shows directory' name' mine' with
      | free free free' =>
        exact .free ((changes.others _ _ here).trans free) ((changes'.others _ _ here).trans free')
      | file there there' twins' same' =>
        refine .file ((changes.others _ _ here).trans there)
          ((changes'.others _ _ here).trans there') twins' ?_
        rw [kept arises changes before mine' here there,
          kept arises' changes' before' mine' here there', same']
  · have file := sound.file _ _ _ _ mine' old
    have small := sound.whole _ _ _ old
    by_cases written : node = inode
    · subst written
      obtain rfl : node = twin := twins.resolve_right fun new => Nat.not_lt.mpr new.1 small
      exact same
    · have unwritten : node ≠ twin := by
        rintro rfl
        rcases twins with rfl | new
        · exact written rfl
        · exact Nat.not_lt.mpr new.2 small
      rw [changes.files node written (arises.keeps.file _ file),
        changes'.files node unwritten (arises'.keeps.file _ file), h.old _ _ _ mine' old]

/-- The same move is made in both trees. -/
theorem moveEntry {directory' : Inode} {name' : Name} (h : division.Alike owner tree other)
    (sound : division.Sound) (arises : division.Arises tree) (arises' : division.Arises other)
    (mine : division.owns owner directory name)
    (found : tree.child? directory name = some inode)
    (found' : other.child? directory name = some twin)
    (isDirectory : division.base.isDirectory directory') :
    division.Alike owner (tree.moveEntry inode directory name directory' name')
      (other.moveEntry twin directory name directory' name') := by
  have above := isDirectory_of_child? found
  have above' := isDirectory_of_child? found'
  have below := (arises.keeps.isDirectory directory').mpr isDirectory
  have below' := (arises'.keeps.isDirectory directory').mpr isDirectory
  have plain := arises.not_isDirectory mine found
  have plain' := arises'.not_isDirectory mine found'
  have stays {node : Inode} (file : (tree.file? node).isSome) :=
    @file?_moveEntry tree inode directory directory' name name' node above below plain file
  have stays' {node : Inode} (file : (other.file? node).isSome) :=
    @file?_moveEntry other twin directory directory' name name' node above' below' plain' file
  refine ⟨fun first wanted own => ?_, fun first wanted node own old => ?_⟩
  · have child := @child?_moveEntry tree inode directory directory' name name' above below plain
      first wanted
    have child' := @child?_moveEntry other twin directory directory' name name' above' below'
      plain' first wanted
    split_ifs at child child' with target source
    · obtain ⟨twins, same⟩ := (h.shows _ _ mine).twins found found'
      refine .file child child' twins ?_
      rw [stays (arises.file _ _ _ _ mine found), stays' (arises'.file _ _ _ _ mine found'), same]
    · exact .free child child'
    · cases h.shows _ _ own with
      | free free free' => exact .free (child.trans free) (child'.trans free')
      | file here there twins same =>
        refine .file (child.trans here) (child'.trans there) twins ?_
        rw [stays (arises.file _ _ _ _ own here), stays' (arises'.file _ _ _ _ own there), same]
  · have file := sound.file _ _ _ _ own old
    rw [stays (arises.keeps.file _ file), stays' (arises'.keeps.file _ file), h.old _ _ _ own old]

end Alike

end Division
end RowDrop
