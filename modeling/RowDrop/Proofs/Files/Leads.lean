import RowDrop.Proofs.Files.Nodes

/-!
# Where paths lead

`Tree.Leads` is the relation behind a walk: names lead from a node to a node, through so many
symbolic links. It knows no purpose and no limit of links, so it composes along concatenated names
(`Leads.append`, `Leads.split`), and its result and its number of links are unique (`Leads.unique`).

`Tree.WellFormed` says what every file system keeps: the root, the working directory and the
directory above a directory are directories.
-/

namespace RowDrop.Tree

/-- A name that can stand in a directory: not empty, not `.` and not `..`. -/
def IsName (name : Name) : Prop := name ≠ [] ∧ name ≠ [Path.dot] ∧ name ≠ [Path.dot, Path.dot]

/-- A directory or a file, but no link. -/
def IsPlain (tree : Tree) (inode : Inode) : Prop :=
  tree.isDirectory inode ∨ (tree.file? inode).isSome

/-- The directories that a walk can start from or go up to are there. -/
structure WellFormed (tree : Tree) : Prop where
  root : tree.isDirectory root
  workdir : tree.isDirectory tree.workdir
  parent : ∀ inode parent, tree.parent? inode = some parent → tree.isDirectory parent

/-- Names lead from a node to a node, through exactly so many links. -/
inductive Leads (tree : Tree) : Inode → List Name → Nat → Inode → Prop where
  | here {inode : Inode} : Leads tree inode [] 0 inode
  | stay {here inode : Inode} {name : Name} {rest : List Name} {links : Nat} :
      tree.isDirectory here → name = [] ∨ name = [Path.dot] → Leads tree here rest links inode →
      Leads tree here (name :: rest) links inode
  | up {here parent inode : Inode} {rest : List Name} {links : Nat} :
      tree.parent? here = some parent → Leads tree parent rest links inode →
      Leads tree here ([Path.dot, Path.dot] :: rest) links inode
  | down {here child inode : Inode} {name : Name} {rest : List Name} {links : Nat} :
      IsName name → name.length ≤ nameLimit → tree.child? here name = some child →
      tree.IsPlain child → Leads tree child rest links inode →
      Leads tree here (name :: rest) links inode
  | jump {here child inode : Inode} {name : Name} {rest : List Name} {links : Nat}
      {target : Path} :
      IsName name → name.length ≤ nameLimit → tree.child? here name = some child →
      tree.node? child = some (.link target) →
      Leads tree (start target here) (target.names ++ rest) links inode →
      Leads tree here (name :: rest) (links + 1) inode

variable {tree : Tree} {here inode inode' directory : Inode} {name : Name}
variable {names rest : List Name} {links links' : Nat} {purpose : Purpose} {place : Place}
variable {target : Path}

theorem IsPlain.not_link (h : tree.IsPlain inode) : tree.node? inode ≠ some (.link target) := by
  intro link
  rcases h with directory | file
  · exact not_isDirectory_of_link link directory
  · simp [not_file?_of_link link] at file

/-- Every node is plain or a link. -/
theorem isPlain_or_link {node : Node} (h : tree.node? inode = some node) :
    tree.IsPlain inode ∨ ∃ target, node = .link target := by
  cases node with
  | file content mode => exact .inl (.inr (isSome_file?.mpr ⟨content, mode, h⟩))
  | directory parent entries =>
    exact .inl (.inl (isDirectory_of_parent? (parent?_eq_some.mpr ⟨entries, h⟩)))
  | link target => exact .inr ⟨target, rfl⟩

namespace Leads

/-- Names behind other names go on where those end. -/
theorem append (first : tree.Leads here names links directory)
    (second : tree.Leads directory rest links' inode) :
    tree.Leads here (names ++ rest) (links + links') inode := by
  induction first with
  | here => simpa using second
  | stay isDirectory special _ ih => exact .stay isDirectory special (ih second)
  | up parent _ ih => exact .up parent (ih second)
  | down isName short child plain _ ih => exact .down isName short child plain (ih second)
  | jump isName short child link _ ih =>
    have rest := ih second
    rw [List.append_assoc] at rest
    rw [Nat.add_right_comm]
    exact .jump isName short child link rest

/-- Where names end is the end of the last ones, from the end of the first ones. -/
theorem split {first second : List Name} (h : tree.Leads here (first ++ second) links inode) :
    ∃ before after directory, tree.Leads here first before directory ∧
      tree.Leads directory second after inode ∧ links = before + after := by
  generalize whole : first ++ second = names at h
  induction h generalizing first with
  | here =>
    obtain ⟨rfl, rfl⟩ := List.append_eq_nil_iff.mp whole
    exact ⟨0, 0, _, .here, .here, rfl⟩
  | stay isDirectory special rest ih =>
    cases first with
    | nil =>
      obtain rfl : second = _ := whole
      exact ⟨0, _, _, .here, .stay isDirectory special rest, (Nat.zero_add _).symm⟩
    | cons name first =>
      obtain ⟨rfl, tail⟩ := List.cons.inj whole
      obtain ⟨before, after, directory, start, finish, sum⟩ := ih tail
      exact ⟨before, after, directory, .stay isDirectory special start, finish, sum⟩
  | up parent rest ih =>
    cases first with
    | nil =>
      obtain rfl : second = _ := whole
      exact ⟨0, _, _, .here, .up parent rest, (Nat.zero_add _).symm⟩
    | cons name first =>
      obtain ⟨rfl, tail⟩ := List.cons.inj whole
      obtain ⟨before, after, directory, start, finish, sum⟩ := ih tail
      exact ⟨before, after, directory, .up parent start, finish, sum⟩
  | down isName short child plain rest ih =>
    cases first with
    | nil =>
      obtain rfl : second = _ := whole
      exact ⟨0, _, _, .here, .down isName short child plain rest, (Nat.zero_add _).symm⟩
    | cons name first =>
      obtain ⟨rfl, tail⟩ := List.cons.inj whole
      obtain ⟨before, after, directory, start, finish, sum⟩ := ih tail
      exact ⟨before, after, directory, .down isName short child plain start, finish, sum⟩
  | jump isName short child link rest ih =>
    cases first with
    | nil =>
      obtain rfl : second = _ := whole
      exact ⟨0, _, _, .here, .jump isName short child link rest, (Nat.zero_add _).symm⟩
    | cons name first =>
      obtain ⟨rfl, rfl⟩ := List.cons.inj whole
      -- behind the link the first names are those of its target and the ones that were left
      obtain ⟨before, after, directory, start, finish, sum⟩ := ih (List.append_assoc _ _ _)
      exact ⟨before + 1, after, directory, .jump isName short child link start, finish, by omega⟩

/-- A name of a directory leads down to a node, or it is a link and leads on with its target. -/
theorem of_name (h : tree.Leads here (name :: rest) links inode) (isName : IsName name) :
    name.length ≤ nameLimit ∧ ∃ child, tree.child? here name = some child ∧
      (tree.IsPlain child ∧ tree.Leads child rest links inode ∨
        ∃ target more, tree.node? child = some (.link target) ∧ links = more + 1 ∧
          tree.Leads (start target here) (target.names ++ rest) more inode) := by
  cases h with
  | stay _ special =>
    rcases special with rfl | rfl
    · exact absurd rfl isName.1
    · exact absurd rfl isName.2.1
  | up => exact absurd rfl isName.2.2
  | down _ short child plain behind => exact ⟨short, _, child, .inl ⟨plain, behind⟩⟩
  | jump _ short child link behind => exact ⟨short, _, child, .inr ⟨_, _, link, rfl, behind⟩⟩

/-- Names lead to one node, through one number of links. -/
theorem unique (h : tree.Leads here names links inode) (h' : tree.Leads here names links' inode') :
    links = links' ∧ inode = inode' := by
  induction h generalizing links' with
  | here =>
    cases h'
    exact ⟨rfl, rfl⟩
  | stay _ special _ ih =>
    cases h' with
    | stay _ _ rest => exact ih rest
    | up => simp at special
    | down isName | jump isName =>
      rcases special with rfl | rfl
      · exact absurd rfl isName.1
      · exact absurd rfl isName.2.1
  | up parent _ ih =>
    cases h' with
    | stay _ special => simp at special
    | up parent' rest =>
      rw [parent] at parent'
      obtain rfl := Option.some.inj parent'
      exact ih rest
    | down isName | jump isName => exact absurd rfl isName.2.2
  | down isName _ child plain _ ih =>
    obtain ⟨-, child', found, behind⟩ := h'.of_name isName
    obtain rfl := Option.some.inj (child.symm.trans found)
    rcases behind with ⟨-, behind⟩ | ⟨target, more, link, -, -⟩
    · exact ih behind
    · exact absurd link plain.not_link
  | jump isName _ child link _ ih =>
    obtain ⟨-, child', found, behind⟩ := h'.of_name isName
    obtain rfl := Option.some.inj (child.symm.trans found)
    rcases behind with ⟨plain, -⟩ | ⟨target, more, link', rfl, behind⟩
    · exact absurd link plain.not_link
    · obtain rfl := Node.link.inj (Option.some.inj (link.symm.trans link'))
      obtain ⟨rfl, rfl⟩ := ih behind
      exact ⟨rfl, rfl⟩

/-- Only directories can be left by a name. -/
theorem isDirectory (h : tree.Leads here (name :: names) links inode) :
    tree.isDirectory here := by
  cases h with
  | stay isDirectory => exact isDirectory
  | up parent => exact isDirectory_of_parent? parent
  | down _ _ child | jump _ _ child => exact isDirectory_of_child? child

/-- A file leads to nothing but itself. -/
theorem of_file (h : tree.Leads here names links inode) (file : (tree.file? here).isSome) :
    names = [] ∧ inode = here := by
  cases h with
  | here => exact ⟨rfl, rfl⟩
  | stay isDirectory => exact absurd isDirectory (not_isDirectory_of_file? file)
  | up parent => exact absurd (isDirectory_of_parent? parent) (not_isDirectory_of_file? file)
  | down _ _ child | jump _ _ child =>
    exact absurd (isDirectory_of_child? child) (not_isDirectory_of_file? file)

end Leads

end RowDrop.Tree
