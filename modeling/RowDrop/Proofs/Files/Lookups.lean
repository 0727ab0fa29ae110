import RowDrop.Proofs.Files.Shares

/-!
# The names that a path asks for

On its way a path looks names up in directories (`Tree.Looks`). Where directories and links stay and
files come and go under names that are divided, two trees take a path the same way if they agree on
which of the names that it asks for are free: both ways fail alike, or end at the same place
(`Division.Arises.meets_walk`).
-/

namespace RowDrop

namespace Tree

/-- On the way along names from a node, a name is looked up in a directory, and `behind` stands
behind it. -/
inductive Looks (tree : Tree) (directory : Inode) (name : Name) (behind : List Name) :
    Inode → List Name → Prop
  | here : tree.isDirectory directory → IsName name →
      Looks tree directory name behind directory (name :: behind)
  | stay {here : Inode} {first : Name} {rest : List Name} :
      first = [] ∨ first = [Path.dot] → Looks tree directory name behind here rest →
      Looks tree directory name behind here (first :: rest)
  | up {here parent : Inode} {rest : List Name} : tree.parent? here = some parent →
      Looks tree directory name behind parent rest →
      Looks tree directory name behind here ([Path.dot, Path.dot] :: rest)
  | down {here child : Inode} {first : Name} {rest : List Name} : IsName first →
      tree.child? here first = some child → Looks tree directory name behind child rest →
      Looks tree directory name behind here (first :: rest)
  | jump {here child : Inode} {first : Name} {rest : List Name} {target : Path} : IsName first →
      tree.child? here first = some child → tree.node? child = some (.link target) →
      Looks tree directory name behind (start target here) (target.names ++ rest) →
      Looks tree directory name behind here (first :: rest)

/-- Nothing stands behind the last name but maybe a slash. -/
def IsEnd (behind : List Name) : Prop := behind = [] ∨ behind = [[]]

/-- A path asks for a name in a directory. -/
def Asks (tree : Tree) (path : Path) (directory : Inode) (name : Name) : Prop :=
  ∃ behind, tree.Looks directory name behind (start path tree.workdir) path.names

/-- A path ends at a name of a directory. -/
def EndsAt (tree : Tree) (path : Path) (directory : Inode) (name : Name) : Prop :=
  ∃ behind, IsEnd behind ∧ tree.Looks directory name behind (start path tree.workdir) path.names

variable {tree other base : Tree} {here directory : Inode} {name : Name}
variable {names rest behind : List Name} {purpose : Purpose} {links : Nat} {path : Path}

theorem EndsAt.asks (h : tree.EndsAt path directory name) : tree.Asks path directory name := by
  obtain ⟨behind, -, looks⟩ := h
  exact ⟨behind, looks⟩

theorem Looks.isDirectory (h : tree.Looks directory name behind here names) :
    tree.isDirectory directory := by
  induction h with
  | here isDirectory => exact isDirectory
  | stay _ _ ih | up _ _ ih | down _ _ _ ih | jump _ _ _ _ ih => exact ih

/-- A single name that is free is looked up, and nothing else. -/
theorem Looks.of_free {wanted : Name} (h : tree.Looks directory name behind here [wanted])
    (isName : IsName wanted) (free : tree.child? here wanted = none) :
    directory = here ∧ name = wanted := by
  cases h with
  | here => exact ⟨rfl, rfl⟩
  | stay special =>
    rcases special with rfl | rfl
    · exact absurd rfl isName.1
    · exact absurd rfl isName.2.1
  | up => exact absurd rfl isName.2.2
  | down _ found | jump _ found => exact absurd (free.symm.trans found) nofun

theorem IsLast.isEnd (h : IsLast purpose rest) : IsEnd rest := h.imp id (·.2)

/-! ## Walks that fail at once -/

theorem walk_of_not_isDirectory (h : ¬tree.isDirectory here) :
    tree.walk purpose links here (name :: rest) = .error .notDirectory := by
  have none : tree.directory? here = none := by simpa [Tree.isDirectory] using h
  rw [walk_eq, descend, none]

theorem walk_slash (isDirectory : tree.isDirectory here) (isName : IsName name) :
    tree.walk .create links here [name, []] = .error .isDirectory := by
  obtain ⟨parent, above⟩ := isDirectory_iff.mp isDirectory
  obtain ⟨entries, node⟩ := parent?_eq_some.mp above
  rw [walk_eq, descend, directory?_eq_some.mpr node]
  simp [isName.1, isName.2.1, isName.2.2]

theorem walk_long (isDirectory : tree.isDirectory here) (isName : IsName name)
    (written : ¬(purpose = .create ∧ rest = [[]])) (long : nameLimit < name.length) :
    tree.walk purpose links here (name :: rest) = .error .nameTooLong := by
  obtain ⟨parent, above⟩ := isDirectory_iff.mp isDirectory
  obtain ⟨entries, node⟩ := parent?_eq_some.mp above
  rw [walk_eq, descend, directory?_eq_some.mpr node]
  simp only [isName.1, isName.2.1, isName.2.2, or_self, if_false, written, if_pos long]

/-! ## Two walks -/

/-- Two walks end alike: they fail with one error, or end in one directory or at one name. -/
inductive Meets (base tree other : Tree) (here : Inode) (names : List Name) :
    Except Errno Place → Except Errno Place → Prop
  | error (errno : Errno) : Meets base tree other here names (.error errno) (.error errno)
  | directory {inode : Inode} : base.isDirectory inode →
      Meets base tree other here names (.ok (.directory inode)) (.ok (.directory inode))
  | free {directory : Inode} {name : Name} {behind : List Name} : IsEnd behind →
      base.Looks directory name behind here names → tree.child? directory name = none →
      other.child? directory name = none →
      Meets base tree other here names (.ok (.free directory name)) (.ok (.free directory name))
  | entry {inode twin directory : Inode} {name : Name} {behind : List Name} : IsEnd behind →
      base.Looks directory name behind here names → tree.child? directory name = some inode →
      other.child? directory name = some twin →
      Meets base tree other here names (.ok (.entry inode directory name))
        (.ok (.entry twin directory name))

/-- Walks that end alike do so with other names in front of them. -/
theorem Meets.mono {here' : Inode} {names' : List Name} {result result' : Except Errno Place}
    (h : Meets base tree other here names result result')
    (more : ∀ directory name behind, base.Looks directory name behind here names →
      base.Looks directory name behind here' names') :
    Meets base tree other here' names' result result' := by
  cases h with
  | error errno => exact .error errno
  | directory isDirectory => exact .directory isDirectory
  | free last looks free free' => exact .free last (more _ _ _ looks) free free'
  | entry last looks found found' => exact .entry last (more _ _ _ looks) found found'

/-- Walks to files under one name end there, and behind a file there is no way. -/
theorem Meets.files {child twin : Inode} (isName : IsName name) (short : name.length ≤ nameLimit)
    (written : ¬(purpose = .create ∧ rest = [[]]))
    (looks : base.Looks here name rest here (name :: rest))
    (found : tree.child? here name = some child) (found' : other.child? here name = some twin)
    (file : (tree.file? child).isSome) (file' : (other.file? twin).isSome) :
    Meets base tree other here (name :: rest) (tree.walk purpose links here (name :: rest))
      (other.walk purpose links here (name :: rest)) := by
  rw [walk_plain isName short written found (.inr file),
    walk_plain isName short written found' (.inr file')]
  split_ifs with last
  · exact .entry last.isEnd looks found found'
  · cases rest with
    | nil => exact absurd (.inl rfl) last
    | cons =>
      rw [walk_of_not_isDirectory (not_isDirectory_of_file? file),
        walk_of_not_isDirectory (not_isDirectory_of_file? file')]
      exact .error _

end Tree

namespace Division

open RowDrop.Tree

variable {ι : Type} {division : Division ι} {tree other : Tree}

/-- Two trees take the same way where they agree on which names are free. -/
theorem Arises.meets_walk (arises : division.Arises tree) (arises' : division.Arises other)
    (sound : division.Sound) (purpose : Purpose) (links : Nat) {here : Inode} {names : List Name}
    (isDirectory : division.base.isDirectory here)
    (agree : ∀ directory name behind, division.base.Looks directory name behind here names →
      (tree.child? directory name = none ↔ other.child? directory name = none)) :
    Meets division.base tree other here names (tree.walk purpose links here names)
      (other.walk purpose links here names) := by
  -- a link uses up one of the links, any other step one of the names
  induction links using Nat.strongRecOn generalizing here names with
  | ind links behind =>
    induction names generalizing here with
    | nil =>
      rw [walk_nil, walk_nil]
      exact .directory isDirectory
    | cons name rest ih =>
      have above := (arises.keeps.isDirectory here).mpr isDirectory
      have above' := (arises'.keeps.isDirectory here).mpr isDirectory
      by_cases special : name = [] ∨ name = [Path.dot]
      · rw [walk_stay above special, walk_stay above' special]
        exact (ih isDirectory fun _ _ _ looks => agree _ _ _ (.stay special looks)).mono
          fun _ _ _ looks => .stay special looks
      by_cases back : name = [Path.dot, Path.dot]
      · subst back
        obtain ⟨parent, up⟩ := isDirectory_iff.mp isDirectory
        rw [walk_up ((arises.keeps.parent? here).trans up),
          walk_up ((arises'.keeps.parent? here).trans up)]
        exact (ih (sound.formed.parent _ _ up) fun _ _ _ looks => agree _ _ _ (.up up looks)).mono
          fun _ _ _ looks => .up up looks
      have isName : IsName name := ⟨fun empty => special (.inl empty),
        fun dot => special (.inr dot), back⟩
      have looks : division.base.Looks here name rest here (name :: rest) :=
        .here isDirectory isName
      by_cases written : purpose = .create ∧ rest = [[]]
      · obtain ⟨rfl, rfl⟩ := written
        rw [walk_slash above isName, walk_slash above' isName]
        exact .error _
      by_cases long : nameLimit < name.length
      · rw [walk_long above isName written long, walk_long above' isName written long]
        exact .error _
      have short := Nat.not_lt.mp long
      cases found : tree.child? here name with
      | none =>
        have found' := (agree _ _ _ looks).mp found
        rw [walk_free above isName short written found,
          walk_free above' isName short written found']
        split_ifs with last
        · exact .free last.isEnd looks found found'
        · exact .error _
      | some child =>
        have taken : other.child? here name ≠ none := by
          intro free
          exact absurd ((agree _ _ _ looks).mpr free) (by simp [found])
        obtain ⟨twin, found'⟩ := Option.ne_none_iff_exists'.mp taken
        by_cases owned : ∃ owner, division.owns owner here name
        · obtain ⟨owner, mine⟩ := owned
          exact .files isName short written looks found found' (arises.file _ _ _ _ mine found)
            (arises'.file _ _ _ _ mine found')
        · have free : ∀ owner, ¬division.owns owner here name := not_exists.mp owned
          have old := (arises.names here name free).symm.trans found
          obtain rfl : twin = child := by
            rw [arises'.names here name free, old] at found'
            exact (Option.some.inj found').symm
          obtain ⟨node, kind⟩ := sound.whole.exists_node old
          rcases isPlain_or_link kind with (below | file) | ⟨target, rfl⟩
          · rw [walk_plain isName short written found (arises.keeps.isPlain (.inl below)),
              walk_plain isName short written found' (arises'.keeps.isPlain (.inl below))]
            split_ifs with last
            · exact .entry last.isEnd looks found found'
            · exact (ih below fun _ _ _ looks => agree _ _ _ (.down isName old looks)).mono
                fun _ _ _ looks => .down isName old looks
          · exact .files isName short written looks found found' (arises.keeps.file _ file)
              (arises'.keeps.file _ file)
          · rw [walk_link isName short written found (arises.keeps.link _ _ kind),
              walk_link isName short written found' (arises'.keeps.link _ _ kind)]
            split_ifs with last
            · exact .entry last.1.isEnd looks found found'
            · cases links with
              | zero => exact .error _
              | succ links =>
                exact (behind links (Nat.lt_succ_self links) (sound.formed.start isDirectory target)
                  fun _ _ _ looks => agree _ _ _ (.jump isName old kind looks)).mono
                  fun _ _ _ looks => .jump isName old kind looks

end Division
end RowDrop
