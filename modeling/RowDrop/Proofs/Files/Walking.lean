import RowDrop.Proofs.Files.Leads

/-!
# Walks step by step

`Tree.walk` in terms of the views of a tree: one equation for each step that a walk can take, and
`Tree.Walked`, the relation of the walks that end at a place. The two are joined with `Tree.Leads`:
a walk that ends at a node has been led there (`Walked.leads`), names that lead to a directory may
be taken off the front of a walk (`walk_append`), and names that lead to a file are walked to its
entry, whether it is to be read or to be written (`walk_to_file`).
-/

namespace RowDrop.Tree

/-- Behind a name stands nothing that is wanted. -/
def IsLast (purpose : Purpose) (rest : List Name) : Prop :=
  rest = [] ∨ purpose = .name ∧ rest = [[]]

instance (purpose : Purpose) (rest : List Name) : Decidable (IsLast purpose rest) :=
  inferInstanceAs (Decidable (rest = [] ∨ purpose = .name ∧ rest = [[]]))

/-- What a walk does behind a link. -/
def behind (tree : Tree) (purpose : Purpose) : Nat → Inode → List Name → Except Errno Place
  | 0 => fun _ _ => .error .linkLoop
  | links + 1 => tree.walk purpose links

variable {tree : Tree} {here inode child parent directory : Inode} {name : Name}
variable {names rest lead : List Name} {links used : Nat} {purpose : Purpose} {place : Place}
variable {target : Path}

theorem walk_eq (links : Nat) :
    tree.walk purpose links = tree.descend purpose (tree.behind purpose links) := by
  cases links <;> rfl

@[simp] theorem walk_nil : tree.walk purpose links here [] = .ok (.directory here) := by
  rw [walk_eq]
  rfl

/-! ## One step -/

/-- The step at one name, for a name that can stand in a directory. -/
theorem walk_name (above : tree.parent? here = some parent) (isName : IsName name)
    (short : name.length ≤ nameLimit) (written : ¬(purpose = .create ∧ rest = [[]])) :
    tree.walk purpose links here (name :: rest) =
      match tree.child? here name with
      | none => if IsLast purpose rest then .ok (.free here name) else .error .noEntry
      | some child =>
        match tree.node? child with
        | none => .error .noEntry
        | some (.link target) =>
          if IsLast purpose rest ∧ purpose = .name then .ok (.entry child here name)
          else tree.behind purpose links (start target here) (target.names ++ rest)
        | some _ =>
          if IsLast purpose rest then .ok (.entry child here name)
          else tree.walk purpose links child rest := by
  obtain ⟨entries, node⟩ := parent?_eq_some.mp above
  have found := directory?_eq_some.mpr node
  have names : tree.entries here = entries := by simp [Tree.entries, found]
  rw [walk_eq, descend, found]
  simp only [isName.1, isName.2.1, isName.2.2, or_self, if_false, written,
    Nat.not_lt.mpr short, child?, names, decide_eq_true_eq, IsLast]
  rfl

theorem walk_free (isDirectory : tree.isDirectory here) (isName : IsName name)
    (short : name.length ≤ nameLimit) (written : ¬(purpose = .create ∧ rest = [[]]))
    (free : tree.child? here name = none) :
    tree.walk purpose links here (name :: rest) =
      if IsLast purpose rest then .ok (.free here name) else .error .noEntry := by
  obtain ⟨parent, above⟩ := isDirectory_iff.mp isDirectory
  rw [walk_name above isName short written, free]

theorem walk_plain (isName : IsName name) (short : name.length ≤ nameLimit)
    (written : ¬(purpose = .create ∧ rest = [[]])) (found : tree.child? here name = some child)
    (plain : tree.IsPlain child) :
    tree.walk purpose links here (name :: rest) =
      if IsLast purpose rest then .ok (.entry child here name)
      else tree.walk purpose links child rest := by
  obtain ⟨parent, above⟩ := isDirectory_iff.mp (isDirectory_of_child? found)
  rw [walk_name above isName short written, found]
  have notLink : ∀ target, tree.node? child ≠ some (.link target) := fun _ => plain.not_link
  cases node : tree.node? child with
  | none => simp [IsPlain, Tree.isDirectory, directory?, file?, node] at plain
  | some kind =>
    cases kind with
    | file | directory => simp only [node]
    | link target => exact absurd node (notLink target)

theorem walk_link (isName : IsName name) (short : name.length ≤ nameLimit)
    (written : ¬(purpose = .create ∧ rest = [[]])) (found : tree.child? here name = some child)
    (link : tree.node? child = some (.link target)) :
    tree.walk purpose links here (name :: rest) =
      if IsLast purpose rest ∧ purpose = .name then .ok (.entry child here name)
      else tree.behind purpose links (start target here) (target.names ++ rest) := by
  obtain ⟨parent, above⟩ := isDirectory_iff.mp (isDirectory_of_child? found)
  simp only [walk_name above isName short written, found, link]

theorem walk_stay (isDirectory : tree.isDirectory here) (special : name = [] ∨ name = [Path.dot]) :
    tree.walk purpose links here (name :: rest) = tree.walk purpose links here rest := by
  obtain ⟨parent, above⟩ := isDirectory_iff.mp isDirectory
  obtain ⟨entries, node⟩ := parent?_eq_some.mp above
  rw [walk_eq, descend, directory?_eq_some.mpr node]
  simp only [special, if_true]

theorem walk_up (above : tree.parent? here = some parent) :
    tree.walk purpose links here ([Path.dot, Path.dot] :: rest) =
      tree.walk purpose links parent rest := by
  obtain ⟨entries, node⟩ := parent?_eq_some.mp above
  rw [walk_eq, descend, directory?_eq_some.mpr node]
  simp

/-! ## Walks that end at a place -/

/-- A walk ends at a place. -/
inductive Walked (tree : Tree) (purpose : Purpose) :
    Nat → Inode → List Name → Place → Prop where
  | done {links : Nat} {here : Inode} : Walked tree purpose links here [] (.directory here)
  | stay {links : Nat} {here : Inode} {name : Name} {rest : List Name} {place : Place} :
      tree.isDirectory here → name = [] ∨ name = [Path.dot] →
      Walked tree purpose links here rest place →
      Walked tree purpose links here (name :: rest) place
  | up {links : Nat} {here parent : Inode} {rest : List Name} {place : Place} :
      tree.parent? here = some parent → Walked tree purpose links parent rest place →
      Walked tree purpose links here ([Path.dot, Path.dot] :: rest) place
  | free {links : Nat} {here : Inode} {name : Name} {rest : List Name} :
      tree.isDirectory here → IsName name → name.length ≤ nameLimit →
      tree.child? here name = none → IsLast purpose rest →
      Walked tree purpose links here (name :: rest) (.free here name)
  | entry {links : Nat} {here child : Inode} {name : Name} {rest : List Name} :
      IsName name → name.length ≤ nameLimit → tree.child? here name = some child →
      tree.IsPlain child ∨ purpose = .name → IsLast purpose rest →
      Walked tree purpose links here (name :: rest) (.entry child here name)
  | down {links : Nat} {here child : Inode} {name : Name} {rest : List Name} {place : Place} :
      IsName name → name.length ≤ nameLimit → tree.child? here name = some child →
      tree.IsPlain child → Walked tree purpose links child rest place →
      Walked tree purpose links here (name :: rest) place
  | jump {links : Nat} {here child : Inode} {name : Name} {rest : List Name} {place : Place}
      {target : Path} :
      IsName name → name.length ≤ nameLimit → tree.child? here name = some child →
      tree.node? child = some (.link target) →
      Walked tree purpose links (start target here) (target.names ++ rest) place →
      Walked tree purpose (links + 1) here (name :: rest) place

/-- The system found every directory on the way, and took every name. -/
theorem name_of_walk (h : tree.walk purpose links here (name :: rest) = .ok place) :
    tree.isDirectory here ∧
      (IsName name → name.length ≤ nameLimit ∧ ¬(purpose = .create ∧ rest = [[]])) := by
  rw [walk_eq, descend] at h
  split at h
  · cases h
  case h_2 parent entries found =>
    refine ⟨by simp [isDirectory, found], fun isName => ?_⟩
    rw [if_neg (by simp [isName.1, isName.2.1]), if_neg isName.2.2] at h
    split_ifs at h with rewritten long
    exact ⟨Nat.not_lt.mp long, rewritten⟩

theorem walked_of_walk (h : tree.walk purpose links here names = .ok place) :
    tree.Walked purpose links here names place := by
  -- a link uses up one of the links, any other step one of the names
  induction links using Nat.strongRecOn generalizing here names with
  | ind links behind =>
    induction names generalizing here with
    | nil =>
      obtain rfl := Except.ok.inj (walk_nil.symm.trans h)
      exact .done
    | cons name rest ih =>
      obtain ⟨isDirectory, taken⟩ := name_of_walk h
      obtain ⟨parent, above⟩ := isDirectory_iff.mp isDirectory
      by_cases special : name = [] ∨ name = [Path.dot]
      · rw [walk_stay isDirectory special] at h
        exact .stay isDirectory special (ih h)
      by_cases back : name = [Path.dot, Path.dot]
      · subst back
        rw [walk_up above] at h
        exact .up above (ih h)
      have isName : IsName name := ⟨fun empty => special (.inl empty),
        fun dot => special (.inr dot), back⟩
      obtain ⟨short, written⟩ := taken isName
      cases found : tree.child? here name with
      | none =>
        rw [walk_free isDirectory isName short written found] at h
        split_ifs at h with last
        obtain rfl := Except.ok.inj h
        exact .free isDirectory isName short found last
      | some child =>
        cases node : tree.node? child with
        | none =>
          rw [walk_name above isName short written] at h
          simp [found, node] at h
        | some kind =>
          rcases isPlain_or_link node with plain | ⟨target, rfl⟩
          · rw [walk_plain isName short written found plain] at h
            split_ifs at h with last
            · obtain rfl := Except.ok.inj h
              exact .entry isName short found (.inl plain) last
            · exact .down isName short found plain (ih h)
          · rw [walk_link isName short written found node] at h
            split_ifs at h with last
            · obtain rfl := Except.ok.inj h
              exact .entry isName short found (.inr last.2) last.1
            · cases links with
              | zero => cases h
              | succ links => exact .jump isName short found node (behind links (by omega) h)

/-- A walk through links ends at the node that the names lead to. -/
theorem Walked.leads (h : tree.Walked purpose links here names place) (followed : purpose ≠ .name)
    (ends : place.inode? = some inode) :
    ∃ used, used ≤ links ∧ tree.Leads here names used inode := by
  induction h with
  | done =>
    obtain rfl := Option.some.inj ends
    exact ⟨0, Nat.zero_le _, .here⟩
  | stay isDirectory special _ ih =>
    obtain ⟨used, le, rest⟩ := ih ends
    exact ⟨used, le, .stay isDirectory special rest⟩
  | up above _ ih =>
    obtain ⟨used, le, rest⟩ := ih ends
    exact ⟨used, le, .up above rest⟩
  | free => cases ends
  | entry isName short found kind last =>
    obtain rfl := Option.some.inj ends
    obtain plain : tree.IsPlain _ := kind.resolve_right followed
    obtain rfl : _ = [] := last.resolve_right fun both => followed both.1
    exact ⟨0, Nat.zero_le _, .down isName short found plain .here⟩
  | down isName short found plain _ ih =>
    obtain ⟨used, le, rest⟩ := ih ends
    exact ⟨used, le, .down isName short found plain rest⟩
  | jump isName short found link _ ih =>
    obtain ⟨used, le, rest⟩ := ih ends
    exact ⟨used + 1, Nat.succ_le_succ le, .jump isName short found link rest⟩

/-- A name that a walk finds free is the name of no node. -/
theorem Walked.child?_eq_none (h : tree.Walked purpose links here names (.free directory name)) :
    tree.isDirectory directory ∧ tree.child? directory name = none := by
  generalize ends : Place.free directory name = place at h
  induction h with
  | done | entry => cases ends
  | free isDirectory _ _ found =>
    obtain ⟨rfl, rfl⟩ := Place.free.inj ends
    exact ⟨isDirectory, found⟩
  | stay _ _ _ ih | up _ _ ih | down _ _ _ _ _ ih | jump _ _ _ _ _ ih => exact ih ends

theorem not_isLast_append (isName : IsName name) : ¬IsLast purpose (rest ++ [name]) := by
  rintro (last | ⟨-, last⟩)
  · simp at last
  · simp [List.append_eq_singleton_iff, isName.1] at last

theorem append_ne_slash (isName : IsName name) : rest ++ [name] ≠ [[]] := by
  simp [List.append_eq_singleton_iff, isName.1]

/-- A slash at the end leads to a directory. -/
theorem Leads.isDirectory_of_slash (h : tree.Leads here [[]] used inode) :
    tree.isDirectory inode := by
  have above := h.isDirectory
  cases h with
  | stay _ _ rest =>
    cases rest
    exact above
  | down isName | jump isName => exact absurd rfl isName.1

/-- Names that lead to a directory may be taken off the front, together with their links. -/
theorem walk_append (h : tree.Leads here lead used directory) (isName : IsName name)
    (le : used ≤ links) :
    tree.walk purpose links here (lead ++ [name]) =
      tree.walk purpose (links - used) directory [name] := by
  induction h generalizing links with
  | here => rfl
  | stay isDirectory special _ ih => rw [List.cons_append, walk_stay isDirectory special, ih le]
  | up above _ ih => rw [List.cons_append, walk_up above, ih le]
  | down isName' short found plain _ ih =>
    rw [List.cons_append, walk_plain isName' short (fun both => append_ne_slash isName both.2)
      found plain, if_neg (not_isLast_append isName), ih le]
  | jump isName' short found link _ ih =>
    obtain ⟨links, rfl⟩ : ∃ left, links = left + 1 := ⟨links - 1, by omega⟩
    rw [List.cons_append, walk_link isName' short (fun both => append_ne_slash isName both.2)
      found link, if_neg (fun both => not_isLast_append isName both.1), behind,
      ← List.append_assoc, ih (by omega)]
    congr 1
    omega

theorem WellFormed.start (formed : tree.WellFormed) (isDirectory : tree.isDirectory here)
    (path : Path) : tree.isDirectory (Tree.start path here) := by
  unfold Tree.start
  split
  · exact formed.root
  · exact isDirectory

/-- Names that lead to a file are walked to an entry of that file, to read as well as to write. -/
theorem walk_to_file (purpose : Purpose) (formed : tree.WellFormed)
    (isDirectory : tree.isDirectory here) (h : tree.Leads here names used inode)
    (file : (tree.file? inode).isSome) (followed : purpose ≠ .name) (le : used ≤ links) :
    ∃ directory name, tree.walk purpose links here names = .ok (.entry inode directory name) := by
  induction h generalizing links with
  | here => exact absurd isDirectory (not_isDirectory_of_file? file)
  | stay _ special _ ih =>
    rw [walk_stay isDirectory special]
    exact ih isDirectory file le
  | up above _ ih =>
    rw [walk_up above]
    exact ih (formed.parent _ _ above) file le
  | @down here child inode name rest _ isName short found plain behind ih =>
    cases rest with
    | nil =>
      cases behind
      rw [walk_plain isName short (by simp) found plain, if_pos (.inl rfl)]
      exact ⟨here, name, rfl⟩
    | cons next rest =>
      -- what stands behind a node that is left by a name is a directory, and the file is none
      have above := behind.isDirectory
      have written : ¬(purpose = .create ∧ next :: rest = [[]]) := by
        rintro ⟨-, last⟩
        rw [last] at behind
        exact not_isDirectory_of_file? file behind.isDirectory_of_slash
      have more : ¬IsLast purpose (next :: rest) := by
        rintro (last | ⟨named, -⟩)
        · cases last
        · exact followed named
      rw [walk_plain isName short written found plain, if_neg more]
      exact ih above file le
  | @jump here child inode name rest used target isName short found link behind ih =>
    obtain ⟨links, rfl⟩ : ∃ left, links = left + 1 := ⟨links - 1, by omega⟩
    have written : ¬(purpose = .create ∧ rest = [[]]) := by
      rintro ⟨-, rfl⟩
      obtain ⟨_, _, _, -, last, -⟩ := behind.split
      exact not_isDirectory_of_file? file last.isDirectory_of_slash
    rw [walk_link isName short written found link, if_neg (fun both => followed both.2)]
    exact ih (formed.start isDirectory target) file (Nat.le_of_succ_le_succ le)

end RowDrop.Tree
