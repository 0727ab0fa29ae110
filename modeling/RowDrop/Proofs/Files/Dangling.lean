import RowDrop.Proofs.Files.Pairs

/-!
# Paths that stand nowhere

A path dangles if it does not end with a name in a directory, as where a directory on its way is
missing. Then no file is created at it (`Dangles.createFile`) and none is moved to it
(`Dangles.renameFile`): a walk that ends anywhere else than at a directory it names has found the
directory of its last name (`Walked.leads_lead`). So where a path and the path of its backup show
nothing or two files, either the path dangles or the two are a pair (`dangles_or_pair`).
-/

namespace RowDrop.Tree

variable {tree after : Tree} {path source : Path} {here inode directory : Inode} {name : Name}
variable {names lead : List Name} {links used mode : Nat} {purpose : Purpose} {place : Place}
variable {current kept : Option (Inode × Content)} {content : Content}

/-- The path does not end with a name in a directory. -/
def Dangles (tree : Tree) (path : Path) : Prop :=
  ∀ directory name used, ¬tree.Stands path directory name used

/-- What can be seen at a path: nothing under the name at its end, or a file. -/
inductive Shows (tree : Tree) (path : Path) : Option (Inode × Content) → Prop where
  | absent : (∀ directory name used, tree.Stands path directory name used →
      tree.child? directory name = none) → Shows tree path none
  | file {inode : Inode} {content : Content} {mode : Nat} :
      tree.openFile path = .ok (.file inode content mode) →
      Shows tree path (some (inode, content))

/-- Where a path is found free, there is nothing to be seen. -/
theorem shows_none (free : tree.locate .name path = .ok (.free directory name)) :
    tree.Shows path none :=
  .absent fun _ _ _ stands => (stands.child?_eq_none free).2

theorem Shows.found (h : tree.Shows path current)
    (stands : tree.Stands path directory name used) : tree.Found path directory name current := by
  cases h with
  | absent free => exact .free (free _ _ _ stands)
  | file opened => exact .file opened

/-- Two paths, one of a file and one of its backup, that show nothing or two files. -/
theorem dangles_or_pair (formed : tree.WellFormed) (shown : tree.Shows path current)
    (shownBackup : tree.Shows path.backup kept)
    (apart : ∀ file copy, current = some file → kept = some copy → file.1 ≠ copy.1) :
    tree.Dangles path ∨
      ∃ directory name used, tree.Pair path directory name used current kept := by
  by_cases dangles : tree.Dangles path
  · exact .inl dangles
  · simp only [Dangles, not_forall, not_not] at dangles
    obtain ⟨directory, name, used, stands⟩ := dangles
    have pair := pair_of_found formed stands (shown.found stands) (shownBackup.found stands.backup)
      apart
    exact .inr ⟨directory, name, used, pair⟩

/-! ## Walks to a last name -/

/-- A walk that ends at a name has been led to the directory of the last name. -/
theorem Walked.leads_lead (h : tree.Walked purpose links here (lead ++ [name]) place)
    (named : purpose = .name → name ≠ []) (ends : ∀ directory, place ≠ .directory directory) :
    IsName name ∧ ∃ used directory, used ≤ links ∧ tree.Leads here lead used directory ∧
      tree.isDirectory directory := by
  generalize whole : lead ++ [name] = names at h
  -- only the last name can be the one behind which nothing is wanted
  have inner {rest : List Name} : ¬IsLast purpose (rest ++ [name]) := by
    rintro (last | ⟨handled, last⟩)
    · simp at last
    · simp [List.append_eq_singleton_iff, named handled] at last
  induction h generalizing lead with
  | done => simp at whole
  | stay isDirectory special behind ih =>
    cases lead with
    | nil =>
      obtain ⟨rfl, rfl⟩ := List.cons.inj whole
      cases behind
      exact absurd rfl (ends _)
    | cons first lead =>
      obtain ⟨rfl, tail⟩ := List.cons.inj whole
      obtain ⟨isName, used, directory, le, leads, isDirectory'⟩ := ih ends tail
      exact ⟨isName, used, directory, le, .stay isDirectory special leads, isDirectory'⟩
  | up above behind ih =>
    cases lead with
    | nil =>
      obtain ⟨rfl, rfl⟩ := List.cons.inj whole
      cases behind
      exact absurd rfl (ends _)
    | cons first lead =>
      obtain ⟨rfl, tail⟩ := List.cons.inj whole
      obtain ⟨isName, used, directory, le, leads, isDirectory⟩ := ih ends tail
      exact ⟨isName, used, directory, le, .up above leads, isDirectory⟩
  | free isDirectory isName _ _ last =>
    cases lead with
    | nil =>
      obtain ⟨rfl, -⟩ := List.cons.inj whole
      exact ⟨isName, 0, _, Nat.zero_le _, .here, isDirectory⟩
    | cons first lead =>
      obtain ⟨-, rfl⟩ := List.cons.inj whole
      exact absurd last inner
  | entry isName _ found _ last =>
    cases lead with
    | nil =>
      obtain ⟨rfl, -⟩ := List.cons.inj whole
      exact ⟨isName, 0, _, Nat.zero_le _, .here, isDirectory_of_child? found⟩
    | cons first lead =>
      obtain ⟨-, rfl⟩ := List.cons.inj whole
      exact absurd last inner
  | down isName short found plain behind ih =>
    cases lead with
    | nil =>
      obtain ⟨rfl, rfl⟩ := List.cons.inj whole
      cases behind
      exact absurd rfl (ends _)
    | cons first lead =>
      obtain ⟨rfl, tail⟩ := List.cons.inj whole
      obtain ⟨isName', used, directory, le, leads, isDirectory⟩ := ih ends tail
      exact ⟨isName', used, directory, le, .down isName short found plain leads, isDirectory⟩
  | jump isName short found link behind ih =>
    cases lead with
    | nil =>
      obtain ⟨rfl, -⟩ := List.cons.inj whole
      exact ⟨isName, 0, _, Nat.zero_le _, .here, isDirectory_of_child? found⟩
    | cons first lead =>
      obtain ⟨rfl, rfl⟩ := List.cons.inj whole
      obtain ⟨isName', used, directory, le, leads, isDirectory⟩ := ih ends (List.append_assoc _ _ _)
      exact ⟨isName', used + 1, directory, Nat.succ_le_succ le,
        .jump isName short found link leads, isDirectory⟩

/-- A path that is found to lead to a name stands in the directory of its own last name. -/
theorem stands_of_locate (located : tree.locate purpose path = .ok place)
    (named : purpose = .name → path.endsInSlash = false)
    (ends : ∀ directory, place ≠ .directory directory) :
    ∃ directory name used, tree.Stands path directory name used := by
  have walked := walked_of_walk (locate_eq_ok.mp located).2
  rcases List.eq_nil_or_concat path.names with empty | ⟨lead, name, names⟩
  · rw [empty] at walked
    cases walked
    exact absurd rfl (ends _)
  · rw [List.concat_eq_append] at names
    have full : purpose = .name → name ≠ [] := by
      rintro handled rfl
      have noSlash := named handled
      simp [Path.endsInSlash, names] at noSlash
    rw [names] at walked
    obtain ⟨isName, used, directory, le, leads, isDirectory⟩ := walked.leads_lead full ends
    exact ⟨directory, name, used, ⟨lead, names, leads⟩, isName, isDirectory, le⟩

/-! ## Calls -/

namespace Dangles

theorem createFile (h : tree.Dangles path) :
    tree.createFile path mode ≠ .ok (inode, after) := by
  intro created
  obtain ⟨directory', name', located, -⟩ | ⟨directory', name', located, -⟩ :=
    createFile_cases created
  all_goals
    obtain ⟨directory, name, used, stands⟩ :=
      stands_of_locate located (by simp) (by simp)
    exact h directory name used stands

theorem renameFile (h : tree.Dangles path) (formed : tree.WellFormed)
    (opened : tree.openFile source = .ok (.file inode content mode)) :
    tree.renameFile source path ≠ .ok after := by
  intro renamed
  obtain ⟨directory, name, used, stands, taken, slot⟩ := exists_stands formed opened
  obtain ⟨-, child, node, found, there, plain⟩ := slot.entry stands.isName
  rw [Tree.renameFile, bind_eq_ok] at renamed
  obtain ⟨first, start, renamed⟩ := renamed
  obtain rfl := Except.ok.inj ((stands.locate_name taken found there).symm.trans start)
  obtain ⟨place, located, renamed⟩ := bind_eq_ok.mp renamed
  have noDirectory : ∀ directory, place ≠ .directory directory := by
    rintro directory rfl
    cases renamed
  have named : path.endsInSlash = false := by
    cases slash : path.endsInSlash with
    | false => rfl
    | true => cases place <;> simp [plain, slash] at renamed
  obtain ⟨directory', name', used', stands'⟩ :=
    stands_of_locate located (fun _ => named) noDirectory
  exact h directory' name' used' stands'

end Dangles

end RowDrop.Tree
