import RowDrop.Proofs.Files.BackupNames
import RowDrop.Proofs.Files.Calls

/-!
# The name at the end of a path

A path that can name a file ends with a name in a directory (`Tree.Stands`), and its backup ends
with a longer name in the same directory (`Stands.backup`). If the system takes such a path
(`Tree.takes`), it comes down to what that directory has under that name.
-/

namespace RowDrop.Tree

/-- Whether the system takes a path that ends with a name. -/
def takes (path : Path) (name : Name) : Except IoError Unit := do
  checkPath path
  if nameLimit < name.length then .error (.os .nameTooLong)

/-- A path ends with a name in a directory, and so many links stand in front of it. -/
structure Stands (tree : Tree) (path : Path) (directory : Inode) (name : Name) (used : Nat) :
    Prop where
  names : ∃ lead, path.names = lead ++ [name] ∧
    tree.Leads (start path tree.workdir) lead used directory
  isName : IsName name
  isDirectory : tree.isDirectory directory
  le : used ≤ linkLimit

variable {tree after : Tree} {path : Path} {inode directory : Inode} {name : Name} {used : Nat}
variable {purpose : Purpose} {error : IoError}

/-! ## Paths that the system takes -/

theorem takes_eq_ok :
    takes path name = .ok () ↔ checkPath path = .ok () ∧ name.length ≤ nameLimit := by
  rw [takes, bind_eq_ok]
  constructor
  · rintro ⟨_, checked, h⟩
    split_ifs at h with long
    exact ⟨checked, Nat.not_lt.mp long⟩
  · rintro ⟨checked, short⟩
    exact ⟨(), checked, if_neg (Nat.not_lt.mpr short)⟩

theorem takes_eq_error :
    takes path name = .error error ↔
      checkPath path = .error error ∨
        checkPath path = .ok () ∧ nameLimit < name.length ∧ error = .os .nameTooLong := by
  rw [takes, bind_eq_error]
  constructor
  · rintro (refused | ⟨_, checked, h⟩)
    · exact .inl refused
    · split_ifs at h with long
      · exact .inr ⟨checked, long, (Except.error.inj h).symm⟩
      · cases h
  · rintro (refused | ⟨checked, long, rfl⟩)
    · exact .inl refused
    · exact .inr ⟨(), checked, if_pos long⟩

theorem checkPath_eq_ok :
    checkPath path = .ok () ↔
      0 ∉ path.bytes ∧ path.bytes ≠ [] ∧ path.bytes.length < pathLimit := by
  unfold checkPath
  split_ifs <;> simp_all

/-- Where the backup's path is taken, the file's path is taken. -/
theorem takes_of_backup (filled : path.bytes ≠ [])
    (h : takes path.backup (name ++ Path.backupSuffix) = .ok ()) : takes path name = .ok () := by
  obtain ⟨checked, short⟩ := takes_eq_ok.mp h
  obtain ⟨noZero, -, fits⟩ := checkPath_eq_ok.mp checked
  simp only [Path.bytes_backup, List.mem_append, not_or, List.length_append] at noZero fits short
  exact takes_eq_ok.mpr ⟨checkPath_eq_ok.mpr ⟨noZero.1, filled, by omega⟩, by omega⟩

namespace Stands

theorem filled (h : tree.Stands path directory name used) : path.bytes ≠ [] := by
  obtain ⟨lead, names, -⟩ := h.names
  exact Path.bytes_ne_nil names

theorem endsInSlash (h : tree.Stands path directory name used) : path.endsInSlash = false := by
  obtain ⟨lead, names, -⟩ := h.names
  simp [Path.endsInSlash, names, h.isName.1]

/-- The backup of a file stands beside it. -/
theorem backup (h : tree.Stands path directory name used) :
    tree.Stands path.backup directory (name ++ Path.backupSuffix) used := by
  obtain ⟨lead, names, leads⟩ := h.names
  refine ⟨⟨lead, Path.names_backup names h.isName.1, ?_⟩, isName_backup name, h.isDirectory, h.le⟩
  rwa [start, Path.isAbsolute_backup h.filled]

theorem leads (h : tree.Stands path directory name used) {more : Nat}
    (last : tree.Leads directory [name] more inode) :
    tree.Leads (start path tree.workdir) path.names (used + more) inode := by
  obtain ⟨lead, names, leads⟩ := h.names
  rw [names]
  exact leads.append last

theorem walk (h : tree.Stands path directory name used) :
    tree.walk purpose linkLimit (start path tree.workdir) path.names =
      tree.walk purpose (linkLimit - used) directory [name] := by
  obtain ⟨lead, names, leads⟩ := h.names
  rw [names]
  exact walk_append leads h.isName h.le

/-- A path that is not taken leads nowhere. -/
theorem locate_error (h : tree.Stands path directory name used)
    (refused : takes path name = .error error) : tree.locate purpose path = .error error := by
  rw [locate_eq_error]
  obtain unchecked | ⟨checked, long, rfl⟩ := takes_eq_error.mp refused
  · exact .inl unchecked
  · refine .inr ⟨checked, .nameTooLong, rfl, ?_⟩
    obtain ⟨parent, above⟩ := isDirectory_iff.mp h.isDirectory
    obtain ⟨entries, node⟩ := parent?_eq_some.mp above
    rw [h.walk, walk_eq, descend, directory?_eq_some.mpr node]
    simp [h.isName.1, h.isName.2.1, h.isName.2.2, long]

theorem locate_free (h : tree.Stands path directory name used) (taken : takes path name = .ok ())
    (free : tree.child? directory name = none) :
    tree.locate purpose path = .ok (.free directory name) := by
  obtain ⟨checked, short⟩ := takes_eq_ok.mp taken
  refine locate_eq_ok.mpr ⟨checked, ?_⟩
  rw [h.walk, walk_free h.isDirectory h.isName short (by simp) free, if_pos (.inl rfl)]

/-- A name that is handled itself is found as it stands, link or not. -/
theorem locate_name (h : tree.Stands path directory name used) (taken : takes path name = .ok ())
    (found : tree.child? directory name = some inode) {node : Node}
    (there : tree.node? inode = some node) :
    tree.locate .name path = .ok (.entry inode directory name) := by
  obtain ⟨checked, short⟩ := takes_eq_ok.mp taken
  refine locate_eq_ok.mpr ⟨checked, ?_⟩
  rw [h.walk]
  rcases isPlain_or_link there with plain | ⟨target, rfl⟩
  · rw [walk_plain h.isName short (by simp) found plain, if_pos (.inl rfl)]
  · rw [walk_link h.isName short (by simp) found there, if_pos ⟨.inl rfl, rfl⟩]

theorem grows (h : tree.Stands path directory name used) (growth : tree.Grows after) :
    after.Stands path directory name used := by
  obtain ⟨lead, names, leads⟩ := h.names
  refine ⟨⟨lead, names, ?_⟩, h.isName, (growth.isDirectory _).mpr h.isDirectory, h.le⟩
  rw [growth.workdir]
  exact leads.grows growth

end Stands

end RowDrop.Tree
