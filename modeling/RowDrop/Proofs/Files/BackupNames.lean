import RowDrop.Proofs.Files.Leads

/-!
# The names of a backup

A backup's path is the path of its file with a suffix behind it. The suffix holds no slash, so it
only makes the last piece longer: a backup stands in the directory of its file, under the file's
name with the suffix (`names_backup`).
-/

namespace RowDrop.Path

theorem splitSlash_append {suffix : List UInt8} (h : slash ∉ suffix) (bytes : List UInt8) :
    ∃ lead last, splitSlash bytes = lead ++ [last] ∧
      splitSlash (bytes ++ suffix) = lead ++ [last ++ suffix] := by
  induction bytes with
  | nil =>
    refine ⟨[], [], rfl, ?_⟩
    induction suffix with
    | nil => rfl
    | cons byte suffix ih =>
      obtain ⟨ne, rest⟩ := not_or.mp (List.mem_cons.not.mp h)
      simp only [List.nil_append] at ih ⊢
      rw [splitSlash, if_neg (Ne.symm ne), ih rest]
  | cons byte bytes ih =>
    obtain ⟨lead, last, split, longer⟩ := ih
    by_cases mark : byte = slash
    · refine ⟨[] :: lead, last, ?_, ?_⟩
      · simp [splitSlash, mark, split]
      · simp [splitSlash, mark, longer]
    · cases lead with
      | nil =>
        refine ⟨[], byte :: last, ?_, ?_⟩
        · simp [splitSlash, mark, split]
        · simp [splitSlash, mark, longer]
      | cons first lead =>
        refine ⟨(byte :: first) :: lead, last, ?_, ?_⟩
        · simp [splitSlash, mark, split]
        · simp [splitSlash, mark, longer]

theorem slash_not_mem_backupSuffix : slash ∉ backupSuffix := by decide

variable {path : Path} {lead pieces : List Name} {name last : Name}

/-- The names of a path that ends with a name. -/
theorem names_of_name (split : splitSlash path.bytes = pieces ++ [last]) (full : last ≠ []) :
    path.names = pieces.filter (· ≠ []) ++ [last] := by
  have kept : (pieces ++ [last]).filter (· ≠ []) = pieces.filter (· ≠ []) ++ [last] := by
    simp [List.filter_append, full]
  have ends : ¬((pieces ++ [last]).filter (· ≠ []) ≠ [] ∧
      (pieces ++ [last]).getLast? = some []) := by
    simp [full]
  unfold names
  simp only [split]
  rw [if_neg ends, kept]

/-- A path that ends with a slash has no name at its end. -/
theorem names_of_slash (split : splitSlash path.bytes = pieces ++ [[]]) :
    path.names = [] ∨ ∃ lead, path.names = lead ++ [[]] := by
  have kept : (pieces ++ [[]]).filter (· ≠ []) = pieces.filter (· ≠ []) := by
    simp [List.filter_append]
  unfold names
  simp only [split]
  split_ifs with slashed
  · exact .inr ⟨_, rfl⟩
  · left
    rw [kept] at slashed ⊢
    by_contra full
    exact slashed ⟨full, by simp⟩

/-- The backup of a file has the file's directories on its way, and its name with the suffix. -/
theorem names_backup (h : path.names = lead ++ [name]) (isName : name ≠ []) :
    path.backup.names = lead ++ [name ++ backupSuffix] := by
  obtain ⟨pieces, last, split, longer⟩ := splitSlash_append slash_not_mem_backupSuffix path.bytes
  have full : last ≠ [] := by
    rintro rfl
    rcases names_of_slash split with empty | ⟨lead', slashed⟩
    · simp [empty] at h
    · exact isName (List.singleton_inj.mp (List.append_inj' (h.symm.trans slashed) rfl).2)
  obtain ⟨same, ends⟩ := List.append_inj' ((names_of_name split full).symm.trans h) rfl
  obtain rfl := List.singleton_inj.mp ends
  have named : path.backup.names = pieces.filter (· ≠ []) ++ [last ++ backupSuffix] :=
    names_of_name longer (by simp [full])
  rw [named, same]

theorem bytes_ne_nil (h : path.names = lead ++ [name]) : path.bytes ≠ [] := by
  intro empty
  simp [names, empty, splitSlash] at h

/-- A backup is looked up from where its file is. -/
theorem isAbsolute_backup (h : path.bytes ≠ []) : path.backup.isAbsolute = path.isAbsolute := by
  obtain ⟨byte, bytes, cons⟩ := List.exists_cons_of_ne_nil h
  simp [isAbsolute, cons]

theorem append_backupSuffix_ne (name : Name) : name ++ backupSuffix ≠ name := by
  simp [backupSuffix]

end RowDrop.Path

namespace RowDrop.Tree

theorem isName_backup (name : Name) : IsName (name ++ Path.backupSuffix) := by
  refine ⟨?_, ?_, ?_⟩ <;>
  · intro h
    have := congrArg List.length h
    simp [Path.backupSuffix] at this

end RowDrop.Tree
