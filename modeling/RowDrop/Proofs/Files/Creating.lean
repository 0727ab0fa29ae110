import RowDrop.Proofs.Files.Pairs

/-!
# Created files

What is created at a path is read at this path afterwards (`openFile_of_createFile`), however the
links along the path lead to it, and no other file changes (`changesOnly_of_createFile`). So a copy
to the path of a backup makes the file and its backup a pair, unless the two paths led to one file
before (`pair_of_copyFile`).
-/

namespace RowDrop.Tree

variable {tree after : Tree} {path : Path} {here inode copy directory : Inode} {name last : Name}
variable {names lead : List Name} {links : Nat} {purpose : Purpose} {place : Place}
variable {content copied : Content} {mode : Nat}

/-! ## What is created is found -/

/-- A walk that found a name free leads to what stands under the name later. -/
theorem Walked.leads_of_free (h : tree.Walked purpose links here names (.free directory name))
    (followed : purpose ≠ .name) (growth : tree.Grows after)
    (found : after.child? directory name = some inode) (plain : after.IsPlain inode) :
    ∃ used, used ≤ links ∧ after.Leads here names used inode := by
  generalize ends : Place.free directory name = place at h
  induction h with
  | done | entry => cases ends
  | stay isDirectory special _ ih =>
    obtain ⟨used, le, rest⟩ := ih ends
    exact ⟨used, le, .stay ((growth.isDirectory _).mpr isDirectory) special rest⟩
  | up above _ ih =>
    obtain ⟨used, le, rest⟩ := ih ends
    exact ⟨used, le, .up ((growth.parent? _).trans above) rest⟩
  | free _ isName short _ last =>
    obtain ⟨rfl, rfl⟩ := Place.free.inj ends
    obtain rfl : _ = [] := last.resolve_right fun both => followed both.1
    exact ⟨0, Nat.zero_le _, .down isName short found plain .here⟩
  | down isName short child plain _ ih =>
    obtain ⟨used, le, rest⟩ := ih ends
    exact ⟨used, le, .down isName short (growth.names _ _ _ child) (growth.isPlain plain) rest⟩
  | jump isName short child link _ ih =>
    obtain ⟨used, le, rest⟩ := ih ends
    exact ⟨used + 1, Nat.succ_le_succ le,
      .jump isName short (growth.names _ _ _ child) (growth.link _ _ link) rest⟩

/-- A walk that follows all links ends at no link. -/
theorem Walked.isPlain (h : tree.Walked purpose links here names (.entry inode directory name))
    (followed : purpose ≠ .name) : tree.IsPlain inode := by
  generalize ends : Place.entry inode directory name = place at h
  induction h with
  | done | free => cases ends
  | entry _ _ _ kind =>
    obtain ⟨rfl, -, -⟩ := Place.entry.inj ends
    exact kind.resolve_right followed
  | stay _ _ _ ih | up _ _ ih | down _ _ _ _ _ ih | jump _ _ _ _ _ ih => exact ih ends

/-- A created file is empty, and it is read at its path. -/
theorem openFile_of_createFile (formed : tree.WellFormed)
    (h : tree.createFile path mode = .ok (inode, after)) :
    ∃ mode, after.openFile path = .ok (.file inode .empty mode) := by
  have growth := grows_of_createFile h
  obtain ⟨directory, name, located, noDirectory, rfl⟩ | ⟨directory, name, located, rfl, rfl⟩ :=
    createFile_cases h
  · obtain ⟨checked, walked⟩ := locate_eq_ok.mp located
    have walked := walked_of_walk walked
    have isFile := (walked.isPlain (by decide)).resolve_left noDirectory
    obtain ⟨⟨content, mode⟩, file⟩ := Option.isSome_iff_exists.mp isFile
    have opened : tree.openFile path = .ok (.file inode content mode) :=
      (openFile_file_iff formed).mpr ⟨checked, walked.leads (by decide) rfl, file⟩
    exact ⟨mode, openFile_grown formed growth opened (file?_setContent file)⟩
  · obtain ⟨checked, walked⟩ := locate_eq_ok.mp located
    have walked := walked_of_walk walked
    obtain ⟨found, new⟩ := file?_newFile walked.child?_eq_none.1 name .empty mode
    have led := walked.leads_of_free (by decide) growth found
      (.inr (Option.isSome_of_eq_some new))
    refine ⟨mode, (openFile_file_iff (growth.wellFormed formed)).mpr ⟨checked, ?_, new⟩⟩
    rw [growth.workdir]
    exact led

/-- Creating a file changes no other file. -/
theorem changesOnly_of_createFile (h : tree.createFile path mode = .ok (inode, after)) :
    ∃ directory name, tree.ChangesOnly after inode directory name := by
  obtain ⟨directory, name, -, -, rfl⟩ | ⟨directory, name, located, rfl, rfl⟩ := createFile_cases h
  · exact ⟨directory, name, .setContent tree inode .empty directory name⟩
  · obtain ⟨isDirectory, free⟩ := (walked_of_walk (locate_eq_ok.mp located).2).child?_eq_none
    exact ⟨directory, name, changesOnly_newFile isDirectory free .empty mode⟩

/-! ## Copies -/

/-- Where creating a file gives one that was there before, the path led to it. -/
theorem lookup_of_createFile (formed : tree.WellFormed)
    (h : tree.createFile path mode = .ok (inode, after)) (file : (tree.file? inode).isSome) :
    tree.lookup path = .ok inode := by
  obtain ⟨directory, name, located, -, -⟩ | ⟨directory, name, -, rfl, -⟩ := createFile_cases h
  · obtain ⟨⟨content, mode'⟩, file⟩ := Option.isSome_iff_exists.mp file
    obtain ⟨checked, walked⟩ := locate_eq_ok.mp located
    have led := (walked_of_walk walked).leads (by decide) rfl
    exact (openFile_eq_file.mp ((openFile_file_iff formed).mpr ⟨checked, led, file⟩)).1
  · simp [file?, node?_length] at file

/-- A copy of a file to the path of its backup leaves two files with the contents and the permission
bits of the one, unless the two paths led to one file before. -/
theorem openFile_of_copyFile (formed : tree.WellFormed)
    (opened : tree.openFile path = .ok (.file inode content mode))
    (other : tree.lookup path.backup ≠ .ok inode)
    (h : tree.copyFile path path.backup = .ok (copied, after)) :
    ∃ copy, copy ≠ inode ∧ after.openFile path = .ok (.file inode content mode) ∧
      after.openFile path.backup = .ok (.file copy content mode) := by
  have growth := grows_of_copyFile h
  obtain ⟨inode', content', mode', copy, created, opened', creation, rfl, rfl⟩ := copyFile_cases h
  obtain ⟨rfl, rfl, rfl⟩ := Opened.file.inj (Except.ok.inj (opened.symm.trans opened'))
  have file := (openFile_eq_file.mp opened).2
  have isFile := Option.isSome_of_eq_some file
  have ne : copy ≠ inode := by
    rintro rfl
    exact other (lookup_of_createFile formed creation isFile)
  rw [if_neg ne] at growth ⊢
  obtain ⟨mode', made⟩ := openFile_of_createFile formed creation
  obtain ⟨directory, name, changes⟩ := changesOnly_of_createFile creation
  have kept : ((created.setMode copy mode).setContent copy content).file? inode =
      some (content, mode) := by
    rw [file?_setContent_of_ne ne, file?_setMode_of_ne ne, changes.files inode ne.symm isFile, file]
  have filled : ((created.setMode copy mode).setContent copy content).file? copy =
      some (content, mode) :=
    file?_setContent (file?_setMode (openFile_eq_file.mp made).2)
  have copying : created.Grows ((created.setMode copy mode).setContent copy content) :=
    (Grows.setMode created copy mode).trans (.setContent _ copy content)
  exact ⟨copy, ne, openFile_grown formed growth opened kept,
    openFile_grown (changes.wellFormed formed) copying made filled⟩

/-- A copy of a file to the path of its backup makes the two a pair, if the paths did not lead to
one file: both then hold what the file held. -/
theorem pair_of_copyFile (formed : tree.WellFormed)
    (opened : tree.openFile path = .ok (.file inode content mode))
    (other : tree.lookup path.backup ≠ .ok inode)
    (h : tree.copyFile path path.backup = .ok (copied, after)) :
    ∃ directory name used copy, takes path.backup (name ++ Path.backupSuffix) = .ok () ∧
      after.Pair path directory name used (some (inode, content)) (some (copy, content)) := by
  obtain ⟨copy, ne, read, readBackup⟩ := openFile_of_copyFile formed opened other h
  obtain ⟨directory, name, used, pair, taken⟩ :=
    exists_pair ((grows_of_copyFile h).wellFormed formed) read (.file readBackup ne)
  exact ⟨directory, name, used, copy, taken, pair⟩

end RowDrop.Tree
