import RowDrop.Proofs.Files.Pairs
import RowDrop.Proofs.Operations

/-!
# Changing a file that has a backup

What a change makes of the slots of a file and its backup, for each way in which it can end. A
change that fails leaves the files as they are; which slots a change fills is all that is left of
the tree here, however the directory and the links in it are arranged.
-/

namespace RowDrop

variable {world : World} {path : Path} {directory inode : Inode} {name : Name} {used : Nat}
variable {content : Content} {current kept : Option (Inode × Content)} {frame : Frame}

namespace Setup

section Drop

variable (setup : Setup) (superuser : world.user = .superuser)
variable (pair : world.files.Pair path directory name used (some (inode, content)) kept)

include superuser pair

theorem dropFromFile_undecodable {error : FormatError} (decoded : content.decode = .error error) :
    Operation.run (setup.dropFromFile path) world = (.error (.format error), world) := by
  obtain ⟨mode, opened⟩ := pair.openFile
  simp only [run_dropFromFile world superuser, opened, Dataset.decode, decoded]

/-- A dataset without rows is left alone, and so is its earlier backup. -/
theorem dropFromFile_empty (decoded : content.decode = .ok frame) (empty : frame.height = 0) :
    Operation.run (setup.dropFromFile path) world =
      (.error (.emptyDataset path.display),
        { world with log := .loaded path frame.height frame.width :: world.log }) := by
  obtain ⟨mode, opened⟩ := pair.openFile
  simp only [run_dropFromFile world superuser, opened, Dataset.decode, decoded, if_pos empty]

/-- Without a backup nothing is dropped. -/
theorem dropFromFile_refused (decoded : content.decode = .ok frame) (filled : frame.height ≠ 0)
    {error : IoError}
    (refused : Tree.takes path.backup (name ++ Path.backupSuffix) = .error error) :
    Operation.run (setup.dropFromFile path) world =
      (.error (Error.ofCopy path error),
        { world with log := .loaded path frame.height frame.width :: world.log }) := by
  obtain ⟨mode, opened⟩ := pair.openFile
  simp only [run_dropFromFile world superuser, opened, Dataset.decode, decoded, if_neg filled,
    pair.copyFile_error refused]

/-- The backup gets what the file had, and the file the rows without the first. -/
theorem dropFromFile_ok (decoded : content.decode = .ok frame) (filled : frame.height ≠ 0)
    (taken : Tree.takes path.backup (name ++ Path.backupSuffix) = .ok ()) :
    ∃ after copy, Operation.run (setup.dropFromFile path) world = (.ok (), after) ∧
      after.user = .superuser ∧ after.store = world.store ∧
      after.files.Pair path directory name used
        (some (inode, .ofFrame frame.dropFirst setup.settings.codec)) (some (copy, content)) := by
  obtain ⟨mode, opened⟩ := pair.openFile
  obtain ⟨copy, backedUp, copied, pair'⟩ := pair.copyFile taken
  obtain ⟨inode', emptied, created, pair'', same⟩ :=
    pair'.createFile (pair.taken rfl) Tree.newFileMode
  obtain rfl := same _ rfl
  refine ⟨{ world with
    files := emptied.setContent inode (.ofFrame frame.dropFirst setup.settings.codec)
    log := dropEvents path frame ++ world.log }, copy, ?_, superuser, rfl, pair''.setContent _⟩
  simp only [run_dropFromFile world superuser, opened, Dataset.decode, decoded, if_neg filled,
    copied, created]

end Drop

end Setup

/-! ## Undoing -/

theorem Backup.restore_none (pair : world.files.Pair path directory name used current none) :
    Operation.run (restore path) world = (.error (.backupNotFound path.backup), world) := by
  rw [run_restore, pair.isFile_backup]
  rfl

/-- The file gets what the backup had, and there is no backup any more. -/
theorem Backup.restore_some
    (pair : world.files.Pair path directory name used current (some (inode, content))) :
    ∃ after, Operation.run (restore path) world = (.ok (), after) ∧
      after.user = world.user ∧ after.store = world.store ∧
      after.files.Pair path directory name used (some (inode, content)) none := by
  obtain ⟨files, renamed, pair'⟩ := pair.renameFile
  refine ⟨{ world with files, log := .restored path path.backup :: world.log }, ?_, rfl, rfl, pair'⟩
  rw [run_restore, pair.isFile_backup, renamed]
  rfl

theorem Setup.undoFile_none (pair : world.files.Pair path directory name used current none) :
    Operation.run (undoFile path) world = (.error (.backupNotFound path.backup), world) :=
  Operation.run_bind_error (Backup.restore_none pair)

theorem Setup.undoFile_some
    (pair : world.files.Pair path directory name used current (some (inode, content))) :
    ∃ after, Operation.run (undoFile path) world = (.ok (), after) ∧
      after.user = world.user ∧ after.store = world.store ∧
      after.files.Pair path directory name used (some (inode, content)) none := by
  obtain ⟨middle, restored, user, store, pair'⟩ := Backup.restore_some pair
  exact ⟨_, Operation.run_bind_ok restored, user, store, pair'⟩

end RowDrop
