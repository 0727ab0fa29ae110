import RowDrop.Files.Edit
import RowDrop.Proofs.Files.Renaming

/-!
# A file and its backup

`Tree.Pair` is the invariant of a dataset and its backup: their names are two slots of one
directory, and where both stand for files, these are two files. Each call by which the two are
handled is described by what the slots hold before and after it: reading (`Pair.openFile`), asking
for the backup (`Pair.isFile_backup`), copying the file to the backup (`Pair.copyFile`), emptying
or creating the file (`Pair.createFile`), writing it (`Pair.setContent`) and moving the backup over
it (`Pair.renameFile`).
-/

namespace RowDrop.Tree

variable {tree : Tree} {path : Path} {inode directory : Inode} {name : Name} {used : Nat}
variable {content : Content} {current backup : Option (Inode × Content)} {error : IoError}

/-- What is read at a path are the contents of the file that it leads to. -/
theorem content?_of_openFile {mode : Nat}
    (opened : tree.openFile path = .ok (.file inode content mode)) :
    tree.content? path = some content := by
  simp only [content?, readFile, opened]
  rfl

/-- What a name and the name of its backup stand for. -/
structure Pair (tree : Tree) (path : Path) (directory : Inode) (name : Name) (used : Nat)
    (current backup : Option (Inode × Content)) : Prop where
  formed : tree.WellFormed
  stands : tree.Stands path directory name used
  holds : tree.Slot (linkLimit - used) directory name current
  backupHolds : tree.Slot (linkLimit - used) directory (name ++ Path.backupSuffix) backup
  apart : ∀ inode content content',
    current = some (inode, content) → backup ≠ some (inode, content')
  taken : current.isSome → takes path name = .ok ()
  backupTaken : backup.isSome → takes path.backup (name ++ Path.backupSuffix) = .ok ()

/-- What is found at the path of the backup of a file: nothing, or another file. -/
inductive Beside (tree : Tree) (path : Path) (inode : Inode) : Option (Inode × Content) → Prop where
  | free {directory : Inode} {name : Name} :
      tree.locate .name path.backup = .ok (.free directory name) → Beside tree path inode none
  | file {other : Inode} {content : Content} {mode : Nat} :
      tree.openFile path.backup = .ok (.file other content mode) → other ≠ inode →
      Beside tree path inode (some (other, content))

namespace Pair

theorem openFile (h : tree.Pair path directory name used (some (inode, content)) backup) :
    ∃ mode, tree.openFile path = .ok (.file inode content mode) :=
  h.stands.openFile h.formed (h.taken rfl) h.holds

theorem openFile_backup (h : tree.Pair path directory name used current (some (inode, content))) :
    ∃ mode, tree.openFile path.backup = .ok (.file inode content mode) :=
  h.stands.backup.openFile h.formed (h.backupTaken rfl) h.backupHolds

theorem lookup_backup_none (h : tree.Pair path directory name used current none) :
    ∃ error, tree.lookup path.backup = .error error := by
  cases h.backupHolds with
  | free free =>
    unfold lookup
    cases taken : takes path.backup (name ++ Path.backupSuffix) with
    | error error =>
      rw [h.stands.backup.locate_error taken]
      exact ⟨error, rfl⟩
    | ok =>
      rw [h.stands.backup.locate_free taken free]
      exact ⟨_, rfl⟩

/-- There is a backup to restore exactly if the backup's name stands for a file. -/
theorem isFile_backup (h : tree.Pair path directory name used current backup) :
    tree.isFile path.backup = backup.isSome := by
  cases backup with
  | none =>
    obtain ⟨error, failed⟩ := h.lookup_backup_none
    simp [isFile, failed]
  | some file =>
    obtain ⟨inode, content⟩ := file
    obtain ⟨mode, opened⟩ := h.openFile_backup
    obtain ⟨found, file⟩ := openFile_eq_file.mp opened
    simp [isFile, found, file]

/-- What is read at the path of the backup is what its slot holds. -/
theorem content?_backup (h : tree.Pair path directory name used current backup) :
    tree.content? path.backup = backup.map (·.2) := by
  cases backup with
  | none =>
    obtain ⟨error, failed⟩ := h.lookup_backup_none
    simp only [content?, readFile, Tree.openFile, failed]
    rfl
  | some file =>
    obtain ⟨inode, content⟩ := file
    obtain ⟨mode, opened⟩ := h.openFile_backup
    exact content?_of_openFile opened

theorem setContent (h : tree.Pair path directory name used (some (inode, content)) backup)
    (content' : Content) :
    (tree.setContent inode content').Pair path directory name used (some (inode, content'))
      backup where
  formed := (Keeps.setContent tree inode content').wellFormed h.formed
  stands := h.stands.grows (.setContent tree inode content')
  holds := h.holds.setContent content'
  backupHolds := by
    refine h.backupHolds.of_changesOnly (.setContent tree inode content' directory name) ?_ ?_
    · rintro file content'' same rfl
      exact h.apart _ _ _ rfl same
    · exact fun both => Path.append_backupSuffix_ne name both.2
  apart _ _ _ same := by
    obtain ⟨rfl, rfl⟩ := Prod.mk.inj (Option.some.inj same)
    exact h.apart _ _ _ rfl
  taken _ := h.taken rfl
  backupTaken := h.backupTaken

/-- The file is emptied where it is there, and created where it is not. -/
theorem createFile (h : tree.Pair path directory name used current backup)
    (taken : takes path name = .ok ()) (mode : Nat) :
    ∃ inode after, tree.createFile path mode = .ok (inode, after) ∧
      after.Pair path directory name used (some (inode, .empty)) backup ∧
      ∀ old, current = some old → old.1 = inode := by
  obtain ⟨inode, after, created, changes, filled, was⟩ :=
    createFile_slot h.formed h.stands taken h.holds mode
  refine ⟨inode, after, created, ?_, ?_⟩
  · have apart : ∀ content, backup ≠ some (inode, content) := by
      rintro content rfl
      cases h.backupHolds with
      | file _ _ file =>
        obtain ⟨old, same⟩ := was (Option.isSome_of_eq_some file)
        exact h.apart _ _ _ same rfl
    exact {
      formed := changes.wellFormed h.formed
      stands := h.stands.grows changes.toGrows
      holds := filled
      backupHolds := by
        refine h.backupHolds.of_changesOnly changes ?_ ?_
        · rintro file content same rfl
          exact apart content same
        · exact fun both => Path.append_backupSuffix_ne name both.2
      apart := by
        intro _ _ content same
        obtain ⟨rfl, -⟩ := Prod.mk.inj (Option.some.inj same)
        exact apart content
      taken := fun _ => taken
      backupTaken := h.backupTaken }
  · rintro old rfl
    obtain ⟨mode', opened⟩ := h.openFile
    rw [createFile_of_openFile h.formed opened] at created
    exact (Prod.mk.inj (Except.ok.inj created)).1

/-- Copying gives the backup the contents of the file, which stays as it is. -/
theorem copyFile (h : tree.Pair path directory name used (some (inode, content)) backup)
    (taken : takes path.backup (name ++ Path.backupSuffix) = .ok ()) :
    ∃ copy after, tree.copyFile path path.backup = .ok (content, after) ∧
      after.Pair path directory name used (some (inode, content)) (some (copy, content)) := by
  obtain ⟨mode, opened⟩ := h.openFile
  obtain ⟨copy, created, creation, changes, filled, was⟩ :=
    createFile_slot h.formed h.stands.backup taken h.backupHolds mode
  have apart : copy ≠ inode := by
    rintro rfl
    cases h.holds with
    | file _ _ file =>
      obtain ⟨old, same⟩ := was (Option.isSome_of_eq_some file)
      exact h.apart _ _ _ rfl same
  have all := (changes.trans (.setMode created copy mode _ _)).trans
    (.setContent _ copy content _ _)
  refine ⟨copy, ((created.setMode copy mode).setContent copy content), ?_, ?_⟩
  · rw [Tree.copyFile, bind_eq_ok]
    refine ⟨_, opened, bind_eq_ok.mpr ⟨_, creation, ?_⟩⟩
    simp only [if_neg apart]
  · exact {
      formed := all.wellFormed h.formed
      stands := h.stands.grows all.toGrows
      holds := by
        refine h.holds.of_changesOnly all ?_ ?_
        · rintro file content' same rfl
          obtain ⟨rfl, -⟩ := Prod.mk.inj (Option.some.inj same)
          exact apart rfl
        · exact fun both => Path.append_backupSuffix_ne name both.2.symm
      backupHolds := by
        cases filled with
        | file le leads file =>
          exact .file le
            ((leads.grows (.setMode created copy mode)).grows (.setContent _ copy content))
            (file?_setContent (file?_setMode file))
      apart := by
        intro _ _ content' same
        obtain ⟨rfl, -⟩ := Prod.mk.inj (Option.some.inj same)
        intro both
        exact apart (Prod.mk.inj (Option.some.inj both)).1
      taken := fun _ => h.taken rfl
      backupTaken := fun _ => taken }

/-- A backup whose path is not taken is not written. -/
theorem copyFile_error (h : tree.Pair path directory name used (some (inode, content)) backup)
    (refused : takes path.backup (name ++ Path.backupSuffix) = .error error) :
    tree.copyFile path path.backup = .error error := by
  obtain ⟨mode, opened⟩ := h.openFile
  simp only [Tree.copyFile, opened, Tree.createFile, h.stands.backup.locate_error refused]
  rfl

/-- A file whose path is not taken is not created. -/
theorem createFile_error (h : tree.Pair path directory name used current backup)
    (refused : takes path name = .error error) (mode : Nat) :
    tree.createFile path mode = .error error := by
  simp only [Tree.createFile, h.stands.locate_error refused]
  rfl

/-- What is created at the path of the file is the file. -/
theorem of_createFile {after : Tree} {mode : Nat}
    (h : tree.Pair path directory name used current backup)
    (created : tree.createFile path mode = .ok (inode, after)) :
    after.Pair path directory name used (some (inode, .empty)) backup := by
  cases taken : takes path name with
  | error error => cases (h.createFile_error taken mode).symm.trans created
  | ok =>
    obtain ⟨inode', after', created', pair, -⟩ := h.createFile taken mode
    obtain ⟨rfl, rfl⟩ := Prod.mk.inj (Except.ok.inj (created.symm.trans created'))
    exact pair

/-- What is copied to the path of the backup is the backup. -/
theorem of_copyFile {after : Tree} {copied : Content}
    (h : tree.Pair path directory name used (some (inode, content)) backup)
    (made : tree.copyFile path path.backup = .ok (copied, after)) :
    ∃ copy,
      after.Pair path directory name used (some (inode, content)) (some (copy, content)) := by
  cases taken : takes path.backup (name ++ Path.backupSuffix) with
  | error error => cases (h.copyFile_error taken).symm.trans made
  | ok =>
    obtain ⟨copy, after', made', pair⟩ := h.copyFile taken
    obtain ⟨-, rfl⟩ := Prod.mk.inj (Except.ok.inj (made.symm.trans made'))
    exact ⟨copy, pair⟩

/-- Moving the backup over the file gives the file what the backup had; the backup is gone. -/
theorem renameFile (h : tree.Pair path directory name used current (some (inode, content))) :
    ∃ after, tree.renameFile path.backup path = .ok after ∧
      after.Pair path directory name used (some (inode, content)) none := by
  have backupTaken := h.backupTaken rfl
  have taken := takes_of_backup h.stands.filled backupTaken
  have isName := h.stands.isName
  have isName' := isName_backup name
  have isDirectory := h.stands.isDirectory
  have short := (takes_eq_ok.mp taken).2
  have apart : ∀ content', current ≠ some (inode, content') := fun content' same =>
    h.apart _ _ content same rfl
  have replaced : ∀ other, tree.child? directory name = some other →
      (∃ node, tree.node? other = some node) ∧ ¬tree.isDirectory other := by
    intro other stood
    cases current with
    | none =>
      cases h.holds with
      | free free =>
        rw [free] at stood
        cases stood
    | some old =>
      obtain ⟨-, child, node, found, there, plain⟩ := h.holds.entry isName
      obtain rfl := Option.some.inj (found.symm.trans stood)
      exact ⟨⟨node, there⟩, plain⟩
  obtain ⟨child, found, renamed⟩ := h.stands.renameFile_backup backupTaken h.backupHolds
    (h.holds.aside isName apart) replaced
  exact ⟨_, renamed, {
    formed := (keeps_moved isDirectory).wellFormed h.formed
    stands := h.stands.moved h.backupHolds isName' h.holds isName
    holds := h.backupHolds.moved isDirectory isName' h.holds isName short apart found
    backupHolds := free_moved isDirectory (Path.append_backupSuffix_ne name)
    apart := fun _ _ _ _ same => by cases same
    taken := fun _ => taken
    backupTaken := fun gone => by cases gone }⟩

end Pair

/-- What is found at a path that ends with a name: nothing, or a file. -/
inductive Found (tree : Tree) (path : Path) (directory : Inode) (name : Name) :
    Option (Inode × Content) → Prop where
  | free : tree.child? directory name = none → Found tree path directory name none
  | file {inode : Inode} {content : Content} {mode : Nat} :
      tree.openFile path = .ok (.file inode content mode) →
      Found tree path directory name (some (inode, content))

theorem Found.slot {slot : Option (Inode × Content)}
    (h : tree.Found path directory name slot) (formed : tree.WellFormed)
    (stands : tree.Stands path directory name used) :
    (slot.isSome → takes path name = .ok ()) ∧
      tree.Slot (linkLimit - used) directory name slot := by
  cases h with
  | free free => exact ⟨by simp, .free free⟩
  | file opened =>
    obtain ⟨taken, slot⟩ := stands.slot_of_openFile formed opened
    exact ⟨fun _ => taken, slot⟩

/-- Two names that are free or stand for two files make a pair. -/
theorem pair_of_found (formed : tree.WellFormed) (stands : tree.Stands path directory name used)
    (found : tree.Found path directory name current)
    (foundBackup : tree.Found path.backup directory (name ++ Path.backupSuffix) backup)
    (apart : ∀ file copy, current = some file → backup = some copy → file.1 ≠ copy.1) :
    tree.Pair path directory name used current backup := by
  obtain ⟨taken, holds⟩ := found.slot formed stands
  obtain ⟨backupTaken, backupHolds⟩ := foundBackup.slot formed stands.backup
  refine ⟨formed, stands, holds, backupHolds, ?_, taken, backupTaken⟩
  intro inode content content' same same'
  exact apart _ _ same same' rfl

/-- A file that is read and a backup that is free or another file make a pair. -/
theorem exists_pair {mode : Nat} {kept : Option (Inode × Content)}
    (formed : tree.WellFormed)
    (opened : tree.openFile path = .ok (.file inode content mode))
    (beside : tree.Beside path inode kept) :
    ∃ directory name used, tree.Pair path directory name used (some (inode, content)) kept ∧
      takes path.backup (name ++ Path.backupSuffix) = .ok () := by
  obtain ⟨directory, name, used, stands, taken, holds⟩ := exists_stands formed opened
  refine ⟨directory, name, used, ?_⟩
  cases beside with
  | free free =>
    obtain ⟨backupTaken, none⟩ := stands.backup.child?_eq_none free
    exact ⟨⟨formed, stands, holds, .free none, by simp, fun _ => taken, by simp⟩, backupTaken⟩
  | file opened' ne =>
    obtain ⟨backupTaken, slot⟩ := stands.backup.slot_of_openFile formed opened'
    refine ⟨⟨formed, stands, holds, slot, ?_, fun _ => taken, fun _ => backupTaken⟩, backupTaken⟩
    rintro _ _ _ same same'
    obtain ⟨rfl, -⟩ := Prod.mk.inj (Option.some.inj same)
    obtain ⟨rfl, -⟩ := Prod.mk.inj (Option.some.inj same')
    exact ne rfl

end RowDrop.Tree
