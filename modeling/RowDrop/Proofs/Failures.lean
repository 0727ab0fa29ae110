import RowDrop.Proofs.Files.Formed
import RowDrop.Proofs.Operations
import RowDrop.Proofs.Runs

/-!
# A change that fails changes no file

Dropping a row writes twice: the backup, and then the file. Everything that can go wrong goes wrong
before the first of these, or in it. By then the file has been read at its path, taking the backup
only lets the tree grow, and what was read can be written in a tree that has grown
(`createFile_of_backup`). So whatever links there are, no error leaves a backup without its change.
-/

namespace RowDrop

variable {world after : World} {path : Path} {error : Error}

namespace Tree

variable {tree grown : Tree} {inode : Inode} {content copied : Content} {mode : Nat}

/-- Once the backup of a file is taken, the file can be written. -/
theorem createFile_of_backup (formed : tree.WellFormed)
    (opened : tree.openFile path = .ok (.file inode content mode))
    (taken : tree.copyFile path path.backup = .ok (copied, grown)) (mode' : Nat) :
    grown.createFile path mode' = .ok (inode, grown.setContent inode .empty) := by
  have growth := grows_of_copyFile taken
  obtain ⟨content', mode'', again⟩ := openFile_of_grown formed growth opened
  exact createFile_of_openFile (growth.wellFormed formed) again

end Tree

/-- What decodes to a frame has been read from a file. -/
theorem Dataset.file_of_decode {opened : Opened} {frame : Frame} (h : decode opened = .ok frame) :
    ∃ inode content mode, opened = .file inode content mode := by
  cases opened with
  | file inode content mode => exact ⟨inode, content, mode, rfl⟩
  | directory => cases h

namespace Setup

variable {setup : Setup}

theorem dropFromFile_error (superuser : world.user = .superuser)
    (formed : world.files.WellFormed)
    (failed : Operation.run (setup.dropFromFile path) world = (.error error, after)) :
    after.files = world.files := by
  rw [run_dropFromFile world superuser] at failed
  split at failed
  case h_1 =>
    obtain ⟨-, rfl⟩ := Prod.mk.inj failed
    rfl
  case h_2 opened found =>
    split at failed
    case h_1 =>
      obtain ⟨-, rfl⟩ := Prod.mk.inj failed
      rfl
    case h_2 frame decoded =>
      obtain ⟨inode, content, mode, rfl⟩ := Dataset.file_of_decode decoded
      simp only at failed
      split at failed
      case isTrue =>
        obtain ⟨-, rfl⟩ := Prod.mk.inj failed
        rfl
      case isFalse =>
        split at failed
        case h_1 =>
          obtain ⟨-, rfl⟩ := Prod.mk.inj failed
          rfl
        case h_2 copied files taken =>
          rw [Tree.createFile_of_backup formed found taken] at failed
          cases failed

theorem undoFile_error
    (failed : Operation.run (undoFile path) world = (.error error, after)) :
    after.files = world.files := by
  rw [run_undoFile] at failed
  split at failed
  case isTrue =>
    split at failed
    case h_1 =>
      obtain ⟨-, rfl⟩ := Prod.mk.inj failed
      rfl
    case h_2 => cases failed
  case isFalse =>
    obtain ⟨-, rfl⟩ := Prod.mk.inj failed
    rfl

/-- Whatever files, directories and links there are, and whatever path is given: a change of a
local dataset by the superuser that ends with an error leaves every name, all contents and all
permission bits. -/
theorem files_of_perform_error {location text : String} (setup : Setup) (action : Action)
    (superuser : world.user = .superuser) (formed : world.files.WellFormed)
    (here : Location.parse location = .file text)
    (failed : (Operation.run (setup.perform location action) world).1 = .error error) :
    (Operation.run (setup.perform location action) world).2.files = world.files := by
  have run : Operation.run (setup.perform location action) world =
      (.error error, (Operation.run (setup.perform location action) world).2) :=
    Prod.ext failed rfl
  cases action with
  | drop =>
    simp only [perform, drop, here] at run ⊢
    exact dropFromFile_error superuser formed run
  | undo =>
    simp only [perform, undo, here] at run ⊢
    exact undoFile_error run

/-- A dataset without rows keeps its earlier backup. -/
theorem files_of_perform_error_without_rows :
    let dataset : Content := .ofFrame ⟨[⟨"n", .scalar .bool, []⟩]⟩ .zstd
    let files := (Tree.fresh.put (.ofString "d") dataset).put (.ofString "d.bk") (.raw [1])
    let world : World := ⟨files, .superuser, .empty, []⟩
    let setup : Setup := ⟨.standard .empty, .shared⟩
    (Operation.run (setup.perform "d" .drop) world).1 = .error (.emptyDataset "d") ∧
      (Operation.run (setup.perform "d" .drop) world).2.files = files := by
  intro dataset files world setup
  have formed : files.WellFormed :=
    Tree.wellFormed_put (Tree.wellFormed_put Tree.wellFormed_fresh _ _) _ _
  have failed : (Operation.run (setup.perform "d" .drop) world).1 =
      .error (.emptyDataset "d") := rfl
  have here : Location.parse "d" = .file "d" := rfl
  refine ⟨failed, ?_⟩
  show (Operation.run (setup.perform "d" .drop) world).2.files = world.files
  exact files_of_perform_error setup .drop rfl formed here failed

end Setup
end RowDrop
