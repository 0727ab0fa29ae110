import RowDrop.Proofs.Custody
import RowDrop.Proofs.Failures
import RowDrop.Proofs.Operations

/-!
# What an operation that succeeds has done

An operation that succeeds has succeeded at each of its steps (`Operation.run_bind_eq_ok`), whoever
runs it: none of them was refused, and each did to the files what it does for anyone. So a dataset
that is loaded has been opened, a backup that is taken is a copy, and a frame that is saved has been
written into a file. A drop from a file that succeeds has done all three
(`Setup.of_dropFromFile_ok`).
-/

namespace RowDrop

variable {world after : World} {path : Path} {setup : Setup}

namespace Operation

variable {α β ε : Type}

/-- Two operations one after the other succeed if the first does, and the second after it. -/
theorem run_bind_eq_ok {first : Operation α} {next : α → Operation β} {result : β} :
    run (first >>= next) world = (.ok result, after) ↔
      ∃ value middle, run first world = (.ok value, middle) ∧
        run (next value) middle = (.ok result, after) := by
  rw [run_bind]
  obtain ⟨ended, middle⟩ := run first world
  cases ended with
  | error error => simp
  | ok value => simp

theorem run_orFail_bind_eq_ok {meaning : ε → Error} {reply : Except ε α} {next : α → Operation β}
    {result : β} :
    run (orFail meaning reply >>= next) world = (.ok result, after) ↔
      ∃ value, reply = .ok value ∧ run (next value) world = (.ok result, after) := by
  cases reply with
  | error error =>
    rw [run_bind_error (run_orFail_error _ error world)]
    simp
  | ok value =>
    rw [run_bind_ok (run_orFail_ok _ value world)]
    simp

theorem run_orFail_eq_ok {meaning : ε → Error} {reply : Except ε α} {result : α} :
    run (orFail meaning reply) world = (.ok result, after) ↔
      reply = .ok result ∧ world = after := by
  cases reply with
  | error error => simp
  | ok value => simp

theorem of_run_discard_ok {operation : Operation α} {value : Unit}
    (h : run (discard operation) world = (.ok value, after)) :
    ∃ result, run operation world = (.ok result, after) := by
  rw [run_discard] at h
  obtain ⟨discarded, rfl⟩ := Prod.mk.inj h
  obtain ⟨result, succeeded, -⟩ := map_eq_ok.mp discarded
  exact ⟨result, Prod.ext succeeded rfl⟩

end Operation

open Operation

/-- A change that succeeds was permitted, and its files are those that are left. -/
theorem World.of_change_ok {α : Type} {refused : Bool} {result : Except IoError (α × Tree)}
    {value : α} (h : (world.change (permitted refused result)).1 = .ok value) :
    ∃ files, result = .ok (value, files) ∧
      world.change (permitted refused result) = (.ok value, { world with files }) := by
  rcases world.change_permitted refused result with ⟨error, failed⟩ | ⟨other, files, same, changed⟩
  · rw [failed] at h
    cases h
  · rw [changed] at h
    obtain rfl := Except.ok.inj h
    exact ⟨files, same, changed⟩

/-- What opening a path gives to the user. -/
def World.opening (world : World) (path : Path) : Except IoError Opened :=
  (world.reply (.openFile path)).1

theorem World.opening_eq (world : World) (path : Path) :
    world.opening path =
      permitted (world.files.refusesReading world.user path) (world.files.openFile path) := rfl

/-- A frame is loaded if it is in the file that opens; the world is left with a note of it. -/
theorem Dataset.run_load_eq_ok {frame : Frame} :
    run (load path) world = (.ok frame, after) ↔
      ∃ opened, world.opening path = .ok opened ∧ decode opened = .ok frame ∧
        after = { world with log := .loaded path frame.height frame.width :: world.log } := by
  have asked : run (load path) world = run (orFail (Error.ofOpen path) (world.opening path) >>= _)
      world := run_bind_ok (run_ask _ world)
  rw [asked, run_orFail_bind_eq_ok]
  refine exists_congr fun opened => and_congr_right fun _ => ?_
  rw [run_orFail_bind_eq_ok]
  constructor
  · rintro ⟨found, decoded, rest⟩
    rw [run_bind_ok (run_note _ world), run_pure] at rest
    obtain ⟨loaded, rfl⟩ := Prod.mk.inj rest
    obtain rfl := Except.ok.inj loaded
    exact ⟨decoded, rfl⟩
  · rintro ⟨decoded, rfl⟩
    exact ⟨frame, decoded, run_bind_ok (run_note _ world)⟩

/-- A backup that is taken is a copy. -/
theorem Backup.of_take_ok {kept : Path} (h : run (take path) world = (.ok kept, after)) :
    ∃ copied, world.files.copyFile path path.backup = .ok (copied, after.files) := by
  rw [take, run_bind_ok (run_ask _ world)] at h
  obtain ⟨_, middle, copying, rest⟩ := run_bind_eq_ok.mp h
  obtain ⟨copied, copying⟩ := of_run_discard_ok copying
  obtain ⟨replied, rfl⟩ := run_orFail_eq_ok.mp copying
  obtain ⟨files, done, changed⟩ := World.of_change_ok replied
  obtain ⟨-, rfl⟩ := Prod.mk.inj rest
  have left : (world.reply (.copyFile path path.backup)).2 = { world with files } :=
    congrArg Prod.snd changed
  rw [left]
  exact ⟨_, done⟩

/-- A frame that is saved is written into a file that was emptied or created. -/
theorem Dataset.of_save_ok {frame : Frame} {codec : Codec} {value : Unit}
    (h : run (save path frame codec) world = (.ok value, after)) :
    ∃ inode created, world.files.createFile path Tree.newFileMode = .ok (inode, created) ∧
      after.files = created.setContent inode (.ofFrame frame codec) := by
  rw [save, run_bind_ok (run_ask _ world)] at h
  obtain ⟨inode, replied, rest⟩ := run_orFail_bind_eq_ok.mp h
  obtain ⟨created, done, changed⟩ := World.of_change_ok replied
  have left : (world.reply (.createFile path)).2 = { world with files := created } :=
    congrArg Prod.snd changed
  rw [left] at rest
  obtain ⟨_, written, writing, noting⟩ := run_bind_eq_ok.mp rest
  obtain ⟨-, rfl⟩ := Prod.mk.inj writing
  obtain ⟨-, rfl⟩ := Prod.mk.inj noting
  exact ⟨inode, created, done, rfl⟩

/-- A drop that succeeds has read a file with rows and copied it; then it has written the file. -/
theorem Setup.of_dropFromFile_ok (formed : world.files.WellFormed)
    (dropped : run (setup.dropFromFile path) world = (.ok (), after)) :
    ∃ inode content mode frame copied copy,
      world.files.openFile path = .ok (.file inode content mode) ∧
      content.decode = .ok frame ∧ frame.height ≠ 0 ∧
      world.files.copyFile path path.backup = .ok (copied, copy) ∧
      after.files = (copy.setContent inode .empty).setContent inode
        (.ofFrame frame.dropFirst setup.settings.codec) := by
  obtain ⟨frame, _, loaded, rest⟩ := run_bind_eq_ok.mp dropped
  obtain ⟨opened, opening, decoded, rfl⟩ := Dataset.run_load_eq_ok.mp loaded
  obtain ⟨inode, content, mode, rfl⟩ := Dataset.file_of_decode decoded
  have found := ok_of_permitted opening
  obtain ⟨shorter, dropping, rest⟩ := run_orFail_bind_eq_ok.mp rest
  obtain ⟨filled, rfl⟩ : frame.height ≠ 0 ∧ frame.dropFirst = shorter := by
    rw [Dataset.dropFirst] at dropping
    split at dropping
    case isTrue => cases dropping
    case isFalse filled => exact ⟨filled, Except.ok.inj dropping⟩
  obtain ⟨_, kept, taking, rest⟩ := run_bind_eq_ok.mp rest
  obtain ⟨_, taking⟩ := of_run_discard_ok taking
  obtain ⟨copied, taken⟩ := Backup.of_take_ok taking
  obtain ⟨_, saved, saving, rest⟩ := run_bind_eq_ok.mp rest
  obtain ⟨inode', emptied, creation, files⟩ := Dataset.of_save_ok saving
  obtain ⟨-, rfl⟩ := Prod.mk.inj rest
  rw [Tree.createFile_of_backup formed found taken] at creation
  obtain ⟨rfl, rfl⟩ := Prod.mk.inj (Except.ok.inj creation)
  exact ⟨inode, content, mode, frame, copied, kept.files, found, decoded, filled, taken, files⟩

/-- An undo that succeeds has found a backup and renamed it. -/
theorem Setup.of_undoFile_ok (undone : run (undoFile path) world = (.ok (), after)) :
    world.files.isFile path.backup ∧
      world.files.renameFile path.backup path = .ok after.files := by
  rw [run_undoFile] at undone
  split_ifs at undone with isFile
  · refine ⟨isFile, ?_⟩
    split at undone
    · cases undone
    · obtain ⟨-, rfl⟩ := Prod.mk.inj undone
      assumption
  · cases undone

end RowDrop
