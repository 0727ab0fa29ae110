import RowDrop.Proofs.FileChanges
import RowDrop.Proofs.Objects

/-!
# Objects in the staging file

Where the store serves the target of a key, a download fills the slot of the staging file with the
object, and an upload replaces the object with what that slot holds. The slot of the backup is not
touched by either.
-/

namespace RowDrop.Remote

variable {world : World} {remote : Remote} {bucket key : String} {prepared : Prepared}
variable {target : Target} {path : Path} {directory inode : Inode} {name : Name} {used : Nat}
variable {content : Content} {current kept : Option (Inode × Content)}

section Download

variable (superuser : world.user = .superuser)
variable (prepare : remote.prepare bucket key = .ok prepared)
variable (address : prepared.target = .ok target) (serves : world.store.Serves target)

include superuser prepare address serves

/-- An object that is not there leaves the files alone. -/
theorem download_missing (missing : world.store.object? target.storedName = none) :
    ∃ requests, Operation.run (remote.download bucket key path) world =
      (.error (.notFound (Location.objectText bucket key)),
        { world with store := { world.store with requests } }) := by
  obtain ⟨requests, got⟩ := serves.get
  refine ⟨requests, ?_⟩
  rw [run_download world superuser prepare address, got, missing]
  show (Except.error (ofGet bucket key (Store.absence target)), _) = _
  rw [ofGet, if_pos (Store.isMissing_absence target)]

/-- Where the path of the staging file is not taken, the files are left alone. -/
theorem download_blocked (found : world.store.object? target.storedName = some content)
    (pair : world.files.Pair path directory name used current kept) {error : IoError}
    (refused : Tree.takes path name = .error error) :
    ∃ requests, Operation.run (remote.download bucket key path) world =
      (.error (.io error), { world with store := { world.store with requests } }) := by
  obtain ⟨requests, got⟩ := serves.get
  refine ⟨requests, ?_⟩
  rw [run_download world superuser prepare address, got, found]
  simp only [Option.elim_some, pair.createFile_error refused]

/-- The staging file gets what the object holds. -/
theorem download_ok (found : world.store.object? target.storedName = some content)
    (pair : world.files.Pair path directory name used current kept)
    (taken : Tree.takes path name = .ok ()) :
    ∃ after inode requests, Operation.run (remote.download bucket key path) world =
        (.ok content, after) ∧
      after.user = .superuser ∧ after.store = { world.store with requests } ∧
      after.files.Pair path directory name used (some (inode, content)) kept := by
  obtain ⟨requests, got⟩ := serves.get
  obtain ⟨inode, created, creation, pair', -⟩ := pair.createFile taken Tree.newFileMode
  refine ⟨{ world with
    files := created.setContent inode content
    store := { world.store with requests }
    log := .downloaded (Location.objectText bucket key) path :: world.log }, inode, requests, ?_,
    superuser, rfl, pair'.setContent content⟩
  rw [run_download world superuser prepare address, got, found]
  simp only [Option.elim_some, creation]

end Download

/-- The object gets what the staging file holds. -/
theorem upload_ok (superuser : world.user = .superuser)
    (prepare : remote.prepare bucket key = .ok prepared) (address : prepared.target = .ok target)
    (serves : world.store.Serves target)
    (pair : world.files.Pair path directory name used (some (inode, content)) kept) :
    ∃ after requests, Operation.run (remote.upload bucket key path) world = (.ok content, after) ∧
      after.user = .superuser ∧ after.files = world.files ∧
      after.store = { world.store with requests }.set target.storedName content := by
  obtain ⟨mode, opened⟩ := pair.openFile
  obtain ⟨requests, sent⟩ := serves.put content
  refine ⟨{ world with
    store := { world.store with requests }.set target.storedName content
    log := .uploaded path (Location.objectText bucket key) :: world.log }, requests, ?_, superuser,
    rfl, rfl⟩
  rw [run_upload world superuser prepare address opened, sent]

end RowDrop.Remote
