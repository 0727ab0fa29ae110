import RowDrop.Change

/-!
# What the operations do

One equation for each operation on files, for a user whom no permission bits bind: how it ends, and
which world it leaves. The operations on objects are described after their key is checked and their
client is set up.
-/

namespace RowDrop

variable {world : World}

namespace World

/-! ## Single steps of the superuser -/

theorem reply_openFile (superuser : world.user = .superuser) (path : Path) :
    world.reply (.openFile path) = (world.files.openFile path, world) := by
  show (permitted (world.files.refusesReading world.user path) _, world) = _
  rw [superuser, Tree.refusesReading_superuser]
  rfl

theorem reply_copyFile (superuser : world.user = .superuser) (source target : Path) :
    world.reply (.copyFile source target) = world.change (world.files.copyFile source target) := by
  show world.change (permitted (world.files.refusesCopying world.user source target) _) = _
  rw [superuser, Tree.refusesCopying_superuser]
  rfl

theorem reply_createFile (superuser : world.user = .superuser) (path : Path) :
    world.reply (.createFile path) =
      world.change (world.files.createFile path Tree.newFileMode) := by
  show world.change (permitted (world.files.refusesWriting world.user path) _) = _
  rw [superuser, Tree.refusesWriting_superuser]
  rfl

theorem reply_writeFile (superuser : world.user = .superuser) (path : Path) (content : Content) :
    world.reply (.writeFile path content) =
      world.change ((world.files.createFile path Tree.newFileMode).map fun (inode, files) =>
        ((), files.setContent inode content)) := by
  show world.change (permitted (world.files.refusesWriting world.user path) _) = _
  rw [superuser, Tree.refusesWriting_superuser]
  rfl

end World

/-- Only the value of an operation is discarded. -/
theorem Operation.run_discard {α : Type} (operation : Operation α) (world : World) :
    run (discard operation) world =
      ((run operation world).1.map fun _ => (), (run operation world).2) := by
  show Program.run (ExceptT.run operation >>= _) world = _
  rw [Program.run_bind]
  unfold run
  obtain ⟨result, after⟩ := Program.run (ExceptT.run operation) world
  cases result with
  | ok value => rfl
  | error error => rfl

theorem Operation.run_discard_ok {α : Type} {operation : Operation α} {after : World} {value : α}
    (h : run operation world = (.ok value, after)) :
    run (discard operation) world = (.ok (), after) := by
  rw [run_discard, h]
  rfl

theorem Operation.run_discard_error {α : Type} {operation : Operation α} {after : World}
    {error : Error} (h : run operation world = (.error error, after)) :
    run (discard operation) world = (.error error, after) := by
  rw [run_discard, h]
  rfl

/-! ## Datasets -/

variable (world)

namespace Dataset

theorem run_load (superuser : world.user = .superuser) (path : Path) :
    Operation.run (load path) world =
      match world.files.openFile path with
      | .error error => (.error (Error.ofOpen path error), world)
      | .ok opened =>
        match decode opened with
        | .error error => (.error (.format error), world)
        | .ok frame =>
          (.ok frame,
            { world with log := .loaded path frame.height frame.width :: world.log }) := by
  unfold load
  rw [Operation.run_bind_ok (Operation.run_ask _ world), World.reply_openFile superuser]
  cases world.files.openFile path with
  | error error => rfl
  | ok opened =>
    rw [Operation.run_bind_ok (Operation.run_orFail_ok _ opened world)]
    cases decoded : decode opened with
    | error error =>
      simp only [decoded]
      rfl
    | ok frame =>
      simp only [decoded]
      rfl

theorem run_save (superuser : world.user = .superuser) (path : Path) (frame : Frame)
    (codec : Codec) :
    Operation.run (save path frame codec) world =
      match world.files.createFile path Tree.newFileMode with
      | .error error => (.error (.io error), world)
      | .ok (inode, files) =>
        (.ok (), { world with
          files := files.setContent inode (.ofFrame frame codec)
          log := .saved path frame.height frame.width :: world.log }) := by
  unfold save
  rw [Operation.run_bind_ok (Operation.run_ask _ world), World.reply_createFile superuser]
  cases world.files.createFile path Tree.newFileMode with
  | error error => rfl
  | ok created => rfl

end Dataset

/-! ## Backups -/

namespace Backup

theorem run_take (superuser : world.user = .superuser) (path : Path) :
    Operation.run (take path) world =
      match world.files.copyFile path path.backup with
      | .error error => (.error (Error.ofCopy path error), world)
      | .ok (_, files) =>
        (.ok path.backup, { world with files, log := .backedUp path.backup :: world.log }) := by
  unfold take
  rw [Operation.run_bind_ok (Operation.run_ask _ world), World.reply_copyFile superuser]
  cases world.files.copyFile path path.backup with
  | error error => rfl
  | ok copied => rfl

theorem run_restore (path : Path) :
    Operation.run (restore path) world =
      if world.files.isFile path.backup then
        match world.files.renameFile path.backup path with
        | .error error => (.error (.io error), world)
        | .ok files =>
          (.ok (), { world with files, log := .restored path path.backup :: world.log })
      else (.error (.backupNotFound path.backup), world) := by
  have asked : Operation.run (Operation.ask (.isFile path.backup) : Operation Bool) world =
      (.ok (world.files.isFile path.backup), world) := rfl
  unfold restore
  refine (Operation.run_bind_ok asked).trans ?_
  by_cases found : world.files.isFile path.backup
  · rw [if_pos found, if_pos found, Operation.run_bind_ok (Operation.run_ask _ world)]
    have moved : world.reply (.renameFile path.backup path) =
        world.change ((world.files.renameFile path.backup path).map fun files => ((), files)) := rfl
    rw [moved]
    cases world.files.renameFile path.backup path with
    | error error => rfl
    | ok files => rfl
  · rw [if_neg found, if_neg found]
    rfl

end Backup

/-! ## Objects -/

namespace Remote

variable {remote : Remote} {bucket key : String} {prepared : Prepared} {target : Target}

theorem run_download (superuser : world.user = .superuser)
    (prepare : remote.prepare bucket key = .ok prepared) (address : prepared.target = .ok target)
    (path : Path) :
    Operation.run (remote.download bucket key path) world =
      match world.store.get target with
      | (.error error, store) => (.error (ofGet bucket key error), { world with store })
      | (.ok content, store) =>
        match world.files.createFile path Tree.newFileMode with
        | .error error => (.error (.io error), { world with store })
        | .ok (inode, files) =>
          (.ok content, { world with
            files := files.setContent inode content
            store
            log := .downloaded (Location.objectText bucket key) path :: world.log }) := by
  have got : Operation.run (Operation.ask (.getObject target)) world =
      (.ok (world.store.get target).1, { world with store := (world.store.get target).2 }) := rfl
  unfold download
  rw [prepare, Operation.run_bind_ok (Operation.run_orFail_ok _ prepared world), address,
    Operation.run_bind_ok (Operation.run_orFail_ok _ target world)]
  refine (Operation.run_bind_ok got).trans ?_
  obtain ⟨result, store⟩ := world.store.get target
  cases result with
  | error error => rfl
  | ok content =>
    have moved : { world with store }.user = .superuser := superuser
    have written := World.reply_writeFile moved path content
    refine (Operation.run_bind_ok (Operation.run_orFail_ok _ content _)).trans ?_
    refine (Operation.run_bind_ok (Operation.run_ask _ _)).trans ?_
    simp only [written]
    cases world.files.createFile path Tree.newFileMode with
    | error error => rfl
    | ok created => rfl

theorem run_upload (superuser : world.user = .superuser)
    (prepare : remote.prepare bucket key = .ok prepared) (address : prepared.target = .ok target)
    {path : Path} {inode : Inode} {content : Content} {mode : Nat}
    (opened : world.files.openFile path = .ok (.file inode content mode)) :
    Operation.run (remote.upload bucket key path) world =
      match world.store.put target content with
      | (.error error, store) => (.error (.store error), { world with store })
      | (.ok _, store) =>
        (.ok content, { world with
          store, log := .uploaded path (Location.objectText bucket key) :: world.log }) := by
  have sent : Operation.run (Operation.ask (.putObject target content)) world =
      (.ok (world.store.put target content).1,
        { world with store := (world.store.put target content).2 }) := rfl
  unfold upload
  rw [prepare, Operation.run_bind_ok (Operation.run_orFail_ok _ prepared world),
    Operation.run_bind_ok (Operation.run_ask _ world), World.reply_openFile superuser, opened]
  refine (Operation.run_bind_ok (Operation.run_orFail_ok _ _ world)).trans ?_
  refine (Operation.run_bind_ok (Operation.run_orFail_ok _ content world)).trans ?_
  rw [address]
  refine (Operation.run_bind_ok (Operation.run_orFail_ok _ target world)).trans ?_
  refine (Operation.run_bind_ok sent).trans ?_
  obtain ⟨result, store⟩ := world.store.put target content
  cases result with
  | error error => rfl
  | ok => rfl

end Remote

/-! ## Changes of a file -/

namespace Setup

/-- The events of dropping the first row, the last event first. -/
def dropEvents (path : Path) (frame : Frame) : List Event :=
  [.dropped path.display frame.dropFirst.height,
    .saved path frame.dropFirst.height frame.dropFirst.width, .backedUp path.backup,
    .loaded path frame.height frame.width]

theorem run_dropFromFile (superuser : world.user = .superuser) (setup : Setup) (path : Path) :
    Operation.run (setup.dropFromFile path) world =
      match world.files.openFile path with
      | .error error => (.error (Error.ofOpen path error), world)
      | .ok opened =>
        match Dataset.decode opened with
        | .error error => (.error (.format error), world)
        | .ok frame =>
          let loaded := { world with
            log := .loaded path frame.height frame.width :: world.log }
          if frame.height = 0 then (.error (.emptyDataset path.display), loaded)
          else
            match world.files.copyFile path path.backup with
            | .error error => (.error (Error.ofCopy path error), loaded)
            | .ok (_, files) =>
              match files.createFile path Tree.newFileMode with
              | .error error =>
                (.error (.io error),
                  { world with files, log := .backedUp path.backup :: loaded.log })
              | .ok (inode, files) =>
                (.ok (), { world with
                  files := files.setContent inode (.ofFrame frame.dropFirst setup.settings.codec)
                  log := dropEvents path frame ++ world.log }) := by
  have taken (log : List Event) : Operation.run (Backup.take path) { world with log } = _ :=
    Backup.run_take { world with log } superuser path
  have saved (files : Tree) (log : List Event) (frame : Frame) :
      Operation.run (Dataset.save path frame setup.settings.codec) { world with files, log } = _ :=
    Dataset.run_save { world with files, log } superuser path frame _
  unfold dropFromFile
  rw [Operation.run_bind, Dataset.run_load world superuser]
  cases world.files.openFile path with
  | error error => rfl
  | ok opened =>
    cases decoded : Dataset.decode opened with
    | error error => simp only [decoded]
    | ok frame =>
      simp only [decoded]
      by_cases empty : frame.height = 0
      · rw [if_pos empty, Dataset.dropFirst, if_pos empty]
        rfl
      · rw [if_neg empty, Dataset.dropFirst, if_neg empty,
          Operation.run_bind_ok (Operation.run_orFail_ok _ _ _), Operation.run_bind,
          Operation.run_discard, taken]
        cases world.files.copyFile path path.backup with
        | error error => rfl
        | ok copied =>
          obtain ⟨content, files⟩ := copied
          simp only [Except.map]
          rw [Operation.run_bind, saved]
          cases files.createFile path Tree.newFileMode with
          | error error => rfl
          | ok created => rfl

theorem run_undoFile (path : Path) :
    Operation.run (undoFile path) world =
      if world.files.isFile path.backup then
        match world.files.renameFile path.backup path with
        | .error error => (.error (.io error), world)
        | .ok files =>
          (.ok (), { world with
            files, log := .undone path :: .restored path path.backup :: world.log })
      else (.error (.backupNotFound path.backup), world) := by
  unfold undoFile
  rw [Operation.run_bind, Backup.run_restore]
  by_cases found : world.files.isFile path.backup
  · rw [if_pos found, if_pos found]
    cases world.files.renameFile path.backup path with
    | error error => rfl
    | ok files => rfl
  · rw [if_neg found, if_neg found]

end Setup
end RowDrop
