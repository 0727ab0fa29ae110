import RowDrop.Proofs.FileChanges
import RowDrop.Proofs.Linked
import RowDrop.Proofs.Recovery
import RowDrop.Proofs.UndoSlot

/-!
# Delivering an object without its first row

Dropping the first row of an object goes through the staging file, which may hold anything before.
How it ends and what becomes of the store is a function of the store alone, as long as the staging
file can be written (`Setup.run_dropFromObject_eq`). Either no object changes, or the object holds
what a drop from a file would leave; so it may be tried until it succeeds, and takes one row
(`Setup.perform_drop_delivers`).
-/

namespace RowDrop

variable {world : World} {path : Path} {directory inode : Inode} {name : Name} {used : Nat}
variable {content : Content} {current kept : Option (Inode × Content)} {setup : Setup}
variable {bucket key : String} {error : Error} {frame : Frame}

namespace Tree

variable {tree : Tree}

/-- Whether a path can be opened for writing, and why not. -/
def admits (tree : Tree) (path : Path) : Except IoError Unit :=
  (tree.createFile path newFileMode).map fun _ => ()

/-- Whether the system takes a path with the last of its names. -/
def accepts (path : Path) : Except IoError Unit := takes path (path.names.getLast?.getD [])

theorem Stands.accepts (h : tree.Stands path directory name used) :
    accepts path = takes path name := by
  obtain ⟨lead, names, -⟩ := h.names
  simp [Tree.accepts, names]

/-- Where a file and its backup are a pair, what stands there does not matter for writing. -/
theorem Pair.admits (h : tree.Pair path directory name used current kept) :
    tree.admits path = accepts path := by
  rw [h.stands.accepts, Tree.admits]
  cases taken : takes path name with
  | error error =>
    rw [h.createFile_error taken]
    rfl
  | ok =>
    obtain ⟨inode, after, created, -⟩ := h.createFile taken newFileMode
    rw [created]
    rfl

end Tree

/-- Where a key gives no target, nothing is done. -/
theorem Remote.run_download_unaddressed {remote : Remote}
    (h : remote.address bucket key = .error error) (world : World) :
    Operation.run (remote.download bucket key path) world = (.error error, world) := by
  unfold Remote.download
  obtain failed | ⟨prepared, prepare, failed⟩ := bind_eq_error.mp h
  · rw [failed]
    rfl
  · rw [prepare, Operation.run_bind_ok (Operation.run_orFail_ok _ prepared world), failed]
    rfl

theorem Remote.names_of_address {remote : Remote} {object : String} {target : Target}
    (named : objectName bucket key = .ok object)
    (addressed : remote.address bucket key = .ok target) : remote.Names bucket object target := by
  obtain ⟨prepared, prepare, address⟩ := bind_eq_ok.mp addressed
  exact names_of_target named prepare address

/-- What was got from the store is put into the staging file, if this can be written. -/
theorem Remote.run_download_admits {remote : Remote} {prepared : Prepared} {target : Target}
    {store : Store} (superuser : world.user = .superuser)
    (custody : Custody path world.files .nowhere)
    (prepare : remote.prepare bucket key = .ok prepared) (address : prepared.target = .ok target)
    (got : world.store.get target = (.ok content, store)) :
    match world.files.admits path with
    | .error error =>
      Operation.run (remote.download bucket key path) world =
        (.error (.io error), { world with store })
    | .ok () =>
      ∃ after directory name used inode kept,
        Operation.run (remote.download bucket key path) world = (.ok content, after) ∧
        after.user = .superuser ∧ after.store = store ∧
        after.files.Pair path directory name used (some (inode, content)) kept := by
  have downloaded := run_download world superuser prepare address path
  simp only [got] at downloaded
  unfold Tree.admits
  cases creation : world.files.createFile path Tree.newFileMode with
  | error error =>
    simp only [creation] at downloaded
    exact downloaded
  | ok created =>
    obtain ⟨inode, files⟩ := created
    simp only [creation] at downloaded
    cases custody with
    | dangling _ dangles => exact absurd creation dangles.createFile
    | pair pair =>
      exact ⟨_, _, _, _, inode, _, downloaded, superuser, rfl,
        (pair.of_createFile creation).setContent content⟩

/-- What dropping the first row makes of the contents of a file, if its backup's path is taken. -/
def Content.withoutFirst (path : Path) (codec : Codec) (content : Content) :
    Except Error Content :=
  match content.decode with
  | .error error => .error (.format error)
  | .ok frame =>
    if frame.height = 0 then .error (.emptyDataset path.display)
    else
      match Tree.accepts path.backup with
      | .error error => .error (Error.ofCopy path error)
      | .ok () => .ok (.ofFrame frame.dropFirst codec)

namespace Setup

theorem run_dropFromFile_withoutFirst (setup : Setup) (superuser : world.user = .superuser)
    (pair : world.files.Pair path directory name used (some (inode, content)) kept) :
    match content.withoutFirst path setup.settings.codec with
    | .error error =>
      ∃ log, Operation.run (setup.dropFromFile path) world = (.error error, { world with log })
    | .ok rest =>
      ∃ after copy, Operation.run (setup.dropFromFile path) world = (.ok (), after) ∧
        after.user = .superuser ∧ after.store = world.store ∧
        after.files.Pair path directory name used (some (inode, rest)) (some (copy, content)) := by
  unfold Content.withoutFirst
  cases decoded : content.decode with
  | error error => exact ⟨world.log, setup.dropFromFile_undecodable superuser pair decoded⟩
  | ok frame =>
    by_cases empty : frame.height = 0
    · simp only [if_pos empty]
      exact ⟨_, setup.dropFromFile_empty superuser pair decoded empty⟩
    · simp only [if_neg empty]
      rw [pair.stands.backup.accepts]
      cases taken : Tree.takes path.backup (name ++ Path.backupSuffix) with
      | error error => exact ⟨_, setup.dropFromFile_refused superuser pair decoded empty taken⟩
      | ok => exact setup.dropFromFile_ok superuser pair decoded empty taken

/-- How a drop ends once an object is in the staging file, and the store that it leaves. -/
def outcomeOfStaged (setup : Setup) (target : Target) (content : Content) (store : Store) :
    Except Error Unit × Store :=
  match content.withoutFirst setup.settings.stagingPath setup.settings.codec with
  | .error error => (.error error, store)
  | .ok rest =>
    match store.put target rest with
    | (.error error, store) => (.error (.store error), store)
    | (.ok (), store) => (.ok (), store)

/-- How dropping the first row of an object ends, and the store that it leaves, if the staging file
is admitted for writing or not. -/
def outcome (setup : Setup) (bucket key : String) (admitted : Except IoError Unit)
    (store : Store) : Except Error Unit × Store :=
  match setup.remote.address bucket key with
  | .error error => (.error error, store)
  | .ok target =>
    match store.get target with
    | (.error error, store) => (.error (Remote.ofGet bucket key error), store)
    | (.ok content, store) =>
      match admitted with
      | .error error => (.error (.io error), store)
      | .ok () => setup.outcomeOfStaged target content store

theorem run_staged_eq {prepared : Remote.Prepared} {target : Target}
    (superuser : world.user = .superuser)
    (prepare : setup.remote.prepare bucket key = .ok prepared)
    (address : prepared.target = .ok target)
    (pair : world.files.Pair setup.settings.stagingPath directory name used (some (inode, content))
      kept) :
    let ended := Operation.run (do
      setup.dropFromFile setup.settings.stagingPath
      discard <| setup.remote.upload bucket key setup.settings.stagingPath) world
    (ended.1, ended.2.store) = setup.outcomeOfStaged target content world.store := by
  intro ended
  have dropped := setup.run_dropFromFile_withoutFirst superuser pair
  unfold outcomeOfStaged
  cases changed : content.withoutFirst setup.settings.stagingPath setup.settings.codec with
  | error error =>
    rw [changed] at dropped
    obtain ⟨log, dropped⟩ := dropped
    simp only [ended, Operation.run_bind_error dropped]
  | ok rest =>
    rw [changed] at dropped
    obtain ⟨after, copy, dropped, superuser, stored, pair⟩ := dropped
    obtain ⟨mode, opened⟩ := pair.openFile
    have uploaded := Remote.run_upload after superuser prepare address opened
    rw [stored] at uploaded
    simp only [ended, Operation.run_bind_ok dropped]
    rcases put : world.store.put target rest with ⟨result, store⟩
    rw [put] at uploaded
    cases result with
    | error error => rw [Operation.run_discard_error uploaded]
    | ok => rw [Operation.run_discard_ok uploaded]

/-- Dropping the first row of an object ends as the store has it, whatever the staging file and its
backup held. -/
theorem run_dropFromObject_eq (bucket key : String) (superuser : world.user = .superuser)
    (custody : Custody setup.settings.stagingPath world.files .nowhere) :
    ((Operation.run (setup.dropFromObject bucket key) world).1,
        (Operation.run (setup.dropFromObject bucket key) world).2.store) =
      setup.outcome bucket key (world.files.admits setup.settings.stagingPath) world.store := by
  unfold dropFromObject outcome
  cases addressed : setup.remote.address bucket key with
  | error error =>
    rw [Operation.run_bind_error (Operation.run_discard_error
      (Remote.run_download_unaddressed addressed world))]
  | ok target =>
    obtain ⟨prepared, prepare, address⟩ := bind_eq_ok.mp addressed
    rcases got : world.store.get target with ⟨result, store⟩
    cases result with
    | error error =>
      have downloaded := Remote.run_download world superuser prepare address
        setup.settings.stagingPath
      simp only [got] at downloaded
      rw [Operation.run_bind_error (Operation.run_discard_error downloaded)]
      simp only [got]
    | ok content =>
      have downloaded := Remote.run_download_admits superuser custody prepare address got
      cases admitted : world.files.admits setup.settings.stagingPath with
      | error error =>
        rw [admitted] at downloaded
        rw [Operation.run_bind_error (Operation.run_discard_error downloaded)]
        simp only [got]
      | ok =>
        rw [admitted] at downloaded
        obtain ⟨staged, directory, name, used, inode, kept, downloaded, superuser, rfl, pair⟩ :=
          downloaded
        rw [Operation.run_bind_ok (Operation.run_discard_ok downloaded)]
        simp only [got]
        exact run_staged_eq superuser prepare address pair

/-! ## Delivering -/

/-- What is delivered comes from the store alone. -/
theorem Delivers.unique {other after after' : World} {content' : Content}
    (h : setup.Delivers bucket key content world after)
    (h' : setup.Delivers bucket key content' other after') (same : other.store = world.store) :
    after'.files.content? setup.settings.stagingPath =
        after.files.content? setup.settings.stagingPath ∧
      after'.files.content? setup.settings.stagingPath.backup =
        after.files.content? setup.settings.stagingPath.backup := by
  have ⟨_, frame, address, found, decoded, _, _, staged, backup⟩ := h
  have found' := h'.found address
  rw [same] at found'
  obtain rfl := Option.some.inj (found.symm.trans found')
  obtain ⟨_, frame', -, -, decoded', -, -, staged', backup'⟩ := h'
  obtain rfl := Except.ok.inj (decoded.symm.trans decoded')
  exact ⟨staged'.trans staged.symm, backup'.trans backup.symm⟩

/-- A drop from a file with rows leaves the rest of them if it succeeds, whatever links there are,
and it succeeds if the backup is free or another file. -/
theorem content?_of_drop_file {location text : String} {mode : Nat}
    (here : Location.parse location = .file text) (superuser : world.user = .superuser)
    (formed : world.files.WellFormed)
    (opened : world.files.openFile (.ofString text) = .ok (.file inode content mode))
    (decoded : content.decode = .ok frame) (filled : frame.height ≠ 0) :
    let changed := Operation.run (setup.perform location .drop) world
    (changed.1 = .ok () → changed.2.files.content? (.ofString text) =
      some (.ofFrame frame.dropFirst setup.settings.codec)) ∧
      ∀ kept, world.files.Beside (.ofString text) inode kept → changed.1 = .ok () := by
  intro changed
  have run : changed = Operation.run (setup.dropFromFile (.ofString text)) world := by
    simp only [changed, perform, Setup.drop, here]
  refine ⟨?_, ?_⟩
  · intro succeeded
    have dropped : Operation.run (setup.dropFromFile (.ofString text)) world =
        (.ok (), changed.2) := by
      rw [← run, ← succeeded]
    obtain ⟨inode', content', mode', frame', copied, copy, opened', decoded', -, taken, files⟩ :=
      of_dropFromFile_ok formed dropped
    obtain ⟨rfl, rfl, rfl⟩ := Opened.file.inj (Except.ok.inj (opened.symm.trans opened'))
    obtain rfl := Except.ok.inj (decoded.symm.trans decoded')
    have found := (Tree.openFile_eq_file.mp opened).1
    rw [files]
    exact Tree.content?_of_drop formed opened found taken _
  · intro kept beside
    obtain ⟨_, _, _, pair, taken⟩ := Tree.exists_pair formed opened beside
    obtain ⟨after, copy, dropped, -⟩ := setup.dropFromFile_ok superuser pair decoded filled taken
    rw [run, dropped]

/-- A drop at an object ends with its files in good hands; it delivers, or changes no object. -/
theorem ends_of_drop {location : String} (here : Location.parse location = .object bucket key)
    (custody : Custody setup.settings.stagingPath world.files .nowhere) :
    let ended := Operation.run (setup.perform location .drop) world
    Custody setup.settings.stagingPath ended.2.files .nowhere ∧
      (ended.1 = .ok () → ∃ content, setup.Delivers bucket key content world ended.2) ∧
      ∀ error, ended.1 = .error error → world.store.Same ended.2.store := by
  intro ended
  have kept : (setup.perform location .drop).Keeps (Original.watch setup.settings.stagingPath) world
      Memory.blank _ _ := keeps_perform here custody .drop
  refine ⟨?_, ?_, ?_⟩
  · exact (kept.mono (fun _ _ _ ends => ends.1.forget) fun _ _ _ ends => ends.1.forget).run
  · intro succeeded
    obtain ⟨content, -, delivers⟩ := (kept.of_ok succeeded).2.1 rfl
    exact ⟨content, delivers⟩
  · intro error failed
    exact (kept.of_error failed).2.1

/-- Two worlds with the same store end alike, if a staging file that cannot be written is refused
for the same reason in both. -/
theorem drop_eq_of_store {location : String} {other : World}
    (here : Location.parse location = .object bucket key) (superuser : world.user = .superuser)
    (superuser' : other.user = .superuser)
    (custody : Custody setup.settings.stagingPath world.files .nowhere)
    (custody' : Custody setup.settings.stagingPath other.files .nowhere)
    (same : other.store = world.store)
    (admits : world.files.Dangles setup.settings.stagingPath ∨
        other.files.Dangles setup.settings.stagingPath →
      other.files.admits setup.settings.stagingPath =
        world.files.admits setup.settings.stagingPath) :
    let drop := Operation.run (setup.perform location .drop)
    (drop other).1 = (drop world).1 ∧ (drop other).2.store = (drop world).2.store := by
  intro drop
  have admitted : other.files.admits setup.settings.stagingPath =
      world.files.admits setup.settings.stagingPath := by
    cases custody with
    | dangling _ dangles => exact admits (.inl dangles)
    | pair pair =>
      cases custody' with
      | dangling _ dangles => exact admits (.inr dangles)
      | pair pair' => exact pair'.admits.trans pair.admits.symm
  have run (world : World) : drop world =
      Operation.run (setup.dropFromObject bucket key) world := by
    simp only [drop, perform, Setup.drop, here]
  have ended := run_dropFromObject_eq bucket key superuser custody
  have ended' := run_dropFromObject_eq bucket key superuser' custody'
  rw [← run] at ended ended'
  rw [admitted, same, ← ended] at ended'
  exact Prod.mk.inj ended'

/-- Drops the first row at a location while the store fares in some way. -/
def dropUnder (setup : Setup) (location : String) (faults : Faults) (world : World) :
    Except Error Unit × World :=
  Operation.run (setup.perform location .drop) (world.under faults)

/-- Drops that all fail change no object. -/
theorem same_of_failed_drops {location : String} {failures : List Faults}
    (here : Location.parse location = .object bucket key)
    (custody : Custody setup.settings.stagingPath world.files .nowhere)
    (failed : ∀ result ∈ (runEach (setup.dropUnder location) failures world).1, result ≠ .ok ()) :
    let tried := (runEach (setup.dropUnder location) failures world).2
    Custody setup.settings.stagingPath tried.files .nowhere ∧ world.store.Same tried.store := by
  induction failures generalizing world with
  | nil => exact ⟨custody, fun _ => rfl⟩
  | cons faults failures ih =>
    have start : Custody setup.settings.stagingPath (world.under faults).files .nowhere := custody
    obtain ⟨custody, -, unchanged⟩ := ends_of_drop here start
    rw [runEach_cons] at failed ⊢
    obtain ⟨custody', same⟩ :=
      ih custody fun result mem => failed result (List.mem_cons_of_mem _ mem)
    refine ⟨custody', ?_⟩
    cases result : (Operation.run (setup.perform location .drop) (world.under faults)).1 with
    | ok => exact absurd result (failed _ List.mem_cons_self)
    | error error =>
      intro name
      exact (same name).trans (unchanged error result name)

/-- A drop that succeeds after drops that failed delivers what the object held at first. -/
theorem delivers_after_failures {location : String} {failures : List Faults} {last : Faults}
    (here : Location.parse location = .object bucket key)
    (custody : Custody setup.settings.stagingPath world.files .nowhere)
    (failed : ∀ result ∈ (runEach (setup.dropUnder location) failures world).1, result ≠ .ok ()) :
    let tried := (runEach (setup.dropUnder location) failures world).2
    let ended := setup.dropUnder location last tried
    ended.1 = .ok () → ∃ content, setup.Delivers bucket key content world ended.2 := by
  intro tried ended succeeded
  obtain ⟨custody', same⟩ := same_of_failed_drops here custody failed
  have start : Custody setup.settings.stagingPath (tried.under last).files .nowhere := custody'
  obtain ⟨-, delivered, -⟩ := ends_of_drop here start
  obtain ⟨content, target, frame, address, found, decoded, filled, objects, files⟩ :=
    delivered succeeded
  refine ⟨content, target, frame, address, ?_, decoded, filled, ?_, files⟩
  · rw [← same]
    exact found
  · intro name
    rw [← same]
    exact objects name

/-- What is delivered has one row less. -/
theorem Delivers.decode {after : World} (h : setup.Delivers bucket key content world after) :
    ∃ frame, content.decode = .ok frame ∧ frame.dropFirst.height + 1 = frame.height ∧
      (after.files.content? setup.settings.stagingPath).map Content.decode =
        some (.ok frame.dropFirst) := by
  obtain ⟨target, frame, -, -, decoded, filled, -, staged, -⟩ := h
  have full : frame.dropFirst.columns ≠ [] := by
    simpa [Frame.dropFirst] using Content.columns_of_decode decoded
  refine ⟨frame, decoded, ?_, ?_⟩
  · rw [Frame.height_dropFirst]
    omega
  · rw [staged]
    exact congrArg some (Content.decode_ofFrame _ _ full)

/-- The staging file and its backup show nothing or two files, and the key of a location is
accepted. A drop there that fails changes no object. One that succeeds leaves in the object, and in
the staging file, what a drop from a file that held the same leaves in that file; the backup holds
what the object held, and no other object is changed. For the superuser the result, the store and
after a success both files are the same in every other world with the same store, if a staging file
that cannot be written is refused for the same reason. So, after any number of drops that fail, one
that succeeds takes one row off what the object held at first. -/
theorem perform_drop_delivers {location object : String} (formed : world.files.WellFormed)
    (shown : world.files.Shows setup.settings.stagingPath current)
    (shownBackup : world.files.Shows setup.settings.stagingPath.backup kept)
    (apart : ∀ file copy, current = some file → kept = some copy → file.1 ≠ copy.1)
    (here : Location.parse location = .object bucket key)
    (accepted : Remote.objectName bucket key = .ok object) :
    let staging := setup.settings.stagingPath
    let drop := Operation.run (setup.perform location .drop)
    (∀ error, (drop world).1 = .error error → world.store.Same (drop world).2.store) ∧
      ((drop world).1 = .ok () → ∃ target content,
        setup.remote.address bucket key = .ok target ∧ setup.remote.Names bucket object target ∧
          setup.Delivers bucket key content world (drop world).2 ∧
          ∀ single location' text inode mode, Location.parse location' = .file text →
            single.user = .superuser → single.files.WellFormed →
            single.files.openFile (.ofString text) = .ok (.file inode content mode) →
            let changed := Operation.run (setup.perform location' .drop) single
            (changed.1 = .ok () → changed.2.files.content? (.ofString text) =
              (drop world).2.store.object? target.storedName) ∧
            ∀ beside, single.files.Beside (.ofString text) inode beside → changed.1 = .ok ()) ∧
      (∀ other current' kept', world.user = .superuser → other.user = .superuser →
        other.store = world.store → other.files.WellFormed →
        other.files.Shows staging current' → other.files.Shows staging.backup kept' →
        (∀ file copy, current' = some file → kept' = some copy → file.1 ≠ copy.1) →
        (world.files.Dangles staging ∨ other.files.Dangles staging →
          other.files.admits staging = world.files.admits staging) →
        (drop other).1 = (drop world).1 ∧ (drop other).2.store = (drop world).2.store ∧
          ((drop world).1 = .ok () →
            (drop other).2.files.content? staging = (drop world).2.files.content? staging ∧
              (drop other).2.files.content? staging.backup =
                (drop world).2.files.content? staging.backup)) ∧
      ∀ failures last,
        let tried := runEach (setup.dropUnder location) failures world
        let ended := setup.dropUnder location last tried.2
        (∀ result ∈ tried.1, result ≠ .ok ()) → ended.1 = .ok () →
          ∃ content frame, setup.Delivers bucket key content world ended.2 ∧
            content.decode = .ok frame ∧ frame.dropFirst.height + 1 = frame.height ∧
            (ended.2.files.content? staging).map Content.decode = some (.ok frame.dropFirst) := by
  intro staging drop
  have custody : Custody staging world.files .nowhere :=
    custody_nowhere formed shown shownBackup apart
  obtain ⟨-, delivered, unchanged⟩ := ends_of_drop here custody
  refine ⟨unchanged, ?_, ?_, ?_⟩
  · intro succeeded
    obtain ⟨content, delivers⟩ := delivered succeeded
    have ⟨target, frame, address, found, decoded, filled, objects, _⟩ := delivers
    refine ⟨target, content, address, Remote.names_of_address accepted address, delivers, ?_⟩
    intro single location' text inode mode there superuser formed opened
    rw [objects, if_pos rfl]
    exact content?_of_drop_file there superuser formed opened decoded filled
  · intro other current' kept' superuser superuser' same formed' shown' shownBackup' apart' admits
    have custody' : Custody staging other.files .nowhere :=
      custody_nowhere formed' shown' shownBackup' apart'
    obtain ⟨-, delivered', -⟩ := ends_of_drop here custody'
    obtain ⟨results, stores⟩ := drop_eq_of_store here superuser superuser' custody custody' same
      admits
    refine ⟨results, stores, ?_⟩
    intro succeeded
    obtain ⟨content, delivers⟩ := delivered succeeded
    obtain ⟨content', delivers'⟩ := delivered' (results.trans succeeded)
    exact delivers.unique delivers' same
  · intro failures last tried ended failed succeeded
    obtain ⟨content, delivers⟩ := delivers_after_failures here custody failed succeeded
    obtain ⟨frame, decoded, shorter, held⟩ := delivers.decode
    exact ⟨content, frame, delivers, decoded, shorter, held⟩

/-- A try that fails at its put, and a second one, take one row of two, although the staging file
and its backup held something else at first. A first try that does not fail does what it would do
with nothing in their place, and what is done to a file. -/
theorem perform_drop_delivers_second_try :
    let dataset : Content :=
      .ofFrame ⟨[⟨"n", .scalar .bool, [.bool true, .bool false]⟩]⟩ .snappy
    let files := (Tree.fresh.put (.ofString "s") (.raw [1])).put (.ofString "s.bk") (.raw [2])
    let world : World := ⟨files, .superuser, Store.empty.set "a" dataset, []⟩
    let other : World := ⟨Tree.fresh, .superuser, world.store, []⟩
    let single : World := ⟨Tree.fresh.put (.ofString "f") dataset, .superuser, .empty, []⟩
    let setup : Setup := ⟨⟨.ofString "s", none, .unset⟩, .shared⟩
    let failures : List Faults := [⟨none, some ⟨500, ""⟩, true⟩]
    let tried := runEach (setup.dropUnder "s3://b/a") failures world
    let ended := setup.dropUnder "s3://b/a" .none tried.2
    ((setup.perform "s3://b/a" .drop).run world).1 = .ok () ∧
      ((setup.perform "s3://b/a" .drop).run other).2.store =
        ((setup.perform "s3://b/a" .drop).run world).2.store ∧
      ((setup.perform "f" .drop).run single).1 = .ok () ∧
      ((setup.perform "f" .drop).run single).2.files.content? (.ofString "f") =
        ((setup.perform "s3://b/a" .drop).run world).2.store.object? "a" ∧
      (∀ result ∈ tried.1, result ≠ .ok ()) ∧ ended.1 = .ok () ∧
      setup.Delivers "b" "a" dataset world ended.2 := by
  intro dataset files world other single setup failures tried ended
  have formed : files.WellFormed :=
    Tree.wellFormed_put (Tree.wellFormed_put Tree.wellFormed_fresh _ _) _ _
  have read : files.openFile setup.settings.stagingPath =
      .ok (.file 3 (.raw [1]) Tree.newFileMode) := rfl
  have readBackup : files.openFile setup.settings.stagingPath.backup =
      .ok (.file 4 (.raw [2]) Tree.newFileMode) := rfl
  have shown : world.files.Shows setup.settings.stagingPath (some (3, .raw [1])) := .file read
  have shownBackup : world.files.Shows setup.settings.stagingPath.backup (some (4, .raw [2])) :=
    .file readBackup
  have apart : ∀ file copy : Inode × Content, some (3, .raw [1]) = some file →
      some (4, .raw [2]) = some copy → file.1 ≠ copy.1 := by simp
  have here : Location.parse "s3://b/a" = .object "b" "a" := rfl
  have accepted : Remote.objectName "b" "a" = .ok "a" := rfl
  obtain ⟨-, delivered, alike, retried⟩ :=
    perform_drop_delivers formed shown shownBackup apart here accepted
  have direct : setup.remote.address "b" "a" = .ok (.direct "a") := rfl
  have stored : (Target.direct "a").storedName = "a" := rfl
  have held {content : Content} {after : World}
      (delivers : setup.Delivers "b" "a" content world after) : dataset = content :=
    Option.some.inj (delivers.found direct)
  have dropped : ((setup.perform "s3://b/a" .drop).run world).1 = .ok () :=
    eq_ok_of_toBool (by decide +kernel)
  have free : other.files.locate .name setup.settings.stagingPath = .ok (.free 2 [0x73]) := rfl
  have freeBackup : other.files.locate .name setup.settings.stagingPath.backup =
      .ok (.free 2 [0x73, 0x2E, 0x62, 0x6B]) := rfl
  obtain ⟨-, stores, -⟩ := alike other none none rfl rfl rfl Tree.wellFormed_fresh
    (Tree.shows_none free) (Tree.shows_none freeBackup) nofun fun _ => rfl
  have formedSingle : single.files.WellFormed :=
    Tree.wellFormed_put Tree.wellFormed_fresh (.ofString "f") dataset
  have opened : single.files.openFile (.ofString "f") = .ok (.file 3 dataset Tree.newFileMode) :=
    rfl
  have alone : single.files.locate .name (Path.ofString "f").backup =
      .ok (.free 2 [0x66, 0x2E, 0x62, 0x6B]) := rfl
  obtain ⟨target, content, address, -, delivers, inFile⟩ := delivered dropped
  obtain rfl := Except.ok.inj (direct.symm.trans address)
  obtain rfl := held delivers
  obtain ⟨same, succeeds⟩ := inFile single "f" "f" 3 Tree.newFileMode rfl rfl formedSingle opened
  rw [stored] at same
  have changed : ((setup.perform "f" .drop).run single).1 = .ok () := succeeds none (.free alone)
  have failed : ∀ result ∈ tried.1, result ≠ .ok () := by
    intro result member
    have fails : (tried.1.all fun result => !result.toBool) = true := by decide +kernel
    rintro rfl
    exact absurd (List.all_eq_true.mp fails _ member) (by decide)
  have succeeded : ended.1 = .ok () := eq_ok_of_toBool (by decide +kernel)
  obtain ⟨content, frame, delivers, -⟩ := retried failures .none failed succeeded
  obtain rfl := held delivers
  exact ⟨dropped, stores, changed, same changed, failed, succeeded, delivers⟩

end Setup
end RowDrop
