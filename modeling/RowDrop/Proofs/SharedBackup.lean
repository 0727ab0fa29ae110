import RowDrop.Proofs.Files.Formed
import RowDrop.Proofs.Keys
import RowDrop.Proofs.Staging

/-!
# Many objects and one backup

All objects are changed through one staging file, so they share its backup: whatever object was
changed last, the backup is what this object held before. Seen from outside, the store and the
backup are a machine (`Shelf`), in which undoing puts the backup wherever it is told to. Every run
of changes of any objects gives the results of the machine and leaves its objects and its backup
(`Setup.perform_follows_shelf`).
-/

namespace RowDrop

/-- The objects by the names under which they are kept, and the backup they share. -/
structure Shelf where
  objects : String → Option Content
  backup : Option Content

/-- An object, as a location names it and as the store is asked for it. -/
structure Item where
  location : String
  bucket : String
  key : String
  target : Target

/-- The location stands for the object, and the store answers when it is asked for it. -/
structure Item.Served (item : Item) (remote : Remote) (store : Store) : Prop where
  parsed : Location.parse item.location = .object item.bucket item.key
  prepared : ∃ prepared, remote.prepare item.bucket item.key = .ok prepared ∧
    prepared.target = .ok item.target
  serves : store.Serves item.target

namespace Shelf

/-- Lets an object hold something else. -/
def put (shelf : Shelf) (object : String) (content : Content) : String → Option Content :=
  fun other => if other = object then some content else shelf.objects other

/-- Dropping the first row of an object keeps what it held as the backup. The staging file and its
backup may have paths that the system does not take; then nothing changes. -/
def drop (staging : Path) (name : Name) (codec : Codec) (item : Item) (shelf : Shelf) :
    Except Error Unit × Shelf :=
  match shelf.objects item.target.storedName with
  | none => (.error (.notFound (Location.objectText item.bucket item.key)), shelf)
  | some content =>
    match Tree.takes staging name with
    | .error error => (.error (.io error), shelf)
    | .ok () =>
      match content.decode with
      | .error error => (.error (.format error), shelf)
      | .ok frame =>
        if frame.height = 0 then (.error (.emptyDataset staging.display), shelf)
        else
          match Tree.takes staging.backup (name ++ Path.backupSuffix) with
          | .error error => (.error (Error.ofCopy staging error), shelf)
          | .ok () =>
            (.ok (),
              ⟨shelf.put item.target.storedName (.ofFrame frame.dropFirst codec), some content⟩)

/-- Undoing puts the backup in the place of an object, once, whatever object it came from. -/
def undo (staging : Path) (item : Item) (shelf : Shelf) : Except Error Unit × Shelf :=
  match shelf.backup with
  | none => (.error (.backupNotFound staging.backup), shelf)
  | some content => (.ok (), ⟨shelf.put item.target.storedName content, none⟩)

/-- One change. Where no codec is chosen, objects are written with `zstd`. -/
def step (settings : Settings) (name : Name) : Item × Action → Shelf → Except Error Unit × Shelf
  | (item, .drop) =>
    drop settings.stagingPath name (settings.compression.getD .zstd) item
  | (item, .undo) => undo settings.stagingPath item

/-- The store holds what the shelf holds and answers as the first one did, and so does the backup
of the staging file; what the staging file itself holds does not matter. -/
structure Held (staging : Path) (directory : Inode) (name : Name) (used : Nat) (store : Store)
    (world : World) (shelf : Shelf) : Prop where
  superuser : world.user = .superuser
  alike : store.Alike world.store
  objects : ∀ object, world.store.object? object = shelf.objects object
  files : ∃ current kept, world.files.Pair staging directory name used current kept ∧
    kept.map (·.2) = shelf.backup

namespace Held

variable {staging : Path} {directory : Inode} {name : Name} {used : Nat} {store : Store}
variable {world : World} {shelf : Shelf} {setup : Setup} {item : Item}

theorem with_log (held : Held staging directory name used store world shelf) (log : List Event) :
    Held staging directory name used store { world with log } shelf :=
  ⟨held.superuser, held.alike, held.objects, held.files⟩

/-- Requests and what the staging file holds do not matter. -/
theorem with_files (held : Held staging directory name used store world shelf) {after : World}
    {requests : List Request} {current kept : Option (Inode × Content)}
    (superuser : after.user = .superuser) (reached : after.store = { world.store with requests })
    (pair : after.files.Pair staging directory name used current kept)
    (same : kept.map (·.2) = shelf.backup) :
    Held staging directory name used store after shelf where
  superuser := superuser
  alike := by
    rw [reached]
    exact ⟨held.alike.gets, held.alike.puts, held.alike.reachable⟩
  objects := by
    rw [reached]
    exact held.objects
  files := ⟨current, kept, pair, same⟩

/-- An object is replaced, and the backup is another one. -/
theorem with_object (held : Held staging directory name used store world shelf) {after : World}
    {requests : List Request} {object : String} {content : Content}
    {current kept : Option (Inode × Content)} (superuser : after.user = .superuser)
    (replaced : after.store = { world.store with requests }.set object content)
    (pair : after.files.Pair staging directory name used current kept) :
    Held staging directory name used store after
      ⟨shelf.put object content, kept.map (·.2)⟩ where
  superuser := superuser
  alike := by
    rw [replaced]
    exact ⟨held.alike.gets, held.alike.puts, held.alike.reachable⟩
  objects other := by
    show _ = if other = object then some content else shelf.objects other
    rw [replaced, Store.object?_set, ← held.objects]
    rfl
  files := ⟨current, kept, pair, rfl⟩

/-- Dropping the first row of an object does what the machine does. The staging file may hold
anything before it. -/
theorem run_dropFromObject
    (held : Held setup.settings.stagingPath directory name used store world shelf)
    (served : item.Served setup.remote store) :
    ∃ after, Operation.run (setup.dropFromObject item.bucket item.key) world =
        ((drop setup.settings.stagingPath name setup.settings.codec item shelf).1, after) ∧
      Held setup.settings.stagingPath directory name used store after
        (drop setup.settings.stagingPath name setup.settings.codec item shelf).2 := by
  obtain ⟨prepared, prepare, address⟩ := served.prepared
  have serves := served.serves.of_alike held.alike
  obtain ⟨current, kept, pair, same⟩ := held.files
  have superuser := held.superuser
  unfold Setup.dropFromObject drop
  rw [← held.objects]
  cases found : world.store.object? item.target.storedName with
  | none =>
    obtain ⟨requests, missing⟩ := Remote.download_missing superuser prepare address serves found
    refine ⟨_, Operation.run_bind_error (Operation.run_discard_error missing), ?_⟩
    exact held.with_files superuser rfl pair same
  | some content =>
    cases taken : Tree.takes setup.settings.stagingPath name with
    | error error =>
      obtain ⟨requests, blocked⟩ :=
        Remote.download_blocked superuser prepare address serves found pair taken
      refine ⟨_, Operation.run_bind_error (Operation.run_discard_error blocked), ?_⟩
      exact held.with_files superuser rfl pair same
    | ok =>
      obtain ⟨middle, inode, requests, downloaded, superuser', reached, pair'⟩ :=
        Remote.download_ok superuser prepare address serves found pair taken
      have held' := held.with_files superuser' reached pair' same
      rw [Operation.run_bind_ok (Operation.run_discard_ok downloaded)]
      cases decoded : content.decode with
      | error error =>
        simp only [decoded]
        refine ⟨_, Operation.run_bind_error ?_, held'⟩
        exact setup.dropFromFile_undecodable superuser' pair' decoded
      | ok frame =>
        simp only [decoded]
        by_cases empty : frame.height = 0
        · simp only [if_pos empty]
          have failed := setup.dropFromFile_empty superuser' pair' decoded empty
          exact ⟨_, Operation.run_bind_error failed, held'.with_log _⟩
        · simp only [if_neg empty]
          cases backedUp : Tree.takes setup.settings.stagingPath.backup
              (name ++ Path.backupSuffix) with
          | error error =>
            have failed := setup.dropFromFile_refused superuser' pair' decoded empty backedUp
            exact ⟨_, Operation.run_bind_error failed, held'.with_log _⟩
          | ok =>
            obtain ⟨dropped, copy, run, user, unmoved, pair''⟩ :=
              setup.dropFromFile_ok superuser' pair' decoded empty backedUp
            have serves' : dropped.store.Serves item.target := by
              rw [unmoved]
              exact served.serves.of_alike held'.alike
            obtain ⟨after, requests', uploaded, user', files, replaced⟩ :=
              Remote.upload_ok user prepare address serves' pair''
            rw [Operation.run_bind_ok run]
            rw [unmoved] at replaced
            rw [← files] at pair''
            refine ⟨after, Operation.run_discard_ok uploaded, ?_⟩
            exact held'.with_object user' replaced pair''

/-- Undoing puts the backup in the place of the object, whatever object it came from. -/
theorem run_undoObject
    (held : Held setup.settings.stagingPath directory name used store world shelf)
    (served : item.Served setup.remote store) :
    ∃ after, Operation.run (setup.undoObject item.bucket item.key) world =
        ((undo setup.settings.stagingPath item shelf).1, after) ∧
      Held setup.settings.stagingPath directory name used store after
        (undo setup.settings.stagingPath item shelf).2 := by
  obtain ⟨prepared, prepare, address⟩ := served.prepared
  obtain ⟨current, kept, pair, same⟩ := held.files
  unfold Setup.undoObject undo
  rw [← same]
  cases kept with
  | none =>
    refine ⟨world, Operation.run_bind_error (Backup.restore_none pair), ?_⟩
    exact held
  | some copy =>
    obtain ⟨inode, content⟩ := copy
    obtain ⟨restored, run, user, unmoved, pair'⟩ := Backup.restore_some pair
    have superuser := user.trans held.superuser
    have serves : restored.store.Serves item.target := by
      rw [unmoved]
      exact served.serves.of_alike held.alike
    obtain ⟨after, requests, uploaded, superuser', files, replaced⟩ :=
      Remote.upload_ok superuser prepare address serves pair'
    rw [Operation.run_bind_ok run, Operation.run_bind_ok (Operation.run_discard_ok uploaded)]
    rw [unmoved] at replaced
    rw [← files] at pair'
    refine ⟨_, Operation.run_note _ after, ?_⟩
    exact (held.with_object superuser' replaced pair').with_log _

/-- Every change of an object does what the machine does, and the two agree again afterwards. -/
theorem follows_step (held : Held setup.settings.stagingPath directory name used store world shelf)
    (served : item.Served setup.remote store) (action : Action) :
    (Operation.run (setup.perform item.location action) world).1 =
        (step setup.settings name (item, action) shelf).1 ∧
      Held setup.settings.stagingPath directory name used store
        (Operation.run (setup.perform item.location action) world).2
        (step setup.settings name (item, action) shelf).2 := by
  cases action with
  | drop =>
    obtain ⟨after, run, held'⟩ := held.run_dropFromObject served
    simp only [Setup.perform, Setup.drop, served.parsed, run]
    exact ⟨rfl, held'⟩
  | undo =>
    obtain ⟨after, run, held'⟩ := held.run_undoObject served
    simp only [Setup.perform, Setup.undo, served.parsed, run]
    exact ⟨rfl, held'⟩

theorem content?_backup (held : Held staging directory name used store world shelf) :
    world.files.content? staging.backup = shelf.backup ∧
      (shelf.backup = none →
        world.files.child? directory (name ++ Path.backupSuffix) = none) := by
  obtain ⟨current, kept, pair, same⟩ := held.files
  rw [← same]
  refine ⟨pair.content?_backup, ?_⟩
  intro empty
  obtain rfl := Option.map_eq_none_iff.mp empty
  cases pair.backupHolds with
  | free free => exact free

end Held
end Shelf

/-- The superuser changes any objects that the store answers for, in any order, through one staging
file that stands in a directory. Every run gives the results of the machine and leaves its objects,
under all names; the backup of the staging file is the one of the machine, and is not there where
the machine has none. The object of a key without a slash at either end has this key as its name. -/
theorem Setup.perform_follows_shelf {world : World} {setup : Setup} {directory : Inode}
    {name : Name} {used : Nat} {current kept : Option (Inode × Content)}
    {inputs : List (Item × Action)}
    (superuser : world.user = .superuser) (formed : world.files.WellFormed)
    (stands : world.files.Stands setup.settings.stagingPath directory name used)
    (found : world.files.Found setup.settings.stagingPath directory name current)
    (foundBackup : world.files.Found setup.settings.stagingPath.backup directory
      (name ++ Path.backupSuffix) kept)
    (apart : ∀ file copy, current = some file → kept = some copy → file.1 ≠ copy.1)
    (served : ∀ input ∈ inputs, input.1.Served setup.remote world.store) :
    let run := runEach
      (fun (input : Item × Action) => Operation.run (setup.perform input.1.location input.2))
      inputs world
    let machine := runEach (Shelf.step setup.settings name) inputs
      ⟨world.store.object?, kept.map (·.2)⟩
    run.1 = machine.1 ∧
      (∀ object, run.2.store.object? object = machine.2.objects object) ∧
      run.2.files.content? setup.settings.stagingPath.backup = machine.2.backup ∧
      (machine.2.backup = none →
        run.2.files.child? directory (name ++ Path.backupSuffix) = none) ∧
      ∀ input ∈ inputs, ObjectKey.Bare input.1.key →
        setup.remote.Names input.1.bucket input.1.key input.1.target := by
  intro run machine
  have pair := Tree.pair_of_found formed stands found foundBackup apart
  have held : Shelf.Held setup.settings.stagingPath directory name used world.store world
      ⟨world.store.object?, kept.map (·.2)⟩ :=
    ⟨superuser, ⟨rfl, rfl, rfl⟩, fun _ => rfl, ⟨current, kept, pair, rfl⟩⟩
  obtain ⟨results, held'⟩ : run.1 = machine.1 ∧ Shelf.Held setup.settings.stagingPath directory name
      used world.store run.2 machine.2 :=
    runEach_follows held fun input mem _ _ held => held.follows_step (served input mem) input.2
  obtain ⟨content, absent⟩ := held'.content?_backup
  refine ⟨results, held'.objects, content, absent, ?_⟩
  intro input mem bare
  obtain ⟨prepared, prepare, address⟩ := (served input mem).prepared
  exact Remote.names_of_bare bare prepare address

/-- What one object held can be put into the place of another one, once. -/
theorem Setup.perform_follows_shelf_two_objects :
    let dataset : Content := .ofFrame ⟨[⟨"n", .scalar .bool, [.bool true]⟩]⟩ .snappy
    let store := (Store.empty.set "a" dataset).set "b" (.raw [7])
    let world : World := ⟨Tree.fresh, .superuser, store, []⟩
    let setup : Setup := ⟨⟨.ofString "s", none, .unset⟩, .shared⟩
    let first : Item := ⟨"s3://x/a", "x", "a", .direct "a"⟩
    let second : Item := ⟨"s3://x/b", "x", "b", .direct "b"⟩
    let inputs := [(first, Action.drop), (second, .undo), (first, .undo)]
    let run := runEach
      (fun (input : Item × Action) => Operation.run (setup.perform input.1.location input.2))
      inputs world
    run.1 = [.ok (), .ok (), .error (.backupNotFound (Path.ofString "s").backup)] ∧
      run.2.store.object? "b" = some dataset := by
  intro dataset store world setup first second inputs run
  have stands : world.files.Stands setup.settings.stagingPath 2 [0x73] 0 :=
    ⟨⟨[], rfl, .here⟩, ⟨by decide, by decide, by decide⟩, rfl, Nat.zero_le _⟩
  have serves (name : String) : store.Serves (.direct name) :=
    ⟨rfl, rfl, fun _ _ _ same => by cases same⟩
  have parsed : Location.parse "s3://x/a" = .object "x" "a" := rfl
  have parsed' : Location.parse "s3://x/b" = .object "x" "b" := rfl
  have one : Remote.shared.prepare "x" "a" = .ok (.direct "a") := rfl
  have two : Remote.shared.prepare "x" "b" = .ok (.direct "b") := rfl
  have served : ∀ input ∈ inputs, input.1.Served setup.remote world.store := by
    intro input mem
    simp only [inputs, List.mem_cons, List.not_mem_nil, or_false] at mem
    obtain rfl | rfl | rfl := mem
    · exact ⟨parsed, ⟨.direct "a", one, rfl⟩, serves "a"⟩
    · exact ⟨parsed', ⟨.direct "b", two, rfl⟩, serves "b"⟩
    · exact ⟨parsed, ⟨.direct "a", one, rfl⟩, serves "a"⟩
  have superuser : world.user = .superuser := rfl
  have free : world.files.Found setup.settings.stagingPath 2 [0x73] none := .free rfl
  have freeBackup : world.files.Found setup.settings.stagingPath.backup 2
      ([0x73] ++ Path.backupSuffix) none :=
    .free rfl
  have follows := perform_follows_shelf superuser Tree.wellFormed_fresh stands free freeBackup
    (by simp) served
  beta_reduce at follows
  constructor
  · rw [follows.1]
    rfl
  · rw [follows.2.1]
    rfl

end RowDrop
