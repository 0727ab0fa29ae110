import RowDrop.Proofs.Custody
import RowDrop.Proofs.Runs

/-!
# The original stays recoverable

Any objects are changed one after another through one staging file, and in every change the get and
the put may fail. Whatever happens, what was downloaded for the last backup that was taken is in the
backup, or after an undoing in the staging file until the next download: at every point of every
change, not only between them (`Setup.perform_keeps_original`).
-/

namespace RowDrop

/-- How a store fares during a change. -/
structure Faults where
  /-- The status with which a get fails. -/
  get : Option Status
  /-- The status with which a put fails. -/
  put : Option Status
  /-- Servers can be reached. -/
  reachable : Bool

/-- No get and no put fails. -/
def Faults.none : Faults := ⟨.none, .none, true⟩

/-- The world in which the store fares in some way; its objects are the same. -/
def World.under (world : World) (faults : Faults) : World :=
  { world with
    store := { world.store with
      getFailure := faults.get
      putFailure := faults.put
      reachable := faults.reachable } }

/-- A change that is tried. -/
structure Attempt where
  location : String
  action : Action
  faults : Faults

namespace Setup

/-- Tries a change under the watch over the original. -/
def attempt (setup : Setup) (attempt : Attempt) (state : World × Memory) :
    Except Error Unit × World × Memory :=
  let operation := setup.perform attempt.location attempt.action
  let world := state.1.under attempt.faults
  let (result, after) := Operation.run operation world
  (result, after, operation.memory (Original.watch setup.settings.stagingPath) world state.2)

variable {setup : Setup} {world : World} {memory : Memory} {location bucket key : String}

/-- A change of an object ends with the original in good hands. A drop that succeeds takes a new
original, and undoing moves the one in the backup; a change that fails changes no object. -/
theorem keeps_perform (here : Location.parse location = .object bucket key)
    (custody : Custody setup.settings.stagingPath world.files memory.original) (action : Action) :
    (setup.perform location action).Keeps (Original.watch setup.settings.stagingPath) world memory
      (fun _ after memory' => Custody setup.settings.stagingPath after.files memory'.original ∧
        (action = .drop → ∃ content, memory'.original = .inBackup content ∧
          setup.Delivers bucket key content world after) ∧
        (action = .undo → ∀ content, memory.original = .inBackup content →
          memory'.original = .inStaging content))
      (fun _ after memory' => Custody setup.settings.stagingPath after.files memory'.original ∧
        world.store.Same after.store ∧
        (action = .undo → ∀ content, memory.original = .inBackup content →
          memory'.original = .inStaging content)) := by
  cases action with
  | drop =>
    simp only [perform, drop, here]
    refine (keeps_dropFromObject custody).mono ?_ ?_
    · rintro _ after memory' ⟨custody, delivered⟩
      exact ⟨custody, fun _ => delivered, fun other => by cases other⟩
    · rintro error after memory' ⟨custody, same⟩
      exact ⟨custody, same, fun other => by cases other⟩
  | undo =>
    simp only [perform, undo, here]
    refine (keeps_undoObject custody).mono ?_ ?_
    · rintro _ after memory' ⟨custody, moved⟩
      exact ⟨custody, (fun other => by cases other), fun _ => moved⟩
    · rintro error after memory' ⟨custody, same, moved⟩
      exact ⟨custody, same, fun _ => moved⟩

/-- However a change fares, the original is in good hands after it. -/
theorem custody_attempt {change : Attempt} {state : World × Memory}
    (here : Location.parse change.location = .object bucket key)
    (custody : Custody setup.settings.stagingPath state.1.files state.2.original) :
    Custody setup.settings.stagingPath (setup.attempt change state).2.1.files
      (setup.attempt change state).2.2.original := by
  have start : Custody setup.settings.stagingPath (state.1.under change.faults).files
      state.2.original := custody
  have kept : (setup.perform change.location change.action).Keeps
      (Original.watch setup.settings.stagingPath) (state.1.under change.faults) state.2
      (fun _ after memory => Custody setup.settings.stagingPath after.files memory.original)
      (fun _ after memory => Custody setup.settings.stagingPath after.files memory.original) :=
    (keeps_perform here start change.action).mono (fun _ _ _ ends => ends.1)
      fun _ _ _ ends => ends.1
  exact kept.run

/-- Any objects are changed one after another, and in every change the get and the put may fail. The
staging file and its backup show nothing or two files at the beginning. Then the original is where
it is remembered to be before and after every step of every change: in the backup from the moment
it is copied there, and in the staging file from the moment it is moved there until the next
download is written. A drop that succeeds leaves what the object held as the original in the
backup. Undoing moves an original that is in the backup, even where its put fails. A change that
fails changes no object. -/
theorem perform_keeps_original {current kept : Option (Inode × Content)} {earlier : List Attempt}
    {change : Attempt} (formed : world.files.WellFormed)
    (shown : world.files.Shows setup.settings.stagingPath current)
    (shownBackup : world.files.Shows setup.settings.stagingPath.backup kept)
    (apart : ∀ file copy, current = some file → kept = some copy → file.1 ≠ copy.1)
    (objects : ∀ attempt ∈ earlier ++ [change],
      ∃ bucket key, Location.parse attempt.location = .object bucket key) :
    let reached := (runEach setup.attempt earlier (world, Memory.blank)).2
    let start := reached.1.under change.faults
    let memory := reached.2
    (setup.perform change.location change.action).Keeps
      (Original.watch setup.settings.stagingPath) start memory
      (fun _ after memory' =>
        (change.action = .drop → ∃ bucket key content,
          Location.parse change.location = .object bucket key ∧
            memory'.original = .inBackup content ∧
            setup.Delivers bucket key content start after) ∧
        (change.action = .undo → ∀ content, memory.original = .inBackup content →
          memory'.original = .inStaging content))
      (fun _ after memory' => reached.1.store.Same after.store ∧
        (change.action = .undo → ∀ content, memory.original = .inBackup content →
          memory'.original = .inStaging content)) := by
  intro reached start memory
  have begins := custody_nowhere formed shown shownBackup apart
  have custody : Custody setup.settings.stagingPath reached.1.files reached.2.original := by
    refine runEach_keeps (fun state : World × Memory =>
      Custody setup.settings.stagingPath state.1.files state.2.original) begins ?_
    intro attempt member state custody
    obtain ⟨bucket, key, here⟩ := objects attempt (List.mem_append_left _ member)
    exact custody_attempt here custody
  have here : Custody setup.settings.stagingPath start.files memory.original := custody
  obtain ⟨bucket, key, parsed⟩ :=
    objects change (List.mem_append_right _ (List.mem_singleton_self _))
  refine (keeps_perform parsed here change.action).mono ?_ ?_
  · rintro _ after memory' ⟨-, delivered, moved⟩
    refine ⟨fun drop => ?_, moved⟩
    obtain ⟨content, kept, delivers⟩ := delivered drop
    exact ⟨bucket, key, content, parsed, kept, delivers⟩
  · rintro error after memory' ⟨-, same, moved⟩
    exact ⟨same, moved⟩

/-- What was dropped from one object is undone at another one whose put fails: the staging file has
it, and no object has changed. -/
theorem perform_keeps_original_failed_put :
    let dataset : Content := .ofFrame ⟨[⟨"n", .scalar .bool, [.bool true]⟩]⟩ .snappy
    let world : World := ⟨Tree.fresh, .superuser, Store.empty.set "a" dataset, []⟩
    let setup : Setup := ⟨⟨.ofString "s", none, .unset⟩, .shared⟩
    let dropped : Attempt := ⟨"s3://b/a", .drop, .none⟩
    let undone : Attempt := ⟨"s3://b/c", .undo, ⟨none, some ⟨500, ""⟩, true⟩⟩
    let kept := (setup.attempt dropped (world, Memory.blank)).2
    let ended := setup.attempt undone kept
    kept.2.original = .inBackup dataset ∧
      kept.1.files.content? (Path.ofString "s").backup = some dataset ∧
      ended.1.toBool = false ∧ ended.2.2.original = .inStaging dataset ∧
      ended.2.1.files.content? (.ofString "s") = some dataset ∧
      kept.1.store.Same ended.2.1.store := by
  intro dataset world setup dropped undone kept ended
  have free : world.files.locate .name setup.settings.stagingPath = .ok (.free 2 [0x73]) := rfl
  have freeBackup : world.files.locate .name setup.settings.stagingPath.backup =
      .ok (.free 2 [0x73, 0x2E, 0x62, 0x6B]) := rfl
  have shown := Tree.shows_none free
  have shownBackup := Tree.shows_none freeBackup
  have here : Location.parse "s3://b/a" = .object "b" "a" := rfl
  have there : Location.parse "s3://b/c" = .object "b" "c" := rfl
  have objects : ∀ attempt ∈ [dropped] ++ [undone],
      ∃ bucket key, Location.parse attempt.location = .object bucket key := by
    intro attempt member
    rcases List.mem_pair.mp member with rfl | rfl
    · exact ⟨"b", "a", here⟩
    · exact ⟨"b", "c", there⟩
  have first : ∀ attempt ∈ [] ++ [dropped],
      ∃ bucket key, Location.parse attempt.location = .object bucket key :=
    fun attempt member => objects attempt (List.mem_append_left _ member)
  have one := perform_keeps_original Tree.wellFormed_fresh shown shownBackup nofun first
  have two := perform_keeps_original Tree.wellFormed_fresh shown shownBackup nofun objects
  have succeeded : (setup.attempt dropped (world, Memory.blank)).1 = .ok () :=
    eq_ok_of_toBool (by decide +kernel)
  have fails : ended.1.toBool = false := by decide +kernel
  obtain ⟨error, failed⟩ := exists_error_of_toBool fails
  obtain ⟨delivered, -⟩ := one.of_ok succeeded
  obtain ⟨bucket, key, content, parsed, inBackup, delivers⟩ := delivered rfl
  obtain ⟨rfl, rfl⟩ := Location.object.inj (here.symm.trans parsed)
  have direct : setup.remote.address "b" "a" = .ok (.direct "a") := rfl
  obtain rfl : dataset = content := Option.some.inj (delivers.found direct)
  obtain ⟨_, _, -, -, -, -, -, -, backup⟩ := delivers
  obtain ⟨same, moved⟩ := two.of_error failed
  have inStaging : ended.2.2.original = .inStaging dataset := moved rfl dataset inBackup
  have safe : ended.2.2.original.Safe setup.settings.stagingPath ended.2.1.files := two.holds
  rw [inStaging] at safe
  exact ⟨inBackup, backup, fails, inStaging, safe, same⟩

end Setup
end RowDrop
