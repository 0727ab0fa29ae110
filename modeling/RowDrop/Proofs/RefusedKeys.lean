import RowDrop.Proofs.FileChanges
import RowDrop.Proofs.Files.Formed
import RowDrop.Proofs.Keys

/-!
# Keys that are refused

Which keys are refused is a matter of their segments (`Remote.objectName_error_iff`). Dropping the
first row of an object looks at the key before anything else, so that a refused key leaves files and
objects alone. Undoing restores the staging file first: with a refused key it takes the backup away
and then fails, and without a backup it never comes to look at the key (`Setup.perform_refused`).
-/

namespace RowDrop

variable {bucket key : String} {error : Error}

namespace ObjectKey

/-- A segment for which a key is refused. -/
def BadSegment (segment : List Char) : Prop :=
  segment = [] ∨ segment = ['.'] ∨ segment = ['.', '.'] ∨ ∃ c ∈ segment, isControl c

instance (segment : List Char) : Decidable (BadSegment segment) :=
  -- Only the characters of the segment are gone through.
  haveI : Decidable (∃ c ∈ segment, isControl c) := List.decidableBEx _ segment
  inferInstanceAs (Decidable (_ ∨ _ ∨ _ ∨ ∃ c ∈ segment, isControl c))

/-- A key that is refused: it is empty, or one of the segments between its ends, at which a slash
may stand, is a bad one. -/
def Refused (key : String) : Prop :=
  key = "" ∨ dropLeading key.toList ≠ [] ∧
    ∃ segment ∈ Text.split '/' (dropTrailing (dropLeading key.toList)), BadSegment segment

instance (key : String) : Decidable (Refused key) :=
  inferInstanceAs (Decidable (_ ∨ _ ∧ ∃ segment ∈ Text.split '/' _, BadSegment segment))

theorem isSome_refusal? {segment : List Char} :
    (refusal? key segment).isSome ↔ BadSegment segment := by
  unfold refusal? offence? BadSegment
  by_cases empty : segment = []
  · simp [empty]
  · by_cases dots : segment = ['.'] ∨ segment = ['.', '.']
    · rcases dots with one | two
      · simp [one]
      · simp [two]
    · obtain ⟨one, two⟩ := not_or.mp dots
      simp [empty, one, two]

theorem name_error_iff :
    (∃ reason, name key = .error reason) ↔
      dropLeading key.toList ≠ [] ∧
        ∃ segment ∈ Text.split '/' (dropTrailing (dropLeading key.toList)),
          BadSegment segment := by
  have found (segments : List (List Char)) :
      (∃ segment ∈ segments, BadSegment segment) ↔ (segments.findSome? (refusal? key)).isSome := by
    simp only [List.findSome?_isSome_iff, isSome_refusal?]
  rw [found, name]
  by_cases empty : dropLeading key.toList = []
  · simp [empty]
  · simp only [if_neg empty]
    cases (Text.split '/' (dropTrailing (dropLeading key.toList))).findSome? (refusal? key) with
    | none => simp
    | some reason => simp [empty]

end ObjectKey

theorem Remote.objectName_error_iff :
    (∃ reason, objectName bucket key = .error (.settings reason)) ↔ ObjectKey.Refused key := by
  unfold ObjectKey.Refused
  rw [← ObjectKey.name_error_iff, objectName]
  by_cases empty : key = ""
  · simp [empty]
  · simp only [empty, false_or]
    cases ObjectKey.name key with
    | ok object => simp
    | error reason => simp

namespace Setup

theorem run_dropFromObject_refused (setup : Setup)
    (refused : Remote.objectName bucket key = .error error) (world : World) :
    Operation.run (setup.dropFromObject bucket key) world = (.error error, world) := by
  unfold dropFromObject
  exact Operation.run_bind_error
    (Operation.run_discard_error (Remote.run_download_refused refused world))

/-- Undoing with a refused key restores the staging file, and fails after that. -/
theorem run_undoObject_refused (setup : Setup)
    (refused : Remote.objectName bucket key = .error error) (world : World) :
    Operation.run (setup.undoObject bucket key) world =
      match Operation.run (Backup.restore setup.settings.stagingPath) world with
      | (.ok _, after) => (.error error, after)
      | (.error failure, after) => (.error failure, after) := by
  unfold undoObject
  rw [Operation.run_bind]
  obtain ⟨result, after⟩ := Operation.run (Backup.restore setup.settings.stagingPath) world
  cases result with
  | error failure => rfl
  | ok value =>
    exact Operation.run_bind_error
      (Operation.run_discard_error (Remote.run_upload_refused refused after))

/-- Undoing with a refused key fails for the key and leaves the files exactly if the backup is moved
and nothing comes of it. -/
theorem undoObject_refused_iff (setup : Setup) {reason : SettingsError}
    (refused : Remote.objectName bucket key = .error (.settings reason)) (world : World) :
    let staging := setup.settings.stagingPath
    let undone := Operation.run (setup.undoObject bucket key) world
    undone.2.store = world.store ∧
      (undone.1 = .error (.settings reason) ∧ undone.2.files = world.files ↔
        world.files.isFile staging.backup ∧
          world.files.renameFile staging.backup staging = .ok world.files) := by
  intro staging undone
  have run : undone = _ := run_undoObject_refused setup refused world
  rw [Backup.run_restore] at run
  by_cases found : world.files.isFile staging.backup
  · rw [if_pos found] at run
    cases moved : world.files.renameFile staging.backup staging with
    | error failure =>
      rw [moved] at run
      simp [run]
    | ok files =>
      rw [moved] at run
      simp [run, found]
  · rw [if_neg found] at run
    simp [run, found]

/-- A location whose key is refused. Dropping a row there fails for the key and leaves files and
objects, in every state. So does undoing exactly if there is a backup of the staging file and moving
it over the staging file changes nothing, as between two names of one file. Without a backup the
undoing fails for that reason. A backup that is another file is moved to the staging file before the
key is looked at, and no later undoing finds it, whatever its key is. -/
theorem perform_refused {location : String} (setup : Setup)
    (here : Location.parse location = .object bucket key) (refused : ObjectKey.Refused key) :
    ∃ reason, Remote.objectName bucket key = .error (.settings reason) ∧
      ∀ world,
        let staging := setup.settings.stagingPath
        let undone := Operation.run (setup.perform location .undo) world
        Operation.run (setup.perform location .drop) world = (.error (.settings reason), world) ∧
        undone.2.store = world.store ∧
        (undone.1 = .error (.settings reason) ∧ undone.2.files = world.files ↔
          world.files.isFile staging.backup ∧
            world.files.renameFile staging.backup staging = .ok world.files) ∧
        (world.files.isFile staging.backup = false →
          undone = (.error (.backupNotFound staging.backup), world)) ∧
        ∀ directory name used current copy,
          world.files.Pair staging directory name used current (some copy) →
          undone.1 = .error (.settings reason) ∧
            undone.2.files.content? staging = some copy.2 ∧
            ∀ location' bucket' key', Location.parse location' = .object bucket' key' →
              Operation.run (setup.perform location' .undo) undone.2 =
                (.error (.backupNotFound staging.backup), undone.2) := by
  obtain ⟨reason, named⟩ := Remote.objectName_error_iff.mpr refused
  refine ⟨reason, named, ?_⟩
  intro world staging undone
  have run : undone = Operation.run (setup.undoObject bucket key) world := by
    simp only [undone, perform, undo, here]
  obtain ⟨store, harmless⟩ := undoObject_refused_iff setup named world
  refine ⟨?_, ?_, ?_, ?_, ?_⟩
  · simp only [perform, drop, here]
    exact run_dropFromObject_refused setup named world
  · rw [run]
    exact store
  · rw [run]
    exact harmless
  · intro gone
    have absent : ¬world.files.isFile setup.settings.stagingPath.backup := by simp [staging, gone]
    rw [run, run_undoObject_refused setup named, Backup.run_restore, if_neg absent]
  · intro directory name used current copy pair
    obtain ⟨restored, restoring, -, -, pair'⟩ := Backup.restore_some pair
    obtain ⟨mode, opened⟩ := pair'.openFile
    have after : undone = (.error (.settings reason), restored) := by
      rw [run, run_undoObject_refused setup named, restoring]
    rw [after]
    refine ⟨rfl, Tree.content?_of_openFile opened, ?_⟩
    intro location' bucket' key' there
    simp only [perform, undo, there]
    exact Operation.run_bind_error (Backup.restore_none pair')

/-- A backup of the staging file, and a key with an empty segment: dropping leaves both files, and
undoing takes the backup away. -/
theorem perform_refused_empty_segment :
    let files := (Tree.fresh.put (.ofString "s") (.raw [1])).put (.ofString "s.bk") (.raw [2])
    let world : World := ⟨files, .superuser, .empty, []⟩
    let setup : Setup := ⟨⟨.ofString "s", none, .unset⟩, .shared⟩
    let run (action : Action) := Operation.run (setup.perform "s3://b/a//c" action) world
    ∃ reason, run .drop = (.error (.settings reason), world) ∧
      (run .undo).1 = .error (.settings reason) ∧
      (run .undo).2.files.content? (.ofString "s") = some (.raw [2]) ∧
      Operation.run (setup.perform "s3://b/k" .undo) (run .undo).2 =
        (.error (.backupNotFound (.ofString "s.bk")), (run .undo).2) := by
  intro files world setup run
  have here : Location.parse "s3://b/a//c" = .object "b" "a//c" := rfl
  have there : Location.parse "s3://b/k" = .object "b" "k" := rfl
  have refused : ObjectKey.Refused "a//c" := by decide
  have formed : files.WellFormed :=
    Tree.wellFormed_put (Tree.wellFormed_put Tree.wellFormed_fresh _ _) _ _
  have stands : files.Stands (.ofString "s") 2 [0x73] 0 :=
    ⟨⟨[], rfl, .here⟩, ⟨by decide, by decide, by decide⟩, rfl, Nat.zero_le _⟩
  have found : files.Found (.ofString "s") 2 [0x73] (some (3, .raw [1])) := .file rfl
  have foundBackup : files.Found (Path.ofString "s").backup 2 ([0x73] ++ Path.backupSuffix)
      (some (4, .raw [2])) :=
    .file rfl
  have pair := Tree.pair_of_found formed stands found foundBackup (by simp)
  obtain ⟨reason, -, outcome⟩ := perform_refused setup here refused
  obtain ⟨dropped, -, -, -, moved⟩ := outcome world
  obtain ⟨failed, restored, later⟩ := moved _ _ _ _ _ pair
  exact ⟨reason, dropped, failed, restored, later _ _ _ there⟩

end Setup
end RowDrop
