import RowDrop.Proofs.FileChanges
import RowDrop.Proofs.Files.Formed
import RowDrop.Proofs.Runs

/-!
# One dataset and its backup

Seen from outside, a local dataset is a machine with two slots: what the dataset holds, and what
its backup holds, if there is one (`Slots`). Every run of changes of the dataset gives the results
of the machine and leaves the contents of its slots (`Setup.perform_follows_slots`).
-/

namespace RowDrop

/-- What a dataset holds, and what its backup holds. -/
structure Slots where
  current : Content
  backup : Option Content

/-- Only frames with columns are decoded. -/
theorem Content.columns_of_decode {content : Content} {frame : Frame}
    (h : content.decode = .ok frame) : frame.columns ≠ [] := by
  unfold decode at h
  split at h
  case h_1 =>
    split at h
    case isTrue => cases h
    case isFalse full =>
      obtain rfl := Except.ok.inj h
      intro empty
      simp [empty] at full
  case h_2 => cases h

namespace Slots

/-- Dropping the first row keeps what was there as the backup. -/
def drop (path : Path) (codec : Codec) (slots : Slots) : Except Error Unit × Slots :=
  match slots.current.decode with
  | .error error => (.error (.format error), slots)
  | .ok frame =>
    if frame.height = 0 then (.error (.emptyDataset path.display), slots)
    else (.ok (), ⟨.ofFrame frame.dropFirst codec, some slots.current⟩)

/-- Undoing takes the backup back, once. -/
def undo (path : Path) (slots : Slots) : Except Error Unit × Slots :=
  match slots.backup with
  | none => (.error (.backupNotFound path.backup), slots)
  | some content => (.ok (), ⟨content, none⟩)

/-- One change. Where no codec is chosen, the dataset is written with `zstd`. -/
def step (path : Path) : Setup × Action → Slots → Except Error Unit × Slots
  | (setup, .drop) => drop path (setup.settings.compression.getD .zstd)
  | (_, .undo) => undo path

/-- A file and its backup in a tree hold what the slots hold. -/
def Held (path : Path) (directory : Inode) (name : Name) (used : Nat) (world : World)
    (slots : Slots) : Prop :=
  world.user = .superuser ∧ ∃ inode kept,
    world.files.Pair path directory name used (some (inode, slots.current)) kept ∧
      kept.map (·.2) = slots.backup

variable {path : Path} {directory : Inode} {name : Name} {used : Nat} {world : World}
variable {slots : Slots} {codec : Codec} {setup : Setup}

/-! ## The machine -/

theorem eq_of_drop_ok (h : (slots.drop path codec).1 = .ok ()) :
    ∃ frame, slots.current.decode = .ok frame ∧ frame.height ≠ 0 ∧
      (slots.drop path codec).2 = ⟨.ofFrame frame.dropFirst codec, some slots.current⟩ := by
  unfold drop at h ⊢
  split at h
  case h_1 => cases h
  case h_2 frame decoded =>
    split at h
    case isTrue => cases h
    case isFalse filled => exact ⟨frame, decoded, filled, by simp [filled]⟩

/-- After a drop, undoing brings back exactly what was there, and leaves nothing more to undo. -/
theorem undo_of_drop_ok (h : (slots.drop path codec).1 = .ok ()) :
    (slots.drop path codec).2.undo path = (.ok (), ⟨slots.current, none⟩) := by
  obtain ⟨frame, -, -, dropped⟩ := eq_of_drop_ok h
  rw [dropped]
  rfl

/-- What is dropped does not depend on the backup. -/
theorem drop_backup (backup : Option Content) :
    (drop path codec { slots with backup }).2.current = (slots.drop path codec).2.current := by
  unfold drop
  cases slots.current.decode with
  | error error => rfl
  | ok frame =>
    by_cases empty : frame.height = 0
    · simp only [if_pos empty]
    · simp only [if_neg empty]

/-- A run that ends with a drop that succeeded is undone up to the drop. -/
theorem runEach_undo_of_drop {changes : List (Setup × Action)} {setup setup' : Setup}
    (succeeded : (runEach (step path) (changes ++ [(setup, .drop)]) slots).1.getLast? =
      some (.ok ())) :
    step path (setup', .undo) (runEach (step path) (changes ++ [(setup, .drop)]) slots).2 =
      (.ok (), ⟨(runEach (step path) changes slots).2.current, none⟩) := by
  rw [runEach_concat] at succeeded ⊢
  rw [List.getLast?_concat] at succeeded
  exact undo_of_drop_ok (Option.some.inj succeeded)

/-- So many drops that all succeed take so many rows off the front. -/
theorem decode_of_drops {setups : List Setup} {frame : Frame}
    (decoded : slots.current.decode = .ok frame)
    (all : ∀ result ∈ (runEach (step path) (setups.map (·, .drop)) slots).1, result = .ok ()) :
    (runEach (step path) (setups.map (·, .drop)) slots).2.current.decode =
      .ok ⟨frame.columns.map fun column =>
        { column with cells := column.cells.drop setups.length }⟩ := by
  induction setups generalizing slots frame with
  | nil => simpa using decoded
  | cons setup setups ih =>
    rw [List.map_cons, runEach_cons] at all ⊢
    obtain ⟨frame', decoded', filled, dropped⟩ :=
      eq_of_drop_ok (all _ List.mem_cons_self)
    obtain rfl := Except.ok.inj (decoded.symm.trans decoded')
    have full : frame.dropFirst.columns ≠ [] := by
      simpa [Frame.dropFirst] using Content.columns_of_decode decoded
    have next : (step path (setup, .drop) slots).2.current.decode = .ok frame.dropFirst := by
      rw [show (step path (setup, .drop) slots).2 = _ from dropped]
      exact Content.decode_ofFrame _ _ full
    rw [ih next fun result mem => all result (List.mem_cons_of_mem _ mem)]
    simp [Frame.dropFirst]

/-! ## Following the machine -/

/-- Every change of a dataset does what the machine does, and the two agree again afterwards. -/
theorem follows_step {location text : String} (here : Location.parse location = .file text)
    (taken : Tree.takes (Path.ofString text).backup (name ++ Path.backupSuffix) = .ok ())
    (held : Held (.ofString text) directory name used world slots) (change : Setup × Action) :
    (Operation.run (change.1.perform location change.2) world).1 =
        (step (.ofString text) change slots).1 ∧
      Held (.ofString text) directory name used
        (Operation.run (change.1.perform location change.2) world).2
        (step (.ofString text) change slots).2 := by
  obtain ⟨superuser, inode, kept, pair, same⟩ := held
  obtain ⟨setup, action⟩ := change
  cases action with
  | drop =>
    have run : setup.perform location .drop = setup.dropFromFile (.ofString text) := by
      simp only [Setup.perform, Setup.drop, here]
    simp only [run, step, drop]
    cases decoded : slots.current.decode with
    | error error =>
      rw [setup.dropFromFile_undecodable superuser pair decoded]
      exact ⟨rfl, superuser, inode, kept, pair, same⟩
    | ok frame =>
      by_cases empty : frame.height = 0
      · rw [setup.dropFromFile_empty superuser pair decoded empty]
        simp only [if_pos empty]
        exact ⟨trivial, superuser, inode, kept, pair, same⟩
      · obtain ⟨after, copy, dropped, superuser', -, pair'⟩ :=
          setup.dropFromFile_ok superuser pair decoded empty taken
        rw [dropped]
        simp only [if_neg empty]
        exact ⟨trivial, superuser', inode, _, pair', rfl⟩
  | undo =>
    have run : setup.perform location .undo = Setup.undoFile (.ofString text) := by
      simp only [Setup.perform, Setup.undo, here]
    simp only [run, step, undo, ← same]
    cases kept with
    | none =>
      rw [Setup.undoFile_none pair]
      exact ⟨rfl, superuser, inode, none, pair, same⟩
    | some copy =>
      obtain ⟨copy, content⟩ := copy
      obtain ⟨after, undone, user, -, pair'⟩ := Setup.undoFile_some pair
      rw [undone]
      exact ⟨rfl, user.trans superuser, copy, none, pair', rfl⟩

/-- The runs of changes of a dataset. -/
def changeEach (location : String) (changes : List (Setup × Action)) (world : World) :
    List (Except Error Unit) × World :=
  runEach (fun change => Operation.run (change.1.perform location change.2)) changes world

namespace Held

theorem content? (held : Held path directory name used world slots) :
    world.files.content? path = some slots.current ∧
      world.files.content? path.backup = slots.backup := by
  obtain ⟨-, inode, kept, pair, same⟩ := held
  obtain ⟨mode, opened⟩ := pair.openFile
  exact ⟨Tree.content?_of_openFile opened, pair.content?_backup.trans same⟩

/-- Where the backup's slot is empty, there is nothing at the backup's path. -/
theorem locate_backup (held : Held path directory name used world slots)
    (taken : Tree.takes path.backup (name ++ Path.backupSuffix) = .ok ())
    (empty : slots.backup = none) :
    ∃ directory name, world.files.locate .name path.backup = .ok (.free directory name) := by
  obtain ⟨-, inode, kept, pair, same⟩ := held
  rw [empty] at same
  obtain rfl := Option.map_eq_none_iff.mp same
  cases pair.backupHolds with
  | free free => exact ⟨directory, _, pair.stands.backup.locate_free taken free⟩

theorem run {location text : String} (here : Location.parse location = .file text)
    (taken : Tree.takes (Path.ofString text).backup (name ++ Path.backupSuffix) = .ok ())
    (held : Held (.ofString text) directory name used world slots)
    (changes : List (Setup × Action)) :
    (changeEach location changes world).1 =
        (runEach (step (.ofString text)) changes slots).1 ∧
      Held (.ofString text) directory name used (changeEach location changes world).2
        (runEach (step (.ofString text)) changes slots).2 :=
  runEach_follows held fun change _ _ _ held => follows_step here taken held change

end Held
end Slots

/-- For the superuser, a local dataset whose backup is free or another file is the machine with two
slots: every run, each change with its own settings, gives the results of the machine and leaves its
slots, and where there is no backup, nothing is at its path. So many drops in a row take so many
rows off the front. A drop is undone exactly, only the last one can be undone, and dropping once
more gives what was there before it was undone. -/
theorem Setup.perform_follows_slots {world : World} {location text : String} {inode : Inode}
    {content : Content} {mode : Nat} {kept : Option (Inode × Content)}
    (superuser : world.user = .superuser) (formed : world.files.WellFormed)
    (here : Location.parse location = .file text)
    (opened : world.files.openFile (.ofString text) = .ok (.file inode content mode))
    (beside : world.files.Beside (.ofString text) inode kept) :
    let path := Path.ofString text
    let run (changes : List (Setup × Action)) := Slots.changeEach location changes world
    let machine (changes : List (Setup × Action)) :=
      runEach (Slots.step path) changes ⟨content, kept.map (·.2)⟩
    (∀ changes,
      (run changes).1 = (machine changes).1 ∧
        (run changes).2.files.content? path = some (machine changes).2.current ∧
        (run changes).2.files.content? path.backup = (machine changes).2.backup ∧
        ((machine changes).2.backup = none →
          ∃ directory name,
            (run changes).2.files.locate .name path.backup = .ok (.free directory name))) ∧
      (∀ (setups : List Setup) (frame : Frame), content.decode = .ok frame →
        (∀ result ∈ (run (setups.map (·, .drop))).1, result = .ok ()) →
        ((run (setups.map (·, .drop))).2.files.content? path).map Content.decode =
          some (.ok ⟨frame.columns.map fun column =>
            { column with cells := column.cells.drop setups.length }⟩)) ∧
      ∀ changes setup setup',
        let dropped := changes ++ [(setup, .drop)]
        let undone := dropped ++ [(setup', .undo)]
        (run dropped).1.getLast? = some (.ok ()) →
        (run undone).1.getLast? = some (.ok ()) ∧
          (run undone).2.files.content? path = (run changes).2.files.content? path ∧
          (run (undone ++ [(setup', .undo)])).1.getLast? =
            some (.error (.backupNotFound path.backup)) ∧
          (run (undone ++ [(setup, .drop)])).2.files.content? path =
            (run dropped).2.files.content? path := by
  intro path run machine
  obtain ⟨directory, name, used, pair, taken⟩ := Tree.exists_pair formed opened beside
  have held : Slots.Held path directory name used world ⟨content, kept.map (·.2)⟩ :=
    ⟨superuser, inode, kept, pair, rfl⟩
  have follows (changes : List (Setup × Action)) :
      (run changes).1 = (machine changes).1 ∧
        Slots.Held path directory name used (run changes).2 (machine changes).2 :=
    held.run here taken changes
  have current (changes : List (Setup × Action)) :
      (run changes).2.files.content? path = some (machine changes).2.current :=
    (follows changes).2.content?.1
  refine ⟨?_, ?_, ?_⟩
  · intro changes
    obtain ⟨results, held⟩ := follows changes
    exact ⟨results, held.content?.1, held.content?.2, held.locate_backup taken⟩
  · intro setups frame decoded all
    rw [(follows _).1] at all
    rw [current]
    exact congrArg some (Slots.decode_of_drops decoded all)
  · intro changes setup setup' dropped undone succeeded
    rw [(follows dropped).1] at succeeded
    have back : Slots.step path (setup', .undo) (machine dropped).2 =
        (.ok (), ⟨(machine changes).2.current, none⟩) :=
      Slots.runEach_undo_of_drop succeeded
    have undone_eq : (machine undone).2 = ⟨(machine changes).2.current, none⟩ := by
      show (runEach (Slots.step path) (dropped ++ [(setup', .undo)]) _).2 = _
      rw [runEach_concat, show Slots.step path (setup', .undo) _ = _ from back]
    have last (changes : List (Setup × Action)) (change : Setup × Action) :
        (run (changes ++ [change])).1.getLast? =
          some (Slots.step path change (machine changes).2).1 := by
      rw [(follows _).1, show machine (changes ++ [change]) = _ from runEach_concat]
      exact List.getLast?_concat
    refine ⟨?_, ?_, ?_, ?_⟩
    · rw [last dropped, back]
    · rw [current, current, undone_eq]
    · rw [last undone, undone_eq]
      rfl
    · rw [current, current, show machine (undone ++ [(setup, .drop)]) = _ from runEach_concat,
        show machine dropped = _ from runEach_concat,
        show (runEach _ undone _).2 = _ from undone_eq]
      exact congrArg some (Slots.drop_backup none)

/-- A dataset with two rows and no backup. -/
theorem Setup.perform_follows_slots_two_rows :
    let dataset : Content :=
      .ofFrame ⟨[⟨"n", .scalar .bool, [.bool true, .bool false]⟩]⟩ .snappy
    let world : World := ⟨Tree.fresh.put (.ofString "d") dataset, .superuser, .empty, []⟩
    let setup : Setup := ⟨.standard .empty, .shared⟩
    let changes : List (Setup × Action) := [(setup, .drop), (setup, .undo), (setup, .undo)]
    (Slots.changeEach "d" changes world).1 =
        [.ok (), .ok (), .error (.backupNotFound (Path.ofString "d").backup)] ∧
      (Slots.changeEach "d" changes world).2.files.content? (.ofString "d") = some dataset := by
  intro dataset world setup changes
  have formed : (Tree.fresh.put (.ofString "d") dataset).WellFormed :=
    Tree.wellFormed_put Tree.wellFormed_fresh _ _
  have here : Location.parse "d" = .file "d" := rfl
  have opened : world.files.openFile (.ofString "d") = .ok (.file 3 dataset Tree.newFileMode) := rfl
  have free : world.files.locate .name (Path.ofString "d").backup =
      .ok (.free 2 [0x64, 0x2E, 0x62, 0x6B]) := rfl
  have superuser : world.user = .superuser := rfl
  have follows := (perform_follows_slots superuser formed here opened (.free free)).1 changes
  beta_reduce at follows
  constructor
  · rw [follows.1]
    rfl
  · rw [follows.2.1]
    rfl

end RowDrop
