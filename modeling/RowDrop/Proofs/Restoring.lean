import Mathlib.Logic.Relation
import RowDrop.Proofs.Files.Damage
import RowDrop.Proofs.Interleaving
import RowDrop.Proofs.Successes

/-!
# Restoring after damage

Whatever happens to a dataset after a backup of it was taken, a restore brings it back as it was
(`Backup.restore_of_damaged`): it may be written over, get other permission bits, be removed and
created again, and a save of it may stop after any step (`Program.stopped`). What a restore needs is
that the backup is guarded (`Tree.Guards`), and no damage takes this away (`World.Damage.guards`).
-/

namespace RowDrop

/-- The world that a program leaves if it is stopped after so many steps. -/
def Program.stopped {α : Type} : Nat → Program α → World → World
  | 0, _, world => world
  | steps + 1, program, world => stopped steps (program.advance world).1 (program.advance world).2

/-- What can happen to a dataset while its backup is left alone: damage to its file, and a save that
is stopped after some of its steps or none. -/
inductive World.Damage (path : Path) : World → World → Prop where
  | files {world : World} {files : Tree} : Tree.Damage path world.files files →
      Damage path world { world with files }
  | save {world : World} (frame : Frame) (codec : Codec) (steps : Nat) :
      Damage path world ((ExceptT.run (Dataset.save path frame codec)).stopped steps world)

variable {α μ : Type} {world after : World} {path : Path} {directory copy : Inode} {name : Name}
variable {used mode : Nat} {content : Content}

/-- What holds at every point of a run holds where it is stopped. -/
theorem Program.Keeps.stopped {watch : Watch μ} {ends : α → World → μ → Prop}
    {program : Program α} {memory : μ} (h : program.Keeps watch ends world memory)
    (steps : Nat) : ∃ memory, watch.holds (program.stopped steps world) memory := by
  induction steps generalizing program world memory with
  | zero =>
    cases program with
    | done => exact ⟨memory, h.1⟩
    | step => exact ⟨memory, h.1⟩
  | succ steps ih =>
    cases program with
    | done => exact ih h
    | step => exact ih h.2

/-- The watch over a guarded backup. -/
def Tree.Guards.watch (path : Path) (directory : Inode) (name : Name) (used : Nat) (copy : Inode)
    (content : Content) (mode : Nat) : Watch Unit where
  record _ _ _ := ()
  holds world _ := world.files.Guards path directory name used copy content mode

/-- The backup is guarded before and after every step of a save. -/
theorem Dataset.keeps_guards
    (guarded : world.files.Guards path directory name used copy content mode) (frame : Frame)
    (codec : Codec) :
    (save path frame codec).Keeps (Tree.Guards.watch path directory name used copy content mode)
      world () (fun _ _ _ => True) (fun _ _ _ => True) := by
  unfold save
  refine .ask_bind guarded ?_
  rcases world.change_permitted (world.files.refusesWriting world.user path)
    (world.files.createFile path Tree.newFileMode) with
    ⟨error, failed⟩ | ⟨inode, created, creation, changed⟩
  · rw [show world.reply (.createFile path) = _ from failed]
    exact ⟨guarded, trivial⟩
  · rw [show world.reply (.createFile path) = _ from changed]
    have emptied := guarded.damage (.create creation)
    obtain ⟨_, opened⟩ := Tree.openFile_of_createFile guarded.formed creation
    have apart : inode ≠ copy := by
      rintro rfl
      exact emptied.lookup_ne (Tree.openFile_eq_file.mp opened).1
    have written := emptied.worn (Tree.wears_setContent apart (.ofFrame frame codec))
    exact .orFail_bind emptied nofun fun _ same => by
      obtain rfl := Except.ok.inj same
      exact .ask_bind emptied (Operation.keeps_note written written trivial)

/-- No damage takes a backup its guard away. -/
theorem World.Damage.guards (damaged : World.Damage path world after)
    (guarded : world.files.Guards path directory name used copy content mode) :
    after.files.Guards path directory name used copy content mode := by
  cases damaged with
  | files damaged => exact guarded.damage damaged
  | save frame codec steps =>
    obtain ⟨_, still⟩ := Program.Keeps.stopped (Dataset.keeps_guards guarded frame codec) steps
    exact still

theorem World.guards_of_damages (damaged : Relation.ReflTransGen (World.Damage path) world after)
    (guarded : world.files.Guards path directory name used copy content mode) :
    after.files.Guards path directory name used copy content mode := by
  induction damaged with
  | refl => exact guarded
  | tail _ damage ih => exact damage.guards ih

namespace Backup

open Operation

/-- A guarded backup is restored, and then there is none. -/
theorem run_restore_of_guards
    (guarded : world.files.Guards path directory name used copy content mode) :
    ∃ restored, run (restore path) world = (.ok (), restored) ∧
      restored.files.openFile path = .ok (.file copy content mode) ∧
      restored.files.locate .name path.backup =
        .ok (.free directory (name ++ Path.backupSuffix)) ∧
      run (restore path) restored = (.error (.backupNotFound path.backup), restored) := by
  obtain ⟨files, renamed, opened, free, gone⟩ := guarded.renameFile
  obtain ⟨found, file⟩ := Tree.openFile_eq_file.mp guarded.backup
  have isFile : world.files.isFile path.backup := by simp [Tree.isFile, found, file]
  have succeeds : run (restore path) world =
      (.ok (), { world with files, log := .restored path path.backup :: world.log }) := by
    rw [run_restore, if_pos isFile, renamed]
  refine ⟨_, succeeds, opened, free, ?_⟩
  rw [run_restore, if_neg (by simp [gone])]

/-- A backup was taken of a dataset, and then the dataset was damaged in whatever way, but not the
backup. A restore succeeds; the dataset reads as it did when the backup was taken, with the same
permission bits. No backup is left then, so a further restore fails and changes nothing. -/
theorem restore_of_damaged {backedUp damaged : World} {kept : Path}
    (formed : world.files.WellFormed)
    (apart : world.files.lookup path.backup ≠ world.files.lookup path)
    (taken : run (take path) world = (.ok kept, backedUp))
    (harmed : Relation.ReflTransGen (World.Damage path) backedUp damaged) :
    ∃ inode copy content mode restored,
      world.files.openFile path = .ok (.file inode content mode) ∧
      run (restore path) damaged = (.ok (), restored) ∧
      restored.files.openFile path = .ok (.file copy content mode) ∧
      (∃ directory name,
        restored.files.locate .name path.backup = .ok (.free directory name)) ∧
      run (restore path) restored = (.error (.backupNotFound path.backup), restored) := by
  obtain ⟨copied, copying⟩ := of_take_ok taken
  obtain ⟨inode, content, mode, _, _, opened, -, -, -⟩ := Tree.copyFile_cases copying
  rw [(Tree.openFile_eq_file.mp opened).1] at apart
  obtain ⟨directory, name, used, copy, guarded⟩ :=
    Tree.guards_of_copyFile formed opened apart copying
  obtain ⟨restored, succeeded, read, free, again⟩ :=
    run_restore_of_guards (World.guards_of_damages harmed guarded)
  exact ⟨inode, copy, content, mode, restored, opened, succeeded, read, ⟨_, _, free⟩, again⟩

/-- A dataset behind a link is truncated by a save that stops, loses its permission bits and its
name, is created again under the link, and then the link is removed. The restore brings it back. -/
theorem restore_of_damaged_link :
    let dataset : Content := .ofFrame ⟨[⟨"n", .scalar .bool, [.bool true, .bool false]⟩]⟩ .zstd
    let path : Path := .ofString "l"
    let target : Path := .ofString "d"
    let files := (Tree.fresh.put target dataset).makeLink target path
    let world : World := ⟨files, .owner, .empty, []⟩
    let taken := run (take path) world
    let truncated := (ExceptT.run (Dataset.save path ⟨[]⟩ .zstd)).stopped 1 taken.2
    let locked : World := { truncated with files := truncated.files.setMode 3 0 }
    let unlinked : World := { locked with files := locked.files.remove target }
    let saved := (ExceptT.run (Dataset.save path ⟨[]⟩ .zstd)).stopped 2 unlinked
    let damaged : World := { saved with files := saved.files.remove path }
    let restored := run (restore path) damaged
    truncated.files.lookup path = .ok 3 ∧ unlinked.files.lookup path = .error (.os .noEntry) ∧
      saved.files.lookup path = .ok 6 ∧ damaged.files.lookup path = .error (.os .noEntry) ∧
      restored.1 = .ok () ∧
      restored.2.files.openFile path = .ok (.file 5 dataset Tree.newFileMode) ∧
      run (restore path) restored.2 = (.error (.backupNotFound path.backup), restored.2) := by
  intro dataset path target files world taken truncated locked unlinked saved damaged restored
  have formed : files.WellFormed :=
    Tree.wellFormed_makeLink (Tree.wellFormed_put Tree.wellFormed_fresh _ _) _ _
  have start : world.files.WellFormed := by
    dsimp only [world]
    exact formed
  have apart : world.files.lookup path.backup ≠ world.files.lookup path := by decide +kernel
  have succeeds : taken.1.toBool := by decide +kernel
  obtain ⟨kept, ended⟩ : ∃ kept, taken = (.ok kept, taken.2) := by
    cases result : taken.1 with
    | ok kept =>
      refine ⟨kept, ?_⟩
      rw [← result]
    | error error => simp [result, Except.toBool] at succeeds
  have elsewhere : truncated.files.lookup path.backup ≠ .ok 3 := by decide +kernel
  have elsewhere' : locked.files.lookup path.backup ≠ .ok 3 := by decide +kernel
  have named : locked.files.locate .name target = .ok (.entry 3 2 [0x64]) := by decide +kernel
  have isFile : (locked.files.file? 3).isSome := by decide +kernel
  have one : World.Damage path taken.2 truncated := .save ⟨[]⟩ .zstd 1
  have two : World.Damage path truncated locked := .files (.chmod 0 elsewhere)
  have three : World.Damage path locked unlinked := .files (.unlink named isFile elsewhere')
  have four : World.Damage path unlinked saved := .save ⟨[]⟩ .zstd 2
  have five : World.Damage path saved damaged := .files .remove
  have harmed : Relation.ReflTransGen (World.Damage path) taken.2 damaged :=
    ((((Relation.ReflTransGen.single one).tail two).tail three).tail four).tail five
  obtain ⟨inode, copy, content, mode, after, opened, succeeded, read, -, again⟩ :=
    @restore_of_damaged world path taken.2 damaged kept start apart ended harmed
  have ended' : restored = (.ok (), after) := succeeded
  have ends : restored.1 = .ok () ∧ restored.2 = after := by
    rw [ended']
    exact ⟨rfl, rfl⟩
  rw [← ends.2] at read again
  have before : files.openFile path = .ok (.file 3 dataset Tree.newFileMode) := rfl
  have found : world.files.openFile path = .ok (.file 3 dataset Tree.newFileMode) := by
    dsimp only [world]
    exact before
  obtain ⟨rfl, rfl, rfl⟩ := Opened.file.inj (Except.ok.inj (found.symm.trans opened))
  have there : restored.2.files.lookup path = .ok 5 := by decide +kernel
  obtain rfl := Except.ok.inj (there.symm.trans (Tree.openFile_eq_file.mp read).1)
  have ways : truncated.files.lookup path = .ok 3 ∧
      unlinked.files.lookup path = .error (.os .noEntry) ∧ saved.files.lookup path = .ok 6 ∧
      damaged.files.lookup path = .error (.os .noEntry) := by decide +kernel
  obtain ⟨one, two, three, four⟩ := ways
  exact ⟨one, two, three, four, ends.1, read, again⟩

end Backup
end RowDrop
