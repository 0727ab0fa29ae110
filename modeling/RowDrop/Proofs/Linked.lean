import RowDrop.Proofs.FileChanges
import RowDrop.Proofs.Files.Creating
import RowDrop.Proofs.Successes

/-!
# Datasets behind links

Links of every kind may stand at the path of a dataset and at the path of its backup. A drop that
succeeds leaves in the backup what the dataset held, and undoing it brings this back, exactly if the
two paths did not lead to one file (`Setup.backup_of_drop_iff`). Where they did, the copy empties
the file that it is to copy, and what the dataset held is lost.
-/

namespace RowDrop

variable {world after : World} {path : Path} {setup : Setup} {inode : Inode} {content : Content}
variable {frame : Frame} {mode : Nat}

namespace Content

theorem eq_of_decode_ofFrame {written : Frame} {codec : Codec}
    (h : decode (ofFrame written codec) = .ok frame) : frame = written := by
  simp only [ofFrame, decode, Image.frame_ofFrame] at h
  split at h
  · cases h
  · exact (Except.ok.inj h).symm

/-- Dropping the first row leaves other contents. -/
theorem ofFrame_dropFirst_ne (codec : Codec) (decoded : content.decode = .ok frame)
    (filled : frame.height ≠ 0) : ofFrame frame.dropFirst codec ≠ content := by
  rintro rfl
  have same := congrArg Frame.height (eq_of_decode_ofFrame decoded)
  rw [Frame.height_dropFirst] at same
  omega

end Content

namespace Tree

variable {tree copy : Tree} {copied written : Content}

/-- Where the two paths lead to different files, the drop makes a pair of them. -/
theorem pair_of_drop (formed : tree.WellFormed)
    (opened : tree.openFile path = .ok (.file inode content mode))
    (other : tree.lookup path.backup ≠ .ok inode)
    (taken : tree.copyFile path path.backup = .ok (copied, copy)) (written : Content) :
    ∃ directory name used kept, takes path.backup (name ++ Path.backupSuffix) = .ok () ∧
      ((copy.setContent inode .empty).setContent inode written).Pair path directory name used
        (some (inode, written)) (some (kept, content)) := by
  obtain ⟨directory, name, used, kept, fits, pair⟩ := pair_of_copyFile formed opened other taken
  exact ⟨directory, name, used, kept, fits, (pair.setContent .empty).setContent written⟩

/-- Where the two paths lead to one file, this file is all that is left. -/
theorem content?_of_drop (formed : tree.WellFormed)
    (opened : tree.openFile path = .ok (.file inode content mode)) {other : Path}
    (same : tree.lookup other = .ok inode)
    (taken : tree.copyFile path path.backup = .ok (copied, copy)) (written : Content) :
    ((copy.setContent inode .empty).setContent inode written).content? other = some written := by
  have openedOther : tree.openFile other = .ok (.file inode content mode) :=
    openFile_eq_file.mpr ⟨same, (openFile_eq_file.mp opened).2⟩
  have growth : tree.Grows (copy.setContent inode .empty) :=
    (grows_of_copyFile taken).trans (.setContent copy inode .empty)
  obtain ⟨content', mode', again⟩ := openFile_of_grown formed growth openedOther
  have filled : ((copy.setContent inode .empty).setContent inode written).file? inode =
      some (written, mode') :=
    file?_setContent (openFile_eq_file.mp again).2
  have last := openFile_grown (growth.wellFormed formed) (.setContent _ inode written) again filled
  exact content?_of_openFile last

end Tree

/-- Whatever links there are, a drop that succeeds, whoever runs it, has read some contents. It
leaves them in the backup if and only if the paths of the dataset and its backup did not lead to one
file. In this case undoing it succeeds, brings the contents back and leaves nothing at the path of
the backup. Otherwise both paths are left with what the dataset holds now. -/
theorem Setup.backup_of_drop_iff {location text : String} (formed : world.files.WellFormed)
    (here : Location.parse location = .file text)
    (dropped : Operation.run (setup.perform location .drop) world = (.ok (), after)) :
    let path := Path.ofString text
    ∃ content, world.files.content? path = some content ∧
      (after.files.content? path.backup = some content ↔
        world.files.lookup path.backup ≠ world.files.lookup path) ∧
      (world.files.lookup path.backup ≠ world.files.lookup path → ∀ setup' : Setup, ∃ undone,
        Operation.run (setup'.perform location .undo) after = (.ok (), undone) ∧
          undone.files.content? path = some content ∧
          ∃ directory name,
            undone.files.locate .name path.backup = .ok (.free directory name)) ∧
      (world.files.lookup path.backup = world.files.lookup path →
        after.files.content? path.backup = after.files.content? path) := by
  intro path
  simp only [perform, drop, here] at dropped
  obtain ⟨inode, content, mode, frame, copied, copy, opened, decoded, filled, taken, files⟩ :=
    of_dropFromFile_ok formed dropped
  have found : world.files.lookup path = .ok inode := (Tree.openFile_eq_file.mp opened).1
  rw [found, files]
  generalize same : Content.ofFrame frame.dropFirst setup.settings.codec = written
  have changed : written ≠ content := by
    rw [← same]
    exact Content.ofFrame_dropFirst_ne _ decoded filled
  refine ⟨content, Tree.content?_of_openFile opened, ⟨?_, ?_⟩, ?_, ?_⟩
  · intro kept one
    rw [Tree.content?_of_drop formed opened one taken written] at kept
    exact changed (Option.some.inj kept)
  · intro other
    obtain ⟨directory, name, used, kept, -, pair⟩ :=
      Tree.pair_of_drop formed opened other taken written
    exact pair.content?_backup
  · intro other setup'
    obtain ⟨directory, name, used, kept, fits, pair⟩ :=
      Tree.pair_of_drop formed opened other taken written
    rw [same] at files
    rw [← files] at pair
    obtain ⟨undone, run, -, -, pair'⟩ := undoFile_some pair
    obtain ⟨mode', back⟩ := pair'.openFile
    refine ⟨undone, ?_, Tree.content?_of_openFile back, ?_⟩
    · simp only [perform, undo, here]
      exact run
    · cases pair'.backupHolds with
      | free free => exact ⟨directory, _, pair'.stands.backup.locate_free fits free⟩
  · intro one
    rw [Tree.content?_of_drop formed opened one taken written,
      Tree.content?_of_drop formed opened found taken written]

/-- A dataset with two names, one of them that of its backup: the drop succeeds, and what the
dataset held is nowhere. -/
theorem Setup.backup_of_drop_iff_two_names :
    let dataset : Content :=
      .ofFrame ⟨[⟨"n", .scalar .bool, [.bool true, .bool false]⟩]⟩ .zstd
    let files := (Tree.fresh.put (.ofString "d") dataset).makeHardLink (.ofString "d")
      (.ofString "d.bk")
    let world : World := ⟨files, .superuser, .empty, []⟩
    let setup : Setup := ⟨.standard .empty, .shared⟩
    let run := Operation.run (setup.perform "d" .drop) world
    run.1 = .ok () ∧ files.content? (.ofString "d") = some dataset ∧
      run.2.files.content? (.ofString "d.bk") ≠ some dataset ∧
      run.2.files.content? (.ofString "d.bk") = run.2.files.content? (.ofString "d") := by
  intro dataset files world setup run
  have formed : files.WellFormed :=
    Tree.wellFormed_makeHardLink (Tree.wellFormed_put Tree.wellFormed_fresh _ _) _ _
  have here : Location.parse "d" = .file "d" := rfl
  have succeeded : run.1 = .ok () := eq_ok_of_toBool (by decide +kernel)
  have dropped : run = (.ok (), run.2) := by rw [← succeeded]
  have read : files.content? (.ofString "d") = some dataset := rfl
  have same : files.lookup (Path.ofString "d").backup = files.lookup (.ofString "d") := rfl
  obtain ⟨content, found, kept, -, lost⟩ := backup_of_drop_iff formed here dropped
  obtain rfl : dataset = content := Option.some.inj (read.symm.trans found)
  exact ⟨succeeded, read, fun there => kept.mp there same, lost same⟩

end RowDrop
