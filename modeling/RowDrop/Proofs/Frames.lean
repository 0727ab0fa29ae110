import RowDrop.Proofs.Files.Frames
import RowDrop.Proofs.Successes

/-!
# What dropping and undoing leave alone

A drop from a file that succeeds adds at most the entry of its backup, changes the contents of the
two nodes that the paths of the dataset and of the backup lead to, and sets the permission bits of
the backup. An undo that succeeds renames: it changes no node, and no entries but those two at which
the paths end, links not followed (`Setup.perform_frames`). So where the path of a dataset ends with
a link, the drop goes through the link and the undo does not: the link gives way to the original,
and what it led to stays changed.
-/

namespace RowDrop

variable {world after : World} {path : Path} {setup : Setup}

namespace Tree

variable {tree middle after : Tree} {content written : Content} {mode : Nat}
variable {inode copy link directory directory' : Inode} {name kept : Name} {target : Path}

/-- A backup whose name was free is a new node under that name. -/
theorem Creates.of_free (h : tree.Creates after path copy)
    (free : ∀ purpose, tree.locate purpose path = .ok (.free directory kept)) :
    tree.node? copy = none ∧
      ∀ other wanted, after.child? other wanted =
        if directory = other ∧ wanted = kept then some copy else tree.child? other wanted := by
  cases h with
  | old found names =>
    obtain ⟨place, located, ends⟩ := lookup_eq_ok.mp found
    obtain rfl := Except.ok.inj ((free .use).symm.trans located)
    cases ends
  | new located fresh _ names =>
    obtain ⟨rfl, rfl⟩ := Place.free.inj (Except.ok.inj ((free .create).symm.trans located))
    exact ⟨fresh, names⟩

/-- The original takes the place of a link to the file: it is found under the link's name, and the
file that the link led to keeps what was written to it. -/
structure Unlinked (tree after : Tree) (path : Path) (inode copy : Inode)
    (content written : Content) (mode : Nat) (directory : Inode) (name : Name) : Prop where
  new : tree.node? copy = none
  entry : after.locate .name path = .ok (.entry copy directory name)
  original : after.file? copy = some (content, mode)
  changed : after.file? inode = some (written, mode)
  entries : ∀ other wanted, ¬(directory = other ∧ wanted = name) →
    after.child? other wanted = tree.child? other wanted
  nodes : ∀ other, other ≠ inode → other ≠ copy → after.body? other = tree.body? other

/-- A new node is not the one that was read. -/
theorem Rewritten.ne_of_new (h : tree.Rewritten middle path inode copy content written mode)
    (new : tree.node? copy = none) : copy ≠ inode := by
  rintro rfl
  have old := (openFile_eq_file.mp h.read).2
  rw [file?_eq_some, new] at old
  cases old

/-- Moving a new backup over another name leaves all else as it was before the copy. -/
theorem Rewritten.unlinked (h : tree.Rewritten middle path inode copy content written mode)
    (new : tree.node? copy = none) (isDirectory : middle.isDirectory directory)
    (free : tree.child? directory kept = none)
    (names : ∀ other wanted, middle.child? other wanted =
      if directory = other ∧ wanted = kept then some copy else tree.child? other wanted)
    (entry : (middle.moved copy directory kept name).locate .name path =
      .ok (.entry copy directory name)) :
    tree.Unlinked (middle.moved copy directory kept name) path inode copy content written mode
      directory name := by
  have original := (openFile_eq_file.mp h.copied).2
  rw [if_neg (h.ne_of_new new)] at original
  have changed := (openFile_eq_file.mp h.rewritten).2
  refine ⟨new, entry, ?_, ?_, ?_, ?_⟩
  · exact (file?_moved (Option.isSome_of_eq_some original)).trans original
  · exact (file?_moved (Option.isSome_of_eq_some changed)).trans changed
  · intro other wanted elsewhere
    rw [child?_moved isDirectory, if_neg elsewhere, names]
    split_ifs with same
    · obtain ⟨rfl, rfl⟩ := same
      exact free.symm
    · rfl
  · intro other ne ne'
    rw [Tree.moved, body?_bind, body?_unbind, h.nodes other ne ne']

/-- Moving a new backup over the link that leads to the file. -/
theorem Rewritten.renameFile_link
    (h : tree.Rewritten middle path inode copy content written mode) (formed : tree.WellFormed)
    (free : tree.locate .name path.backup = .ok (.free directory kept))
    (entry : tree.locate .name path = .ok (.entry link directory' name))
    (isLink : tree.node? link = some (.link target)) :
    middle.isFile path.backup ∧ ∃ after, middle.renameFile path.backup path = .ok after ∧
      tree.Unlinked after path inode copy content written mode directory' name := by
  obtain ⟨beside, last, used, stands, taken, slot⟩ := exists_stands formed h.read
  -- the link is the entry at the end of the path, and the backup's name is free beside it
  obtain ⟨-, child, node, led, there, -⟩ := slot.entry stands.isName
  obtain ⟨rfl, rfl, rfl⟩ := Place.entry.inj
    (Except.ok.inj ((stands.locate_name taken led there).symm.trans entry))
  obtain ⟨backupTaken, none⟩ := stands.backup.child?_eq_none free
  obtain ⟨new, names⟩ :=
    h.entries.of_free fun purpose => stands.backup.locate_free backupTaken none
  have formed' := h.grows.wellFormed formed
  have stands' := stands.grows h.grows
  have stillLink := h.grows.link _ _ isLink
  obtain ⟨foundBackup, fileBackup⟩ := openFile_eq_file.mp h.copied
  have plain := not_isDirectory_of_file? (Option.isSome_of_eq_some fileBackup)
  -- both names are entries of different nodes, so the one is moved over the other
  have ledBackup : middle.child? beside (last ++ Path.backupSuffix) = some copy := by
    rw [names, if_pos ⟨rfl, rfl⟩]
  have apart : copy ≠ child := by
    rintro rfl
    rw [new] at isLink
    cases isLink
  have named : ¬(path.backup.endsInSlash ∨ path.endsInSlash) := by
    simp [stands.endsInSlash, stands.backup.endsInSlash]
  have renamed := renameFile_onto_entry stands'.isDirectory plain named
    (stands'.backup.locate_name backupTaken ledBackup (file?_eq_some.mp fileBackup))
    (stands'.locate_name taken (h.grows.names _ _ _ led) stillLink) apart
    (not_isDirectory_of_link stillLink)
  have moved : (middle.moved copy beside (last ++ Path.backupSuffix) last).Stands path beside last
      used :=
    stands'.moved (stands'.backup.slot_of_openFile formed' h.copied).2 (isName_backup last)
      (stands'.slot_of_openFile formed' h.rewritten).2 stands.isName
  have ends : (middle.moved copy beside (last ++ Path.backupSuffix) last).child? beside last =
      some copy := by
    rw [child?_moved stands'.isDirectory, if_pos ⟨rfl, rfl⟩]
  have still : (middle.moved copy beside (last ++ Path.backupSuffix) last).file? copy =
      some (if copy = inode then written else content, mode) :=
    (file?_moved (Option.isSome_of_eq_some fileBackup)).trans fileBackup
  refine ⟨by simp [isFile, foundBackup, fileBackup], _, renamed, ?_⟩
  exact h.unlinked new stands'.isDirectory none names
    (moved.locate_name taken ends (file?_eq_some.mp still))

end Tree

open Operation

namespace Setup

/-- A drop from a file that succeeds rewrites the file and its backup. -/
theorem rewritten_of_dropFromFile (formed : world.files.WellFormed)
    (dropped : run (setup.dropFromFile path) world = (.ok (), after)) :
    ∃ inode copy content mode frame, content.decode = .ok frame ∧
      world.files.Rewritten after.files path inode copy content
        (.ofFrame frame.dropFirst setup.settings.codec) mode := by
  obtain ⟨inode, content, mode, frame, copied, kept, found, decoded, -, taken, files⟩ :=
    of_dropFromFile_ok formed dropped
  obtain ⟨copy, rewritten⟩ := Tree.rewritten_of_copyFile formed found taken
    (.ofFrame frame.dropFirst setup.settings.codec)
  rw [← files] at rewritten
  exact ⟨inode, copy, content, mode, frame, decoded, rewritten⟩

/-- An undo that succeeds renames the backup. -/
theorem renamed_of_undoFile (formed : world.files.WellFormed)
    (undone : run (undoFile path) world = (.ok (), after)) :
    world.files.Renamed after.files path.backup path := by
  obtain ⟨isFile, renamed⟩ := of_undoFile_ok undone
  exact Tree.renamed_of_renameFile formed isFile renamed

/-- What dropping and undoing leave alone, whatever links there are. A drop from a file that
succeeds adds at most the entry to which the path of the backup leads, changes no node but the two
to which the paths lead, and gives the backup the permission bits of the dataset. An undo that
succeeds changes no node, and no entries but those at which the two paths end, links not followed.
So a drop through a link, without a backup before, and the undo after it put the original in the
place of the link; the file that the link led to keeps what the drop has written, and all else is as
before. -/
theorem perform_frames (setup : Setup) {location text : String} (formed : world.files.WellFormed)
    (here : Location.parse location = .file text) :
    let path := Path.ofString text
    (∀ after, run (setup.perform location .drop) world = (.ok (), after) →
        ∃ inode copy content mode frame, content.decode = .ok frame ∧
          world.files.Rewritten after.files path inode copy content
            (.ofFrame frame.dropFirst setup.settings.codec) mode) ∧
      (∀ after, run (setup.perform location .undo) world = (.ok (), after) →
        world.files.Renamed after.files path.backup path) ∧
      ∀ after link target directory directory' name kept,
        world.files.locate .name path = .ok (.entry link directory name) →
        world.files.node? link = some (.link target) →
        world.files.locate .name path.backup = .ok (.free directory' kept) →
        run (setup.perform location .drop) world = (.ok (), after) →
          ∃ inode copy content mode frame undone, content.decode = .ok frame ∧
            world.files.lookup path = .ok inode ∧ world.files.file? inode = some (content, mode) ∧
            run (setup.perform location .undo) after = (.ok (), undone) ∧
            world.files.Unlinked undone.files path inode copy content
              (.ofFrame frame.dropFirst setup.settings.codec) mode directory name := by
  simp only [perform, drop, undo, here]
  refine ⟨fun _ => rewritten_of_dropFromFile formed, fun _ => renamed_of_undoFile formed, ?_⟩
  intro after link target directory directory' name kept entry isLink free dropped
  obtain ⟨inode, copy, content, mode, frame, decoded, rewritten⟩ :=
    rewritten_of_dropFromFile formed dropped
  obtain ⟨found, file⟩ := Tree.openFile_eq_file.mp rewritten.read
  obtain ⟨isFile, moved, renamed, unlinked⟩ := rewritten.renameFile_link formed free entry isLink
  have undone := run_undoFile after (Path.ofString text)
  rw [if_pos isFile, renamed] at undone
  exact ⟨inode, copy, content, mode, frame, _, decoded, found, file, undone, unlinked⟩

/-- A dataset with two rows behind a link: after the drop and the undo the link is a file, and the
file behind it is the shorter one. -/
theorem perform_frames_link :
    let frame : Frame := ⟨[⟨"n", .scalar .bool, [.bool true, .bool false]⟩]⟩
    let dataset : Content := .ofFrame frame .zstd
    let files := (Tree.fresh.put (.ofString "d") dataset).makeLink (.ofString "d") (.ofString "l")
    let world : World := ⟨files, .superuser, .empty, []⟩
    let setup : Setup := ⟨.standard .empty, .shared⟩
    let written : Content := .ofFrame frame.dropFirst setup.settings.codec
    let dropped := run (setup.perform "l" .drop) world
    let undone := run (setup.perform "l" .undo) dropped.2
    dropped.1 = .ok () ∧ undone.1 = .ok () ∧
      files.Rewritten dropped.2.files (.ofString "l") 3 5 dataset written Tree.newFileMode ∧
      dropped.2.files.Renamed undone.2.files (Path.ofString "l").backup (.ofString "l") ∧
      files.Unlinked undone.2.files (.ofString "l") 3 5 dataset written Tree.newFileMode 2
        [0x6C] := by
  intro frame dataset files world setup written dropped undone
  have formed : files.WellFormed :=
    Tree.wellFormed_makeLink (Tree.wellFormed_put Tree.wellFormed_fresh _ _) _ _
  have start : world.files.WellFormed := formed
  have here : Location.parse "l" = .file "l" := rfl
  have dropping : dropped.1 = .ok () := eq_ok_of_toBool (by decide +kernel)
  have undoing : undone.1 = .ok () := eq_ok_of_toBool (by decide +kernel)
  have ended : dropped = (.ok (), dropped.2) := by rw [← dropping]
  have ended' : undone = (.ok (), undone.2) := by rw [← undoing]
  have read : files.openFile (.ofString "l") = .ok (.file 3 dataset Tree.newFileMode) := rfl
  have decodes : dataset.decode = .ok frame := rfl
  have backed : dropped.2.files.lookup (Path.ofString "l").backup = .ok 5 := by decide +kernel
  have entry : files.locate .name (.ofString "l") = .ok (.entry 4 2 [0x6C]) := rfl
  have isLink : files.node? 4 = some (.link (.ofString "d")) := rfl
  have free : files.locate .name (Path.ofString "l").backup =
      .ok (.free 2 [0x6C, 0x2E, 0x62, 0x6B]) := rfl
  obtain ⟨rewrites, -, replaces⟩ := perform_frames setup start here
  obtain ⟨inode, copy, content, mode, frame', decoded, rewritten⟩ := rewrites _ ended
  obtain ⟨rfl, rfl, rfl⟩ := Opened.file.inj (Except.ok.inj (read.symm.trans rewritten.read))
  obtain rfl := Except.ok.inj (decodes.symm.trans decoded)
  obtain rfl := Except.ok.inj
    (backed.symm.trans (Tree.openFile_eq_file.mp rewritten.copied).1)
  obtain ⟨-, renames, -⟩ := perform_frames setup (rewritten.grows.wellFormed formed) here
  refine ⟨dropping, undoing, rewritten, renames _ ended', ?_⟩
  obtain ⟨inode, copy, content, mode, frame, after, decoded', found, file, undid, unlinked⟩ :=
    replaces _ _ _ _ _ _ _ entry isLink free ended
  have reread := Tree.openFile_eq_file.mpr ⟨found, file⟩
  obtain ⟨rfl, rfl, rfl⟩ := Opened.file.inj (Except.ok.inj (read.symm.trans reread))
  obtain rfl := Except.ok.inj (decodes.symm.trans decoded')
  obtain rfl : undone.2 = after := congrArg Prod.snd undid
  have moved : undone.2.files.locate .name (.ofString "l") = .ok (.entry 5 2 [0x6C]) := by
    decide +kernel
  obtain ⟨rfl, -⟩ := Place.entry.inj (Except.ok.inj (moved.symm.trans unlinked.entry))
  exact unlinked

end Setup
end RowDrop
