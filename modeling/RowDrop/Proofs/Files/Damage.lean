import RowDrop.Proofs.Files.Frames

/-!
# Damage to a file that has a backup

A file may be written over, emptied, created anew, given other permission bits or removed while its
backup is left alone (`Tree.Damage`). Such damage takes away names of files only, and new names are
names of new files (`Tree.Wears`); so the path of the backup goes on leading to the copy, and the
path of the file never leads to it (`Tree.Guards.damage`). However much damage was done, moving the
backup over the file brings back what was copied (`Tree.Guards.renameFile`).
-/

namespace RowDrop.Tree

/-- What can happen to a file while its backup, the file that the backup's path leads to and the
directories and links on the way to it are left alone. -/
inductive Damage (path : Path) : Tree → Tree → Prop where
  /-- Any contents are put into a file: none, a part of what was to be written, or all of it. -/
  | write {tree : Tree} {inode : Inode} (content : Content) :
      tree.lookup path.backup ≠ .ok inode → Damage path tree (tree.setContent inode content)
  | chmod {tree : Tree} {inode : Inode} (mode : Nat) :
      tree.lookup path.backup ≠ .ok inode → Damage path tree (tree.setMode inode mode)
  /-- The file is opened for writing: it is emptied, or created where it was missing. -/
  | create {tree after : Tree} {inode : Inode} {mode : Nat} :
      tree.createFile path mode = .ok (inode, after) → Damage path tree after
  /-- The name at the end of the path is removed, be it the name of the file or of a link. -/
  | remove {tree : Tree} : Damage path tree (tree.remove path)
  /-- A name of a file is removed under any path, such as the one that a link leads to. -/
  | unlink {tree : Tree} {other : Path} {inode directory : Inode} {name : Name} :
      tree.locate .name other = .ok (.entry inode directory name) → (tree.file? inode).isSome →
      tree.lookup path.backup ≠ .ok inode → Damage path tree (tree.remove other)

/-- A node is a file that was not there before. -/
def New (tree after : Tree) (inode : Inode) : Prop :=
  tree.node? inode = none ∧ (after.file? inode).isSome

/-- A tree loses names of files and the name of one directory, but no name of the copy; its nodes
are what they were, and what it gains are new files. -/
structure Wears (tree after : Tree) (copy directory : Inode) (name : Name) : Prop
    extends Keeps tree after where
  unchanged : after.file? copy = tree.file? copy
  bodies : ∀ inode, after.body? inode = tree.body? inode ∨
    (tree.file? inode).isSome ∧ (after.file? inode).isSome ∨ tree.New after inode
  lost : ∀ directory' name', tree.KeepsName after directory' name' ∨
    (directory' = directory ∧ name' = name) ∨ ∃ inode, IsName name' ∧
      tree.child? directory' name' = some inode ∧ (tree.file? inode).isSome ∧ inode ≠ copy
  gained : ∀ directory' name' inode, after.child? directory' name' = some inode →
    tree.child? directory' name' = some inode ∨ tree.New after inode

/-- The path of a backup leads to a copy, and the name at the end of the file's path neither leads
to this copy nor is it on the way to anything but files. -/
structure Guards (tree : Tree) (path : Path) (directory : Inode) (name : Name) (used : Nat)
    (copy : Inode) (content : Content) (mode : Nat) : Prop where
  formed : tree.WellFormed
  stands : tree.Stands path directory name used
  backup : tree.openFile path.backup = .ok (.file copy content mode)
  ends : ∀ rest links inode, tree.Leads directory (name :: rest) links inode →
    (tree.file? inode).isSome ∧ inode ≠ copy
  present : ∀ child, tree.child? directory name = some child →
    ∃ node, tree.node? child = some node

variable {tree after : Tree} {path other : Path} {here inode copy directory directory' : Inode}
variable {name name' : Name} {names : List Name} {used links : Nat} {content : Content} {mode : Nat}

/-! ## Ways through a worn tree -/

theorem body?_eq_link {target : Path} :
    tree.body? inode = some (.link target) ↔ tree.node? inode = some (.link target) := by
  rw [body?, Option.map_eq_some_iff]
  constructor
  · rintro ⟨node, found, same⟩
    cases node with
    | file | directory => cases same
    | link => rw [found, ← same]; rfl
  · intro found
    exact ⟨_, found, rfl⟩

/-- Files are files by what they are apart from names. -/
theorem isSome_file?_of_body? (same : after.body? inode = tree.body? inode) :
    (after.file? inode).isSome ↔ (tree.file? inode).isSome := by
  simp only [Option.isSome_iff_exists, Prod.exists, ← body?_eq_file, same]

theorem exists_node?_of_body? (same : after.body? inode = tree.body? inode) :
    (∃ node, tree.node? inode = some node) → ∃ node, after.node? inode = some node := by
  rintro ⟨node, found⟩
  rw [body?, body?, found] at same
  obtain ⟨other, found', -⟩ := Option.map_eq_some_iff.mp same
  exact ⟨other, found'⟩

namespace Wears

theorem isSome_file? (h : tree.Wears after copy directory name)
    (file : (after.file? inode).isSome) : (tree.file? inode).isSome ∨ tree.New after inode := by
  rcases h.bodies inode with same | ⟨before, -⟩ | new
  · exact .inl ((isSome_file?_of_body? same).mp file)
  · exact .inl before
  · exact .inr new

theorem isPlain (h : tree.Wears after copy directory name) (plain : after.IsPlain inode) :
    tree.IsPlain inode ∨ tree.New after inode := by
  rcases plain with isDirectory | file
  · exact .inl (.inl ((h.isDirectory inode).mp isDirectory))
  · exact (h.isSome_file? file).imp_left .inr

theorem link_of_link {target : Path} (h : tree.Wears after copy directory name)
    (link : after.node? inode = some (.link target)) : tree.node? inode = some (.link target) := by
  have noFile : ¬(after.file? inode).isSome := by simp [not_file?_of_link link]
  rcases h.bodies inode with same | ⟨-, file⟩ | ⟨-, file⟩
  · rw [← body?_eq_link] at link ⊢
    exact same.symm.trans link
  · exact absurd file noFile
  · exact absurd file noFile

theorem exists_node? (h : tree.Wears after copy directory name)
    (there : ∃ node, tree.node? inode = some node) : ∃ node, after.node? inode = some node := by
  have ofFile : (after.file? inode).isSome → ∃ node, after.node? inode = some node := by
    intro file
    obtain ⟨content, mode, node⟩ := Tree.isSome_file?.mp file
    exact ⟨_, node⟩
  rcases h.bodies inode with same | ⟨-, file⟩ | ⟨-, file⟩
  · exact exists_node?_of_body? same there
  · exact ofFile file
  · exact ofFile file

end Wears

namespace Leads

/-- A way that comes to a new file ends there. -/
theorem of_new (h : after.Leads here names links inode) (new : tree.New after here) :
    tree.New after inode := by
  obtain ⟨-, rfl⟩ := h.of_file new.2
  exact new

/-- What names lead to afterwards they led to before, or it is a new file. -/
theorem of_worn (wears : tree.Wears after copy directory name)
    (h : after.Leads here names links inode) :
    tree.Leads here names links inode ∨ tree.New after inode := by
  induction h with
  | here => exact .inl .here
  | stay isDirectory special _ ih =>
    exact ih.imp_left (.stay ((wears.isDirectory _).mp isDirectory) special)
  | up above _ ih => exact ih.imp_left (.up ((wears.parent? _).symm.trans above))
  | down isName short found plain rest ih =>
    rcases wears.gained _ _ _ found with old | new
    · rcases wears.isPlain plain with plain | new
      · exact ih.imp_left (.down isName short old plain)
      · exact .inr (rest.of_new new)
    · exact .inr (rest.of_new new)
  | jump isName short found link _ ih =>
    rcases wears.gained _ _ _ found with old | ⟨-, file⟩
    · exact ih.imp_left (.jump isName short old (wears.link_of_link link))
    · simp [not_file?_of_link link] at file

/-- Names go on leading to the copy and to directories, past the name that may be lost. -/
theorem worn (wears : tree.Wears after copy directory name)
    (aside : tree.Aside directory name inode) (apart : (tree.file? inode).isSome → inode = copy)
    (h : tree.Leads here names used inode) : after.Leads here names used inode := by
  refine h.transfer wears.toKeeps fun directory' name' => ?_
  obtain kept | ⟨rfl, rfl⟩ | ⟨child, isName, found, file, ne⟩ := wears.lost directory' name'
  · exact .inl kept
  · exact .inr fun rest links _ => aside rest links
  · right
    intro rest links _ leads
    obtain ⟨-, child', found', behind⟩ := leads.of_name isName
    obtain rfl := Option.some.inj (found.symm.trans found')
    rcases behind with ⟨-, behind⟩ | ⟨target, more, link, -⟩
    · obtain ⟨-, rfl⟩ := behind.of_file file
      exact ne (apart file)
    · simp [not_file?_of_link link] at file

end Leads

namespace Guards

theorem copy_file (h : tree.Guards path directory name used copy content mode) :
    tree.file? copy = some (content, mode) :=
  (openFile_eq_file.mp h.backup).2

theorem ne_of_lookup (h : tree.Guards path directory name used copy content mode)
    (elsewhere : tree.lookup path.backup ≠ .ok inode) : inode ≠ copy := by
  rintro rfl
  exact elsewhere (openFile_eq_file.mp h.backup).1

theorem aside_copy (h : tree.Guards path directory name used copy content mode) :
    tree.Aside directory name copy :=
  fun rest links leads => (h.ends rest links copy leads).2 rfl

theorem aside_directory (h : tree.Guards path directory name used copy content mode) :
    tree.Aside directory name directory :=
  fun rest links leads =>
    not_isDirectory_of_file? (h.ends rest links directory leads).1 h.stands.isDirectory

/-- The path of the file does not lead to the copy. -/
theorem lookup_ne (h : tree.Guards path directory name used copy content mode) :
    tree.lookup path ≠ .ok copy := by
  intro found
  have opened : tree.openFile path = .ok (.file copy content mode) :=
    openFile_eq_file.mpr ⟨found, h.copy_file⟩
  obtain ⟨-, ⟨links, -, leads⟩, -⟩ := (openFile_file_iff h.formed).mp opened
  obtain ⟨lead, names, first⟩ := h.stands.names
  rw [names] at leads
  obtain ⟨before, more, middle, first', last, -⟩ := leads.split
  obtain ⟨-, rfl⟩ := first.unique first'
  exact h.aside_copy _ _ last

/-- A backup is guarded as well in a tree that lost and gained names of other files. -/
theorem worn (h : tree.Guards path directory name used copy content mode)
    (wears : tree.Wears after copy directory name) :
    after.Guards path directory name used copy content mode := by
  have formed := wears.wellFormed h.formed
  have file := wears.unchanged.trans h.copy_file
  refine ⟨formed, ?_, ?_, ?_, ?_⟩
  · obtain ⟨lead, names, leads⟩ := h.stands.names
    refine ⟨⟨lead, names, ?_⟩, h.stands.isName, (wears.isDirectory _).mpr h.stands.isDirectory,
      h.stands.le⟩
    rw [wears.workdir]
    exact leads.worn wears h.aside_directory fun file =>
      absurd h.stands.isDirectory (not_isDirectory_of_file? file)
  · obtain ⟨checked, ⟨links, le, leads⟩, -⟩ := (openFile_file_iff h.formed).mp h.backup
    refine (openFile_file_iff formed).mpr ⟨checked, ⟨links, le, ?_⟩, file⟩
    rw [wears.workdir]
    exact leads.worn wears h.aside_copy fun _ => rfl
  · intro rest links inode leads
    rcases leads.of_worn wears with led | ⟨none, new⟩
    · obtain ⟨isFile, ne⟩ := h.ends rest links inode led
      exact ⟨wears.file inode isFile, ne⟩
    · refine ⟨new, ?_⟩
      rintro rfl
      rw [file?_eq_some.mp h.copy_file] at none
      cases none
  · intro child found
    rcases wears.gained _ _ _ found with old | ⟨-, new⟩
    · exact wears.exists_node? (h.present child old)
    · obtain ⟨content, mode, node⟩ := isSome_file?.mp new
      exact ⟨_, node⟩

end Guards

/-! ## Single damages -/

/-- What is done to files but not to names wears nothing away, as long as the copy is as it was. -/
theorem wears_of_names (keeps : tree.Keeps after) (unchanged : after.file? copy = tree.file? copy)
    (bodies : ∀ other, after.body? other = tree.body? other ∨
      (tree.file? other).isSome ∧ (after.file? other).isSome)
    (names : ∀ other wanted, after.child? other wanted = tree.child? other wanted) :
    tree.Wears after copy directory name where
  toKeeps := keeps
  unchanged := unchanged
  bodies other := (bodies other).imp_right .inl
  lost _ _ := .inl fun _ found => (names _ _).trans found
  gained _ _ _ found := .inl ((names _ _).symm.trans found)

theorem wears_setContent (ne : inode ≠ copy) (written : Content) :
    tree.Wears (tree.setContent inode written) copy directory name := by
  refine wears_of_names (.setContent tree inode written) (file?_setContent_of_ne ne)
    (fun other => ?_) (fun _ _ => child?_setContent ..)
  by_cases same : other = inode
  · subst same
    cases found : tree.file? other with
    | none => exact .inl (by rw [setContent, found])
    | some file => exact .inr ⟨rfl, Option.isSome_of_eq_some (file?_setContent found)⟩
  · exact .inl (body?_setContent same)

theorem wears_setMode (ne : inode ≠ copy) (bits : Nat) :
    tree.Wears (tree.setMode inode bits) copy directory name := by
  refine wears_of_names (.setMode tree inode bits) (file?_setMode_of_ne ne)
    (fun other => ?_) (fun _ _ => child?_setMode ..)
  by_cases same : other = inode
  · subst same
    cases found : tree.file? other with
    | none => exact .inl (by rw [setMode, found])
    | some file => exact .inr ⟨rfl, Option.isSome_of_eq_some (file?_setMode found)⟩
  · exact .inl (body?_setMode same)

theorem wears_newFile (isDirectory : tree.isDirectory directory')
    (free : tree.child? directory' name' = none) (there : (tree.file? copy).isSome)
    (content : Content) (mode : Nat) :
    tree.Wears ((tree.addNode (.file content mode)).2.bind directory' name' tree.nodes.length)
      copy directory name := by
  have changes := changesOnly_newFile isDirectory free content mode
  obtain ⟨found, file⟩ := file?_newFile isDirectory name' content mode
  have new : tree.New
      ((tree.addNode (.file content mode)).2.bind directory' name' tree.nodes.length)
      tree.nodes.length := ⟨node?_length tree, Option.isSome_of_eq_some file⟩
  refine ⟨changes.toKeeps, changes.files copy ?_ there, ?_, ?_, ?_⟩
  · rintro rfl
    simp [file?, node?_length] at there
  · intro other
    by_cases same : other = tree.nodes.length
    · subst same
      exact .inr (.inr new)
    · left
      rw [body?_bind, body?_addNode same]
  · exact fun other wanted => .inl (changes.names other wanted)
  · intro other wanted child there
    by_cases here : directory' = other ∧ wanted = name'
    · obtain ⟨rfl, rfl⟩ := here
      obtain rfl := Option.some.inj (found.symm.trans there)
      exact .inr new
    · rw [changes.others other wanted here] at there
      exact .inl there

theorem wears_unbind (isDirectory : tree.isDirectory directory')
    (there : (tree.file? copy).isSome)
    (loses : (directory' = directory ∧ name' = name) ∨ ∃ inode, IsName name' ∧
      tree.child? directory' name' = some inode ∧ (tree.file? inode).isSome ∧ inode ≠ copy) :
    tree.Wears (tree.unbind directory' name') copy directory name where
  toKeeps := .setEntries isDirectory
  unchanged := file?_unbind there
  bodies other := .inl (body?_unbind other)
  lost other wanted := by
    by_cases here : directory' = other ∧ wanted = name'
    · obtain ⟨rfl, rfl⟩ := here
      exact .inr loses
    · left
      intro child found
      rwa [child?_unbind isDirectory, if_neg here]
  gained other wanted child found := by
    rw [child?_unbind isDirectory] at found
    split_ifs at found
    exact .inl found

/-- A name that a walk ends at can stand in a directory. -/
theorem Walked.isName_of_entry {purpose : Purpose}
    (h : tree.Walked purpose links here names (.entry inode directory name)) : IsName name := by
  generalize ends : Place.entry inode directory name = place at h
  induction h with
  | done | free => cases ends
  | entry isName =>
    obtain ⟨-, -, rfl⟩ := Place.entry.inj ends
    exact isName
  | stay _ _ _ ih | up _ _ ih | down _ _ _ _ _ ih | jump _ _ _ _ _ ih => exact ih ends

theorem remove_of_locate (h : tree.locate .name path = .ok (.entry inode directory name)) :
    tree.remove path = tree.unbind directory name := by
  rw [remove, h]

theorem remove_of_locate_free (h : tree.locate .name path = .ok (.free directory name)) :
    tree.remove path = tree := by
  rw [remove, h]

namespace Guards

theorem taken (h : tree.Guards path directory name used copy content mode) :
    takes path.backup (name ++ Path.backupSuffix) = .ok () :=
  (h.stands.backup.slot_of_openFile h.formed h.backup).1

/-- Damage leaves the backup guarded. -/
theorem damage (h : tree.Guards path directory name used copy content mode)
    (damaged : Damage path tree after) :
    after.Guards path directory name used copy content mode := by
  have there := Option.isSome_of_eq_some h.copy_file
  cases damaged with
  | write written elsewhere => exact h.worn (wears_setContent (h.ne_of_lookup elsewhere) written)
  | chmod bits elsewhere => exact h.worn (wears_setMode (h.ne_of_lookup elsewhere) bits)
  | create created =>
    obtain ⟨_, _, -, -, rfl⟩ | ⟨directory', name', located, rfl, rfl⟩ := createFile_cases created
    · refine h.worn (wears_setContent ?_ .empty)
      rintro rfl
      exact h.lookup_ne (lookup_of_createFile h.formed created there)
    · obtain ⟨isDirectory, free⟩ := (walked_of_walk (locate_eq_ok.mp located).2).child?_eq_none
      exact h.worn (wears_newFile isDirectory free there .empty _)
  | remove =>
    have taken := takes_of_backup h.stands.filled h.taken
    cases found : tree.child? directory name with
    | none => rwa [remove_of_locate_free (h.stands.locate_free taken found)]
    | some child =>
      obtain ⟨node, kind⟩ := h.present child found
      rw [remove_of_locate (h.stands.locate_name taken found kind)]
      exact h.worn (wears_unbind h.stands.isDirectory there (.inl ⟨rfl, rfl⟩))
  | unlink located file elsewhere =>
    have walked := walked_of_walk (locate_eq_ok.mp located).2
    have found := walked.child?_eq_some
    rw [remove_of_locate located]
    exact h.worn (wears_unbind (isDirectory_of_child? found) there
      (.inr ⟨_, walked.isName_of_entry, found, file, h.ne_of_lookup elsewhere⟩))

/-! ## Restoring -/

/-- The backup can be moved over the file. The file's path leads to the copy then, and no name of
the backup is left. -/
theorem renameFile (h : tree.Guards path directory name used copy content mode) :
    ∃ after, tree.renameFile path.backup path = .ok after ∧
      after.openFile path = .ok (.file copy content mode) ∧
      after.locate .name path.backup = .ok (.free directory (name ++ Path.backupSuffix)) ∧
      after.isFile path.backup = false := by
  have isDirectory := h.stands.isDirectory
  have isFile := Option.isSome_of_eq_some h.copy_file
  have taken := takes_of_backup h.stands.filled h.taken
  have short := (takes_eq_ok.mp taken).2
  have isName' := isName_backup name
  have slot := (h.stands.backup.slot_of_openFile h.formed h.backup).2
  have replaced : ∀ other, tree.child? directory name = some other →
      (∃ node, tree.node? other = some node) ∧ ¬tree.isDirectory other := by
    intro other found
    refine ⟨h.present other found, fun above => ?_⟩
    have leads : tree.Leads directory [name] 0 other :=
      .down h.stands.isName short found (.inl above) .here
    exact not_isDirectory_of_file? (h.ends _ _ _ leads).1 above
  obtain ⟨child, found, renamed⟩ :=
    h.stands.renameFile_backup h.taken slot h.aside_copy replaced
  have keeps : tree.Keeps (tree.moved child directory (name ++ Path.backupSuffix) name) :=
    keeps_moved isDirectory
  have stands : (tree.moved child directory (name ++ Path.backupSuffix) name).Stands path directory
      name used :=
    h.stands.past_moved (slot.aside_directory isName' isDirectory) h.aside_directory
  have gone : (tree.moved child directory (name ++ Path.backupSuffix) name).child? directory
      (name ++ Path.backupSuffix) = none := by
    rw [child?_moved isDirectory, if_neg (fun both => Path.append_backupSuffix_ne name both.2),
      if_pos ⟨rfl, rfl⟩]
  have same : (tree.moved child directory (name ++ Path.backupSuffix) name).file? copy =
      tree.file? copy := file?_moved isFile
  have file := same.trans h.copy_file
  refine ⟨_, renamed, ?_, stands.backup.locate_free h.taken gone, ?_⟩
  · cases slot with
    | file le leads =>
      exact stands.openFile_of_leads (keeps.wellFormed h.formed) taken le
        (leads.renamed isDirectory isName' isFile h.aside_copy h.stands.isName short found) file
  · rw [Tree.isFile, lookup, stands.backup.locate_free h.taken gone]
    rfl

end Guards

/-- A copy of a file to the path of its backup is guarded, unless the two paths led to one file. -/
theorem guards_of_copyFile {copied : Content} (formed : tree.WellFormed)
    (opened : tree.openFile path = .ok (.file inode content mode))
    (apart : tree.lookup path.backup ≠ .ok inode)
    (h : tree.copyFile path path.backup = .ok (copied, after)) :
    ∃ directory name used copy, after.Guards path directory name used copy content mode := by
  obtain ⟨copy, ne, read, readBackup⟩ := openFile_of_copyFile formed opened apart h
  have formed := (grows_of_copyFile h).wellFormed formed
  obtain ⟨directory, name, used, stands, -, slot⟩ := exists_stands formed read
  refine ⟨directory, name, used, copy, formed, stands, readBackup, ?_, ?_⟩
  · intro rest links end' leads
    obtain ⟨isFile, content', same⟩ := slot.of_leads stands.isName leads
    obtain ⟨rfl, -⟩ := Prod.mk.inj (Option.some.inj same)
    exact ⟨isFile, ne.symm⟩
  · intro child found
    obtain ⟨-, child', node, found', there, -⟩ := slot.entry stands.isName
    obtain rfl := Option.some.inj (found.symm.trans found')
    exact ⟨node, there⟩

end RowDrop.Tree
