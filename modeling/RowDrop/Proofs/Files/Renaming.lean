import RowDrop.Proofs.Files.Slots

/-!
# Moving a name over another one

A rename within a directory takes one name out and lets another one lead to its node
(`Tree.moved`). A way that goes past the two names leads where it led (`Leads.past_moved`), and the
name that was moved to leads where the other one led, even if that is a link and the way goes on
behind it (`Leads.renamed`). What stands for a file is never passed on the way to another node
(`Slot.aside`), so both hold of names that stand for files (`Stands.moved`, `Slot.moved`).
-/

namespace RowDrop.Tree

/-- The tree in which a name stands for a node under another name of its directory. -/
def moved (tree : Tree) (inode directory : Inode) (source destination : Name) : Tree :=
  (tree.unbind directory source).bind directory destination inode

variable {tree : Tree} {here inode child directory file : Inode}
variable {name source destination : Name} {names rest : List Name} {used more links : Nat}
variable {content : Content} {slot : Option (Inode × Content)}

theorem keeps_moved (isDirectory : tree.isDirectory directory) :
    tree.Keeps (tree.moved inode directory source destination) := by
  have first : tree.Keeps (tree.unbind directory source) := .setEntries isDirectory
  exact first.trans (.setEntries ((first.isDirectory directory).mpr isDirectory))

theorem child?_moved (isDirectory : tree.isDirectory directory) :
    (tree.moved inode directory source destination).child? here name =
      if directory = here ∧ name = destination then some inode
      else if directory = here ∧ name = source then none else tree.child? here name := by
  have first : tree.Keeps (tree.unbind directory source) := .setEntries isDirectory
  rw [moved, child?_bind ((first.isDirectory directory).mpr isDirectory), child?_unbind isDirectory]

/-- Every other name leads where it led. -/
theorem keepsName_moved {other : Inode} (isDirectory : tree.isDirectory directory)
    (elsewhere : ¬(directory = other ∧ (name = source ∨ name = destination))) :
    tree.KeepsName (tree.moved inode directory source destination) other name := by
  intro found there
  rw [child?_moved isDirectory, if_neg (fun both => elsewhere ⟨both.1, .inr both.2⟩),
    if_neg (fun both => elsewhere ⟨both.1, .inl both.2⟩)]
  exact there

theorem file?_moved (h : (tree.file? file).isSome) :
    (tree.moved inode directory source destination).file? file = tree.file? file := by
  have first : (tree.unbind directory source).file? file = tree.file? file := file?_unbind h
  rw [moved, file?_bind (by rw [first]; exact h), first]

/-- What leads on from a name that stands for a file leads to that file and no further. -/
theorem Leads.through_file (first : tree.Leads here [name] used file)
    (isFile : (tree.file? file).isSome) (h : tree.Leads here (name :: rest) links inode) :
    inode = file ∧ links = used := by
  have whole : tree.Leads here ([name] ++ rest) links inode := h
  obtain ⟨before, after, middle, start, finish, rfl⟩ := whole.split
  obtain ⟨rfl, rfl⟩ := first.unique start
  obtain ⟨rfl, rfl⟩ := finish.of_file isFile
  cases finish
  exact ⟨rfl, rfl⟩

/-- Nothing leads on from a free name, and from a name that stands for a file only that file. -/
theorem Slot.of_leads (h : tree.Slot links directory name slot) (isName : IsName name)
    (leads : tree.Leads directory (name :: rest) used inode) :
    (tree.file? inode).isSome ∧ ∃ content, slot = some (inode, content) := by
  cases h with
  | free free =>
    obtain ⟨-, child, found, -⟩ := leads.of_name isName
    rw [free] at found
    cases found
  | @file _ _ content _ _ first file =>
    have isFile := Option.isSome_of_eq_some file
    obtain ⟨rfl, -⟩ := first.through_file isFile leads
    exact ⟨isFile, content, rfl⟩

/-- No way to a node goes on from a name of a directory. -/
def Aside (tree : Tree) (directory : Inode) (name : Name) (inode : Inode) : Prop :=
  ∀ rest links, ¬tree.Leads directory (name :: rest) links inode

/-- A name that stands for a file is on the way to this file only. -/
theorem Slot.aside (h : tree.Slot links directory name slot) (isName : IsName name)
    (apart : ∀ content, slot ≠ some (inode, content)) : tree.Aside directory name inode := by
  intro rest more leads
  obtain ⟨-, content, same⟩ := h.of_leads isName leads
  exact apart content same

theorem Slot.aside_directory (h : tree.Slot links directory name slot) (isName : IsName name)
    (isDirectory : tree.isDirectory inode) : tree.Aside directory name inode := by
  refine h.aside isName fun content => ?_
  rintro rfl
  exact h.not_isDirectory isDirectory

/-- What leads to a node past the two names leads there after the move. -/
theorem Leads.past_moved (isDirectory : tree.isDirectory directory)
    (one : tree.Aside directory source inode) (other : tree.Aside directory destination inode)
    (h : tree.Leads here names used inode) :
    (tree.moved child directory source destination).Leads here names used inode := by
  refine h.transfer (keeps_moved isDirectory) fun directory' name => ?_
  by_cases here : directory = directory' ∧ (name = source ∨ name = destination)
  · obtain ⟨rfl, rfl | rfl⟩ := here
    · exact .inr fun rest more _ => one rest more
    · exact .inr fun rest more _ => other rest more
  · exact .inl (keepsName_moved isDirectory here)

/-- Neither of the two names is on the way to the directory in which they stand. -/
theorem Stands.past_moved {path : Path} (h : tree.Stands path directory name used)
    (one : tree.Aside directory source directory)
    (other : tree.Aside directory destination directory) :
    (tree.moved child directory source destination).Stands path directory name used := by
  obtain ⟨lead, names, leads⟩ := h.names
  have keeps : tree.Keeps (tree.moved child directory source destination) :=
    keeps_moved h.isDirectory
  refine ⟨⟨lead, names, ?_⟩, h.isName, (keeps.isDirectory _).mpr h.isDirectory, h.le⟩
  rw [keeps.workdir]
  exact leads.past_moved h.isDirectory one other

theorem Stands.moved {path : Path} {first second : Option (Inode × Content)}
    (h : tree.Stands path directory name used)
    (one : tree.Slot links directory source first) (isName : IsName source)
    (other : tree.Slot links directory destination second) (isName' : IsName destination) :
    (tree.moved child directory source destination).Stands path directory name used :=
  h.past_moved (one.aside_directory isName h.isDirectory)
    (other.aside_directory isName' h.isDirectory)

/-- The name that was moved to leads to the file that the other name led to, through as many
links, if the way to this file did not go on from it. -/
theorem Leads.renamed (isDirectory : tree.isDirectory directory)
    (first : tree.Leads directory [source] used inode) (isName : IsName source)
    (isFile : (tree.file? inode).isSome) (other : tree.Aside directory destination inode)
    (isName' : IsName destination) (short : destination.length ≤ nameLimit)
    (found : tree.child? directory source = some child) :
    (tree.moved child directory source destination).Leads directory [destination] used inode := by
  have keeps : tree.Keeps (tree.moved child directory source destination) :=
    keeps_moved isDirectory
  have there : (tree.moved child directory source destination).child? directory destination =
      some child := by
    rw [child?_moved isDirectory, if_pos ⟨rfl, rfl⟩]
  obtain ⟨-, child', found', behind⟩ := first.of_name isName
  obtain rfl := Option.some.inj (found.symm.trans found')
  rcases behind with ⟨plain, rest⟩ | ⟨target, more, link, rfl, rest⟩
  · cases rest
    exact .down isName' short there (keeps.isPlain plain) .here
  · refine .jump isName' short there (keeps.link _ _ link) ?_
    refine rest.transfer keeps fun directory' name => ?_
    by_cases here : directory = directory' ∧ (name = source ∨ name = destination)
    · obtain ⟨rfl, rfl | rfl⟩ := here
      · -- the way behind a link does not come back to the link: it would be as long as itself
        right
        intro rest more fewer leads
        obtain ⟨-, same⟩ := first.through_file isFile leads
        omega
      · exact .inr fun rest more _ => other rest more
    · exact .inl (keepsName_moved isDirectory here)

/-- The name that was moved to stands for the file that the other name stood for. -/
theorem Slot.moved (isDirectory : tree.isDirectory directory)
    (one : tree.Slot links directory source (some (inode, content))) (isName : IsName source)
    (other : tree.Slot links directory destination slot) (isName' : IsName destination)
    (short : destination.length ≤ nameLimit)
    (apart : ∀ content, slot ≠ some (inode, content))
    (found : tree.child? directory source = some child) :
    (tree.moved child directory source destination).Slot links directory destination
      (some (inode, content)) := by
  cases one with
  | file le first file =>
    have isFile := Option.isSome_of_eq_some file
    exact .file le (first.renamed isDirectory isName isFile (other.aside isName' apart) isName'
      short found) ((file?_moved isFile).trans file)

theorem free_moved (isDirectory : tree.isDirectory directory) (ne : source ≠ destination) :
    (tree.moved child directory source destination).Slot links directory source none := by
  refine .free ?_
  rw [child?_moved isDirectory, if_neg (fun both => ne both.2), if_pos ⟨rfl, rfl⟩]

/-! ## The call -/

/-- Moving an entry within a directory is all that happens to a node that is no directory. -/
theorem moveEntry_eq_moved (isDirectory : tree.isDirectory directory)
    (plain : ¬tree.isDirectory child) :
    tree.moveEntry child directory source directory destination =
      tree.moved child directory source destination := by
  unfold moveEntry
  dsimp only
  split
  case h_1 node =>
    have above : (tree.moved child directory source destination).isDirectory child :=
      isDirectory_of_parent? (parent?_eq_some.mpr ⟨_, node⟩)
    exact absurd (((keeps_moved isDirectory).isDirectory child).mp above) plain
  case h_2 => rfl

section Call

variable {path target : Path} {other : Inode}

theorem renameFile_onto_free (isDirectory : tree.isDirectory directory)
    (plain : ¬tree.isDirectory child) (named : ¬(path.endsInSlash ∨ target.endsInSlash))
    (start : tree.locate .name path = .ok (.entry child directory source))
    (free : tree.locate .name target = .ok (.free directory destination)) :
    tree.renameFile path target = .ok (tree.moved child directory source destination) := by
  rw [renameFile, bind_eq_ok]
  refine ⟨_, start, bind_eq_ok.mpr ⟨_, free, ?_⟩⟩
  simp only [named, and_false, if_false, moveEntry_eq_moved isDirectory plain]

theorem renameFile_onto_entry (isDirectory : tree.isDirectory directory)
    (plain : ¬tree.isDirectory child) (named : ¬(path.endsInSlash ∨ target.endsInSlash))
    (start : tree.locate .name path = .ok (.entry child directory source))
    (found : tree.locate .name target = .ok (.entry other directory destination))
    (ne : child ≠ other) (replaced : ¬tree.isDirectory other) :
    tree.renameFile path target = .ok (tree.moved child directory source destination) := by
  rw [renameFile, bind_eq_ok]
  refine ⟨_, start, bind_eq_ok.mpr ⟨_, found, ?_⟩⟩
  simp [named, ne, plain, replaced, moveEntry_eq_moved isDirectory plain]

end Call

/-- The backup of a file can be moved over it: over nothing, or over the name of a node that is no
directory, if this name is not on the way to what the backup stands for. -/
theorem Stands.renameFile_backup {path : Path} {file : Inode × Content}
    (h : tree.Stands path directory name used)
    (backupTaken : takes path.backup (name ++ Path.backupSuffix) = .ok ())
    (kept : tree.Slot links directory (name ++ Path.backupSuffix) (some file))
    (aside : tree.Aside directory name file.1)
    (replaced : ∀ other, tree.child? directory name = some other →
      (∃ node, tree.node? other = some node) ∧ ¬tree.isDirectory other) :
    ∃ child, tree.child? directory (name ++ Path.backupSuffix) = some child ∧
      tree.renameFile path.backup path =
        .ok (tree.moved child directory (name ++ Path.backupSuffix) name) := by
  have taken := takes_of_backup h.filled backupTaken
  have named : ¬(path.backup.endsInSlash ∨ path.endsInSlash) := by
    simp [h.endsInSlash, h.backup.endsInSlash]
  obtain ⟨-, child, node, found, there, plain⟩ := kept.entry (isName_backup name)
  have source := h.backup.locate_name backupTaken found there
  refine ⟨child, found, ?_⟩
  cases stood : tree.child? directory name with
  | none =>
    exact renameFile_onto_free h.isDirectory plain named source (h.locate_free taken stood)
  | some other =>
    obtain ⟨⟨node', there'⟩, plain'⟩ := replaced other stood
    refine renameFile_onto_entry h.isDirectory plain named source
      (h.locate_name taken stood there') ?_ plain'
    rintro rfl
    cases kept with
    | file _ leads =>
      have short := (takes_eq_ok.mp taken).2
      exact aside _ _ (leads.of_child (isName_backup name) h.isName short (stood.trans found.symm))

end RowDrop.Tree
