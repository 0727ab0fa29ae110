import RowDrop.Proofs.Files.Standing

/-!
# What a name stands for

A name of a directory is free or stands for a file, perhaps behind links (`Tree.Slot`). Creating a
file under a path fills its slot and touches nothing else (`createFile_slot`); moving one name over
another one moves what it stands for, also where it is a link (`Slot.moved`).
-/

namespace RowDrop.Tree

/-- What a name of a directory stands for: nothing, or a file behind no more links than given. -/
inductive Slot (tree : Tree) (links : Nat) (directory : Inode) (name : Name) :
    Option (Inode × Content) → Prop where
  | free : tree.child? directory name = none → Slot tree links directory name none
  | file {used : Nat} {inode : Inode} {content : Content} {mode : Nat} : used ≤ links →
      tree.Leads directory [name] used inode → tree.file? inode = some (content, mode) →
      Slot tree links directory name (some (inode, content))

/-- Only one file and one name change. -/
structure ChangesOnly (tree after : Tree) (inode directory : Inode) (name : Name) : Prop
    extends Grows tree after where
  files : ∀ other, other ≠ inode → (tree.file? other).isSome →
    after.file? other = tree.file? other
  others : ∀ directory' name', ¬(directory = directory' ∧ name' = name) →
    after.child? directory' name' = tree.child? directory' name'

variable {tree middle after : Tree} {path : Path} {inode child directory other : Inode}
variable {name name' source destination : Name} {used links : Nat} {content : Content} {mode : Nat}
variable {slot : Option (Inode × Content)}

namespace ChangesOnly

theorem trans (first : tree.ChangesOnly middle inode directory name)
    (second : middle.ChangesOnly after inode directory name) :
    tree.ChangesOnly after inode directory name where
  toGrows := first.toGrows.trans second.toGrows
  files other ne file := by
    rw [second.files other ne (first.file other file), first.files other ne file]
  others directory' name' ne := by rw [second.others _ _ ne, first.others _ _ ne]

theorem setContent (tree : Tree) (inode : Inode) (content : Content) (directory : Inode)
    (name : Name) : tree.ChangesOnly (tree.setContent inode content) inode directory name where
  toGrows := .setContent tree inode content
  files _ ne _ := file?_setContent_of_ne ne.symm
  others _ _ _ := by simp [child?, entries]

theorem setMode (tree : Tree) (inode : Inode) (mode : Nat) (directory : Inode) (name : Name) :
    tree.ChangesOnly (tree.setMode inode mode) inode directory name where
  toGrows := .setMode tree inode mode
  files _ ne _ := file?_setMode_of_ne ne.symm
  others _ _ _ := by simp [child?, entries]

end ChangesOnly

theorem file?_setEntries {entries : List (Name × Inode)} (file : (tree.file? inode).isSome) :
    (tree.setEntries directory entries).file? inode = tree.file? inode := by
  obtain ⟨content, mode, found⟩ := isSome_file?.mp file
  rw [file?_eq_some.mpr found, file?_eq_some.mpr (node?_setEntries_of_file found)]

theorem file?_bind (file : (tree.file? inode).isSome) :
    (tree.bind directory name child).file? inode = tree.file? inode :=
  file?_setEntries file

theorem file?_unbind (file : (tree.file? inode).isSome) :
    (tree.unbind directory name).file? inode = tree.file? inode :=
  file?_setEntries file

theorem file?_addNode_self (tree : Tree) (content : Content) (mode : Nat) :
    (tree.addNode (.file content mode)).2.file? tree.nodes.length = some (content, mode) :=
  file?_eq_some.mpr (node?_addNode_self tree _)

/-- A new file under a free name changes nothing but that name. -/
theorem changesOnly_newFile (isDirectory : tree.isDirectory directory)
    (free : tree.child? directory name = none) (content : Content) (mode : Nat) :
    tree.ChangesOnly ((tree.addNode (.file content mode)).2.bind directory name tree.nodes.length)
      tree.nodes.length directory name where
  toGrows := .newFile isDirectory free content mode
  files other ne file := by
    obtain ⟨content', mode', found⟩ := isSome_file?.mp file
    have kept : (tree.addNode (.file content mode)).2.file? other = some (content', mode') :=
      file?_eq_some.mpr (node?_addNode_of_some found)
    rw [file?_bind (Option.isSome_of_eq_some kept), kept, file?_eq_some.mpr found]
  others directory' name' ne := by
    have above := ((Keeps.addFile tree content mode).isDirectory directory).mpr isDirectory
    rw [child?_bind above, if_neg ne]
    simp only [child?, entries, directory?_addNode_file]

/-- The new file is found under its name. -/
theorem file?_newFile (isDirectory : tree.isDirectory directory) (name : Name)
    (content : Content) (mode : Nat) :
    let after := (tree.addNode (.file content mode)).2.bind directory name tree.nodes.length
    after.child? directory name = some tree.nodes.length ∧
      after.file? tree.nodes.length = some (content, mode) := by
  have above := ((Keeps.addFile tree content mode).isDirectory directory).mpr isDirectory
  have added := file?_addNode_self tree content mode
  refine ⟨?_, (file?_bind (Option.isSome_of_eq_some added)).trans added⟩
  rw [child?_bind above, if_pos ⟨rfl, rfl⟩]

/-- Two names of one node lead to the same file. -/
theorem Leads.of_child (h : tree.Leads directory [name] used inode) (isName : IsName name)
    (isName' : IsName name') (short : name'.length ≤ nameLimit)
    (same : tree.child? directory name' = tree.child? directory name) :
    tree.Leads directory [name'] used inode := by
  obtain ⟨-, child, found, behind⟩ := h.of_name isName
  rcases behind with ⟨plain, rest⟩ | ⟨target, more, link, rfl, rest⟩
  · exact .down isName' short (same.trans found) plain rest
  · exact .jump isName' short (same.trans found) link rest

namespace Slot

/-- A name does not stand for a directory. -/
theorem not_isDirectory {file : Inode × Content}
    (h : tree.Slot links directory name (some file)) : ¬tree.isDirectory file.1 := by
  cases h with
  | file _ _ file => exact not_isDirectory_of_file? (Option.isSome_of_eq_some file)

/-- A name that stands for a file is the name of a node, which is no directory. -/
theorem entry {file : Inode × Content} (h : tree.Slot links directory name (some file))
    (isName : IsName name) :
    name.length ≤ nameLimit ∧ ∃ child node, tree.child? directory name = some child ∧
      tree.node? child = some node ∧ ¬tree.isDirectory child := by
  cases h with
  | file _ leads file =>
    obtain ⟨short, child, found, behind⟩ := leads.of_name isName
    rcases behind with ⟨-, rest⟩ | ⟨target, more, link, -, -⟩
    · cases rest
      refine ⟨short, _, _, found, file?_eq_some.mp file, ?_⟩
      exact not_isDirectory_of_file? (Option.isSome_of_eq_some file)
    · exact ⟨short, _, _, found, link, not_isDirectory_of_link link⟩

/-- A slot stays when another file and another name change. -/
theorem of_changesOnly (h : tree.Slot links directory name slot)
    (changes : tree.ChangesOnly after inode other name')
    (apart : ∀ file content, slot = some (file, content) → file ≠ inode)
    (elsewhere : ¬(other = directory ∧ name = name')) : after.Slot links directory name slot := by
  cases h with
  | free free => exact .free ((changes.others _ _ elsewhere).trans free)
  | file le leads file =>
    have kept := changes.files _ (apart _ _ rfl) (Option.isSome_of_eq_some file)
    exact .file le (leads.grows changes.toGrows) (kept.trans file)

/-- A slot takes on the contents that are written to its file. -/
theorem setContent {old : Content} (h : tree.Slot links directory name (some (inode, old)))
    (content : Content) :
    (tree.setContent inode content).Slot links directory name (some (inode, content)) := by
  cases h with
  | file le leads file =>
    exact .file le (leads.grows (.setContent tree inode content)) (file?_setContent file)

end Slot

/-- A file that the name at the end of a path leads to is read at the path. -/
theorem Stands.openFile_of_leads (h : tree.Stands path directory name used)
    (formed : tree.WellFormed) (taken : takes path name = .ok ()) (le : links ≤ linkLimit - used)
    (leads : tree.Leads directory [name] links inode)
    (file : tree.file? inode = some (content, mode)) :
    tree.openFile path = .ok (.file inode content mode) := by
  refine (openFile_file_iff formed).mpr ⟨(takes_eq_ok.mp taken).1, ?_, file⟩
  refine ⟨used + links, ?_, h.leads leads⟩
  have := h.le
  omega

/-- The file that the name at the end of a path stands for is read at the path. -/
theorem Stands.openFile (h : tree.Stands path directory name used) (formed : tree.WellFormed)
    (taken : takes path name = .ok ())
    (slot : tree.Slot (linkLimit - used) directory name (some (inode, content))) :
    ∃ mode, tree.openFile path = .ok (.file inode content mode) := by
  cases slot with
  | @file more _ _ mode le leads file =>
    exact ⟨mode, h.openFile_of_leads formed taken le leads file⟩

/-- Creating a file under a path fills its slot with an empty file: the one that is there, or a new
one. Nothing else changes. -/
theorem createFile_slot (formed : tree.WellFormed)
    (stands : tree.Stands path directory name used) (taken : takes path name = .ok ())
    (h : tree.Slot (linkLimit - used) directory name slot) (mode : Nat) :
    ∃ inode after, tree.createFile path mode = .ok (inode, after) ∧
      tree.ChangesOnly after inode directory name ∧
      after.Slot (linkLimit - used) directory name (some (inode, .empty)) ∧
      ((tree.file? inode).isSome → ∃ content, slot = some (inode, content)) := by
  cases h with
  | free free =>
    refine ⟨tree.nodes.length, _, ?_, changesOnly_newFile stands.isDirectory free .empty mode,
      ?_, ?_⟩
    · rw [createFile, stands.locate_free taken free]
      rfl
    · obtain ⟨found, new⟩ := file?_newFile stands.isDirectory name .empty mode
      refine .file (Nat.zero_le _) (.down stands.isName (takes_eq_ok.mp taken).2 found ?_ .here) new
      exact .inr (Option.isSome_of_eq_some new)
    · intro file
      simp [file?, node?_length] at file
  | @file more inode content mode' le leads file =>
    have kept : tree.Slot (linkLimit - used) directory name (some (inode, content)) :=
      .file le leads file
    obtain ⟨mode', opened⟩ := stands.openFile formed taken kept
    exact ⟨inode, _, createFile_of_openFile formed opened, .setContent tree inode .empty _ _,
      kept.setContent .empty, fun _ => ⟨content, rfl⟩⟩

/-! ## Standing at a file -/

/-- A path at which a file is read ends with a name that stands for this file. -/
theorem exists_stands (formed : tree.WellFormed)
    (opened : tree.openFile path = .ok (.file inode content mode)) :
    ∃ directory name used, tree.Stands path directory name used ∧ takes path name = .ok () ∧
      tree.Slot (linkLimit - used) directory name (some (inode, content)) := by
  obtain ⟨checked, ⟨links, le, leads⟩, file⟩ := (openFile_file_iff formed).mp opened
  have isFile : (tree.file? inode).isSome := Option.isSome_of_eq_some file
  have noDirectory := not_isDirectory_of_file? isFile
  rcases List.eq_nil_or_concat path.names with empty | ⟨lead, name, names⟩
  · rw [empty] at leads
    cases leads
    exact absurd (formed.start formed.workdir path) noDirectory
  · rw [List.concat_eq_append] at names
    rw [names] at leads
    obtain ⟨before, behind, directory, first, last, rfl⟩ := leads.split
    have short : IsName name ∧ name.length ≤ nameLimit := by
      cases last with
      | stay isDirectory _ rest =>
        cases rest
        exact absurd isDirectory noDirectory
      | up above rest =>
        cases rest
        exact absurd (formed.parent _ _ above) noDirectory
      | down isName short | jump isName short => exact ⟨isName, short⟩
    refine ⟨directory, name, before, ⟨⟨lead, names, first⟩, short.1, last.isDirectory, by omega⟩,
      takes_eq_ok.mpr ⟨checked, short.2⟩, .file (by omega) last file⟩

namespace Stands

/-- Where a file is read at a path, the name at its end stands for the file. -/
theorem slot_of_openFile (h : tree.Stands path directory name used) (formed : tree.WellFormed)
    (opened : tree.openFile path = .ok (.file inode content mode)) :
    takes path name = .ok () ∧
      tree.Slot (linkLimit - used) directory name (some (inode, content)) := by
  obtain ⟨directory', name', used', stands, taken, slot⟩ := exists_stands formed opened
  obtain ⟨lead, names, leads⟩ := h.names
  obtain ⟨lead', names', leads'⟩ := stands.names
  obtain ⟨rfl, same⟩ := List.append_inj' (names.symm.trans names') rfl
  obtain rfl := List.singleton_inj.mp same
  obtain ⟨rfl, rfl⟩ := leads.unique leads'
  exact ⟨taken, slot⟩

/-- A path that is found free ends with a free name. -/
theorem child?_eq_none {directory' : Inode} {name' : Name}
    (h : tree.Stands path directory name used)
    (free : tree.locate .name path = .ok (.free directory' name')) :
    takes path name = .ok () ∧ tree.child? directory name = none := by
  obtain ⟨checked, walked⟩ := locate_eq_ok.mp free
  rw [h.walk] at walked
  obtain ⟨isDirectory, limits⟩ := name_of_walk walked
  obtain ⟨short, written⟩ := limits h.isName
  have taken := takes_eq_ok.mpr ⟨checked, short⟩
  refine ⟨taken, ?_⟩
  cases found : tree.child? directory name with
  | none => rfl
  | some child =>
    cases node : tree.node? child with
    | none =>
      obtain ⟨parent, above⟩ := isDirectory_iff.mp isDirectory
      rw [walk_name above h.isName short written] at walked
      simp [found, node] at walked
    | some kind =>
      rw [h.locate_name taken found node] at free
      cases free

end Stands

end RowDrop.Tree
