import RowDrop.Proofs.Files.Growth

/-!
# What the calls on files do

One lemma for each way in which a call on a path ends well. Reading finds a file that the names of
the path lead to, and nothing else (`openFile_file_iff`); what was read can be written, also after
the tree has grown (`openFile_of_grown`). Creating and copying only let a tree grow.
-/

namespace RowDrop

/-- Two things end well one after the other if the first does, and the second after it. -/
theorem bind_eq_ok {ε α β : Type} {first : Except ε α} {next : α → Except ε β} {result : β} :
    (first >>= next) = .ok result ↔ ∃ value, first = .ok value ∧ next value = .ok result := by
  cases first with
  | error error =>
    constructor
    · intro h
      cases h
    · rintro ⟨_, h, -⟩
      cases h
  | ok value =>
    constructor
    · intro h
      exact ⟨value, rfl, h⟩
    · rintro ⟨_, found, h⟩
      obtain rfl := Except.ok.inj found
      exact h

/-- Two things one after the other fail where the first fails, or the second after it. -/
theorem bind_eq_error {ε α β : Type} {first : Except ε α} {next : α → Except ε β} {failure : ε} :
    (first >>= next) = .error failure ↔
      first = .error failure ∨ ∃ value, first = .ok value ∧ next value = .error failure := by
  cases first with
  | error error =>
    constructor
    · intro h
      obtain rfl := Except.error.inj h
      exact .inl rfl
    · rintro (h | ⟨_, h, -⟩)
      · obtain rfl := Except.error.inj h
        rfl
      · cases h
  | ok value =>
    constructor
    · intro h
      exact .inr ⟨value, rfl, h⟩
    · rintro (h | ⟨_, found, h⟩)
      · cases h
      · obtain rfl := Except.ok.inj found
        exact h

theorem map_eq_ok {ε α β : Type} {first : Except ε α} {change : α → β} {result : β} :
    first.map change = .ok result ↔ ∃ value, first = .ok value ∧ change value = result := by
  cases first with
  | error error =>
    constructor
    · intro h
      cases h
    · rintro ⟨_, h, -⟩
      cases h
  | ok value =>
    constructor
    · intro h
      exact ⟨value, rfl, Except.ok.inj h⟩
    · rintro ⟨_, found, rfl⟩
      obtain rfl := Except.ok.inj found
      rfl

namespace Tree

variable {tree after : Tree} {path source destination : Path} {purpose : Purpose} {place : Place}
variable {inode directory : Inode} {name : Name} {content copied : Content} {mode mode' : Nat}

theorem locate_eq_ok :
    tree.locate purpose path = .ok place ↔
      checkPath path = .ok () ∧
        tree.walk purpose linkLimit (start path tree.workdir) path.names = .ok place := by
  rw [locate, bind_eq_ok]
  constructor
  · rintro ⟨_, checked, h⟩
    split at h
    case h_1 walked =>
      obtain rfl := Except.ok.inj h
      exact ⟨checked, walked⟩
    case h_2 => cases h
  · rintro ⟨checked, walked⟩
    exact ⟨(), checked, by rw [walked]⟩

theorem locate_eq_error {error : IoError} :
    tree.locate purpose path = .error error ↔
      checkPath path = .error error ∨
        checkPath path = .ok () ∧ ∃ errno, error = .os errno ∧
          tree.walk purpose linkLimit (start path tree.workdir) path.names = .error errno := by
  rw [locate, bind_eq_error]
  constructor
  · rintro (refused | ⟨_, checked, h⟩)
    · exact .inl refused
    · split at h
      case h_1 => cases h
      case h_2 errno walked =>
        obtain rfl := Except.error.inj h
        exact .inr ⟨checked, errno, rfl, walked⟩
  · rintro (refused | ⟨checked, errno, rfl, walked⟩)
    · exact .inl refused
    · exact .inr ⟨(), checked, by rw [walked]⟩

theorem lookup_eq_ok :
    tree.lookup path = .ok inode ↔
      ∃ place, tree.locate .use path = .ok place ∧ place.inode? = some inode := by
  rw [lookup, bind_eq_ok]
  constructor
  · rintro ⟨place, located, h⟩
    split at h
    case h_1 ends =>
      obtain rfl := Except.ok.inj h
      exact ⟨place, located, ends⟩
    case h_2 => cases h
  · rintro ⟨place, located, ends⟩
    exact ⟨place, located, by rw [ends]⟩

theorem openFile_eq_file :
    tree.openFile path = .ok (.file inode content mode) ↔
      tree.lookup path = .ok inode ∧ tree.file? inode = some (content, mode) := by
  rw [openFile, bind_eq_ok]
  constructor
  · rintro ⟨other, found, h⟩
    split at h
    case h_1 node =>
      obtain ⟨rfl, rfl, rfl⟩ := Opened.file.inj (Except.ok.inj h)
      exact ⟨found, file?_eq_some.mpr node⟩
    case h_2 => cases h
  · rintro ⟨found, file⟩
    exact ⟨inode, found, by rw [file?_eq_some.mp file]⟩

/-- A path is read as a file if its names lead to one, through no more links than are followed. -/
theorem openFile_file_iff (formed : tree.WellFormed) :
    tree.openFile path = .ok (.file inode content mode) ↔
      checkPath path = .ok () ∧
        (∃ used, used ≤ linkLimit ∧
          tree.Leads (start path tree.workdir) path.names used inode) ∧
        tree.file? inode = some (content, mode) := by
  rw [openFile_eq_file, lookup_eq_ok]
  constructor
  · rintro ⟨⟨place, located, ends⟩, file⟩
    obtain ⟨checked, walked⟩ := locate_eq_ok.mp located
    exact ⟨checked, (walked_of_walk walked).leads (by decide) ends, file⟩
  · rintro ⟨checked, ⟨used, le, leads⟩, file⟩
    obtain ⟨directory, name, walked⟩ :=
      walk_to_file .use formed (formed.start formed.workdir path) leads
        (Option.isSome_of_eq_some file) (by decide) le
    exact ⟨⟨_, locate_eq_ok.mpr ⟨checked, walked⟩, rfl⟩, file⟩

/-! ## Creating and copying -/

/-- Creating a file empties the file that is there, or puts a new one under a free name. -/
theorem createFile_cases (h : tree.createFile path mode = .ok (inode, after)) :
    (∃ directory name, tree.locate .create path = .ok (.entry inode directory name) ∧
        ¬tree.isDirectory inode ∧ after = tree.setContent inode .empty) ∨
      ∃ directory name, tree.locate .create path = .ok (.free directory name) ∧
        inode = tree.nodes.length ∧
        after = (tree.addNode (.file .empty mode)).2.bind directory name inode := by
  rw [createFile, bind_eq_ok] at h
  obtain ⟨place, located, h⟩ := h
  cases place with
  | directory other => cases h
  | entry other directory name =>
    simp only at h
    split_ifs at h with isDirectory
    obtain ⟨rfl, rfl⟩ := Prod.mk.inj (Except.ok.inj h)
    exact .inl ⟨directory, name, located, isDirectory, rfl⟩
  | free directory name =>
    obtain ⟨rfl, rfl⟩ := Prod.mk.inj (Except.ok.inj h)
    exact .inr ⟨directory, name, located, rfl, rfl⟩

theorem grows_of_createFile (h : tree.createFile path mode = .ok (inode, after)) :
    tree.Grows after := by
  obtain ⟨directory, name, -, -, rfl⟩ | ⟨directory, name, located, rfl, rfl⟩ := createFile_cases h
  · exact .setContent tree inode .empty
  · obtain ⟨isDirectory, free⟩ := (walked_of_walk (locate_eq_ok.mp located).2).child?_eq_none
    exact .newFile isDirectory free .empty mode

/-- Copying reads the source, creates the target, and gives it the contents and the permission
bits of the source, or nothing if the two are one file. -/
theorem copyFile_cases (h : tree.copyFile source destination = .ok (copied, after)) :
    ∃ inode content mode copy created,
      tree.openFile source = .ok (.file inode content mode) ∧
      tree.createFile destination mode = .ok (copy, created) ∧
      copied = (if copy = inode then .empty else content) ∧
      after = (created.setMode copy mode).setContent copy copied := by
  rw [copyFile, bind_eq_ok] at h
  obtain ⟨opened, opening, h⟩ := h
  cases opened with
  | directory => cases h
  | file inode content mode =>
    obtain ⟨⟨copy, created⟩, creation, h⟩ := bind_eq_ok.mp h
    obtain ⟨rfl, rfl⟩ := Prod.mk.inj (Except.ok.inj h)
    exact ⟨inode, content, mode, copy, created, opening, creation, rfl, rfl⟩

theorem grows_of_copyFile (h : tree.copyFile source destination = .ok (copied, after)) :
    tree.Grows after := by
  obtain ⟨inode, content, mode, copy, created, -, creation, -, rfl⟩ := copyFile_cases h
  exact ((grows_of_createFile creation).trans (.setMode created copy mode)).trans
    (.setContent _ copy copied)

/-- A file that is read can be emptied under the same path. -/
theorem createFile_of_openFile (formed : tree.WellFormed)
    (h : tree.openFile path = .ok (.file inode content mode)) :
    tree.createFile path mode' = .ok (inode, tree.setContent inode .empty) := by
  obtain ⟨checked, ⟨used, le, leads⟩, file⟩ := (openFile_file_iff formed).mp h
  have isFile := Option.isSome_of_eq_some file
  obtain ⟨directory, name, walked⟩ :=
    walk_to_file .create formed (formed.start formed.workdir path) leads isFile
      (by decide) le
  rw [createFile, bind_eq_ok]
  refine ⟨_, locate_eq_ok.mpr ⟨checked, walked⟩, ?_⟩
  exact if_neg (not_isDirectory_of_file? isFile)

/-- In a tree that has grown, a path leads to the file that was read there before, whatever the
file holds by now. -/
theorem openFile_grown {content' : Content} (formed : tree.WellFormed) (growth : tree.Grows after)
    (h : tree.openFile path = .ok (.file inode content mode))
    (file : after.file? inode = some (content', mode')) :
    after.openFile path = .ok (.file inode content' mode') := by
  obtain ⟨checked, ⟨used, le, leads⟩, -⟩ := (openFile_file_iff formed).mp h
  refine (openFile_file_iff (growth.wellFormed formed)).mpr ⟨checked, ?_, file⟩
  rw [growth.workdir]
  exact ⟨used, le, leads.grows growth⟩

/-- What was read is found again in a tree that has grown since. -/
theorem openFile_of_grown (formed : tree.WellFormed) (growth : tree.Grows after)
    (h : tree.openFile path = .ok (.file inode content mode)) :
    ∃ content mode, after.openFile path = .ok (.file inode content mode) := by
  have kept := growth.file inode (Option.isSome_of_eq_some (openFile_eq_file.mp h).2)
  obtain ⟨⟨content, mode⟩, found⟩ := Option.isSome_iff_exists.mp kept
  exact ⟨content, mode, openFile_grown formed growth h found⟩

end Tree
end RowDrop
