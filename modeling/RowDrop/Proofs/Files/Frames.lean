import RowDrop.Proofs.Files.Creating
import RowDrop.Proofs.Files.Formed
import RowDrop.Proofs.Files.Shares

/-!
# What a copy, a rewrite and a rename leave alone

Two views say all about a tree: the entries of its directories (`Tree.child?`), and what each node
is apart from its entries (`Tree.body?`). Opening, copying and creating follow links, so taking a
backup and rewriting the file touch the nodes that the two paths lead to, and add at most one entry
(`rewritten_of_copyFile`). Renaming follows no link at the end of a path: it touches no node, and of
the entries only the two that the paths end with (`renamed_of_renameFile`).
-/

namespace RowDrop

/-- A node without the names in it. -/
def Node.body : Node → Node
  | .directory parent _ => .directory parent []
  | node => node

namespace Tree

/-- What a node is, apart from the names in it. -/
def body? (tree : Tree) (inode : Inode) : Option Node := (tree.node? inode).map Node.body

/-- The permission bits of a regular file. -/
def mode? (tree : Tree) (inode : Inode) : Option Nat := (tree.file? inode).map (·.2)

variable {tree after created : Tree} {path source target : Path} {content written : Content}
variable {inode copy other directory directory' : Inode} {name name' : Name} {mode mode' : Nat}

theorem body?_eq_file : tree.body? inode = some (.file content mode) ↔
    tree.file? inode = some (content, mode) := by
  rw [file?_eq_some, body?, Option.map_eq_some_iff]
  constructor
  · rintro ⟨node, found, same⟩
    cases node with
    | directory => cases same
    | file | link =>
      rw [found, ← same]
      rfl
  · intro found
    exact ⟨_, found, rfl⟩

/-! ## Single changes -/

theorem child?_setContent (directory : Inode) (name : Name) :
    (tree.setContent inode content).child? directory name = tree.child? directory name := by
  simp [child?, entries]

theorem child?_setMode (directory : Inode) (name : Name) :
    (tree.setMode inode mode).child? directory name = tree.child? directory name := by
  simp [child?, entries]

theorem body?_setContent (ne : other ≠ inode) :
    (tree.setContent inode content).body? other = tree.body? other := by
  rw [body?, node?_setContent_of_ne ne.symm, body?]

theorem body?_setMode (ne : other ≠ inode) :
    (tree.setMode inode mode).body? other = tree.body? other := by
  rw [body?, node?_setMode_of_ne ne.symm, body?]

/-- The names in a directory are no part of any node's body. -/
theorem body?_setEntries (entries : List (Name × Inode)) (other : Inode) :
    (tree.setEntries directory entries).body? other = tree.body? other := by
  unfold setEntries
  split
  case h_1 parent old node =>
    by_cases same : directory = other
    · subst same
      rw [body?, node?_setNode, if_pos rfl, if_pos (lt_length_of_node? node), body?, node]
      rfl
    · rw [body?, node?_setNode_of_ne _ _ same, body?]
  case h_2 => rfl

theorem body?_bind (other : Inode) :
    (tree.bind directory name inode).body? other = tree.body? other :=
  body?_setEntries _ other

theorem body?_unbind (other : Inode) :
    (tree.unbind directory name).body? other = tree.body? other :=
  body?_setEntries _ other

theorem body?_addNode {node : Node} (ne : other ≠ tree.nodes.length) :
    (tree.addNode node).2.body? other = tree.body? other := by
  rcases Nat.lt_or_gt_of_ne ne with old | beyond
  · rw [body?, node?_addNode tree node old, body?]
  · have before : tree.node? other = none := List.getElem?_eq_none (Nat.le_of_lt beyond)
    have after : (tree.addNode node).2.node? other = none := by
      apply List.getElem?_eq_none
      simp only [addNode, List.length_append, List.length_singleton]
      exact beyond
    rw [body?, body?, before, after]

@[simp] theorem mode?_setContent (other : Inode) :
    (tree.setContent inode content).mode? other = tree.mode? other := by
  by_cases same : inode = other
  · subst same
    cases found : tree.file? inode with
    | none => rw [setContent, found]
    | some file =>
      rw [mode?, file?_setContent found, mode?, found]
      rfl
  · rw [mode?, file?_setContent_of_ne same, mode?]

theorem mode?_setMode (file : (tree.file? inode).isSome) :
    (tree.setMode inode mode).mode? inode = some mode := by
  obtain ⟨⟨content, old⟩, found⟩ := Option.isSome_iff_exists.mp file
  rw [mode?, file?_setMode found]
  rfl

theorem file?_of_mode? (h : tree.mode? inode = some mode) :
    ∃ content, tree.file? inode = some (content, mode) := by
  obtain ⟨⟨content, _⟩, found, rfl⟩ := Option.map_eq_some_iff.mp h
  exact ⟨content, found⟩

/-! ## Creating a file -/

/-- What writing to a path does to the entries: nothing where the path leads to a node, and
otherwise it puts a new node under the free name to which the path leads. -/
inductive Creates (tree after : Tree) (path : Path) (copy : Inode) : Prop where
  | old : tree.lookup path = .ok copy →
      (∀ other wanted, after.child? other wanted = tree.child? other wanted) →
      Creates tree after path copy
  | new {directory : Inode} {name : Name} :
      tree.locate .create path = .ok (.free directory name) → tree.node? copy = none →
      tree.child? directory name = none →
      (∀ other wanted, after.child? other wanted =
        if directory = other ∧ wanted = name then some copy else tree.child? other wanted) →
      Creates tree after path copy

/-- Entries that stay the same afterwards make no difference. -/
theorem Creates.of_child? {last : Tree} (h : tree.Creates after path copy)
    (same : ∀ other wanted, last.child? other wanted = after.child? other wanted) :
    tree.Creates last path copy := by
  cases h with
  | old found names => exact .old found fun other wanted => (same _ _).trans (names _ _)
  | new located fresh free names =>
    exact .new located fresh free fun other wanted => (same _ _).trans (names _ _)

theorem creates_of_createFile (formed : tree.WellFormed)
    (h : tree.createFile path mode = .ok (copy, after)) : tree.Creates after path copy := by
  obtain ⟨directory, name, located, plain, rfl⟩ | ⟨directory, name, located, rfl, rfl⟩ :=
    createFile_cases h
  · have walked := walked_of_walk (locate_eq_ok.mp located).2
    have isFile := (walked.isPlain (by decide)).resolve_left plain
    exact .old (lookup_of_createFile formed h isFile) child?_setContent
  · obtain ⟨isDirectory, free⟩ := (walked_of_walk (locate_eq_ok.mp located).2).child?_eq_none
    refine .new located (node?_length tree) free fun other wanted => ?_
    have above := ((Keeps.addFile tree .empty mode).isDirectory directory).mpr isDirectory
    rw [child?_bind above]
    simp only [child?, entries, directory?_addNode_file]

theorem body?_createFile (h : tree.createFile path mode = .ok (copy, after)) (ne : other ≠ copy) :
    after.body? other = tree.body? other := by
  obtain ⟨directory, name, -, -, rfl⟩ | ⟨directory, name, -, rfl, rfl⟩ := createFile_cases h
  · exact body?_setContent ne
  · rw [body?_bind, body?_addNode ne]

/-- A file that was there keeps its permission bits, emptied or not. -/
theorem mode?_createFile (h : tree.createFile path mode = .ok (copy, after))
    (found : tree.mode? inode = some mode') : after.mode? inode = some mode' := by
  obtain ⟨directory, name, -, -, rfl⟩ | ⟨directory, name, located, rfl, rfl⟩ := createFile_cases h
  · rw [mode?_setContent, found]
  · obtain ⟨content, file⟩ := file?_of_mode? found
    have new : inode ≠ tree.nodes.length := by
      rintro rfl
      simp [file?, node?_length] at file
    obtain ⟨isDirectory, free⟩ := (walked_of_walk (locate_eq_ok.mp located).2).child?_eq_none
    rw [mode?, (changesOnly_newFile isDirectory free .empty mode).files inode new
      (Option.isSome_of_eq_some file), file]
    rfl

/-! ## Taking a backup and rewriting the file -/

/-- What a file and its backup are once the backup is taken and the file is written, and what
becomes of everything else. -/
structure Rewritten (tree after : Tree) (path : Path) (inode copy : Inode)
    (content written : Content) (mode : Nat) : Prop where
  read : tree.openFile path = .ok (.file inode content mode)
  rewritten : after.openFile path = .ok (.file inode written mode)
  copied : after.openFile path.backup =
    .ok (.file copy (if copy = inode then written else content) mode)
  grows : tree.Grows after
  entries : tree.Creates after path.backup copy
  nodes : ∀ other, other ≠ inode → other ≠ copy → after.body? other = tree.body? other

/-- Writing is last: it fills what is there. -/
theorem file?_rewritten (h : tree.mode? inode = some mode) (written : Content) :
    ((tree.setContent inode .empty).setContent inode written).file? inode =
      some (written, mode) := by
  obtain ⟨content, found⟩ := file?_of_mode? h
  exact file?_setContent (file?_setContent found)

theorem rewritten_of_copyFile {grown : Tree} {copied : Content} (formed : tree.WellFormed)
    (opened : tree.openFile path = .ok (.file inode content mode))
    (taken : tree.copyFile path path.backup = .ok (copied, grown)) (written : Content) :
    ∃ copy, tree.Rewritten ((grown.setContent inode .empty).setContent inode written) path inode
      copy content written mode := by
  obtain ⟨_, _, _, copy, created, opened', creation, rfl, rfl⟩ := copyFile_cases taken
  obtain ⟨rfl, rfl, rfl⟩ := Opened.file.inj (Except.ok.inj (opened.symm.trans opened'))
  obtain ⟨old, made⟩ := openFile_of_createFile formed creation
  have isFile := Option.isSome_of_eq_some (openFile_eq_file.mp made).2
  have bits : created.mode? inode = some mode :=
    mode?_createFile creation (by rw [mode?, (openFile_eq_file.mp opened).2]; rfl)
  generalize kept : (if copy = inode then Content.empty else content) = copied at taken ⊢
  generalize backed : (created.setMode copy mode).setContent copy copied = grown
  generalize rewritten : (grown.setContent inode .empty).setContent inode written = last
  have copying : created.Grows grown := by
    rw [← backed]
    exact (Grows.setMode created copy mode).trans (.setContent _ copy copied)
  have writing : grown.Grows last := by
    rw [← rewritten]
    exact (Grows.setContent grown inode .empty).trans (.setContent _ inode written)
  have inFile : last.file? inode = some (written, mode) := by
    rw [← rewritten]
    apply file?_rewritten
    rw [← backed, mode?_setContent]
    by_cases same : copy = inode
    · rw [← same, mode?_setMode isFile]
    · rw [mode?, file?_setMode_of_ne same]
      exact bits
  have inCopy : last.file? copy = some (if copy = inode then written else content, mode) := by
    by_cases same : copy = inode
    · rw [if_pos same, same, inFile]
    · rw [if_neg same] at kept ⊢
      rw [← rewritten, file?_setContent_of_ne (Ne.symm same), file?_setContent_of_ne (Ne.symm same),
        ← backed, kept]
      exact file?_setContent (file?_setMode (openFile_eq_file.mp made).2)
  have growth : tree.Grows last := ((grows_of_createFile creation).trans copying).trans writing
  refine ⟨copy, opened, ?_, ?_, growth, ?_, ?_⟩
  · exact openFile_grown formed growth opened inFile
  · exact openFile_grown (wellFormed_createFile formed creation) (copying.trans writing) made inCopy
  · refine (creates_of_createFile formed creation).of_child? fun other wanted => ?_
    rw [← rewritten, ← backed, child?_setContent, child?_setContent, child?_setContent,
      child?_setMode]
  · intro other ne ne'
    rw [← rewritten, ← backed, body?_setContent ne, body?_setContent ne, body?_setContent ne',
      body?_setMode ne', body?_createFile creation ne']

/-! ## Renaming -/

/-- What renaming does: the entry at the source becomes the entry at the target, links not followed
at the end of either path, and nothing happens between two names of one node. -/
structure Renamed (tree after : Tree) (source target : Path) : Prop where
  nodes : ∀ inode, after.body? inode = tree.body? inode
  entries : ∃ inode directory name directory' name',
    tree.locate .name source = .ok (.entry inode directory name) ∧
      (tree.locate .name target = .ok (.entry inode directory' name') ∧
          (∀ other wanted, after.child? other wanted = tree.child? other wanted) ∨
        (tree.locate .name target = .ok (.free directory' name') ∨
            ∃ replaced, replaced ≠ inode ∧
              tree.locate .name target = .ok (.entry replaced directory' name')) ∧
          ∀ other wanted, after.child? other wanted =
            if directory' = other ∧ wanted = name' then some inode
            else if directory = other ∧ wanted = name then none else tree.child? other wanted)

theorem body?_moveEntry (isDirectory : tree.isDirectory directory)
    (isDirectory' : tree.isDirectory directory') (plain : ¬tree.isDirectory inode) (other : Inode) :
    (tree.moveEntry inode directory name directory' name').body? other = tree.body? other := by
  rw [moveEntry_eq isDirectory isDirectory' plain, body?_bind, body?_unbind]

/-- The entry at a path that leads to a file is that of a file or of a link. -/
theorem not_isDirectory_of_isFile (formed : tree.WellFormed) (isFile : tree.isFile source)
    (located : tree.locate .name source = .ok (.entry inode directory name)) :
    ¬tree.isDirectory inode := by
  rw [Tree.isFile] at isFile
  split at isFile
  case h_1 led found =>
    obtain ⟨⟨content, mode⟩, file⟩ := Option.isSome_iff_exists.mp isFile
    obtain ⟨_, _, _, stands, taken, slot⟩ :=
      exists_stands formed (openFile_eq_file.mpr ⟨found, file⟩)
    obtain ⟨-, child, node, there, held, plain⟩ := slot.entry stands.isName
    obtain ⟨rfl, -⟩ := Place.entry.inj
      (Except.ok.inj ((stands.locate_name taken there held).symm.trans located))
    exact plain
  case h_2 => cases isFile

theorem renamed_of_renameFile (formed : tree.WellFormed) (isFile : tree.isFile source)
    (h : tree.renameFile source target = .ok after) : tree.Renamed after source target := by
  rw [renameFile, bind_eq_ok] at h
  obtain ⟨first, start, h⟩ := h
  obtain ⟨place, located, h⟩ := bind_eq_ok.mp h
  cases first with
  | directory => cases h
  | free => cases place <;> cases h
  | entry inode directory name =>
    have plain := not_isDirectory_of_isFile formed isFile start
    have isDirectory := isDirectory_of_locate start rfl
    cases place with
    | directory => cases h
    | free directory' name' =>
      have isDirectory' := isDirectory_of_locate located rfl
      simp only at h
      split_ifs at h
      obtain rfl := Except.ok.inj h
      exact ⟨body?_moveEntry isDirectory isDirectory' plain, inode, directory, name, directory',
        name', start, .inr ⟨.inl located, child?_moveEntry isDirectory isDirectory' plain⟩⟩
    | entry replaced directory' name' =>
      have isDirectory' := isDirectory_of_locate located rfl
      simp only at h
      split_ifs at h with _ same
      · obtain rfl := Except.ok.inj h
        obtain rfl := same
        exact ⟨fun _ => rfl, inode, directory, name, directory', name', start,
          .inl ⟨located, fun _ _ => rfl⟩⟩
      · obtain rfl := Except.ok.inj h
        exact ⟨body?_moveEntry isDirectory isDirectory' plain, inode, directory, name, directory',
          name', start, .inr ⟨.inr ⟨replaced, Ne.symm same, located⟩,
            child?_moveEntry isDirectory isDirectory' plain⟩⟩

end Tree
end RowDrop
