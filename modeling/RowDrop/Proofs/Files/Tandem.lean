import RowDrop.Files.Permission
import RowDrop.Proofs.Files.Lookups

/-!
# Calls in two trees with the same share

A path that stays within a share asks for no name of another owner and ends at own names only
(`Division.Admits`). In two trees where the share is equal (`Division.Joint`), a call on such paths
gives equal replies and leaves trees where the share is equal again, and it leaves the shares of all
others (`Division.Step`). Only the numbers of new nodes may differ.
-/

namespace RowDrop

open RowDrop.Tree

namespace Division

variable {ι : Type}

/-- A path stays within the share of an owner. -/
structure Admits (division : Division ι) (owner : ι) (path : Path) : Prop where
  asks : ∀ other directory name, division.base.Asks path directory name →
    division.owns other directory name → other = owner
  ends : ∀ directory name, division.base.EndsAt path directory name →
    division.owns owner directory name

/-- Two trees that arise, with the same share of an owner. -/
structure Joint (division : Division ι) (owner : ι) (tree other : Tree) : Prop where
  arises : division.Arises tree
  arises' : division.Arises other
  alike : division.Alike owner tree other

/-- Two trees with the same share go on to two trees with the same share, and the first one leaves
the shares of all others. -/
structure Step (division : Division ι) (owner : ι) (tree other after after' : Tree) : Prop where
  leaves : ∀ owner', owner' ≠ owner → division.Leaves owner' tree after
  joint : division.Joint owner after after'

variable {division : Division ι} {owner : ι} {tree other middle middle' after after' : Tree}
variable {directory : Inode} {name : Name} {inode twin : Inode} {path source target : Path}

theorem Step.refl (joint : division.Joint owner tree other) :
    division.Step owner tree other tree other :=
  ⟨fun owner' _ => .refl division owner' tree, joint⟩

theorem Step.trans (first : division.Step owner tree other middle middle')
    (second : division.Step owner middle middle' after after') :
    division.Step owner tree other after after' :=
  ⟨fun owner' ne => (first.leaves owner' ne).trans (second.leaves owner' ne), second.joint⟩

/-- The files under an own name are twins with equal contents. -/
theorem Joint.twins (joint : division.Joint owner tree other)
    (mine : division.owns owner directory name)
    (found : tree.child? directory name = some inode)
    (found' : other.child? directory name = some twin) :
    division.Twins inode twin ∧
      ∃ content mode, tree.file? inode = some (content, mode) ∧
        other.file? twin = some (content, mode) := by
  obtain ⟨twins, same⟩ := (joint.alike.shows directory name mine).twins found found'
  have file := joint.arises.file _ _ _ _ mine found
  obtain ⟨⟨content, mode⟩, held⟩ := Option.isSome_iff_exists.mp file
  exact ⟨twins, content, mode, held, same.symm.trans held⟩

/-- Two own names stand for one file in one of the trees exactly if they do in the other. -/
theorem Joint.eq_iff {directory' : Inode} {name' : Name} {inode' twin' : Inode}
    (joint : division.Joint owner tree other) (mine : division.owns owner directory name)
    (mine' : division.owns owner directory' name')
    (found : tree.child? directory name = some inode)
    (found' : tree.child? directory' name' = some inode')
    (twinFound : other.child? directory name = some twin)
    (twinFound' : other.child? directory' name' = some twin') :
    inode = inode' ↔ twin = twin' := by
  constructor
  · rintro rfl
    obtain ⟨rfl, rfl⟩ := joint.arises.distinct _ _ _ _ _ _ _ mine mine' found found'
    exact Option.some.inj (twinFound.symm.trans twinFound')
  · rintro rfl
    obtain ⟨rfl, rfl⟩ := joint.arises'.distinct _ _ _ _ _ _ _ mine mine' twinFound twinFound'
    exact Option.some.inj (found.symm.trans found')

/-! ## Changes of one file -/

section Writing

variable (joint : division.Joint owner tree other) (sound : division.Sound)
  (mine : division.owns owner directory name)

include joint sound mine

/-- The same change of one file under an own name. -/
theorem Step.changesOnly (changes : tree.ChangesOnly after inode directory name)
    (changes' : other.ChangesOnly after' twin directory name)
    (le : tree.nodes.length ≤ after.nodes.length) (le' : other.nodes.length ≤ after'.nodes.length)
    (found : after.child? directory name = some inode)
    (found' : after'.child? directory name = some twin)
    (before : tree.child? directory name = some inode ∨ inode = tree.nodes.length)
    (before' : other.child? directory name = some twin ∨ twin = other.nodes.length)
    (twins : division.Twins inode twin) (file : (after.file? inode).isSome)
    (same : after.file? inode = after'.file? twin) :
    division.Step owner tree other after after' := by
  have change : division.Changes owner tree after :=
    .of_changesOnly changes le joint.arises mine found (before.imp id fun new => ⟨new, file⟩)
  have change' : division.Changes owner other after' :=
    .of_changesOnly changes' le' joint.arises' mine found'
      (before'.imp id fun new => ⟨new, same ▸ file⟩)
  refine ⟨fun owner' ne => change.leaves sound joint.arises ne, ?_, ?_, ?_⟩
  · exact change.arises_after sound joint.arises
  · exact change'.arises_after sound joint.arises'
  · exact joint.alike.changesOnly sound joint.arises joint.arises' changes changes' mine found
      found' before before' twins same

theorem Step.setContent (found : tree.child? directory name = some inode)
    (found' : other.child? directory name = some twin) (content : Content) :
    division.Step owner tree other (tree.setContent inode content)
      (other.setContent twin content) := by
  obtain ⟨twins, old, mode, held, held'⟩ := joint.twins mine found found'
  have changes := ChangesOnly.setContent tree inode content directory name
  have changes' := ChangesOnly.setContent other twin content directory name
  have written : (tree.setContent inode content).file? inode = some (content, mode) :=
    file?_setContent held
  refine Step.changesOnly joint sound mine changes changes' (by simp) (by simp)
    (changes.names _ _ _ found) (changes'.names _ _ _ found') (.inl found) (.inl found') twins
    (Option.isSome_of_eq_some written) ?_
  rw [written, file?_setContent held']

theorem Step.setMode (found : tree.child? directory name = some inode)
    (found' : other.child? directory name = some twin) (mode : Nat) :
    division.Step owner tree other (tree.setMode inode mode) (other.setMode twin mode) := by
  obtain ⟨twins, content, old, held, held'⟩ := joint.twins mine found found'
  have changes := ChangesOnly.setMode tree inode mode directory name
  have changes' := ChangesOnly.setMode other twin mode directory name
  have written : (tree.setMode inode mode).file? inode = some (content, mode) :=
    file?_setMode held
  refine Step.changesOnly joint sound mine changes changes' (by simp) (by simp)
    (changes.names _ _ _ found) (changes'.names _ _ _ found') (.inl found) (.inl found') twins
    (Option.isSome_of_eq_some written) ?_
  rw [written, file?_setMode held']

theorem Step.newFile (isDirectory : division.base.isDirectory directory)
    (free : tree.child? directory name = none) (free' : other.child? directory name = none)
    (content : Content) (mode : Nat) :
    division.Step owner tree other
      ((tree.addNode (.file content mode)).2.bind directory name tree.nodes.length)
      ((other.addNode (.file content mode)).2.bind directory name other.nodes.length) := by
  have above := (joint.arises.keeps.isDirectory directory).mpr isDirectory
  have above' := (joint.arises'.keeps.isDirectory directory).mpr isDirectory
  obtain ⟨found, file⟩ := file?_newFile above name content mode
  obtain ⟨found', file'⟩ := file?_newFile above' name content mode
  refine Step.changesOnly joint sound mine (changesOnly_newFile above free content mode)
    (changesOnly_newFile above' free' content mode) (by simp [addNode]) (by simp [addNode]) found
    found' (.inr rfl) (.inr rfl) (.inr ⟨joint.arises.le, joint.arises'.le⟩)
    (Option.isSome_of_eq_some file) (file.trans file'.symm)

end Writing

/-- The same move between own names. -/
theorem Step.moveEntry {directory' : Inode} {name' : Name}
    (joint : division.Joint owner tree other) (sound : division.Sound)
    (mine : division.owns owner directory name) (mine' : division.owns owner directory' name')
    (found : tree.child? directory name = some inode)
    (found' : other.child? directory name = some twin)
    (isDirectory : division.base.isDirectory directory') :
    division.Step owner tree other (tree.moveEntry inode directory name directory' name')
      (other.moveEntry twin directory name directory' name') := by
  have below := (joint.arises.keeps.isDirectory directory').mpr isDirectory
  have below' := (joint.arises'.keeps.isDirectory directory').mpr isDirectory
  have change := Changes.moveEntry joint.arises mine mine' found below
  have change' := Changes.moveEntry joint.arises' mine mine' found' below'
  refine ⟨fun owner' ne => change.leaves sound joint.arises ne, ?_, ?_, ?_⟩
  · exact change.arises_after sound joint.arises
  · exact change'.arises_after sound joint.arises'
  · exact joint.alike.moveEntry sound joint.arises joint.arises' mine found found' isDirectory

/-! ## Places -/

/-- A path within the share leads to the same place in both trees. -/
inductive Located (division : Division ι) (owner : ι) (tree other : Tree) :
    Except IoError Place → Except IoError Place → Prop
  | error (error : IoError) : Located division owner tree other (.error error) (.error error)
  | directory {inode : Inode} : division.base.isDirectory inode →
      Located division owner tree other (.ok (.directory inode)) (.ok (.directory inode))
  | free {directory : Inode} {name : Name} : division.owns owner directory name →
      division.base.isDirectory directory → tree.child? directory name = none →
      other.child? directory name = none →
      Located division owner tree other (.ok (.free directory name)) (.ok (.free directory name))
  | entry {inode twin directory : Inode} {name : Name} : division.owns owner directory name →
      tree.child? directory name = some inode → other.child? directory name = some twin →
      Located division owner tree other (.ok (.entry inode directory name))
        (.ok (.entry twin directory name))

theorem Joint.located (joint : division.Joint owner tree other) (sound : division.Sound)
    (admits : division.Admits owner path) (purpose : Purpose) :
    division.Located owner tree other (tree.locate purpose path) (other.locate purpose path) := by
  have workdir : tree.workdir = division.base.workdir := joint.arises.keeps.workdir
  have workdir' : other.workdir = division.base.workdir := joint.arises'.keeps.workdir
  have isDirectory := sound.formed.start sound.formed.workdir path
  have agree : ∀ directory name behind,
      division.base.Looks directory name behind (start path division.base.workdir) path.names →
      (tree.child? directory name = none ↔ other.child? directory name = none) := by
    intro directory name behind looks
    by_cases owned : ∃ owner, division.owns owner directory name
    · obtain ⟨owner', mine⟩ := owned
      obtain rfl := admits.asks owner' directory name ⟨behind, looks⟩ mine
      exact (joint.alike.shows directory name mine).free_iff
    · have free := not_exists.mp owned
      rw [joint.arises.names _ _ free, joint.arises'.names _ _ free]
  have meets := joint.arises.meets_walk joint.arises' sound purpose linkLimit isDirectory agree
  rw [locate, locate, workdir, workdir']
  cases checkPath path with
  | error error => exact .error error
  | ok checked =>
    generalize tree.walk purpose linkLimit _ path.names = result at meets
    generalize other.walk purpose linkLimit _ path.names = result' at meets
    cases meets with
    | error errno => exact .error _
    | directory isDirectory => exact .directory isDirectory
    | free last looks free free' =>
      exact .free (admits.ends _ _ ⟨_, last, looks⟩) looks.isDirectory free free'
    | entry last looks found found' =>
      exact .entry (admits.ends _ _ ⟨_, last, looks⟩) found found'

end Division

/-- What is seen of an opened file: its contents and permission bits, but not its number. -/
def Opened.shown : Opened → Option (Content × Nat)
  | .file _ content mode => some (content, mode)
  | .directory => none

namespace Division

variable {ι : Type} {division : Division ι} {owner : ι}
variable {tree other after after' : Tree} {path source target : Path}

/-! ## Calls -/

/-- Opening a path of the share gives the same file in both trees. -/
inductive Opens (division : Division ι) (owner : ι) (tree other : Tree) :
    Except IoError Opened → Except IoError Opened → Prop
  | error (error : IoError) : Opens division owner tree other (.error error) (.error error)
  | directory : Opens division owner tree other (.ok .directory) (.ok .directory)
  | file {inode twin directory : Inode} {name : Name} {content : Content} {mode : Nat} :
      division.owns owner directory name → tree.child? directory name = some inode →
      other.child? directory name = some twin →
      Opens division owner tree other (.ok (.file inode content mode))
        (.ok (.file twin content mode))

section Calls

/-- What is read at a place. -/
def opening (tree : Tree) (place : Place) : Except IoError Opened :=
  place.inode?.elim (.error (.os .noEntry)) fun inode =>
    .ok ((tree.file? inode).elim .directory fun file => .file inode file.1 file.2)

theorem openFile_eq (tree : Tree) (path : Path) :
    tree.openFile path = (tree.locate .use path).bind (opening tree) := by
  rw [Tree.openFile, lookup]
  cases tree.locate .use path with
  | error error => rfl
  | ok place =>
    cases place with
    | free => rfl
    | directory inode | entry inode =>
      simp only [Bind.bind, Except.bind, opening, Place.inode?, Option.elim_some, file?]
      cases tree.node? inode with
      | none => rfl
      | some node => cases node <;> rfl

variable (joint : division.Joint owner tree other) (sound : division.Sound)

include joint sound

theorem Joint.openFile (admits : division.Admits owner path) :
    division.Opens owner tree other (tree.openFile path) (other.openFile path) := by
  have located := joint.located sound admits .use
  rw [openFile_eq, openFile_eq]
  generalize tree.locate .use path = result at located
  generalize other.locate .use path = result' at located
  cases located with
  | error error => exact .error error
  | directory isDirectory =>
    simp only [Except.bind, opening, Place.inode?, Option.elim_some,
      joint.arises.file?_eq_none isDirectory, joint.arises'.file?_eq_none isDirectory]
    exact .directory
  | free => exact .error _
  | entry mine found found' =>
    obtain ⟨-, content, mode, held, held'⟩ := joint.twins mine found found'
    simp only [Except.bind, opening, Place.inode?, Option.elim_some, held, held']
    exact .file mine found found'

theorem Joint.isFile (admits : division.Admits owner path) :
    tree.isFile path = other.isFile path := by
  have located := joint.located sound admits .use
  rw [Tree.isFile, Tree.isFile, lookup, lookup]
  generalize tree.locate .use path = result at located
  generalize other.locate .use path = result' at located
  cases located with
  | error error => rfl
  | @directory inode isDirectory =>
    change (tree.file? inode).isSome = (other.file? inode).isSome
    rw [joint.arises.file?_eq_none isDirectory, joint.arises'.file?_eq_none isDirectory]
  | free => rfl
  | @entry inode twin directory name mine found found' =>
    obtain ⟨-, content, mode, held, held'⟩ := joint.twins mine found found'
    change (tree.file? inode).isSome = (other.file? twin).isSome
    rw [held, held']

/-! ### Permission -/

theorem Joint.refusesReading (admits : division.Admits owner path) (user : User) :
    tree.refusesReading user path = other.refusesReading user path := by
  have opens := joint.openFile sound admits
  rw [Tree.refusesReading, Tree.refusesReading]
  generalize tree.openFile path = result at opens
  generalize other.openFile path = result' at opens
  cases opens <;> rfl

theorem Joint.refusesWriting (admits : division.Admits owner path) (user : User) :
    tree.refusesWriting user path = other.refusesWriting user path := by
  have located := joint.located sound admits .create
  rw [Tree.refusesWriting, Tree.refusesWriting]
  generalize tree.locate .create path = result at located
  generalize other.locate .create path = result' at located
  cases located with
  | error | directory | free => rfl
  | entry mine found found' =>
    obtain ⟨-, content, mode, held, held'⟩ := joint.twins mine found found'
    simp only [held, held']

theorem Joint.refusesCopying (reads : division.Admits owner source)
    (writes : division.Admits owner target) (user : User) :
    tree.refusesCopying user source target = other.refusesCopying user source target := by
  rw [Tree.refusesCopying, Tree.refusesCopying, joint.refusesReading sound reads,
    joint.isFile sound reads, joint.refusesWriting sound writes]

/-! ### Changes -/

/-- Creating a file of the share ends alike in both trees: with the file under one own name. -/
inductive Creates (division : Division ι) (owner : ι) (tree other : Tree) :
    Except IoError (Inode × Tree) → Except IoError (Inode × Tree) → Prop
  | error (error : IoError) : Creates division owner tree other (.error error) (.error error)
  | ok {inode twin directory : Inode} {name : Name} {after after' : Tree} :
      division.Step owner tree other after after' → division.owns owner directory name →
      after.child? directory name = some inode → after'.child? directory name = some twin →
      Creates division owner tree other (.ok (inode, after)) (.ok (twin, after'))

/-- A change of the share ends alike in both trees, with equal replies. -/
inductive Goes {α : Type} (division : Division ι) (owner : ι) (tree other : Tree) :
    Except IoError (α × Tree) → Except IoError (α × Tree) → Prop
  | error (error : IoError) : Goes division owner tree other (.error error) (.error error)
  | ok {after after' : Tree} (value : α) : division.Step owner tree other after after' →
      Goes division owner tree other (.ok (value, after)) (.ok (value, after'))

theorem Joint.createFile (admits : division.Admits owner path) (mode : Nat) :
    division.Creates owner tree other (tree.createFile path mode) (other.createFile path mode) := by
  have located := joint.located sound admits .create
  rw [Tree.createFile, Tree.createFile]
  generalize tree.locate .create path = result at located
  generalize other.locate .create path = result' at located
  cases located with
  | error error => exact .error error
  | directory => exact .error _
  | @free directory name mine isDirectory free free' =>
    have above := (joint.arises.keeps.isDirectory directory).mpr isDirectory
    have above' := (joint.arises'.keeps.isDirectory directory).mpr isDirectory
    exact .ok (.newFile joint sound mine isDirectory free free' .empty mode) mine
      (file?_newFile above name .empty mode).1 (file?_newFile above' name .empty mode).1
  | @entry inode twin directory name mine found found' =>
    have plain := joint.arises.not_isDirectory mine found
    have plain' := joint.arises'.not_isDirectory mine found'
    have grows := Grows.setContent tree inode .empty
    have grows' := Grows.setContent other twin .empty
    change division.Creates owner tree other (if tree.isDirectory inode then _ else _)
      (if other.isDirectory twin then _ else _)
    rw [if_neg plain, if_neg plain']
    exact .ok (.setContent joint sound mine found found' .empty) mine (grows.names _ _ _ found)
      (grows'.names _ _ _ found')

theorem Joint.copyFile (reads : division.Admits owner source)
    (writes : division.Admits owner target) :
    division.Goes owner tree other (tree.copyFile source target)
      (other.copyFile source target) := by
  have opens := joint.openFile sound reads
  rw [Tree.copyFile, Tree.copyFile]
  generalize tree.openFile source = result at opens
  generalize other.openFile source = result' at opens
  cases opens with
  | error error => exact .error error
  | directory => exact .error _
  | @file inode twin directory name content mode mine found found' =>
    have creates := joint.createFile sound writes mode
    change division.Goes owner tree other
      (tree.createFile target mode >>= fun created => _)
      (other.createFile target mode >>= fun created => _)
    generalize creation : tree.createFile target mode = result at creates
    generalize creation' : other.createFile target mode = result' at creates
    cases creates with
    | error error => exact .error error
    | @ok copy copy' directory' name' after after' step mine' there there' =>
      -- in both trees the copy is the source itself, or in neither
      have same : copy = inode ↔ copy' = twin :=
        step.joint.eq_iff mine' mine there ((grows_of_createFile creation).names _ _ _ found) there'
          ((grows_of_createFile creation').names _ _ _ found')
      have copied : (if copy' = twin then Content.empty else content)
          = if copy = inode then .empty else content := by
        simp only [same]
      change division.Goes owner tree other (.ok (_, _)) (.ok (_, _))
      rw [copied]
      have modes := Step.setMode step.joint sound mine' there there' mode
      have grows := Grows.setMode after copy mode
      have grows' := Grows.setMode after' copy' mode
      exact .ok _ ((step.trans modes).trans (.setContent modes.joint sound mine'
        (grows.names _ _ _ there) (grows'.names _ _ _ there') _))

/-- Replacing the contents of a file, or creating it. -/
theorem Joint.writeFile (admits : division.Admits owner path) (mode : Nat) (content : Content) :
    division.Goes owner tree other
      ((tree.createFile path mode).map fun created => ((), created.2.setContent created.1 content))
      ((other.createFile path mode).map fun created =>
        ((), created.2.setContent created.1 content)) := by
  have creates := joint.createFile sound admits mode
  generalize tree.createFile path mode = result at creates
  generalize other.createFile path mode = result' at creates
  cases creates with
  | error error => exact .error error
  | ok step mine found found' =>
    exact .ok () (step.trans (.setContent step.joint sound mine found found' content))

theorem Joint.renameFile (reads : division.Admits owner source)
    (writes : division.Admits owner target) :
    division.Goes owner tree other ((tree.renameFile source target).map fun files => ((), files))
      ((other.renameFile source target).map fun files => ((), files)) := by
  have located := joint.located sound reads .name
  have located' := joint.located sound writes .name
  rw [Tree.renameFile, Tree.renameFile]
  generalize tree.locate .name source = first at located
  generalize other.locate .name source = first' at located
  generalize tree.locate .name target = second at located'
  generalize other.locate .name target = second' at located'
  cases located with
  | error error => exact .error error
  | directory => cases located' <;> exact .error _
  | free => cases located' <;> exact .error _
  | @entry inode twin directory name mine found found' =>
    have plain {tree : Tree} {directory : Inode} {name : Name} {inode : Inode}
        (arises : division.Arises tree) (mine : division.owns owner directory name)
        (found : tree.child? directory name = some inode) : tree.isDirectory inode = false :=
      Bool.eq_false_iff.mpr (arises.not_isDirectory mine found)
    have moves {directory' : Inode} {name' : Name} (mine' : division.owns owner directory' name')
        (isDirectory : division.base.isDirectory directory') :=
      Step.moveEntry joint sound mine mine' found found' isDirectory
    cases located' with
    | error error => exact .error error
    | directory => exact .error _
    | free mine' isDirectory free free' =>
      simp only [Bind.bind, Except.bind, plain joint.arises mine found,
        plain joint.arises' mine found']
      split_ifs
      · exact .error _
      · exact .ok () (moves mine' isDirectory)
    | entry mine' there there' =>
      have same := joint.eq_iff mine mine' found there found' there'
      have isDirectory :=
        (joint.arises.keeps.isDirectory _).mp (isDirectory_of_child? there)
      simp only [Bind.bind, Except.bind, plain joint.arises mine found,
        plain joint.arises' mine found', plain joint.arises mine' there,
        plain joint.arises' mine' there', same, Bool.false_eq_true, and_false, false_and, if_false]
      split_ifs
      · exact .error _
      · exact .ok () (.refl joint)
      · exact .ok () (moves mine' isDirectory)

end Calls

/-! ## Trees where all shares are equal -/

section Equal

variable (sound : division.Sound) (arises : division.Arises tree) (arises' : division.Arises other)
  (alike : ∀ owner, division.Alike owner tree other)

include arises arises' alike

/-- What was there at the start is equal in both trees. -/
theorem file?_of_base {inode : Inode} {node : Node}
    (found : division.base.node? inode = some node) :
    tree.file? inode = other.file? inode := by
  cases node with
  | file content mode =>
    have file : (division.base.file? inode).isSome := isSome_file?.mpr ⟨content, mode, found⟩
    by_cases owned : ∃ owner directory name, division.owns owner directory name ∧
        division.base.child? directory name = some inode
    · obtain ⟨owner, directory, name, mine, there⟩ := owned
      exact (alike owner).old directory name inode mine there
    · have free : ∀ owner directory name, division.owns owner directory name →
          division.base.child? directory name ≠ some inode :=
        fun owner directory name mine there => owned ⟨owner, directory, name, mine, there⟩
      rw [arises.others inode file free, arises'.others inode file free]
  | directory parent entries =>
    have isDirectory := isDirectory_of_parent? (parent?_eq_some.mpr ⟨entries, found⟩)
    rw [arises.file?_eq_none isDirectory, arises'.file?_eq_none isDirectory]
  | link target =>
    rw [not_file?_of_link (arises.keeps.link inode target found),
      not_file?_of_link (arises'.keeps.link inode target found)]

include sound

/-- Every path shows the same. -/
theorem shown_openFile (path : Path) :
    (tree.openFile path).map Opened.shown = (other.openFile path).map Opened.shown := by
  have agree : ∀ directory name,
      tree.child? directory name = none ↔ other.child? directory name = none := by
    intro directory name
    by_cases owned : ∃ owner, division.owns owner directory name
    · obtain ⟨owner, mine⟩ := owned
      exact ((alike owner).shows directory name mine).free_iff
    · rw [arises.names _ _ (not_exists.mp owned), arises'.names _ _ (not_exists.mp owned)]
  have isDirectory := sound.formed.start sound.formed.workdir path
  have meets := arises.meets_walk arises' sound .use linkLimit isDirectory
    (fun directory name behind (_ : division.base.Looks directory name behind _ path.names) =>
      agree directory name)
  rw [openFile_eq, openFile_eq, locate, locate, arises.keeps.workdir, arises'.keeps.workdir]
  cases checkPath path with
  | error error => rfl
  | ok checked =>
    generalize tree.walk .use linkLimit _ path.names = result at meets
    generalize other.walk .use linkLimit _ path.names = result' at meets
    cases meets with
    | error errno => rfl
    | directory isDirectory =>
      simp only [Bind.bind, Except.bind, opening, Place.inode?, Option.elim_some,
        arises.file?_eq_none isDirectory, arises'.file?_eq_none isDirectory]
    | free => rfl
    | @entry inode twin directory name behind last looks found found' =>
      have same : tree.file? inode = other.file? twin := by
        by_cases owned : ∃ owner, division.owns owner directory name
        · obtain ⟨owner, mine⟩ := owned
          exact (((alike owner).shows directory name mine).twins found found').2
        · have free := not_exists.mp owned
          have old := (arises.names _ _ free).symm.trans found
          obtain rfl : twin = inode := by
            rw [arises'.names _ _ free, old] at found'
            exact (Option.some.inj found').symm
          obtain ⟨node, there⟩ := sound.whole.exists_node old
          exact file?_of_base arises arises' alike there
      simp only [Bind.bind, Except.bind, opening, Place.inode?, Option.elim_some, same]
      cases other.file? twin with
      | none => rfl
      | some file => rfl

end Equal

end Division
end RowDrop
