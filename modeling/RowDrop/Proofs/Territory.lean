import RowDrop.Proofs.Objects
import RowDrop.Proofs.Files.Tandem
import RowDrop.Proofs.Interleaving

/-!
# Files and objects that are divided

Names of a tree and objects of a store are divided among several owners (`Territory`). A call on own
files and objects has the same reply in all worlds where they are the same, it goes on to worlds
where they are the same, and it spares what belongs to others (`Territory.Step`). So an operation
that makes such calls ends, among the calls of others, as it does alone (`Operation.Agrees`).
-/

namespace RowDrop

/-- Names of a tree and objects that are divided among several owners. -/
structure Territory (ι : Type) extends Division ι where
  /-- An object belongs to an owner. -/
  objects : ι → String → Prop

namespace Territory

variable {ι : Type}

/-- No object has two owners, and the names are divided soundly. -/
structure Sound (territory : Territory ι) : Prop extends territory.toDivision.Sound where
  apartObjects : ∀ owner owner' name, territory.objects owner name →
    territory.objects owner' name → owner = owner'

/-- No one else has an object. -/
def Frees (territory : Territory ι) (owner : ι) (name : String) : Prop :=
  ∀ owner', territory.objects owner' name → owner' = owner

/-- What belongs to an owner stays, and so does what belongs to nobody. -/
structure Leaves (territory : Territory ι) (owner : ι) (world after : World) : Prop where
  arises : territory.Arises world.files → territory.Arises after.files
  files : territory.toDivision.Leaves owner world.files after.files
  user : after.user = world.user
  store : world.store.Alike after.store
  objects : ∀ name, territory.Frees owner name →
    after.store.object? name = world.store.object? name

/-- What belongs to all others stays. -/
def Spares (territory : Territory ι) (owner : ι) (world after : World) : Prop :=
  ∀ owner', owner' ≠ owner → territory.Leaves owner' world after

/-- Two worlds where the share of an owner is the same, and what belongs to nobody. -/
structure Joint (territory : Territory ι) (owner : ι) (world other : World) : Prop where
  files : territory.toDivision.Joint owner world.files other.files
  user : other.user = world.user
  store : world.store.Alike other.store
  objects : ∀ name, territory.Frees owner name →
    other.store.object? name = world.store.object? name

variable {territory : Territory ι} {owner : ι} {world other middle after after' : World}

theorem Leaves.refl (territory : Territory ι) (owner : ι) (world : World) :
    territory.Leaves owner world world :=
  ⟨id, .refl _ _ _, rfl, .refl _, fun _ _ => rfl⟩

theorem Leaves.trans (first : territory.Leaves owner world middle)
    (second : territory.Leaves owner middle after) : territory.Leaves owner world after where
  arises arises := second.arises (first.arises arises)
  files := first.files.trans second.files
  user := second.user.trans first.user
  store := first.store.trans second.store
  objects name mine := (second.objects name mine).trans (first.objects name mine)

/-- What others do on one side makes no difference. -/
theorem Joint.leave (h : territory.Joint owner world other)
    (leaves : territory.Leaves owner world after) : territory.Joint owner after other where
  files := {
    arises := leaves.arises h.files.arises
    arises' := h.files.arises'
    alike := h.files.alike.leave leaves.files }
  user := h.user.trans leaves.user.symm
  store := leaves.store.symm.trans h.store
  objects name mine := (h.objects name mine).trans (leaves.objects name mine).symm

theorem Joint.refl (territory : Territory ι) (owner : ι)
    (arises : territory.Arises world.files) : territory.Joint owner world world :=
  ⟨⟨arises, arises, .refl _ _ _⟩, rfl, .refl _, fun _ _ => rfl⟩

theorem Joint.symm (h : territory.Joint owner world other) :
    territory.Joint owner other world where
  files := ⟨h.files.arises', h.files.arises, h.files.alike.symm⟩
  user := h.user.symm
  store := h.store.symm
  objects name free := (h.objects name free).symm

theorem Spares.refl (territory : Territory ι) (owner : ι) (world : World) :
    territory.Spares owner world world :=
  fun owner' _ => .refl territory owner' world

theorem Spares.trans (first : territory.Spares owner world middle)
    (second : territory.Spares owner middle after) : territory.Spares owner world after :=
  fun owner' ne => (first owner' ne).trans (second owner' ne)

/-- Two worlds with the same share go on to two worlds with the same share, and the first one spares
all others. -/
structure Step (territory : Territory ι) (owner : ι) (world other after after' : World) :
    Prop where
  spares : territory.Spares owner world after
  joint : territory.Joint owner after after'

theorem Step.refl (joint : territory.Joint owner world other) :
    territory.Step owner world other world other :=
  ⟨.refl territory owner world, joint⟩

/-! ## Single steps -/

section Calls

variable (joint : territory.Joint owner world other)

include joint

/-- A change of the files of an owner. -/
theorem Step.files {files files' : Tree}
    (step : territory.toDivision.Step owner world.files other.files files files') :
    territory.Step owner world other { world with files } { other with files := files' } where
  spares owner' ne := {
    arises := fun _ => step.joint.arises
    files := step.leaves owner' ne
    user := rfl
    store := .refl _
    objects := fun _ _ => rfl }
  joint := ⟨step.joint, joint.user, joint.store, joint.objects⟩

theorem Joint.change {α : Type} {result result' : Except IoError (α × Tree)}
    (goes : territory.toDivision.Goes owner world.files other.files result result')
    (refused : Bool) :
    (world.change (permitted refused result)).1 = (other.change (permitted refused result')).1 ∧
      territory.Step owner world other (world.change (permitted refused result)).2
        (other.change (permitted refused result')).2 := by
  cases refused with
  | true => exact ⟨rfl, .refl joint⟩
  | false =>
    cases goes with
    | error error => exact ⟨rfl, .refl joint⟩
    | ok value step => exact ⟨rfl, .files joint step⟩

variable {target : Target}

theorem Joint.get (sound : territory.Sound) (mine : territory.objects owner target.storedName) :
    (world.reply (.getObject target)).1 = (other.reply (.getObject target)).1 ∧
      territory.Step owner world other (world.reply (.getObject target)).2
        (other.reply (.getObject target)).2 := by
  have free : territory.Frees owner target.storedName :=
    fun owner' theirs => sound.apartObjects _ _ _ theirs mine
  have same := joint.store.get (joint.objects _ free)
  have alike := world.store.alike_get target
  have alike' := other.store.alike_get target
  refine ⟨same, fun owner' _ => ⟨id, .refl _ _ _, rfl, alike, fun name _ => ?_⟩, joint.files,
    joint.user, (alike.symm.trans joint.store).trans alike', fun name mine' => ?_⟩
  · exact world.store.object?_get target name
  · exact (other.store.object?_get target name).trans
      ((joint.objects name mine').trans (world.store.object?_get target name).symm)

theorem Joint.put (mine : territory.objects owner target.storedName)
    (content : Content) :
    (world.reply (.putObject target content)).1 = (other.reply (.putObject target content)).1 ∧
      territory.Step owner world other (world.reply (.putObject target content)).2
        (other.reply (.putObject target content)).2 := by
  have same := joint.store.put target content
  have alike := world.store.alike_put target content
  have alike' := other.store.alike_put target content
  refine ⟨same, fun owner' ne => ⟨id, .refl _ _ _, rfl, alike, fun name theirs => ?_⟩, joint.files,
    joint.user, (alike.symm.trans joint.store).trans alike', fun name mine' => ?_⟩
  · refine world.store.object?_put_of_ne content ?_
    rintro rfl
    exact ne (theirs owner mine).symm
  · change (other.store.put target content).2.object? name
      = (world.store.put target content).2.object? name
    cases sent : (world.store.put target content).1 with
    | ok =>
      rw [Store.object?_of_put_ok sent, Store.object?_of_put_ok (same.symm.trans sent),
        joint.objects name mine']
    | error error =>
      rw [Store.object?_of_put_error sent, Store.object?_of_put_error (same.symm.trans sent),
        joint.objects name mine']

end Calls

end Territory

/-! ## Operations -/

namespace Operation

variable {ι α β : Type} {territory : Territory ι} {owner : ι} {world alone : World}

/-- Among the calls of others an operation ends as its image does alone: with the same result, in a
world with the same share. -/
def Agrees (territory : Territory ι) (owner : ι) (operation image : Operation α)
    (world alone : World) : Prop :=
  Program.Mirrors (territory.Leaves owner) (territory.Spares owner)
    (fun result result' after after' => result = result' ∧ territory.Joint owner after after')
    (ExceptT.run operation) (ExceptT.run image) world alone

theorem agrees_pure (joint : territory.Joint owner world alone) (value : α) :
    Agrees territory owner (pure value) (pure value) world alone :=
  ⟨rfl, joint⟩

theorem agrees_throw (joint : territory.Joint owner world alone) (error : Error) :
    Agrees territory owner (throw error : Operation α) (throw error) world alone :=
  ⟨rfl, joint⟩

theorem agrees_orFail {ε : Type} (joint : territory.Joint owner world alone) (meaning : ε → Error)
    (reply : Except ε α) :
    Agrees territory owner (orFail meaning reply) (orFail meaning reply) world alone := by
  cases reply with
  | ok value => exact agrees_pure joint value
  | error error => exact agrees_throw joint (meaning error)

/-- A call agrees if, whatever others have done before it, it has the same reply and goes on to
worlds with the same share. -/
theorem agrees_ask {call : Call} (joint : territory.Joint owner world alone)
    (same : ∀ met, territory.Joint owner met alone →
      (met.reply call).1 = (alone.reply call).1 ∧
        territory.Step owner met alone (met.reply call).2 (alone.reply call).2) :
    Agrees territory owner (ask call) (ask call) world alone := by
  intro met relied
  obtain ⟨reply, step⟩ := same met (joint.leave relied)
  exact ⟨step.spares, congrArg Except.ok reply, step.joint⟩

theorem agrees_note (joint : territory.Joint owner world alone) (event : Event) :
    Agrees territory owner (note event) (note event) world alone := by
  refine agrees_ask joint fun met joint => ⟨rfl, ?_, ?_⟩
  · exact fun owner' _ => ⟨id, .refl _ _ _, rfl, .refl _, fun _ _ => rfl⟩
  · exact ⟨joint.files, joint.user, joint.store, joint.objects⟩

namespace Agrees

variable {operation image : Operation α} {next next' : α → Operation β}

/-- Two operations one after the other. -/
theorem bind (h : Agrees territory owner operation image world alone)
    (rest : ∀ value world alone, territory.Joint owner world alone →
      Agrees territory owner (next value) (next' value) world alone) :
    Agrees territory owner (operation >>= next) (image >>= next') world alone := by
  refine Program.Mirrors.bind (h.mono ?_)
  rintro result _ after after' ⟨rfl, joint⟩
  cases result with
  | ok value => exact rest value after after' joint
  | error error => exact ⟨rfl, joint⟩

theorem discard (h : Agrees territory owner operation image world alone) :
    Agrees territory owner (discard operation) (discard image) world alone := by
  refine Program.Mirrors.bind (h.mono ?_)
  rintro result _ after after' ⟨rfl, joint⟩
  cases result with
  | ok value => exact ⟨rfl, joint⟩
  | error error => exact ⟨rfl, joint⟩

/-- Behind a reply that may be a failure, only what it succeeds with goes on. -/
theorem orFail_bind {ε : Type} {meaning : ε → Error} {reply : Except ε α}
    (joint : territory.Joint owner world alone)
    (rest : ∀ value, reply = .ok value →
      Agrees territory owner (next value) (next' value) world alone) :
    Agrees territory owner (orFail meaning reply >>= next) (orFail meaning reply >>= next') world
      alone := by
  cases reply with
  | ok value => exact rest value rfl
  | error error => exact ⟨rfl, joint⟩

/-- Replies that succeed go on with their values, which need not be equal. -/
theorem orFail_ok_bind {ε : Type} {meaning : ε → Error} {value value' : α}
    (rest : Agrees territory owner (next value) (next' value') world alone) :
    Agrees territory owner (orFail meaning (.ok value) >>= next)
      (orFail meaning (.ok value') >>= next') world alone :=
  rest

end Agrees

/-! ### Calls -/

section Calls

variable {path source target : Path}

/-- What is opened is shown alike, whatever number it has. -/
theorem agrees_open {next : Except IoError Opened → Operation α}
    (joint : territory.Joint owner world alone) (sound : territory.Sound)
    (admits : territory.Admits owner path)
    (failed : ∀ error world, territory.Joint owner world alone →
      Agrees territory owner (next (.error error)) (next (.error error)) world alone)
    (rest : ∀ opened opened' world, opened.shown = opened'.shown →
      territory.Joint owner world alone →
      Agrees territory owner (next (.ok opened)) (next (.ok opened')) world alone) :
    Agrees territory owner (ask (.openFile path) >>= next) (ask (.openFile path) >>= next) world
      alone := by
  intro met relied
  have joint := joint.leave relied
  refine ⟨.refl territory owner met, ?_⟩
  have opens := joint.files.openFile sound.toSound admits
  have refused := joint.files.refusesReading sound.toSound admits met.user
  simp only [World.reply, joint.user, refused]
  cases alone.files.refusesReading met.user path with
  | true => exact failed _ met joint
  | false =>
    generalize met.files.openFile path = result at opens
    generalize alone.files.openFile path = result' at opens
    cases opens with
    | error error => exact failed error met joint
    | directory => exact rest _ _ met rfl joint
    | file => exact rest _ _ met rfl joint

theorem agrees_copy (joint : territory.Joint owner world alone) (sound : territory.Sound)
    (reads : territory.Admits owner source) (writes : territory.Admits owner target) :
    Agrees territory owner (ask (.copyFile source target)) (ask (.copyFile source target)) world
      alone := by
  refine agrees_ask joint fun met joint => ?_
  have goes := joint.files.copyFile sound.toSound reads writes
  have refused := joint.files.refusesCopying sound.toSound reads writes met.user
  simp only [World.reply, joint.user, refused]
  exact joint.change goes _

theorem agrees_isFile (joint : territory.Joint owner world alone) (sound : territory.Sound)
    (admits : territory.Admits owner path) :
    Agrees territory owner (ask (.isFile path)) (ask (.isFile path)) world alone := by
  refine agrees_ask joint fun met joint => ⟨?_, .refl joint⟩
  exact joint.files.isFile sound.toSound admits

theorem agrees_rename (joint : territory.Joint owner world alone) (sound : territory.Sound)
    (reads : territory.Admits owner source) (writes : territory.Admits owner target) :
    Agrees territory owner (ask (.renameFile source target)) (ask (.renameFile source target)) world
      alone := by
  refine agrees_ask joint fun met joint => ?_
  exact joint.change (joint.files.renameFile sound.toSound reads writes) false

theorem agrees_write (joint : territory.Joint owner world alone) (sound : territory.Sound)
    (admits : territory.Admits owner path) (content : Content) :
    Agrees territory owner (ask (.writeFile path content)) (ask (.writeFile path content)) world
      alone := by
  refine agrees_ask joint fun met joint => ?_
  have goes := joint.files.writeFile sound.toSound admits Tree.newFileMode content
  have refused := joint.files.refusesWriting sound.toSound admits met.user
  simp only [World.reply, joint.user, refused]
  exact joint.change goes _

/-- A file that is created stands under one own name in both worlds. -/
theorem agrees_create {next : Except IoError Inode → Operation α}
    (joint : territory.Joint owner world alone) (sound : territory.Sound)
    (admits : territory.Admits owner path)
    (failed : ∀ error world, territory.Joint owner world alone →
      Agrees territory owner (next (.error error)) (next (.error error)) world alone)
    (rest : ∀ inode twin directory name world alone, territory.Joint owner world alone →
      territory.owns owner directory name → world.files.child? directory name = some inode →
      alone.files.child? directory name = some twin →
      Agrees territory owner (next (.ok inode)) (next (.ok twin)) world alone) :
    Agrees territory owner (ask (.createFile path) >>= next) (ask (.createFile path) >>= next) world
      alone := by
  intro met relied
  have joint := joint.leave relied
  have creates := joint.files.createFile sound.toSound admits Tree.newFileMode
  have refused := joint.files.refusesWriting sound.toSound admits met.user
  simp only [World.reply, joint.user, refused]
  cases alone.files.refusesWriting met.user path with
  | true => exact ⟨.refl territory owner met, failed _ met joint⟩
  | false =>
    generalize met.files.createFile path Tree.newFileMode = result at creates
    generalize alone.files.createFile path Tree.newFileMode = result' at creates
    cases creates with
    | error error => exact ⟨.refl territory owner met, failed error met joint⟩
    | ok step mine found found' =>
      have step := Territory.Step.files joint step
      exact ⟨step.spares, rest _ _ _ _ _ _ step.joint mine found found'⟩

/-- Whatever others do before the file is written, it stays under its name. -/
theorem agrees_writeOpened {inode twin directory : Inode} {name : Name}
    (joint : territory.Joint owner world alone) (sound : territory.Sound)
    (mine : territory.owns owner directory name)
    (found : world.files.child? directory name = some inode)
    (found' : alone.files.child? directory name = some twin) (content : Content) :
    Agrees territory owner (ask (.writeOpened inode content)) (ask (.writeOpened twin content))
      world alone := by
  intro met relied
  have joint := joint.leave relied
  have found := (relied.files.names directory name mine).trans found
  have step := Territory.Step.files joint
    (.setContent joint.files sound.toSound mine found found' content)
  exact ⟨step.spares, rfl, step.joint⟩

theorem agrees_get {object : Target} (joint : territory.Joint owner world alone)
    (sound : territory.Sound) (mine : territory.objects owner object.storedName) :
    Agrees territory owner (ask (.getObject object)) (ask (.getObject object)) world alone :=
  agrees_ask joint fun _ joint => joint.get sound mine

theorem agrees_put {object : Target} (joint : territory.Joint owner world alone)
    (mine : territory.objects owner object.storedName) (content : Content) :
    Agrees territory owner (ask (.putObject object content)) (ask (.putObject object content)) world
      alone :=
  agrees_ask joint fun _ joint => joint.put mine content

end Calls

end Operation
end RowDrop
