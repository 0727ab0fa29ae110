import RowDrop.Proofs.Custody
import RowDrop.Proofs.Runs
import RowDrop.Proofs.Territory

/-!
# Changes with footprints apart

The footprint of a change is the file of the dataset with its backup, and for an object the staging
file with its backup and the object (`Setup.paths`, `Setup.Targets`). A change whose footprint
belongs to one owner ends, among the calls of others, as it does alone (`Setup.agrees_perform`). So
two programs of changes with footprints apart end, in whatever order they take their steps, as if
one of them ran after the other (`Setup.race_eq_serial`).
-/

namespace RowDrop

variable {ι : Type} {territory : Territory ι} {owner : ι} {world alone : World}

open Operation

/-! ## Files -/

section Files

variable {path : Path} (joint : territory.Joint owner world alone) (sound : territory.Sound)
  (admits : territory.Admits owner path) (admits' : territory.Admits owner path.backup)

/-- A frame is read off what is shown of a file. -/
theorem Dataset.decode_of_shown {opened opened' : Opened} (h : opened.shown = opened'.shown) :
    decode opened = decode opened' := by
  have read (opened : Opened) : decode opened =
      opened.shown.elim (.error .directory) fun file => file.1.decode := by
    cases opened <;> rfl
  rw [read, read, h]

theorem Remote.contents_of_shown {opened opened' : Opened} (h : opened.shown = opened'.shown) :
    contents opened = contents opened' := by
  have read (opened : Opened) : contents opened =
      opened.shown.elim (.error (.os .isDirectory)) fun file => .ok file.1 := by
    cases opened <;> rfl
  rw [read, read, h]

include joint sound admits

theorem Dataset.agrees_load : Agrees territory owner (load path) (load path) world alone := by
  refine agrees_open joint sound admits ?_ ?_
  · intro error world joint
    exact agrees_throw joint _
  · intro opened opened' world shown joint
    refine Agrees.orFail_ok_bind ?_
    rw [decode_of_shown shown]
    refine Agrees.bind (agrees_orFail joint _ _) ?_
    intro frame world alone joint
    refine Agrees.bind (agrees_note joint _) ?_
    intro _ world alone joint
    exact agrees_pure joint frame

theorem Dataset.agrees_save (frame : Frame) (codec : Codec) :
    Agrees territory owner (save path frame codec) (save path frame codec) world alone := by
  refine agrees_create joint sound admits ?_ ?_
  · intro error world joint
    exact agrees_throw joint _
  · intro inode twin directory name world alone joint mine found found'
    refine Agrees.orFail_ok_bind ?_
    refine Agrees.bind (agrees_writeOpened joint sound mine found found' _) ?_
    intro _ world alone joint
    exact agrees_note joint _

include admits'

theorem Backup.agrees_take : Agrees territory owner (take path) (take path) world alone := by
  refine Agrees.bind (agrees_copy joint sound admits admits') ?_
  intro reply world alone joint
  refine Agrees.bind (Agrees.discard (agrees_orFail joint _ reply)) ?_
  intro _ world alone joint
  refine Agrees.bind (agrees_note joint _) ?_
  intro _ world alone joint
  exact agrees_pure joint _

theorem Backup.agrees_restore :
    Agrees territory owner (restore path) (restore path) world alone := by
  refine Agrees.bind (agrees_isFile joint sound admits') ?_
  intro found world alone joint
  cases found with
  | false => exact agrees_throw joint _
  | true =>
    refine Agrees.bind (agrees_rename joint sound admits' admits) ?_
    intro reply world alone joint
    refine Agrees.bind (agrees_orFail joint _ reply) ?_
    intro _ world alone joint
    exact agrees_note joint _

theorem Setup.agrees_dropFromFile (setup : Setup) :
    Agrees territory owner (setup.dropFromFile path) (setup.dropFromFile path) world alone := by
  refine Agrees.bind (Dataset.agrees_load joint sound admits) ?_
  intro frame world alone joint
  refine Agrees.bind (agrees_orFail joint _ _) ?_
  intro rest world alone joint
  refine Agrees.bind (Agrees.discard (Backup.agrees_take joint sound admits admits')) ?_
  intro _ world alone joint
  refine Agrees.bind (Dataset.agrees_save joint sound admits _ _) ?_
  intro _ world alone joint
  exact agrees_note joint _

theorem Setup.agrees_undoFile :
    Agrees territory owner (undoFile path) (undoFile path) world alone := by
  refine Agrees.bind (Backup.agrees_restore joint sound admits admits') ?_
  intro _ world alone joint
  exact agrees_note joint _

end Files

/-! ## Objects -/

section Objects

variable {setup : Setup} {bucket key : String} {path : Path}
variable (joint : territory.Joint owner world alone) (sound : territory.Sound)
  (admits : territory.Admits owner path)

include joint sound admits

theorem Remote.agrees_download {remote : Remote}
    (mine : ∀ target, remote.address bucket key = .ok target →
      territory.objects owner target.storedName) :
    Agrees territory owner (remote.download bucket key path) (remote.download bucket key path) world
      alone := by
  refine Agrees.orFail_bind joint fun prepared preparation => ?_
  refine Agrees.orFail_bind joint fun target aimed => ?_
  have addressed : remote.address bucket key = .ok target :=
    bind_eq_ok.mpr ⟨prepared, preparation, aimed⟩
  refine Agrees.bind (agrees_get joint sound (mine target addressed)) ?_
  intro reply world alone joint
  refine Agrees.bind (agrees_orFail joint _ reply) ?_
  intro content world alone joint
  refine Agrees.bind (agrees_write joint sound admits content) ?_
  intro reply world alone joint
  refine Agrees.bind (agrees_orFail joint _ reply) ?_
  intro _ world alone joint
  refine Agrees.bind (agrees_note joint _) ?_
  intro _ world alone joint
  exact agrees_pure joint content

theorem Remote.agrees_upload {remote : Remote}
    (mine : ∀ target, remote.address bucket key = .ok target →
      territory.objects owner target.storedName) :
    Agrees territory owner (remote.upload bucket key path) (remote.upload bucket key path) world
      alone := by
  refine Agrees.orFail_bind joint fun prepared preparation => ?_
  refine agrees_open joint sound admits ?_ ?_
  · intro error world joint
    exact agrees_throw joint _
  · intro opened opened' world shown joint
    refine Agrees.orFail_ok_bind ?_
    rw [contents_of_shown shown]
    refine Agrees.bind (agrees_orFail joint _ _) ?_
    intro content world alone joint
    refine Agrees.orFail_bind joint fun target aimed => ?_
    have addressed : remote.address bucket key = .ok target :=
      bind_eq_ok.mpr ⟨prepared, preparation, aimed⟩
    refine Agrees.bind (agrees_put joint (mine target addressed) content) ?_
    intro reply world alone joint
    refine Agrees.bind (agrees_orFail joint _ reply) ?_
    intro _ world alone joint
    refine Agrees.bind (agrees_note joint _) ?_
    intro _ world alone joint
    exact agrees_pure joint content

end Objects

/-! ## Changes -/

namespace Setup

/-- The paths that a change of the dataset at a location uses. -/
def paths (setup : Setup) (location : String) : List Path :=
  let path := match Location.parse location with
    | .file path => Path.ofString path
    | .object _ _ => setup.settings.stagingPath
  [path, path.backup]

/-- The object of a location has a name in the store. -/
def Targets (setup : Setup) (location name : String) : Prop :=
  ∃ bucket key target, Location.parse location = .object bucket key ∧
    setup.remote.address bucket key = .ok target ∧ target.storedName = name

theorem paths_of_object {setup : Setup} {location bucket key : String}
    (here : Location.parse location = .object bucket key) :
    setup.paths location = [setup.settings.stagingPath, setup.settings.stagingPath.backup] := by
  rw [paths, here]

/-- A footprint belongs to an owner. -/
structure Belongs (setup : Setup) (territory : Territory ι) (owner : ι) (location : String) :
    Prop where
  paths : ∀ path ∈ setup.paths location, territory.Admits owner path
  objects : ∀ name, setup.Targets location name → territory.objects owner name

variable {setup : Setup} {location : String}

theorem agrees_perform (joint : territory.Joint owner world alone) (sound : territory.Sound)
    (belongs : setup.Belongs territory owner location) (action : Action) :
    Agrees territory owner (setup.perform location action) (setup.perform location action) world
      alone := by
  have admits := belongs.paths
  have mine := belongs.objects
  simp only [Setup.paths] at admits
  simp only [Targets] at mine
  cases parsed : Location.parse location with
  | file path =>
    simp only [parsed, List.forall_mem_cons] at admits
    obtain ⟨here, kept, -⟩ := admits
    cases action with
    | drop =>
      simp only [perform, drop, parsed]
      exact agrees_dropFromFile joint sound here kept setup
    | undo =>
      simp only [perform, undo, parsed]
      exact agrees_undoFile joint sound here kept
  | object bucket key =>
    simp only [parsed, List.forall_mem_cons] at admits
    obtain ⟨here, kept, -⟩ := admits
    have named (target : Target) (addressed : setup.remote.address bucket key = .ok target) :
        territory.objects owner target.storedName :=
      mine _ ⟨bucket, key, target, parsed, addressed, rfl⟩
    cases action with
    | drop =>
      simp only [perform, drop, parsed]
      refine Agrees.bind (Agrees.discard (Remote.agrees_download joint sound here named)) ?_
      intro _ world alone joint
      refine Agrees.bind (agrees_dropFromFile joint sound here kept setup) ?_
      intro _ world alone joint
      exact Agrees.discard (Remote.agrees_upload joint sound here named)
    | undo =>
      simp only [perform, undo, parsed]
      refine Agrees.bind (Backup.agrees_restore joint sound here kept) ?_
      intro _ world alone joint
      refine Agrees.bind (Agrees.discard (Remote.agrees_upload joint sound here named)) ?_
      intro _ world alone joint
      exact agrees_note joint _

/-- Makes changes one after another, each with its own result. -/
def script (setup : Setup) : List (String × Action) → Program (List (Except Error Unit))
  | [] => pure []
  | (location, action) :: changes => do
    let result ← ExceptT.run (setup.perform location action)
    let results ← setup.script changes
    return result :: results

/-- Changes whose footprints belong to one owner end, among the calls of others, as they do
alone. -/
theorem mirrors_script {changes : List (String × Action)} (sound : territory.Sound)
    (belongs : ∀ change ∈ changes, setup.Belongs territory owner change.1)
    (joint : territory.Joint owner world alone) :
    Program.Mirrors (territory.Leaves owner) (territory.Spares owner)
      (fun results results' after after' =>
        results = results' ∧ territory.Joint owner after after')
      (setup.script changes) (setup.script changes) world alone := by
  induction changes generalizing world alone with
  | nil => exact ⟨rfl, joint⟩
  | cons change changes ih =>
    obtain ⟨location, action⟩ := change
    obtain ⟨mine, rest⟩ := List.forall_mem_cons.mp belongs
    refine Program.Mirrors.bind ((agrees_perform joint sound mine action).mono ?_)
    rintro result _ world alone ⟨rfl, joint⟩
    refine Program.Mirrors.bind ((ih rest joint).mono ?_)
    rintro results _ world alone ⟨rfl, joint⟩
    exact ⟨rfl, joint⟩

end Setup

/-! ## Two programs of changes -/

/-- Paths of two programs name different plain files: each ends at free names and regular files
only, none of these has two names, and no path of one program asks for a name at which a path of the
other one ends. -/
structure Tree.KeepApart (tree : Tree) (paths : Turn → Path → Prop) : Prop where
  plain : ∀ turn path directory name inode, paths turn path → tree.EndsAt path directory name →
    tree.child? directory name = some inode → (tree.file? inode).isSome
  single : ∀ turn turn' path path' directory directory' name name' inode, paths turn path →
    paths turn' path' → tree.EndsAt path directory name → tree.EndsAt path' directory' name' →
    tree.child? directory name = some inode → tree.child? directory' name' = some inode →
    directory = directory' ∧ name = name'
  unasked : ∀ turn turn' path path' directory name, turn ≠ turn' → paths turn path →
    paths turn' path' → tree.EndsAt path' directory name → ¬tree.Asks path directory name

/-- Single names of the working directory that are free are kept apart if they differ. -/
theorem Tree.keepApart_of_free {tree : Tree} {paths : Turn → Path → Prop}
    (single : ∀ turn path, paths turn path →
      path.names = [path.bytes] ∧ start path tree.workdir = tree.workdir ∧ IsName path.bytes)
    (free : ∀ turn path, paths turn path → tree.child? tree.workdir path.bytes = none)
    (differ : ∀ turn turn' path path', turn ≠ turn' → paths turn path → paths turn' path' →
      path.bytes ≠ path'.bytes) :
    tree.KeepApart paths := by
  have ends (turn : Turn) (path : Path) (directory : Inode) (name : Name) (mine : paths turn path)
      (asks : tree.Asks path directory name) : directory = tree.workdir ∧ name = path.bytes := by
    obtain ⟨names, begins, isName⟩ := single turn path mine
    obtain ⟨behind, looks⟩ := asks
    rw [names, begins] at looks
    exact looks.of_free isName (free turn path mine)
  refine ⟨?_, ?_, ?_⟩
  · intro turn path directory name inode mine ending found
    obtain ⟨rfl, rfl⟩ := ends turn path directory name mine ending.asks
    exact absurd ((free turn path mine).symm.trans found) nofun
  · intro turn turn' path path' directory directory' name name' inode mine _ ending _ found _
    obtain ⟨rfl, rfl⟩ := ends turn path directory name mine ending.asks
    exact absurd ((free turn path mine).symm.trans found) nofun
  · intro turn turn' path path' directory name ne mine theirs ending asks
    obtain ⟨rfl, rfl⟩ := ends turn path directory name mine asks
    obtain ⟨-, same⟩ := ends turn' path' _ _ theirs ending.asks
    exact differ turn turn' path path' ne mine theirs same

/-- The same files and the same objects. -/
structure World.Shows (world other : World) : Prop where
  files : ∀ path, (world.files.openFile path).map Opened.shown
    = (other.files.openFile path).map Opened.shown
  objects : ∀ name, world.store.object? name = other.store.object? name

namespace Territory

/-- The names at which the paths of two programs end, and their objects. -/
def ofFootprints (tree : Tree) (paths : Turn → Path → Prop) (objects : Turn → String → Prop) :
    Territory Turn where
  base := tree
  owns turn directory name := ∃ path, paths turn path ∧ tree.EndsAt path directory name
  objects := objects

variable {tree : Tree} {paths : Turn → Path → Prop} {objects : Turn → String → Prop}

theorem sound_ofFootprints (formed : tree.WellFormed) (whole : tree.Whole)
    (apart : tree.KeepApart paths)
    (different : ∀ name, objects .first name → ¬objects .second name) :
    (ofFootprints tree paths objects).Sound where
  formed := formed
  whole := whole
  apart := by
    rintro turn turn' directory name ⟨path, mine, ends⟩ ⟨path', theirs, ends'⟩
    by_contra ne
    exact apart.unasked turn turn' path path' directory name ne mine theirs ends' ends.asks
  file := by
    rintro turn directory name inode ⟨path, mine, ends⟩ found
    exact apart.plain turn path directory name inode mine ends found
  distinct := by
    rintro turn turn' directory directory' name name' inode ⟨path, mine, ends⟩
      ⟨path', theirs, ends'⟩ found found'
    exact apart.single _ _ _ _ _ _ _ _ _ mine theirs ends ends' found found'
  apartObjects := by
    intro turn turn' name mine theirs
    cases turn <;> cases turn'
    · rfl
    · exact absurd theirs (different name mine)
    · exact absurd mine (different name theirs)
    · rfl

/-- A path of a program stays within the share of the program. -/
theorem admits_ofFootprints (apart : tree.KeepApart paths) {turn : Turn} {path : Path}
    (mine : paths turn path) : (ofFootprints tree paths objects).Admits turn path where
  asks := by
    rintro turn' directory name asks ⟨path', theirs, ends⟩
    by_contra ne
    exact apart.unasked turn turn' path path' directory name (Ne.symm ne) mine theirs ends asks
  ends directory name ends := ⟨path, mine, ends⟩

/-- Worlds where the shares of all owners are the same show the same. -/
theorem shows_of_joint [Nonempty ι] {territory : Territory ι} {other : World}
    (sound : territory.Sound) (joint : ∀ owner, territory.Joint owner world other) :
    world.Shows other where
  files := by
    obtain ⟨owner⟩ := ‹Nonempty ι›
    exact Division.shown_openFile sound.toSound (joint owner).files.arises
      (joint owner).files.arises' fun owner => (joint owner).files.alike
  objects name := by
    by_cases owned : ∃ owner, territory.objects owner name
    · obtain ⟨owner, mine⟩ := owned
      have free : territory.Frees owner name :=
        fun owner' theirs => sound.apartObjects _ _ _ theirs mine
      exact ((joint owner).objects name free).symm
    · obtain ⟨owner⟩ := ‹Nonempty ι›
      have free : territory.Frees owner name := fun owner' theirs => absurd ⟨owner', theirs⟩ owned
      exact ((joint owner).objects name free).symm

end Territory

namespace Setup

/-- The paths that two programs of changes use. -/
def Uses (setup : Turn → Setup) (changes : Turn → List (String × Action)) (turn : Turn)
    (path : Path) : Prop :=
  ∃ change ∈ changes turn, path ∈ (setup turn).paths change.1

/-- The objects that two programs of changes use. -/
def Reaches (setup : Turn → Setup) (changes : Turn → List (String × Action)) (turn : Turn)
    (name : String) : Prop :=
  ∃ change ∈ changes turn, (setup turn).Targets change.1 name

/-- The program of changes that one of two setups makes. -/
def program (setup : Turn → Setup) (changes : Turn → List (String × Action)) (turn : Turn) :
    Program (List (Except Error Unit)) :=
  (setup turn).script (changes turn)

variable {setup : Turn → Setup} {changes : Turn → List (String × Action)}
variable {territory : Territory Turn} {after : World}

/-- Changes of objects use the staging file and its backup only. -/
theorem mem_of_uses {turn : Turn} {path : Path} (h : Uses setup changes turn path)
    (objects : ∀ change ∈ changes turn, ∃ bucket key,
      Location.parse change.1 = .object bucket key) :
    path ∈ [(setup turn).settings.stagingPath, (setup turn).settings.stagingPath.backup] := by
  obtain ⟨change, member, used⟩ := h
  obtain ⟨bucket, key, here⟩ := objects change member
  rwa [paths_of_object here] at used

/-- The end of a program that is left alone: a share of its own, and all else is spared. -/
theorem run_program (sound : territory.Sound)
    (belongs : ∀ turn, ∀ change ∈ changes turn, (setup turn).Belongs territory turn change.1)
    (arises : territory.Arises world.files) (turn : Turn) :
    territory.Arises ((program setup changes turn).run world).2.files ∧
      territory.Spares turn world ((program setup changes turn).run world).2 := by
  have mirrors := mirrors_script sound (belongs turn) (.refl territory turn arises)
  obtain ⟨⟨-, joint⟩, spares⟩ := mirrors.run (fun world => .refl territory turn world)
    (fun world => .refl territory turn world) fun _ _ _ => Territory.Spares.trans
  exact ⟨joint.files.arises, spares⟩

/-- Among each other's calls both programs end as they do alone, where they find their shares. -/
theorem ends_of_race (sound : territory.Sound)
    (belongs : ∀ turn, ∀ change ∈ changes turn, (setup turn).Belongs territory turn change.1)
    {alone alone' : World} (joint : territory.Joint .first world alone)
    (joint' : territory.Joint .second world alone') {turns : List Turn}
    {results results' : List (Except Error Unit)}
    (ended : Program.race turns (program setup changes .first) (program setup changes .second) world
      = (.done results, .done results', after)) :
    (results = ((program setup changes .first).run alone).1 ∧
        territory.Joint .first after ((program setup changes .first).run alone).2) ∧
      results' = ((program setup changes .second).run alone').1 ∧
        territory.Joint .second after ((program setup changes .second).run alone').2 := by
  have steady (turn : Turn) : Program.Steady (territory.Leaves turn)
      fun (results results' : List (Except Error Unit)) after after' =>
        results = results' ∧ territory.Joint turn after after' := {
    refl := fun world => .refl territory turn world
    trans := fun _ _ _ => Territory.Leaves.trans
    stable := fun _ _ _ _ _ ends leaves => ⟨ends.1, ends.2.leave leaves⟩ }
  have first := mirrors_script sound (belongs .first) joint
  have second := mirrors_script sound (belongs .second) joint'
  exact first.race second (steady .first) (steady .second)
    (fun _ _ spares => spares .second nofun) (fun _ _ spares => spares .first nofun) ended

/-- A program finds the share of the other one as if it was alone. -/
theorem shows_serial (sound : territory.Sound)
    (belongs : ∀ turn, ∀ change ∈ changes turn, (setup turn).Belongs territory turn change.1)
    {turn turn' : Turn} (ne : turn ≠ turn') {before : World}
    (arises : territory.Arises before.files)
    (joint : territory.Joint turn after before)
    (joint' : territory.Joint turn' after ((program setup changes turn').run before).2) :
    after.Shows ((program setup changes turn').run before).2 := by
  have spares := (run_program sound belongs arises turn').2
  have still : territory.Joint turn after ((program setup changes turn').run before).2 :=
    (joint.symm.leave (spares turn ne)).symm
  have : Nonempty Turn := ⟨turn⟩
  refine Territory.shows_of_joint sound fun owner => ?_
  have either : owner = turn ∨ owner = turn' := by
    cases turn <;> cases turn' <;> cases owner <;> simp at ne ⊢
  rcases either with rfl | rfl
  · exact still
  · exact joint'

/-- Two programs of changes whose footprints name different plain files and different objects take
their steps in turns. However they have begun, they can go on so that both end. Whenever both have
ended, all results, all files and all objects are those of the first program followed by the second
one, and of the second one followed by the first. -/
theorem race_eq_serial (formed : world.files.WellFormed) (whole : world.files.Whole)
    (apart : world.files.KeepApart (Uses setup changes))
    (different : ∀ name, Reaches setup changes .first name → ¬Reaches setup changes .second name)
    (turns : List Turn) :
    let first := (program setup changes .first).run
    let second := (program setup changes .second).run
    let race (turns : List Turn) :=
      Program.race turns (program setup changes .first) (program setup changes .second) world
    (∃ more results results' after, race (turns ++ more) = (.done results, .done results', after)) ∧
      ∀ results results' after, race turns = (.done results, .done results', after) →
        (results = (first world).1 ∧ results' = (second (first world).2).1 ∧
            after.Shows (second (first world).2).2) ∧
          results = (first (second world).2).1 ∧ results' = (second world).1 ∧
            after.Shows (first (second world).2).2 := by
  intro first second race
  refine ⟨Program.exists_race_ended turns _ _ world, ?_⟩
  intro results results' after ended
  let territory := Territory.ofFootprints world.files (Uses setup changes) (Reaches setup changes)
  have sound : territory.Sound := Territory.sound_ofFootprints formed whole apart different
  have belongs : ∀ turn, ∀ change ∈ changes turn,
      (setup turn).Belongs territory turn change.1 := by
    intro turn change member
    refine ⟨fun path used => ?_, fun name target => ⟨change, member, target⟩⟩
    exact Territory.admits_ofFootprints apart ⟨change, member, used⟩
  have arises : territory.Arises world.files := sound.toSound.arises
  have here (turn : Turn) : territory.Joint turn world world := .refl territory turn arises
  have apartTurns : Turn.first ≠ Turn.second := nofun
  -- a program that has run leaves the share of the other one as it was
  have behind {turn turn' : Turn} (ne : turn' ≠ turn) :
      territory.Joint turn' world ((program setup changes turn).run world).2 := by
    obtain ⟨-, spares⟩ := run_program sound belongs arises turn
    exact ((here turn').leave (spares turn' ne)).symm
  refine ⟨?_, ?_⟩
  · obtain ⟨⟨same, own⟩, same', own'⟩ :=
      ends_of_race sound belongs (here .first) (behind apartTurns.symm) ended
    refine ⟨same, same', ?_⟩
    exact shows_serial sound belongs apartTurns (run_program sound belongs arises .first).1 own own'
  · obtain ⟨⟨same, own⟩, same', own'⟩ :=
      ends_of_race sound belongs (behind apartTurns) (here .second) ended
    refine ⟨same, same', ?_⟩
    exact shows_serial sound belongs apartTurns.symm (run_program sound belongs arises .second).1
      own' own

/-- Two setups with staging files of their own work on two objects of one store, step by step in
turns. One drops a row and takes it back, the other one drops a row. -/
theorem race_eq_serial_two_objects :
    let dataset : Content := .ofFrame ⟨[⟨"n", .scalar .bool, [.bool true]⟩]⟩ .snappy
    let key : Turn → String
      | .first => "a"
      | .second => "b"
    let store := (Store.empty.set (key .first) dataset).set (key .second) dataset
    let world : World := ⟨Tree.fresh, .superuser, store, []⟩
    let staging : Turn → String
      | .first => "s"
      | .second => "t"
    let setup (turn : Turn) : Setup := ⟨⟨.ofString (staging turn), none, .unset⟩, .shared⟩
    let changes : Turn → List (String × Action)
      | .first => [("s3://x/a", .drop), ("s3://x/a", .undo)]
      | .second => [("s3://x/b", .drop)]
    let turns := (List.replicate 24 [Turn.first, .second]).flatten
    let first := (program setup changes .first).run
    let second := (program setup changes .second).run
    ∃ results results' after,
      Program.race turns (program setup changes .first) (program setup changes .second) world
          = (.done results, .done results', after) ∧
        results.map Except.isOk = [true, true] ∧ results'.map Except.isOk = [true] ∧
        after.Shows (second (first world).2).2 ∧ after.Shows (first (second world).2).2 := by
  intro dataset key store world staging setup changes turns first second
  -- both programs have ended
  obtain ⟨results, done⟩ := Program.eq_done_of_value? (by decide +kernel :
    (Program.race turns (program setup changes .first) (program setup changes .second)
      world).1.value?.isSome)
  obtain ⟨results', done'⟩ := Program.eq_done_of_value? (by decide +kernel :
    (Program.race turns (program setup changes .first) (program setup changes .second)
      world).2.1.value?.isSome)
  have ended : Program.race turns (program setup changes .first) (program setup changes .second)
      world = (.done results, .done results', _) := Prod.ext done (Prod.ext done' rfl)
  have place (turn : Turn) (change : String × Action) (member : change ∈ changes turn) :
      Location.parse change.1 = .object "x" (key turn) := by
    cases turn with
    | first =>
      have here : change.1 = "s3://x/a" := by
        simp only [changes, List.mem_cons, List.not_mem_nil, or_false] at member
        rcases member with rfl | rfl <;> rfl
      rw [here]
      rfl
    | second =>
      rw [List.mem_singleton.mp member]
      rfl
  have staged (turn : Turn) (path : Path) (h : Uses setup changes turn path) :
      path ∈ [Path.ofString (staging turn), (Path.ofString (staging turn)).backup] :=
    mem_of_uses h fun change member => ⟨_, _, place turn change member⟩
  -- each path is a single name of the working directory, where nothing stands yet
  have single (turn : Turn) :
      ∀ path ∈ [Path.ofString (staging turn), (Path.ofString (staging turn)).backup],
        path.names = [path.bytes] ∧ Tree.start path 2 = 2 ∧ Tree.IsName path.bytes := by
    simp only [List.forall_mem_cons, List.not_mem_nil, false_implies, implies_true, and_true]
    cases turn <;>
      refine ⟨⟨by decide +kernel, by decide +kernel, ?_⟩, by decide +kernel, by decide +kernel, ?_⟩
        <;> exact ⟨by decide, by decide, by decide⟩
  have differ (turn turn' : Turn) (ne : turn ≠ turn') :
      ∀ path ∈ [Path.ofString (staging turn), (Path.ofString (staging turn)).backup],
        ∀ path' ∈ [Path.ofString (staging turn'), (Path.ofString (staging turn')).backup],
        path.bytes ≠ path'.bytes := by
    cases turn <;> cases turn' <;> first | exact absurd rfl ne | decide
  have apart : world.files.KeepApart (Uses setup changes) := by
    apply Tree.keepApart_of_free
    · intro turn path mine
      exact single turn path (staged turn path mine)
    · intro turn path mine
      rfl
    · intro turn turn' path path' ne mine theirs
      exact differ turn turn' ne path (staged turn path mine) path' (staged turn' path' theirs)
  have one : Remote.shared.address "x" "a" = .ok (.direct "a") := rfl
  have two : Remote.shared.address "x" "b" = .ok (.direct "b") := rfl
  have direct (turn : Turn) : Remote.shared.address "x" (key turn) = .ok (.direct (key turn)) := by
    cases turn
    · exact one
    · exact two
  have reached (turn : Turn) (name : String) (h : Reaches setup changes turn name) :
      name = key turn := by
    obtain ⟨change, member, bucket, key, target, parsed, addressed, rfl⟩ := h
    obtain ⟨rfl, rfl⟩ : "x" = bucket ∧ _ = key := by
      simpa using (place turn change member).symm.trans parsed
    exact congrArg Target.storedName (Except.ok.inj (addressed.symm.trans (direct turn)))
  have different : ∀ name, Reaches setup changes .first name →
      ¬Reaches setup changes .second name := by
    intro name mine theirs
    have same : "a" = "b" := (reached .first name mine).symm.trans (reached .second name theirs)
    exact absurd same (by decide)
  obtain ⟨formed, whole⟩ := Tree.Reachable.fresh.sound
  obtain ⟨-, serial⟩ := race_eq_serial formed whole apart different turns
  obtain ⟨⟨one, two, shows⟩, -, -, shows'⟩ := serial _ _ _ ended
  refine ⟨results, results', _, ended, ?_, ?_, shows, shows'⟩
  · rw [one]
    decide +kernel
  · rw [two]
    decide +kernel

end Setup

end RowDrop
