import RowDrop.Proofs.Failures
import RowDrop.Proofs.Files.Creating
import RowDrop.Proofs.Files.Whole
import RowDrop.Proofs.Successes

/-!
# What is reported as missing

A drop reports that a dataset does not exist where the dataset cannot be opened because there is
none, and where its object is not there. It does so in one other case, in which the dataset is there
and has been read: a symbolic link stands at the name of its backup and leads to a name in a
directory that does not exist (`Tree.Astray`), so that the copy fails for the same reason as it
would for want of a dataset. Nothing else is reported so (`Setup.misses_drop_iff`), and a staging
file that cannot be written never is.
-/

namespace RowDrop

variable {world after : World} {path : Path}

theorem map_eq_error {ε α β : Type} {result : Except ε α} {change : α → β} {failure : ε} :
    result.map change = .error failure ↔ result = .error failure := by
  cases result <;> simp [Except.map]

/-! ## Operations that report something as missing -/

namespace Operation

variable {α β ε : Type}

/-- The operation ends by reporting that a dataset does not exist. -/
def Misses (operation : Operation α) (world : World) : Prop :=
  ∃ name, (run operation world).1 = .error (.notFound name)

@[simp] theorem misses_pure {value : α} : ¬Misses (pure value) world := by
  rintro ⟨name, h⟩
  cases h

theorem misses_bind {first : Operation α} {next : α → Operation β} :
    Misses (first >>= next) world ↔
      Misses first world ∨
        ∃ value middle, run first world = (.ok value, middle) ∧ Misses (next value) middle := by
  unfold Misses
  rw [run_bind]
  obtain ⟨result, middle⟩ := run first world
  cases result with
  | error error => simp
  | ok value => simp

@[simp] theorem misses_ask_bind {call : Call} {next : call.Reply → Operation β} :
    Misses (ask call >>= next) world ↔ Misses (next (world.reply call).1) (world.reply call).2 := by
  rw [Misses, run_bind_ok (run_ask call world)]
  rfl

@[simp] theorem misses_note_bind {event : Event} {next : Unit → Operation β} :
    Misses (note event >>= next) world ↔
      Misses (next ()) { world with log := event :: world.log } := by
  rw [Misses, run_bind_ok (run_note event world)]
  rfl

@[simp] theorem misses_note {event : Event} : ¬Misses (note event) world := by
  rintro ⟨name, h⟩
  cases h

@[simp] theorem misses_orFail {meaning : ε → Error} {reply : Except ε α} :
    Misses (orFail meaning reply) world ↔
      ∃ error name, reply = .error error ∧ meaning error = .notFound name := by
  unfold Misses
  cases reply with
  | error error => simp
  | ok value => simp

@[simp] theorem misses_orFail_bind {meaning : ε → Error} {reply : Except ε α}
    {next : α → Operation β} :
    Misses (orFail meaning reply >>= next) world ↔
      (∃ error name, reply = .error error ∧ meaning error = .notFound name) ∨
        ∃ value, reply = .ok value ∧ Misses (next value) world := by
  rw [misses_bind, misses_orFail]
  cases reply with
  | error error => simp
  | ok value => simp

@[simp] theorem misses_discard {operation : Operation α} :
    Misses (discard operation) world ↔ Misses operation world := by
  unfold Misses
  rw [run_discard]
  cases (run operation world).1 <;> simp [Except.map]

end Operation

open Operation

theorem Error.ofOpen_eq_notFound {error : IoError} {name : String} :
    Error.ofOpen path error = .notFound name ↔ error = .os .noEntry ∧ path.display = name := by
  unfold Error.ofOpen
  split <;> simp_all [IoError.isMissing]

theorem Error.ofCopy_eq_notFound {error : IoError} {name : String} :
    Error.ofCopy path error = .notFound name ↔ error = .os .noEntry ∧ path.display = name :=
  ofOpen_eq_notFound

/-! ## Files -/

namespace World

/-- What copying a file to the path of its backup gives to the user. -/
def backingUp (world : World) (path : Path) : Except IoError Content :=
  (world.reply (.copyFile path path.backup)).1

/-- What writing a file gives to the user. -/
def writing (world : World) (path : Path) (content : Content) : Except IoError Unit :=
  (world.reply (.writeFile path content)).1

theorem fst_change {α : Type} (world : World) (result : Except IoError (α × Tree)) :
    (world.change result).1 = result.map Prod.fst := by
  cases result <;> rfl

theorem backingUp_eq (world : World) (path : Path) :
    world.backingUp path =
      (permitted (world.files.refusesCopying world.user path path.backup)
        (world.files.copyFile path path.backup)).map Prod.fst :=
  fst_change world _

end World

namespace Dataset

theorem misses_load :
    Misses (load path) world ↔ world.opening path = .error (.os .noEntry) := by
  refine misses_ask_bind.trans (misses_orFail_bind.trans ⟨?_, ?_⟩)
  · rintro (⟨error, name, failed, same⟩ | ⟨opened, -, rest⟩)
    · rw [World.opening, failed, (Error.ofOpen_eq_notFound.mp same).1]
    · simp at rest
  · intro failed
    exact .inl ⟨_, _, failed, Error.ofOpen_eq_notFound.mpr ⟨rfl, rfl⟩⟩

theorem not_misses_save {frame : Frame} {codec : Codec} :
    ¬Misses (save path frame codec) world := by
  intro misses
  rcases misses_orFail_bind.mp (misses_ask_bind.mp misses) with ⟨_, _, -, same⟩ | ⟨inode, -, rest⟩
  · cases same
  · exact misses_note (misses_ask_bind.mp rest)

end Dataset

theorem Backup.misses_take :
    Misses (take path) world ↔ world.backingUp path = .error (.os .noEntry) := by
  refine misses_ask_bind.trans (misses_bind.trans ⟨?_, ?_⟩)
  · rintro (misses | ⟨_, middle, -, rest⟩)
    · obtain ⟨error, name, failed, same⟩ := misses_orFail.mp (misses_discard.mp misses)
      rw [World.backingUp, failed, (Error.ofCopy_eq_notFound.mp same).1]
    · simp at rest
  · intro failed
    exact .inl (misses_discard.mpr
      (misses_orFail.mpr ⟨_, _, failed, Error.ofCopy_eq_notFound.mpr ⟨rfl, rfl⟩⟩))

/-- A drop from a file reports it as missing where it does not open for want of a name, or where the
copy of a dataset with rows fails for this reason. -/
theorem Setup.misses_dropFromFile {setup : Setup} :
    Misses (setup.dropFromFile path) world ↔
      world.opening path = .error (.os .noEntry) ∨
        ∃ opened frame, world.opening path = .ok opened ∧ Dataset.decode opened = .ok frame ∧
          frame.height ≠ 0 ∧ world.backingUp path = .error (.os .noEntry) := by
  have unnoted (log : List Event) :
      World.backingUp { world with log } path = world.backingUp path := by
    rw [World.backingUp_eq, World.backingUp_eq]
  refine misses_bind.trans (or_congr Dataset.misses_load ⟨?_, ?_⟩)
  · rintro ⟨frame, middle, loaded, rest⟩
    obtain ⟨opened, opening, decoded, rfl⟩ := Dataset.run_load_eq_ok.mp loaded
    by_cases empty : frame.height = 0
    · rw [Dataset.dropFirst, if_pos empty] at rest
      simp at rest
    · refine ⟨opened, frame, opening, decoded, empty, ?_⟩
      rw [Dataset.dropFirst, if_neg empty] at rest
      rw [Misses, run_bind_ok (run_orFail_ok id frame.dropFirst _)] at rest
      rcases misses_bind.mp rest with taking | ⟨_, _, -, rest⟩
      · rw [← unnoted]
        exact Backup.misses_take.mp (misses_discard.mp taking)
      · rcases misses_bind.mp rest with saving | ⟨_, _, -, noting⟩
        · exact absurd saving Dataset.not_misses_save
        · exact absurd noting misses_note
  · rintro ⟨opened, frame, opening, decoded, filled, failed⟩
    refine ⟨frame, _, Dataset.run_load_eq_ok.mpr ⟨opened, opening, decoded, rfl⟩, ?_⟩
    refine misses_orFail_bind.mpr (.inr ⟨frame.dropFirst, if_neg filled, ?_⟩)
    exact misses_bind.mpr (.inl (misses_discard.mpr (Backup.misses_take.mpr
      ((unnoted _).trans failed))))

/-! ## Backups that cannot be created -/

namespace Tree

/-- A symbolic link stands at the end of a path, and what it leads to lies in no directory. -/
structure Astray (tree : Tree) (path : Path) : Prop where
  link : ∃ inode directory name target,
    tree.locate .name path = .ok (.entry inode directory name) ∧
      tree.node? inode = some (.link target)
  lost : tree.locate .create path = .error (.os .noEntry)

variable {tree : Tree} {inode directory : Inode} {name : Name} {content : Content} {mode used : Nat}

theorem takes_ne_noEntry (filled : path.bytes ≠ []) :
    takes path name ≠ .error (.os .noEntry) := by
  intro refused
  rcases takes_eq_error.mp refused with unchecked | ⟨-, -, same⟩
  · unfold checkPath at unchecked
    split_ifs at unchecked
    · cases unchecked
    · exact absurd (Except.error.inj unchecked) (by decide)
  · exact absurd same (by decide)

/-- A file can be created at a path that ends with a name in a directory, unless there is something
else: it is missing there only where a link has led astray. -/
theorem Stands.astray (stands : tree.Stands path directory name used) (whole : tree.Whole)
    (lost : tree.locate .create path = .error (.os .noEntry)) : tree.Astray path := by
  cases taken : takes path name with
  | error error =>
    obtain rfl := Except.error.inj ((stands.locate_error taken).symm.trans lost)
    exact absurd taken (takes_ne_noEntry stands.filled)
  | ok =>
    obtain ⟨checked, short⟩ := takes_eq_ok.mp taken
    cases found : tree.child? directory name with
    | none => cases (stands.locate_free taken found).symm.trans lost
    | some child =>
      obtain ⟨node, there⟩ := whole.exists_node found
      have named := stands.locate_name taken found there
      rcases isPlain_or_link there with plain | ⟨target, rfl⟩
      · have ended : tree.locate .create path = .ok (.entry child directory name) :=
          locate_eq_ok.mpr ⟨checked, by
            rw [stands.walk, walk_plain stands.isName short (by simp) found plain,
              if_pos (.inl rfl)]⟩
        cases ended.symm.trans lost
      · exact ⟨⟨child, directory, name, target, named, there⟩, lost⟩

theorem createFile_eq_noEntry :
    tree.createFile path mode = .error (.os .noEntry) ↔
      tree.locate .create path = .error (.os .noEntry) := by
  rw [createFile, bind_eq_error]
  constructor
  · rintro (lost | ⟨place, -, failed⟩)
    · exact lost
    · cases place with
      | directory => cases failed
      | entry =>
        simp only at failed
        split_ifs at failed
        cases failed
      | free => cases failed
  · exact .inl

theorem copyFile_eq_noEntry (opened : tree.openFile path = .ok (.file inode content mode)) :
    tree.copyFile path path.backup = .error (.os .noEntry) ↔
      tree.locate .create path.backup = .error (.os .noEntry) := by
  have copying : tree.copyFile path path.backup =
      (tree.createFile path.backup mode).map fun made =>
        let copied := if made.1 = inode then Content.empty else content
        (copied, (made.2.setMode made.1 mode).setContent made.1 copied) := by
    rw [copyFile, opened]
    change (tree.createFile path.backup mode >>= _) = _
    cases tree.createFile path.backup mode <;> rfl
  rw [copying, map_eq_error, createFile_eq_noEntry]

end Tree

/-- A dataset with rows is read at a path, and its backup cannot be created because a link leads
astray. -/
def World.LosesBackup (world : World) (path : Path) : Prop :=
  ∃ inode content mode frame, world.opening path = .ok (.file inode content mode) ∧
    content.decode = .ok frame ∧ frame.height ≠ 0 ∧ world.files.Astray path.backup

/-- What is refused to the user is there. -/
theorem permitted_eq_noEntry {α : Type} {refused : Bool} {result : Except IoError α} :
    permitted refused result = .error (.os .noEntry) ↔
      refused = false ∧ result = .error (.os .noEntry) := by
  cases refused with
  | false => simp
  | true => simp [permitted, Errno.permissionDenied, Errno.noEntry]

/-- A copy of a file that opens fails for want of a name only where a link leads astray. -/
theorem World.backingUp_eq_noEntry {inode : Inode} {content : Content} {mode : Nat}
    (formed : world.files.WellFormed) (whole : world.files.Whole)
    (opening : world.opening path = .ok (.file inode content mode)) :
    world.backingUp path = .error (.os .noEntry) ↔ world.files.Astray path.backup := by
  have opened := ok_of_permitted opening
  have readable : world.files.refusesReading world.user path = false := by
    cases refused : world.files.refusesReading world.user path with
    | false => rfl
    | true =>
      rw [opening_eq, refused] at opening
      cases opening
  rw [backingUp_eq, map_eq_error, permitted_eq_noEntry, Tree.copyFile_eq_noEntry opened]
  constructor
  · rintro ⟨-, lost⟩
    obtain ⟨directory, name, used, stands, -⟩ := Tree.exists_stands formed opened
    exact stands.backup.astray whole lost
  · intro astray
    refine ⟨?_, astray.lost⟩
    rw [Tree.refusesCopying, readable, Tree.refusesWriting, astray.lost]
    simp

/-- What a drop from a file reports as missing. -/
theorem Setup.misses_dropFromFile_iff {setup : Setup} (formed : world.files.WellFormed)
    (whole : world.files.Whole) :
    Misses (setup.dropFromFile path) world ↔
      world.opening path = .error (.os .noEntry) ∨ world.LosesBackup path := by
  refine misses_dropFromFile.trans (or_congr Iff.rfl ⟨?_, ?_⟩)
  · rintro ⟨opened, frame, opening, decoded, filled, failed⟩
    obtain ⟨inode, content, mode, rfl⟩ := Dataset.file_of_decode decoded
    exact ⟨inode, content, mode, frame, opening, decoded, filled,
      (World.backingUp_eq_noEntry formed whole opening).mp failed⟩
  · rintro ⟨inode, content, mode, frame, opening, decoded, filled, astray⟩
    exact ⟨_, frame, opening, decoded, filled,
      (World.backingUp_eq_noEntry formed whole opening).mpr astray⟩

/-! ## Objects -/

namespace Remote

variable {remote : Remote} {bucket key : String} {target : Target} {content : Content}

/-- How a download ends, whoever asks for it. -/
theorem run_download_eq (address : remote.address bucket key = .ok target) :
    run (remote.download bucket key path) world =
      match world.store.get target with
      | (.error error, store) => (.error (ofGet bucket key error), { world with store })
      | (.ok content, store) =>
        match World.reply { world with store } (.writeFile path content) with
        | (.error error, after) => (.error (.io error), after)
        | (.ok _, after) =>
          (.ok content, { after with
            log := .downloaded (Location.objectText bucket key) path :: after.log }) := by
  obtain ⟨prepared, prepare, aim⟩ := bind_eq_ok.mp address
  have got : run (ask (.getObject target)) world =
      (.ok (world.store.get target).1, { world with store := (world.store.get target).2 }) := rfl
  unfold download
  rw [prepare, run_bind_ok (run_orFail_ok _ prepared world), aim,
    run_bind_ok (run_orFail_ok _ target world)]
  refine (run_bind_ok got).trans ?_
  obtain ⟨result, store⟩ := world.store.get target
  cases result with
  | error error => rfl
  | ok content =>
    refine (run_bind_ok (run_orFail_ok _ content _)).trans ?_
    refine (run_bind_ok (run_ask _ _)).trans ?_
    simp only
    obtain ⟨written, after⟩ := World.reply { world with store } (.writeFile path content)
    cases written with
    | error error => rfl
    | ok => rfl

/-- What was downloaded into a file is read at its path, if it may be read. -/
theorem openFile_of_download (address : remote.address bucket key = .ok target)
    (formed : world.files.WellFormed)
    (downloaded : run (remote.download bucket key path) world = (.ok content, after)) :
    ∃ inode mode, after.files.openFile path = .ok (.file inode content mode) := by
  rw [run_download_eq address] at downloaded
  split at downloaded
  case h_1 => cases downloaded
  case h_2 found store got =>
    rcases World.reply_writeFile_cases { world with store } path found with
      ⟨error, failed⟩ | ⟨inode, created, creation, replied⟩
    · rw [failed] at downloaded
      cases downloaded
    · rw [replied] at downloaded
      obtain ⟨same, rfl⟩ := Prod.mk.inj downloaded
      obtain rfl := Except.ok.inj same
      obtain ⟨mode, opened⟩ := Tree.openFile_of_createFile formed creation
      exact ⟨inode, mode, Tree.openFile_grown (Tree.wellFormed_createFile formed creation)
        (.setContent created inode found) opened
        (Tree.file?_setContent (Tree.openFile_eq_file.mp opened).2)⟩

/-- Nothing that goes wrong in an upload is reported as missing. -/
theorem not_misses_upload (address : remote.address bucket key = .ok target) :
    ¬Misses (remote.upload bucket key path) world := by
  obtain ⟨prepared, prepare, aim⟩ := bind_eq_ok.mp address
  intro misses
  rw [upload, prepare, Misses, run_bind_ok (run_orFail_ok _ prepared world)] at misses
  replace misses := misses_ask_bind.mp misses
  obtain ⟨_, _, -, same⟩ | ⟨opened, -, misses⟩ := misses_orFail_bind.mp misses
  · cases same
  obtain ⟨_, _, -, same⟩ | ⟨content, -, misses⟩ := misses_orFail_bind.mp misses
  · cases same
  rw [aim, Misses, run_bind_ok (run_orFail_ok _ target _)] at misses
  replace misses := misses_ask_bind.mp misses
  obtain ⟨_, _, -, same⟩ | ⟨_, -, misses⟩ := misses_orFail_bind.mp misses
  · cases same
  · exact absurd (misses_note_bind.mp misses) misses_pure

/-- A download reports an object as missing exactly if it is not there. -/
theorem misses_download (address : remote.address bucket key = .ok target)
    (serves : world.store.Serves target) :
    Misses (remote.download bucket key path) world ↔
      world.store.object? target.storedName = none := by
  obtain ⟨requests, got⟩ := serves.get
  rw [Misses, run_download_eq address, got]
  cases world.store.object? target.storedName with
  | none => simp [ofGet, Store.isMissing_absence]
  | some content =>
    simp only [Option.elim_some, reduceCtorEq, iff_false, not_exists]
    intro name
    split <;> simp

end Remote

namespace Setup

variable {setup : Setup} {location bucket key : String} {target : Target}

/-- Once an object is in the staging file, only a link at the name of the backup leads astray. -/
theorem misses_dropFromFile_fetched {content : Content} (formed : world.files.WellFormed)
    (whole : world.files.Whole) (address : setup.remote.address bucket key = .ok target)
    (downloaded : run (setup.remote.download bucket key path) world = (.ok content, after)) :
    Misses (setup.dropFromFile path) after ↔ after.LosesBackup path := by
  have left : after = (run (setup.remote.download bucket key path) world).2 := by rw [downloaded]
  have formed' : after.files.WellFormed := left ▸ Program.wellFormed_run _ formed
  have whole' : after.files.Whole := left ▸ Program.whole_run _ whole
  refine (misses_dropFromFile_iff formed' whole').trans (or_iff_right fun missing => ?_)
  obtain ⟨inode, mode, opened⟩ := Remote.openFile_of_download address formed downloaded
  rw [World.opening_eq, opened, permitted_eq_noEntry] at missing
  cases missing.2

theorem misses_dropFromObject_iff (formed : world.files.WellFormed) (whole : world.files.Whole)
    (address : setup.remote.address bucket key = .ok target)
    (serves : world.store.Serves target) :
    Misses (setup.dropFromObject bucket key) world ↔
      world.store.object? target.storedName = none ∨
        ∃ content fetched,
          run (setup.remote.download bucket key setup.settings.stagingPath) world =
              (.ok content, fetched) ∧
            fetched.LosesBackup setup.settings.stagingPath := by
  refine misses_bind.trans (or_congr
    (misses_discard.trans (Remote.misses_download address serves)) ⟨?_, ?_⟩)
  · rintro ⟨_, fetched, discarded, rest⟩
    obtain ⟨content, downloaded⟩ := of_run_discard_ok discarded
    refine ⟨content, fetched, downloaded, ?_⟩
    rcases misses_bind.mp rest with dropping | ⟨_, _, -, sending⟩
    · exact (misses_dropFromFile_fetched formed whole address downloaded).mp dropping
    · exact absurd (misses_discard.mp sending) (Remote.not_misses_upload address)
  · rintro ⟨content, fetched, downloaded, loses⟩
    refine ⟨(), fetched, run_discard_ok downloaded, misses_bind.mpr (.inl ?_)⟩
    exact (misses_dropFromFile_fetched formed whole address downloaded).mpr loses

/-- A staging file that cannot be written is an error of the system, whatever the reason is. -/
theorem run_dropFromObject_unwritten {content : Content} {error : IoError}
    (address : setup.remote.address bucket key = .ok target)
    (serves : world.store.Serves target)
    (found : world.store.object? target.storedName = some content)
    (failed : world.writing setup.settings.stagingPath content = .error error) :
    (run (setup.dropFromObject bucket key) world).1 = .error (.io error) := by
  obtain ⟨requests, got⟩ := serves.get
  have again : World.writing { world with store := { world.store with requests } }
      setup.settings.stagingPath content = .error error := by
    rw [← failed, World.writing, World.writing]
    exact (World.fst_change _ _).trans (World.fst_change _ _).symm
  have fails : ∃ left, run (setup.remote.download bucket key setup.settings.stagingPath) world =
      (.error (.io error), left) := by
    rw [Remote.run_download_eq address, got, found]
    rcases World.reply_writeFile_cases { world with store := { world.store with requests } }
        setup.settings.stagingPath content with ⟨reason, refused⟩ | ⟨_, _, -, written⟩
    · rw [World.writing, refused] at again
      obtain rfl := Except.error.inj again
      simp only [Option.elim_some, refused]
      exact ⟨_, rfl⟩
    · rw [World.writing, written] at again
      cases again
  obtain ⟨left, fails⟩ := fails
  rw [dropFromObject, run_bind_error (run_discard_error fails)]

/-- A drop from a file reports that the dataset does not exist where opening it fails for want of a
name. It does so besides where a dataset with rows has been read and its backup cannot be created,
because a symbolic link at the backup's name leads to a name in no directory: then the dataset is
there. A drop from an object that is asked for, and whose requests are answered, reports it where
the object is not there, and besides where what was downloaded meets such a link beside the staging
file. A staging file that cannot be written is an error of the system. -/
theorem misses_drop_iff (setup : Setup) (location : String) (formed : world.files.WellFormed)
    (whole : world.files.Whole) :
    match Location.parse location with
    | .file text =>
      Misses (setup.perform location .drop) world ↔
        world.opening (.ofString text) = .error (.os .noEntry) ∨
          world.LosesBackup (.ofString text)
    | .object bucket key =>
      let staging := setup.settings.stagingPath
      ∀ target, setup.remote.address bucket key = .ok target → world.store.Serves target →
        (Misses (setup.perform location .drop) world ↔
          world.store.object? target.storedName = none ∨
            ∃ content fetched,
              run (setup.remote.download bucket key staging) world = (.ok content, fetched) ∧
                fetched.LosesBackup staging) ∧
          ∀ content error, world.store.object? target.storedName = some content →
            world.writing staging content = .error error →
              (run (setup.perform location .drop) world).1 = .error (.io error) := by
  cases here : Location.parse location with
  | file text =>
    simp only [perform, drop, here]
    exact misses_dropFromFile_iff formed whole
  | object bucket key =>
    simp only [perform, drop, here]
    intro target address serves
    refine ⟨misses_dropFromObject_iff formed whole address serves, ?_⟩
    intro content error found failed
    exact run_dropFromObject_unwritten address serves found failed

/-- A dataset with two rows and, at the name of its backup, a link into a directory that does not
exist: the dataset opens, and the drop reports that there is none. -/
theorem misses_drop_iff_astray :
    let frame : Frame := ⟨[⟨"n", .scalar (.signed 32), [.int 1, .int 2]⟩]⟩
    let dataset : Content := .ofFrame frame .zstd
    let files := (Tree.fresh.put (.ofString "d") dataset).makeLink (.ofString "nodir/x")
      (.ofString "d.bk")
    let world : World := ⟨files, .superuser, .empty, []⟩
    let setup : Setup := ⟨.standard .empty, .shared⟩
    files.content? (.ofString "d") = some dataset ∧ world.LosesBackup (.ofString "d") ∧
      Misses (setup.perform "d" .drop) world := by
  intro frame dataset files world setup
  have prepared : files.Reachable :=
    (Tree.Reachable.fresh.edit (.put (.ofString "d") dataset)).edit
      (.makeLink (.ofString "nodir/x") (.ofString "d.bk"))
  obtain ⟨formed, whole⟩ := prepared.sound
  have loses : world.LosesBackup (.ofString "d") := by
    refine ⟨3, dataset, Tree.newFileMode, frame, rfl, rfl, by decide, ?_⟩
    exact ⟨⟨4, 2, [0x64, 0x2E, 0x62, 0x6B], .ofString "nodir/x", rfl, rfl⟩, rfl⟩
  exact ⟨rfl, loses, (misses_drop_iff setup "d" formed whole).mpr (.inr loses)⟩

end Setup

end RowDrop
