import RowDrop.Proofs.Files.Dangling
import RowDrop.Proofs.Files.Formed
import RowDrop.Proofs.Keys
import RowDrop.Proofs.Watching

/-!
# Who keeps the original

Before the staging file is changed, what was downloaded into it is copied to its backup; undoing
moves the backup to the staging file. A watch remembers what was downloaded and where it was taken
(`Memory.after`), and demands that it is there (`Original.Safe`). Each operation on the staging file
keeps this watch, whoever runs it and whatever fails: one lemma for each tells what the operation
leaves if it succeeds and what if it fails.
-/

namespace RowDrop

/-- Where the original of the last dataset is that got as far as a backup. -/
inductive Original where
  /-- No backup was taken, or the staging file was written again after the backup was moved. -/
  | nowhere
  | inBackup (content : Content)
  | inStaging (content : Content)

/-- What was downloaded last, and where the original is. -/
structure Memory where
  downloaded : Option Content
  original : Original

/-- Nothing has happened yet. -/
def Memory.blank : Memory := ⟨none, .nowhere⟩

/-- A copy puts what was downloaded last into the backup. -/
def Memory.copied (memory : Memory) : Memory :=
  { memory with original := memory.downloaded.elim .nowhere .inBackup }

/-- A rename moves the original from the backup to the staging file. -/
def Original.moved : Original → Original
  | inBackup content => inStaging content
  | original => original

/-- Writing the staging file is the end of an original in it. -/
def Original.overwritten : Original → Original
  | inStaging _ => nowhere
  | original => original

/-- What a step does to the memory, if it succeeds. -/
def Memory.after (memory : Memory) : (call : Call) → call.Reply → Memory
  | .getObject _, .ok content => { memory with downloaded := some content }
  | .copyFile _ _, .ok _ => memory.copied
  | .renameFile _ _, .ok _ => { memory with original := memory.original.moved }
  | .writeFile _ _, .ok _ => { memory with original := memory.original.overwritten }
  | _, _ => memory

/-- The original is where it is remembered to be. -/
def Original.Safe (staging : Path) (files : Tree) : Original → Prop
  | nowhere => True
  | inBackup content => files.content? staging.backup = some content
  | inStaging content => files.content? staging = some content

/-- The watch over the original. -/
def Original.watch (staging : Path) : Watch Memory where
  record call reply memory := memory.after call reply
  holds world memory := memory.original.Safe staging world.files

/-- What the staging file and its backup hold agrees with where the original is. -/
def Original.Agrees (current kept : Option (Inode × Content)) : Original → Prop
  | nowhere => True
  | inBackup content => kept.map (·.2) = some content
  | inStaging content => current.map (·.2) = some content ∧ kept = none

/-- The original is in the hands of a staging file and its backup, two files of one directory, or
there is none because nothing can be written at the path of the staging file. -/
inductive Custody (staging : Path) (files : Tree) (original : Original) : Prop where
  | dangling : files.WellFormed → files.Dangles staging → original = .nowhere →
      Custody staging files original
  | pair {directory : Inode} {name : Name} {used : Nat} {current kept : Option (Inode × Content)} :
      files.Pair staging directory name used current kept → original.Agrees current kept →
      Custody staging files original

/-- The staging file holds what was downloaded, and the original, if there is one, is in the
backup. -/
structure Fetched (staging : Path) (content : Content) (files : Tree) (memory : Memory) :
    Prop where
  downloaded : memory.downloaded = some content
  pair : ∃ directory name used inode kept,
    files.Pair staging directory name used (some (inode, content)) kept ∧
      ∀ current, memory.original.Agrees current kept

variable {staging : Path} {files : Tree} {original : Original} {memory : Memory} {world : World}
variable {content : Content} {current kept : Option (Inode × Content)}
variable {directory inode : Inode} {name : Name} {used : Nat}
variable {remote : Remote} {setup : Setup} {bucket key : String} {target : Target}

theorem Custody.safe (h : Custody staging files original) : original.Safe staging files := by
  cases h with
  | dangling _ _ gone =>
    rw [gone]
    trivial
  | @pair directory name used current kept pair agrees =>
    cases original with
    | nowhere => trivial
    | inBackup content => exact pair.content?_backup.trans agrees
    | inStaging content =>
      cases current with
      | none => cases agrees.1
      | some file =>
        obtain ⟨mode, opened⟩ := pair.openFile
        exact (Tree.content?_of_openFile opened).trans agrees.1

/-- Where the original is may be forgotten. -/
theorem Custody.forget (h : Custody staging files original) : Custody staging files .nowhere := by
  cases h with
  | dangling formed dangles => exact .dangling formed dangles rfl
  | pair pair => exact .pair pair trivial

/-- Before anything has happened, the staging file and its backup show nothing or two files. -/
theorem custody_nowhere (formed : files.WellFormed) (shown : files.Shows staging current)
    (shownBackup : files.Shows staging.backup kept)
    (apart : ∀ file copy, current = some file → kept = some copy → file.1 ≠ copy.1) :
    Custody staging files .nowhere := by
  rcases Tree.dangles_or_pair formed shown shownBackup apart with dangles | ⟨_, _, _, pair⟩
  · exact .dangling formed dangles rfl
  · exact .pair pair trivial

theorem Fetched.custody (h : Fetched staging content files memory) :
    Custody staging files memory.original := by
  obtain ⟨directory, name, used, inode, kept, pair, agrees⟩ := h.pair
  exact .pair pair (agrees _)

/-- Writing the staging file leaves only an original in the backup. -/
theorem Original.Agrees.overwritten (h : original.Agrees current kept)
    (current' : Option (Inode × Content)) : original.overwritten.Agrees current' kept := by
  cases original with
  | nowhere | inStaging => trivial
  | inBackup content => exact h

/-- Moving the backup to the staging file moves the original with it. -/
theorem Original.Agrees.moved {file : Inode × Content} (h : original.Agrees current (some file)) :
    original.moved.Agrees (some file) none := by
  cases original with
  | nowhere => trivial
  | inBackup content => exact ⟨h, rfl⟩
  | inStaging content => cases h.2

/-! ## Single steps -/

/-- A change of the files that is permitted happens; any other one leaves the world as it is. -/
theorem World.change_permitted {α : Type} (world : World) (refused : Bool)
    (result : Except IoError (α × Tree)) :
    (∃ error, world.change (permitted refused result) = (.error error, world)) ∨
      ∃ value files, result = .ok (value, files) ∧
        world.change (permitted refused result) = (.ok value, { world with files }) := by
  cases refused with
  | true => exact .inl ⟨_, rfl⟩
  | false =>
    cases result with
    | error error => exact .inl ⟨error, rfl⟩
    | ok changed => exact .inr ⟨changed.1, changed.2, rfl, rfl⟩

/-- Writing a file truncates it and fills it, or it leaves the world as it is. -/
theorem World.reply_writeFile_cases (world : World) (path : Path) (content : Content) :
    (∃ error, world.reply (.writeFile path content) = (.error error, world)) ∨
      ∃ inode files, world.files.createFile path Tree.newFileMode = .ok (inode, files) ∧
        world.reply (.writeFile path content) =
          (.ok (), { world with files := files.setContent inode content }) := by
  rcases world.change_permitted (world.files.refusesWriting world.user path)
      ((world.files.createFile path Tree.newFileMode).map fun created =>
        ((), created.2.setContent created.1 content)) with
    ⟨error, failed⟩ | ⟨_, files, written, replied⟩
  · exact .inl ⟨error, failed⟩
  · obtain ⟨⟨inode, created⟩, creation, done⟩ := map_eq_ok.mp written
    obtain ⟨-, rfl⟩ := Prod.mk.inj done
    exact .inr ⟨inode, created, creation, replied⟩

/-- Opening a file changes nothing. -/
theorem Operation.Keeps.open_bind {α : Type} {path : Path}
    {next : Except IoError Opened → Operation α}
    {good : α → World → Memory → Prop} {bad : Error → World → Memory → Prop}
    (safe : memory.original.Safe staging world.files)
    (rest : ∀ reply, (∀ opened, reply = .ok opened → world.files.openFile path = .ok opened) →
      (next reply).Keeps (Original.watch staging) world memory good bad) :
    (Operation.ask (.openFile path) >>= next).Keeps (Original.watch staging) world memory
      good bad :=
  ⟨safe, rest _ fun _ opening => ok_of_permitted opening⟩

/-! ## Moving objects and files -/

/-- What the store is asked for with a key. -/
def Remote.address (remote : Remote) (bucket key : String) : Except Error Target :=
  remote.prepare bucket key >>= Prepared.target

/-- The same objects, whatever else has happened to a store. -/
def Store.Same (store after : Store) : Prop := ∀ name, after.object? name = store.object? name

/-- A download puts an object into the staging file. -/
theorem Remote.keeps_download (custody : Custody staging world.files memory.original) :
    (remote.download bucket key staging).Keeps (Original.watch staging) world memory
      (fun content after memory => Fetched staging content after.files memory ∧
        world.store.Same after.store ∧
        ∃ target, remote.address bucket key = .ok target ∧
          world.store.object? target.storedName = some content)
      (fun _ after memory => Custody staging after.files memory.original ∧
        world.store.Same after.store) := by
  have safe := custody.safe
  have start : Custody staging world.files memory.original ∧ world.store.Same world.store :=
    ⟨custody, fun _ => rfl⟩
  unfold download
  refine .orFail_bind safe (fun _ _ => start) fun prepared prepare => ?_
  refine .orFail_bind safe (fun _ _ => start) fun target address => ?_
  refine .ask_bind safe ?_
  have got : world.reply (.getObject target) =
      ((world.store.get target).1, { world with store := (world.store.get target).2 }) := rfl
  have same : world.store.Same (world.store.get target).2 := world.store.object?_get target
  rw [got]
  cases found : (world.store.get target).1 with
  | error error => exact ⟨safe, custody, same⟩
  | ok content =>
    refine .orFail_bind safe (fun _ failed => by cases failed) fun _ value => ?_
    obtain rfl := Except.ok.inj value
    refine .ask_bind safe ?_
    rcases World.reply_writeFile_cases { world with store := (world.store.get target).2 } staging
        content with ⟨error, failed⟩ | ⟨inode, created, creation, replied⟩
    · rw [failed]
      exact ⟨safe, custody, same⟩
    · rw [replied]
      have fetched : Fetched staging content (created.setContent inode content)
          { downloaded := some content, original := memory.original.overwritten } := by
        cases custody with
        | dangling _ dangles => exact absurd creation dangles.createFile
        | pair pair agrees =>
          exact ⟨rfl, _, _, _, inode, _, (pair.of_createFile creation).setContent content,
            agrees.overwritten⟩
      have safe := fetched.custody.safe
      refine .orFail_bind safe (fun _ _ => ⟨fetched.custody, same⟩) fun _ _ => ?_
      refine .note_bind safe ?_
      exact Operation.keeps_pure safe
        ⟨fetched, same, target, bind_eq_ok.mpr ⟨prepared, prepare, address⟩,
          Store.object?_of_get_ok found⟩

/-- An upload replaces an object with what the staging file holds. -/
theorem Remote.keeps_upload (safe : memory.original.Safe staging world.files) (path : Path) :
    (remote.upload bucket key path).Keeps (Original.watch staging) world memory
      (fun content after memory' => memory' = memory ∧ after.files = world.files ∧
        (∃ inode mode, world.files.openFile path = .ok (.file inode content mode)) ∧
        ∃ target, remote.address bucket key = .ok target ∧
          ∀ name, after.store.object? name =
            if name = target.storedName then some content else world.store.object? name)
      (fun _ after memory' => memory' = memory ∧ after.files = world.files ∧
        world.store.Same after.store) := by
  have start : memory = memory ∧ world.files = world.files ∧ world.store.Same world.store :=
    ⟨rfl, rfl, fun _ => rfl⟩
  unfold upload
  refine .orFail_bind safe (fun _ _ => start) fun prepared prepare => ?_
  refine .open_bind safe fun reply found => ?_
  refine .orFail_bind safe (fun _ _ => start) fun opened opening => ?_
  refine .orFail_bind safe (fun _ _ => start) fun content read => ?_
  refine .orFail_bind safe (fun _ _ => start) fun target address => ?_
  refine .ask_bind safe ?_
  have sent : world.reply (.putObject target content) =
      ((world.store.put target content).1,
        { world with store := (world.store.put target content).2 }) := rfl
  rw [sent]
  cases put : (world.store.put target content).1 with
  | error error => exact ⟨safe, rfl, rfl, Store.object?_of_put_error put⟩
  | ok =>
    refine .orFail_bind safe (fun _ failed => by cases failed) fun _ _ => ?_
    refine .note_bind safe ?_
    refine Operation.keeps_pure safe ⟨rfl, rfl, ?_, target,
      bind_eq_ok.mpr ⟨prepared, prepare, address⟩, Store.object?_of_put_ok put⟩
    cases opened with
    | directory => cases read
    | file inode content' mode =>
      obtain rfl := Except.ok.inj read
      exact ⟨inode, mode, found _ opening⟩

/-! ## Changing the staging file -/

theorem Dataset.dropFirst_eq_ok {text : String} {frame rest : Frame} :
    dropFirst text frame = .ok rest ↔ frame.height ≠ 0 ∧ frame.dropFirst = rest := by
  unfold dropFirst
  split_ifs with empty
  · simp [empty]
  · simp [empty]

theorem Dataset.keeps_load (safe : memory.original.Safe staging world.files) (path : Path) :
    (load path).Keeps (Original.watch staging) world memory
      (fun frame after memory' => memory' = memory ∧ (∃ log, after = { world with log }) ∧
        ∃ opened, world.files.openFile path = .ok opened ∧ decode opened = .ok frame)
      (fun _ after memory' => memory' = memory ∧ after = world) := by
  unfold load
  refine .open_bind safe fun reply found => ?_
  refine .orFail_bind safe (fun _ _ => ⟨rfl, rfl⟩) fun opened opening => ?_
  refine .orFail_bind safe (fun _ _ => ⟨rfl, rfl⟩) fun frame decoded => ?_
  refine .note_bind safe ?_
  exact Operation.keeps_pure safe ⟨rfl, ⟨_, rfl⟩, opened, found _ opening, decoded⟩

/-- The original is in the backup, and the staging file holds something else. -/
def BackedUp (staging : Path) (current kept : Content) (files : Tree) (memory : Memory) : Prop :=
  memory.original = .inBackup kept ∧ ∃ directory name used inode copy,
    files.Pair staging directory name used (some (inode, current)) (some (copy, kept))

theorem BackedUp.custody {current kept : Content} (h : BackedUp staging current kept files memory) :
    Custody staging files memory.original := by
  obtain ⟨original, _, _, _, _, _, pair⟩ := h
  rw [original]
  exact .pair pair rfl

theorem BackedUp.content? {current kept : Content}
    (h : BackedUp staging current kept files memory) :
    files.content? staging = some current ∧ files.content? staging.backup = some kept := by
  obtain ⟨-, _, _, _, _, _, pair⟩ := h
  obtain ⟨mode, opened⟩ := pair.openFile
  exact ⟨Tree.content?_of_openFile opened, pair.content?_backup⟩

/-- The backup gets what was downloaded. -/
theorem Backup.keeps_take (fetched : Fetched staging content world.files memory) :
    (take staging).Keeps (Original.watch staging) world memory
      (fun _ after memory => after.store = world.store ∧
        BackedUp staging content content after.files memory)
      (fun _ after memory' => memory' = memory ∧ after = world) := by
  have safe := fetched.custody.safe
  unfold take
  refine .ask_bind safe ?_
  rcases world.change_permitted (world.files.refusesCopying world.user staging staging.backup)
      (world.files.copyFile staging staging.backup) with
    ⟨error, failed⟩ | ⟨copied, files, copying, replied⟩
  · rw [World.reply, failed]
    exact ⟨safe, rfl, rfl⟩
  · rw [World.reply, replied]
    obtain ⟨directory, name, used, inode, kept, pair, -⟩ := fetched.pair
    obtain ⟨copy, pair⟩ := pair.of_copyFile copying
    have backedUp : BackedUp staging content content files memory.copied := by
      refine ⟨?_, directory, name, used, inode, copy, pair⟩
      simp [Memory.copied, fetched.downloaded]
    have safe := backedUp.custody.safe
    change Operation.Keeps _ (do
      Operation.note (.backedUp staging.backup)
      return staging.backup) { world with files } memory.copied _ _
    exact .note_bind safe (Operation.keeps_pure safe ⟨rfl, backedUp⟩)

/-- Writing the staging file leaves the original in the backup. -/
theorem Dataset.keeps_save {current kept : Content} {frame : Frame} {codec : Codec}
    (backedUp : BackedUp staging current kept world.files memory) :
    (save staging frame codec).Keeps (Original.watch staging) world memory
      (fun _ after memory => after.store = world.store ∧
        BackedUp staging (.ofFrame frame codec) kept after.files memory)
      (fun _ after memory' => memory' = memory ∧ after = world) := by
  have safe := backedUp.custody.safe
  unfold save
  refine .ask_bind safe ?_
  rcases world.change_permitted (world.files.refusesWriting world.user staging)
      (world.files.createFile staging Tree.newFileMode) with
    ⟨error, failed⟩ | ⟨inode, files, creation, replied⟩
  · rw [World.reply, failed]
    exact ⟨safe, rfl, rfl⟩
  · rw [World.reply, replied]
    obtain ⟨original, directory, name, used, old, copy, pair⟩ := backedUp
    have emptied := pair.of_createFile creation
    have created : BackedUp staging .empty kept files memory := ⟨original, _, _, _, _, _, emptied⟩
    have written : BackedUp staging (.ofFrame frame codec) kept
        (files.setContent inode (.ofFrame frame codec)) memory :=
      ⟨original, _, _, _, _, _, emptied.setContent _⟩
    refine .orFail_bind created.custody.safe (fun _ failed => by cases failed) fun _ value => ?_
    obtain rfl := Except.ok.inj value
    refine .ask_bind created.custody.safe ?_
    exact Operation.keeps_note written.custody.safe written.custody.safe ⟨rfl, written⟩

/-- Dropping the first row of what was downloaded leaves it in the backup. -/
theorem Setup.keeps_dropFromFile (fetched : Fetched staging content world.files memory) :
    (setup.dropFromFile staging).Keeps (Original.watch staging) world memory
      (fun _ after memory => after.store = world.store ∧
        ∃ frame, content.decode = .ok frame ∧ frame.height ≠ 0 ∧
          BackedUp staging (.ofFrame frame.dropFirst setup.settings.codec) content after.files
            memory)
      (fun _ after memory => Custody staging after.files memory.original ∧
        after.store = world.store) := by
  have safe := fetched.custody.safe
  unfold dropFromFile
  refine .bind (Dataset.keeps_load safe staging) ?_ ?_
  · rintro error _ _ ⟨rfl, rfl⟩
    exact ⟨fetched.custody, rfl⟩
  rintro frame _ memory ⟨rfl, ⟨log, rfl⟩, opened, opening, decoded⟩
  refine .orFail_bind safe (fun _ _ => ⟨fetched.custody, rfl⟩) fun rest dropped => ?_
  obtain ⟨filled, rfl⟩ := Dataset.dropFirst_eq_ok.mp dropped
  have decoded : content.decode = .ok frame := by
    obtain ⟨directory, name, used, inode, kept, pair, -⟩ := fetched.pair
    obtain ⟨mode, found⟩ := pair.openFile
    obtain rfl := Except.ok.inj (found.symm.trans opening)
    exact decoded
  have taken : (Backup.take staging).Keeps (Original.watch staging) { world with log } memory _ _ :=
    Backup.keeps_take fetched
  refine .discard_bind taken ?_ ?_
  · rintro error _ _ ⟨rfl, rfl⟩
    exact ⟨fetched.custody, rfl⟩
  rintro _ copied memory ⟨stored, backedUp⟩
  refine .bind (Dataset.keeps_save backedUp) ?_ ?_
  · rintro error _ _ ⟨rfl, rfl⟩
    exact ⟨backedUp.custody, stored⟩
  rintro _ saved memory ⟨stored', written⟩
  have safe := written.custody.safe
  exact Operation.keeps_note safe safe ⟨stored'.trans stored, frame, decoded, filled, written⟩

/-! ## Undoing -/

/-- An original in the backup can be moved. -/
theorem Custody.renameFile_of_inBackup (h : Custody staging files (.inBackup content)) :
    files.isFile staging.backup ∧ ∃ after, files.renameFile staging.backup staging = .ok after := by
  cases h with
  | dangling _ _ gone => cases gone
  | pair pair agrees =>
    obtain ⟨file, rfl, -⟩ := Option.map_eq_some_iff.mp agrees
    obtain ⟨after, renamed, -⟩ := pair.renameFile
    exact ⟨pair.isFile_backup, after, renamed⟩

theorem Custody.of_renameFile {after : Tree} (h : Custody staging files original)
    (found : files.isFile staging.backup)
    (renamed : files.renameFile staging.backup staging = .ok after) :
    Custody staging after original.moved := by
  cases h with
  | dangling formed dangles =>
    unfold Tree.isFile at found
    split at found
    case h_1 inode led =>
      obtain ⟨⟨content, mode⟩, file⟩ := Option.isSome_iff_exists.mp found
      have opened := Tree.openFile_eq_file.mpr ⟨led, file⟩
      exact absurd renamed (dangles.renameFile formed opened)
    case h_2 => cases found
  | @pair _ _ _ _ kept pair agrees =>
    rw [pair.isFile_backup] at found
    obtain ⟨file, rfl⟩ := Option.isSome_iff_exists.mp found
    obtain ⟨after', renamed', pair'⟩ := pair.renameFile
    obtain rfl := Except.ok.inj (renamed'.symm.trans renamed)
    exact .pair pair' agrees.moved

/-- Restoring moves the original to the staging file. It fails only if the original is not in the
backup. -/
theorem Backup.keeps_restore (custody : Custody staging world.files memory.original) :
    (restore staging).Keeps (Original.watch staging) world memory
      (fun _ after memory' => Custody staging after.files memory'.original ∧
        after.store = world.store ∧
        ∀ content, memory.original = .inBackup content → memory'.original = .inStaging content)
      (fun _ after memory' => memory' = memory ∧ after = world ∧
        ∀ content, memory.original ≠ .inBackup content) := by
  have safe := custody.safe
  have asked : world.reply (.isFile staging.backup) =
      (world.files.isFile staging.backup, world) := rfl
  unfold restore
  refine .ask_bind safe ?_
  rw [asked]
  by_cases found : world.files.isFile staging.backup
  · simp only [found, if_true]
    refine .ask_bind safe ?_
    rcases world.change_permitted false
        ((world.files.renameFile staging.backup staging).map fun files => ((), files)) with
      ⟨error, failed⟩ | ⟨_, files, moved, replied⟩
    · have here : world.reply (.renameFile staging.backup staging) = _ := failed
      rw [here]
      refine ⟨safe, rfl, rfl, ?_⟩
      intro content inBackup
      rw [inBackup] at custody
      obtain ⟨-, after, renamed⟩ := custody.renameFile_of_inBackup
      rw [renamed] at failed
      cases failed
    · have here : world.reply (.renameFile staging.backup staging) = _ := replied
      rw [here]
      obtain ⟨after, renamed, same⟩ := map_eq_ok.mp moved
      obtain ⟨-, rfl⟩ := Prod.mk.inj same
      have custody := custody.of_renameFile found renamed
      have safe := custody.safe
      refine .orFail_bind safe (fun _ failed => by cases failed) fun _ _ => ?_
      refine Operation.keeps_note safe safe ⟨custody, rfl, ?_⟩
      intro content inBackup
      show memory.original.moved = _
      rw [inBackup]
      rfl
  · simp only [found]
    refine Operation.keeps_throw safe ⟨rfl, rfl, ?_⟩
    intro content inBackup
    rw [inBackup] at custody
    exact found custody.renameFile_of_inBackup.1

/-! ## Changing an object -/

/-- What dropping the first row of an object leaves if it succeeds: the object and the staging file
hold the rest, the backup holds what the object held, and all other objects are as they were. -/
def Setup.Delivers (setup : Setup) (bucket key : String) (content : Content)
    (world after : World) : Prop :=
  ∃ target frame, setup.remote.address bucket key = .ok target ∧
    world.store.object? target.storedName = some content ∧
    content.decode = .ok frame ∧ frame.height ≠ 0 ∧
    (∀ name, after.store.object? name =
      if name = target.storedName then
        some (.ofFrame frame.dropFirst setup.settings.codec)
      else world.store.object? name) ∧
    after.files.content? setup.settings.stagingPath =
      some (.ofFrame frame.dropFirst setup.settings.codec) ∧
    after.files.content? setup.settings.stagingPath.backup = some content

/-- What is taken to be the former content is what the object held. -/
theorem Setup.Delivers.found {content : Content} {target : Target} {after : World}
    (h : setup.Delivers bucket key content world after)
    (address : setup.remote.address bucket key = .ok target) :
    world.store.object? target.storedName = some content := by
  obtain ⟨target', _, address', found, -⟩ := h
  obtain rfl := Except.ok.inj (address.symm.trans address')
  exact found

/-- Dropping the first row of an object delivers what is left of it and keeps what it held in the
backup, or it changes no object. -/
theorem Setup.keeps_dropFromObject
    (custody : Custody setup.settings.stagingPath world.files memory.original) :
    (setup.dropFromObject bucket key).Keeps (Original.watch setup.settings.stagingPath) world memory
      (fun _ after memory => Custody setup.settings.stagingPath after.files memory.original ∧
        ∃ content, memory.original = .inBackup content ∧
          setup.Delivers bucket key content world after)
      (fun _ after memory => Custody setup.settings.stagingPath after.files memory.original ∧
        world.store.Same after.store) := by
  unfold dropFromObject
  refine .discard_bind (Remote.keeps_download custody) (fun _ _ _ => id) ?_
  rintro content downloaded memory ⟨fetched, same, target, address, found⟩
  refine .bind (keeps_dropFromFile fetched) ?_ ?_
  · rintro error after memory ⟨custody, stored⟩
    rw [stored]
    exact ⟨custody, same⟩
  rintro _ dropped memory ⟨stored, frame, decoded, filled, written⟩
  refine .discard (.mono (Remote.keeps_upload written.custody.safe _) ?_ ?_)
  · rintro sent after _ ⟨rfl, files, ⟨inode, mode, opened⟩, target', address', replaced⟩
    obtain ⟨held, heldBackup⟩ := written.content?
    obtain rfl := Option.some.inj ((Tree.content?_of_openFile opened).symm.trans held)
    obtain rfl := Except.ok.inj (address.symm.trans address')
    rw [files]
    refine ⟨written.custody, content, written.1, target, frame, address, found, decoded, filled,
      ?_, ?_, ?_⟩
    · intro name
      rw [replaced name, stored, same name]
    · rw [files]
      exact held
    · rw [files]
      exact heldBackup
  · rintro error after _ ⟨rfl, files, same'⟩
    rw [files]
    refine ⟨written.custody, ?_⟩
    intro name
    rw [same' name, stored, same name]

/-- Undoing at an object moves the original to the staging file, even if it fails after that; then
it changes no object. -/
theorem Setup.keeps_undoObject
    (custody : Custody setup.settings.stagingPath world.files memory.original) :
    (setup.undoObject bucket key).Keeps (Original.watch setup.settings.stagingPath) world memory
      (fun _ after memory' => Custody setup.settings.stagingPath after.files memory'.original ∧
        ∀ content, memory.original = .inBackup content → memory'.original = .inStaging content)
      (fun _ after memory' => Custody setup.settings.stagingPath after.files memory'.original ∧
        world.store.Same after.store ∧
        ∀ content, memory.original = .inBackup content →
          memory'.original = .inStaging content) := by
  unfold undoObject
  refine .bind (Backup.keeps_restore custody) ?_ ?_
  · rintro error _ _ ⟨rfl, rfl, elsewhere⟩
    exact ⟨custody, fun _ => rfl, fun content inBackup => absurd inBackup (elsewhere content)⟩
  rintro _ restored memory' ⟨custody, stored, moved⟩
  refine .discard_bind (Remote.keeps_upload custody.safe _) ?_ ?_
  · rintro error after _ ⟨rfl, files, same⟩
    rw [stored] at same
    rw [files]
    exact ⟨custody, same, moved⟩
  · rintro content after _ ⟨rfl, files, -⟩
    rw [← files] at custody
    exact Operation.keeps_note custody.safe custody.safe ⟨custody, moved⟩

end RowDrop
