import RowDrop.Error
import RowDrop.Files.Permission
import RowDrop.Log
import RowDrop.Store.Objects

/-!
# Programs of single steps

An operation is a program: it asks the world for one step, goes on with the reply, and ends with a
value. The steps are those that other programs can come between: opening, copying, creating,
writing and renaming a file, and getting and putting an object. `World.reply` says what each step
does, and `Program.run` runs a program alone.
-/

namespace RowDrop

/-- A single step. -/
inductive Call where
  /-- Opens a file and reads all of it. -/
  | openFile (path : Path)
  /-- Copies a file with its permission bits. -/
  | copyFile (source target : Path)
  /-- Opens a file for writing and empties it. -/
  | createFile (path : Path)
  /-- Writes all contents of a file that has been opened for writing. -/
  | writeOpened (inode : Inode) (content : Content)
  /-- Replaces the contents of a file, or creates it. -/
  | writeFile (path : Path) (content : Content)
  /-- Asks whether a path leads to a regular file. -/
  | isFile (path : Path)
  /-- Renames a file. -/
  | renameFile (source target : Path)
  /-- Gets an object. -/
  | getObject (target : Target)
  /-- Puts an object. -/
  | putObject (target : Target) (content : Content)
  /-- Puts an event into the log. -/
  | note (event : Event)

/-- What a step gives back. -/
def Call.Reply : Call → Type
  | openFile _ => Except IoError Opened
  | copyFile _ _ => Except IoError Content
  | createFile _ => Except IoError Inode
  | writeOpened _ _ => Unit
  | writeFile _ _ => Except IoError Unit
  | isFile _ => Bool
  | renameFile _ _ => Except IoError Unit
  | getObject _ => Except StoreError Content
  | putObject _ _ => Except StoreError Unit
  | note _ => Unit

/-- Files, objects and the log, the last event first. -/
structure World where
  files : Tree
  /-- Who uses the files. -/
  user : User
  store : Store
  log : List Event

namespace World

/-- Lets a change of the files happen, if it can be made. -/
def change {α : Type} (world : World) (result : Except IoError (α × Tree)) :
    Except IoError α × World :=
  match result with
  | .ok (value, files) => (.ok value, { world with files })
  | .error error => (.error error, world)

/-- Takes a step. -/
def reply (world : World) : (call : Call) → call.Reply × World
  | .openFile path =>
    (permitted (world.files.refusesReading world.user path) (world.files.openFile path), world)
  | .copyFile source target =>
    world.change <| permitted (world.files.refusesCopying world.user source target)
      (world.files.copyFile source target)
  | .createFile path =>
    world.change <| permitted (world.files.refusesWriting world.user path)
      (world.files.createFile path Tree.newFileMode)
  | .writeOpened inode content =>
    ((), { world with files := world.files.setContent inode content })
  | .writeFile path content =>
    world.change <| permitted (world.files.refusesWriting world.user path)
      ((world.files.createFile path Tree.newFileMode).map fun (inode, files) =>
        ((), files.setContent inode content))
  | .isFile path => (world.files.isFile path, world)
  | .renameFile source target =>
    world.change ((world.files.renameFile source target).map fun files => ((), files))
  | .getObject target =>
    let (reply, store) := world.store.get target
    (reply, { world with store })
  | .putObject target content =>
    let (reply, store) := world.store.put target content
    (reply, { world with store })
  | .note event => ((), { world with log := event :: world.log })

end World

/-- A program that ends with a value of type `α`. -/
inductive Program (α : Type) where
  | done (value : α)
  | step (call : Call) (next : call.Reply → Program α)

namespace Program

/-- Goes on with another program. -/
def bind {α β : Type} : Program α → (α → Program β) → Program β
  | done value, next => next value
  | step call rest, next => step call fun reply => (rest reply).bind next

instance : Monad Program where
  pure := done
  bind := bind

/-- The program of one step. -/
def ask (call : Call) : Program call.Reply := step call done

/-- Runs a program alone. -/
def run {α : Type} : Program α → World → α × World
  | done value, world => (value, world)
  | step call next, world =>
    let (reply, world) := world.reply call
    (next reply).run world

@[simp] theorem run_step {α : Type} (call : Call) (next : call.Reply → Program α)
    (world : World) :
    (step call next).run world = (next (world.reply call).1).run (world.reply call).2 := rfl

/-- A program followed by another runs in the world that the first one leaves. -/
@[simp] theorem run_bind {α β : Type} (first : Program α) (next : α → Program β)
    (world : World) :
    (first >>= next).run world = (next (first.run world).1).run (first.run world).2 := by
  change (first.bind next).run world = _
  induction first generalizing world with
  | done value => rfl
  | step call rest ih => exact ih _ _

end Program

/-- A program that may end with an error. -/
abbrev Operation (α : Type) := ExceptT Error Program α

namespace Operation

/-- Takes a step that cannot fail. -/
def ask (call : Call) : Operation call.Reply := ExceptT.lift (Program.ask call)

/-- Puts an event into the log. -/
def note (event : Event) : Operation Unit := ExceptT.lift (Program.ask (.note event))

/-- Goes on with the value of a reply, or ends with what its failure means. -/
def orFail {α ε : Type} (meaning : ε → Error) (reply : Except ε α) : Operation α :=
  match reply with
  | .ok value => pure value
  | .error error => throw (meaning error)

/-- Runs an operation alone. -/
def run {α : Type} (operation : Operation α) (world : World) : Except Error α × World :=
  Program.run (ExceptT.run operation) world

@[simp] theorem run_pure {α : Type} (value : α) (world : World) :
    run (pure value) world = (.ok value, world) := rfl

@[simp] theorem run_ask (call : Call) (world : World) :
    run (ask call) world = (.ok (world.reply call).1, (world.reply call).2) := rfl

@[simp] theorem run_note (event : Event) (world : World) :
    run (note event) world = (.ok (), { world with log := event :: world.log }) := rfl

@[simp] theorem run_orFail_ok {α ε : Type} (meaning : ε → Error) (value : α) (world : World) :
    run (orFail meaning (.ok value)) world = (.ok value, world) := rfl

@[simp] theorem run_orFail_error {α ε : Type} (meaning : ε → Error) (error : ε) (world : World) :
    run (orFail meaning (.error error : Except ε α)) world = (.error (meaning error), world) := rfl

/-- An operation followed by another: an error of the first one ends both. -/
theorem run_bind {α β : Type} (first : Operation α) (next : α → Operation β) (world : World) :
    run (first >>= next) world =
      match run first world with
      | (.ok value, world) => run (next value) world
      | (.error error, world) => (.error error, world) := by
  change Program.run (ExceptT.run first >>= ExceptT.bindCont next) world = _
  rw [Program.run_bind]
  unfold run
  obtain ⟨result, after⟩ := Program.run (ExceptT.run first) world
  cases result with
  | ok value => rfl
  | error error => rfl

/-- A first operation that succeeds hands its value and its world on. -/
theorem run_bind_ok {α β : Type} {first : Operation α} {next : α → Operation β}
    {world after : World} {value : α} (h : run first world = (.ok value, after)) :
    run (first >>= next) world = run (next value) after := by
  rw [run_bind, h]

/-- A first operation that fails is all that happens. -/
theorem run_bind_error {α β : Type} {first : Operation α} {next : α → Operation β}
    {world after : World} {error : Error} (h : run first world = (.error error, after)) :
    run (first >>= next) world = (.error error, after) := by
  rw [run_bind, h]

end Operation
end RowDrop
