import RowDrop.Files.Access

/-!
# Permission bits

The bits of a file say whether its owner may read and write it. Whoever runs a program either owns
all files and is bound by their bits, or is the superuser, whom no bits bind. Directories may be
used by everyone, and no bits are needed to rename a file.
-/

namespace RowDrop

/-- Who runs a program. -/
inductive User where
  | superuser
  /-- The owner of all files. -/
  | owner
  deriving DecidableEq, Repr

namespace User

/-- The bit that lets the owner read. -/
def readBit : Nat := 0o400

/-- The bit that lets the owner write. -/
def writeBit : Nat := 0o200

/-- The user may read a file with these bits. -/
def mayRead (user : User) (mode : Nat) : Bool := user = superuser || mode &&& readBit != 0

/-- The user may write a file with these bits. -/
def mayWrite (user : User) (mode : Nat) : Bool := user = superuser || mode &&& writeBit != 0

end User

namespace Tree

/-- The bits that a listing shows: those for reading, writing and executing. -/
def shownMode (mode : Nat) : Nat := mode &&& 0o777

/-- The path leads to a file that the user may not read. -/
def refusesReading (tree : Tree) (user : User) (path : Path) : Bool :=
  match tree.openFile path with
  | .ok (.file _ _ mode) => !user.mayRead mode
  | _ => false

/-- The path leads to a file that the user may not write. -/
def refusesWriting (tree : Tree) (user : User) (path : Path) : Bool :=
  match tree.locate .create path with
  | .ok (.entry inode _ _) => (tree.file? inode).any fun (_, mode) => !user.mayWrite mode
  | _ => false

/-- The user may not copy between the paths. The target counts only if there is a file to copy. -/
def refusesCopying (tree : Tree) (user : User) (source target : Path) : Bool :=
  tree.refusesReading user source || tree.isFile source && tree.refusesWriting user target

@[simp] theorem refusesReading_superuser (tree : Tree) (path : Path) :
    tree.refusesReading .superuser path = false := by
  unfold refusesReading
  split <;> rfl

@[simp] theorem refusesWriting_superuser (tree : Tree) (path : Path) :
    tree.refusesWriting .superuser path = false := by
  unfold refusesWriting
  split
  · simp [User.mayWrite]
  · rfl

/-- Nothing is refused to the superuser. -/
@[simp] theorem refusesCopying_superuser (tree : Tree) (source target : Path) :
    tree.refusesCopying .superuser source target = false := by
  simp [refusesCopying]

end Tree

/-- The result of a step, unless the step is refused. -/
def permitted {α : Type} (refused : Bool) (result : Except IoError α) : Except IoError α :=
  if refused then .error (.os .permissionDenied) else result

@[simp] theorem permitted_false {α : Type} (result : Except IoError α) :
    permitted false result = result := rfl

end RowDrop
