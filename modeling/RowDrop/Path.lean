import RowDrop.Text.Utf8

/-!
# File paths

A path is any sequence of bytes. Messages show it as text; two paths that differ only in
repeated slashes, in a trailing slash or in inner `.` parts are alike (`Path.Alike`), while the
bytes themselves decide which backup belongs to them.
-/

namespace RowDrop

/-- A file path, byte for byte as it was given. -/
structure Path where
  /-- The bytes of the path. -/
  bytes : List UInt8
  deriving DecidableEq, Repr, Inhabited

namespace Path

/-- The byte of `/`, which separates the parts of a path. -/
def slash : UInt8 := 0x2F

/-- The byte of `.`. -/
def dot : UInt8 := 0x2E

/-- The path that a text names. -/
def ofString (text : String) : Path := ⟨Utf8.encode text.toList⟩

/-- The path as messages show it. -/
def display (path : Path) : String := String.ofList (Utf8.decodeLossy path.bytes)

/-- The path as text, if its bytes are text. -/
def text? (path : Path) : Option String := (Utf8.decode? path.bytes).map String.ofList

/-- The bytes that a backup's name has behind the name of its dataset: `.bk`. -/
def backupSuffix : List UInt8 := [0x2E, 0x62, 0x6B]

/-- The path of the backup of a file. -/
def backup (path : Path) : Path := ⟨path.bytes ++ backupSuffix⟩

@[simp] theorem bytes_backup (path : Path) : path.backup.bytes = path.bytes ++ backupSuffix := rfl

/-- Puts a file name behind a directory, with a slash between them where one is missing. -/
def child (directory : Path) (name : List UInt8) : Path :=
  match directory.bytes.getLast? with
  | none => ⟨name⟩
  | some last =>
    if last = slash then ⟨directory.bytes ++ name⟩ else ⟨directory.bytes ++ slash :: name⟩

/-- Cuts bytes at every slash. There is always at least one part, maybe an empty one. -/
def splitSlash : List UInt8 → List (List UInt8)
  | [] => [[]]
  | b :: rest =>
    if b = slash then [] :: splitSlash rest
    else
      match splitSlash rest with
      | part :: parts => (b :: part) :: parts
      | [] => [[b]]

/-- The names along a path, in order. Empty pieces between slashes name nothing and are left out,
but a slash at the end of a path that has names stays visible as an empty name behind them. -/
def names (path : Path) : List (List UInt8) :=
  let pieces := splitSlash path.bytes
  let full := pieces.filter (· ≠ [])
  if full ≠ [] ∧ pieces.getLast? = some [] then full ++ [[]] else full

/-- A slash stands behind the last name. -/
def endsInSlash (path : Path) : Bool := path.names.getLast? = some []

/-- A path from the root of the file system. -/
def isAbsolute (path : Path) : Bool := path.bytes.head? = some slash

/-- One part of a path, as paths are compared. -/
inductive Component where
  /-- The root of the file system. -/
  | root
  /-- A leading `.`. -/
  | current
  /-- A `..`. -/
  | parent
  /-- A file name. -/
  | name (bytes : List UInt8)
  deriving DecidableEq, Repr

/-- The part that one piece between slashes stands for; empty pieces and `.` stand for none. -/
def Component.ofPiece (piece : List UInt8) : Option Component :=
  if piece = [] ∨ piece = [dot] then none
  else if piece = [dot, dot] then some .parent
  else some (.name piece)

/-- The parts of a path. A `.` counts only where it opens a relative path. -/
def components (path : Path) : List Component :=
  let pieces := splitSlash path.bytes
  let parts := pieces.filterMap Component.ofPiece
  if path.isAbsolute then .root :: parts
  else if pieces.head? = some [dot] then .current :: parts
  else parts

/-- Two paths with the same parts. -/
def Alike (first second : Path) : Prop := first.components = second.components

instance (first second : Path) : Decidable (first.Alike second) :=
  inferInstanceAs (Decidable (first.components = second.components))

end Path
end RowDrop
