/-!
# Frames

A dataset in memory: named and typed columns of equal length. Dropping the first row takes the
first cell off every column and keeps names, types and order.
-/

namespace RowDrop

/-- The unit in which an instant or a span of time is counted. -/
inductive TimeUnit where
  | milliseconds
  | microseconds
  | nanoseconds
  deriving DecidableEq, Repr

/-- The types of single values. -/
inductive ScalarType where
  | bool
  /-- A signed integer of so many bits. -/
  | signed (bits : Nat)
  /-- An unsigned integer of so many bits. -/
  | unsigned (bits : Nat)
  /-- A binary floating-point number of so many bits. -/
  | float (bits : Nat)
  | text
  /-- Text out of a dictionary. -/
  | category
  | binary
  | date
  | time
  | instant (unit : TimeUnit)
  | span (unit : TimeUnit)
  | null
  deriving DecidableEq, Repr

/-- The type of a column. -/
inductive DataType where
  | scalar (type : ScalarType)
  | list (item : DataType)
  /-- Named fields, each with the type at the same place. -/
  | record (names : List String) (types : List DataType)

/-- One value of a column. -/
inductive Cell where
  /-- A missing value. -/
  | null
  | bool (value : Bool)
  | int (value : Int)
  /-- A floating-point number, given by its bit pattern. -/
  | bits (pattern : Nat)
  | text (value : String)
  | bytes (value : List UInt8)
  | list (items : List Cell)
  /-- The values of the fields in their order. -/
  | record (fields : List Cell)

mutual
/-- Equality of types. -/
def DataType.same : DataType → DataType → Bool
  | .scalar a, .scalar b => a = b
  | .list a, .list b => a.same b
  | .record names types, .record names' types' => names = names' && DataType.sameAll types types'
  | _, _ => false

/-- Equality of lists of types. -/
def DataType.sameAll : List DataType → List DataType → Bool
  | [], [] => true
  | a :: as, b :: bs => a.same b && DataType.sameAll as bs
  | _, _ => false
end

instance : BEq DataType := ⟨DataType.same⟩

mutual
/-- Equality of cells, bit for bit. -/
def Cell.same : Cell → Cell → Bool
  | .null, .null => true
  | .bool a, .bool b => a = b
  | .int a, .int b => a = b
  | .bits a, .bits b => a = b
  | .text a, .text b => a = b
  | .bytes a, .bytes b => a = b
  | .list as, .list bs => Cell.sameAll as bs
  | .record as, .record bs => Cell.sameAll as bs
  | _, _ => false

/-- Equality of lists of cells. -/
def Cell.sameAll : List Cell → List Cell → Bool
  | [], [] => true
  | a :: as, b :: bs => a.same b && Cell.sameAll as bs
  | _, _ => false
end

instance : BEq Cell := ⟨Cell.same⟩

/-- A named and typed column. -/
structure Column where
  name : String
  type : DataType
  cells : List Cell
  deriving BEq

/-- A dataset in memory. -/
structure Frame where
  columns : List Column
  deriving BEq

namespace Frame

/-- The number of rows; a frame without columns has none. -/
def height (frame : Frame) : Nat := (frame.columns.head?.map (·.cells.length)).getD 0

/-- The number of columns. -/
def width (frame : Frame) : Nat := frame.columns.length

/-- The frame without its first row. -/
def dropFirst (frame : Frame) : Frame :=
  ⟨frame.columns.map fun column => { column with cells := column.cells.drop 1 }⟩

@[simp] theorem height_dropFirst (frame : Frame) : frame.dropFirst.height = frame.height - 1 := by
  cases h : frame.columns <;> simp [dropFirst, height, h]

end Frame
end RowDrop
