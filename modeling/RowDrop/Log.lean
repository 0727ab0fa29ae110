import RowDrop.Path

/-!
# Log events

What is worth a line in the log: an event has a level, the module it comes from, and a text. The
number of bytes in a copy depends on how frames are encoded, which is left open; the letter `N`
stands for it.
-/

namespace RowDrop

/-- How important an event is. -/
inductive Level where
  | error
  | warn
  | info
  | debug
  | trace
  deriving DecidableEq, Repr

namespace Level

/-- The place of a level in the order of detail, from one for errors only. -/
def detail : Level → Nat
  | error => 1
  | warn => 2
  | info => 3
  | debug => 4
  | trace => 5

/-- The name of a level in a line of the log. -/
def name : Level → String
  | error => "ERROR"
  | warn => "WARN"
  | info => "INFO"
  | debug => "DEBUG"
  | trace => "TRACE"

end Level

/-- What happened. -/
inductive Event where
  /-- The command line names no dataset. -/
  | noPath
  | loaded (path : Path) (rows columns : Nat)
  | saved (path : Path) (rows columns : Nat)
  | backedUp (target : Path)
  | restored (path source : Path)
  | downloaded (object : String) (target : Path)
  | uploaded (source : Path) (object : String)
  | dropped (name : String) (rows : Nat)
  | undone (path : Path)
  | undoneObject (object : String) (staging : Path)
  deriving DecidableEq, Repr

namespace Event

/-- How important the event is. -/
def level : Event → Level
  | noPath => .warn
  | loaded .. | saved .. | backedUp _ | restored .. => .debug
  | downloaded .. | uploaded .. | dropped .. | undone _ | undoneObject .. => .info

/-- The module from which the event comes. -/
def target : Event → String
  | noPath => "delete_first_row"
  | loaded .. | saved .. => "parquet_mutator::dataset"
  | backedUp _ | restored .. => "parquet_mutator::storage"
  | downloaded .. | uploaded .. => "parquet_mutator::remote"
  | dropped .. | undone _ | undoneObject .. => "parquet_mutator::mutator"

/-- The number of rows and columns. -/
def shape (rows columns : Nat) : String := s!"({rows}, {columns})"

/-- The text of the event. -/
def text : Event → String
  | noPath => "Path is not set"
  | loaded path rows columns => s!"Loaded {path.display} with shape {shape rows columns}"
  | saved path rows columns => s!"Saved df of size {shape rows columns} to {path.display}"
  | backedUp target => s!"Backed up N bytes to {target.display}"
  | restored path source => s!"Restored {path.display} from {source.display}"
  | downloaded object target => s!"Downloaded {object} (N bytes) to {target.display}"
  | uploaded source object => s!"Uploaded {source.display} (N bytes) to {object}"
  | dropped name rows => s!"Deleted first row of {name}, {rows} rows left"
  | undone path => s!"Reverted {path.display}"
  | undoneObject object staging => s!"Reverted {object} from {staging.display}"

/-- The characters with which a text could steer a terminal, each with the way it is written. The
range from `80` to `9f` is treated like them. -/
def steering : List (Char × String) :=
  [('\x1B', "\\x1b"), ('\x07', "\\x07"), ('\x08', "\\x08"), ('\x0C', "\\x0c"), ('\x7F', "\\x7f")]

/-- How one character stands in the log. -/
def logged (c : Char) : List Char :=
  match steering.lookup c with
  | some written => written.toList
  | none =>
    if 0x80 ≤ c.toNat ∧ c.toNat ≤ 0x9F then
      ['\\', 'u', '\x7b'] ++ Nat.toDigits 16 c.toNat ++ ['\x7d']
    else [c]

/-- The line of the event in the log. -/
def line (event : Event) : String :=
  s!"{event.level.name} {event.target}: " ++ String.ofList (event.text.toList.flatMap logged)

end Event
end RowDrop
