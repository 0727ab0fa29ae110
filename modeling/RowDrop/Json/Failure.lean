import RowDrop.Decimal.Shortest
import RowDrop.Text.Quoted
import RowDrop.Text.Utf8

/-!
# Why a JSON text is refused

A record can be written unless it holds a path that is no text. A reader stops at the first
problem. It knows how much of the text it has not read yet; from that the line and the column
follow, where a column counts the bytes since the last line end. Some problems are blamed on what
has been read (`Fault.behind`), others on the character that comes next (`Fault.next`).
-/

namespace RowDrop.Json

/-- What a value turns out to be, where another kind of value is needed. -/
inductive Found where
  | null
  | bool (value : Bool)
  | integer (value : Int)
  /-- A number with a fraction or beyond the range of integers. -/
  | float (negative : Bool) (value : Binary64)
  | text (value : List Char)
  | list
  | record

/-- The kind of value as messages name it. -/
def Found.describe : Found → String
  | null => "null"
  | bool value => s!"boolean `{value}`"
  | integer value => s!"integer `{value}`"
  | float negative value =>
    let sign := if negative then "-" else ""
    "floating point `" ++ sign ++ (Decimal.shortest value).text ++ "`"
  | text value => "string " ++ Text.quoted (String.ofList value)
  | list => "sequence"
  | record => "map"

/-- What is wrong with a text. -/
inductive Problem where
  | endOfValue
  | endOfRecord
  | endOfList
  | endOfText
  | expectedValue
  | expectedWord
  | expectedColon
  | expectedRecordEnd
  | expectedListEnd
  | keyNotText
  | trailingComma
  | trailingCharacters
  | invalidNumber
  | numberOutOfRange
  | invalidEscape
  | loneSurrogate
  | unpairedEscape
  | controlCharacter
  /-- A value is of another kind than needed. -/
  | wrongKind (found : Found) (expected : String)
  /-- A field stands twice in a record. -/
  | duplicateField (name : String)
  /-- A name is none of those that are known. -/
  | unknownVariant (name : List Char) (known : List String)

/-- The problem as messages give it, without the place. -/
def Problem.text : Problem → String
  | endOfValue => "EOF while parsing a value"
  | endOfRecord => "EOF while parsing an object"
  | endOfList => "EOF while parsing a list"
  | endOfText => "EOF while parsing a string"
  | expectedValue => "expected value"
  | expectedWord => "expected ident"
  | expectedColon => "expected `:`"
  | expectedRecordEnd => "expected `,` or `\x7d`"
  | expectedListEnd => "expected `,` or `]`"
  | keyNotText => "key must be a string"
  | trailingComma => "trailing comma"
  | trailingCharacters => "trailing characters"
  | invalidNumber => "invalid number"
  | numberOutOfRange => "number out of range"
  | invalidEscape => "invalid escape"
  | loneSurrogate => "lone leading surrogate in hex escape"
  | unpairedEscape => "unexpected end of hex escape"
  | controlCharacter => "control character (\\u0000-\\u001F) found while parsing a string"
  | wrongKind found expected => "invalid type: " ++ found.describe ++ ", expected " ++ expected
  | duplicateField name => s!"duplicate field `{name}`"
  | unknownVariant name known =>
    "unknown variant `" ++ String.ofList name ++ "`, expected one of "
      ++ ", ".intercalate (known.map fun other => s!"`{other}`")

/-- A problem and the number of bytes behind the place that is blamed. -/
structure Fault where
  problem : Problem
  left : Nat

/-- Blames what has been read, where `rest` is still to be read. -/
def Fault.behind (problem : Problem) (rest : List Char) : Fault := ⟨problem, Utf8.size rest⟩

/-- Blames the first byte of what is still to be read, or the end of the text if nothing is. -/
def Fault.next (problem : Problem) (rest : List Char) : Fault := ⟨problem, Utf8.size rest - 1⟩

/-- Why a record cannot be read or written. -/
inductive Failure where
  /-- A problem and its place in the text: the line from one on, and in it the column in bytes, zero
  right behind a line end. -/
  | refused (problem : Problem) (line column : Nat)
  /-- A path that is to be written is no text. -/
  | pathNotText

/-- The byte that ends a line. -/
def lineEnd : UInt8 := 0x0A

/-- How many line ends stand in some bytes, and how many bytes stand behind the last one. -/
def place (bytes : List UInt8) : Nat × Nat :=
  (bytes.count lineEnd, (bytes.reverse.takeWhile (· ≠ lineEnd)).length)

/-- The place of a fault in the text that was read. -/
def Fault.locate (fault : Fault) (text : List Char) : Failure :=
  let bytes := Utf8.encode text
  let (ends, column) := place (bytes.take (bytes.length - fault.left))
  .refused fault.problem (ends + 1) column

/-- The failure as messages give it. -/
def Failure.text : Failure → String
  | refused problem line column => s!"{problem.text} at line {line} column {column}"
  | pathNotText => "path contains invalid UTF-8 characters"

end RowDrop.Json
