/-!
# Writing JSON

Texts stand between double quotes. Only the quote, the backslash and the characters below the
space are escaped: five of them by a letter, the others by four hexadecimal digits.
-/

namespace RowDrop.Json

/-- The hexadecimal digit of a number below sixteen, in lower case. -/
def hexChar (value : Nat) : Char := Nat.digitChar value

/-- How one character stands in a text. -/
def writtenChar (c : Char) : List Char :=
  if c = '"' then ['\\', '"']
  else if c = '\\' then ['\\', '\\']
  else if c = '\x08' then ['\\', 'b']
  else if c = '\t' then ['\\', 't']
  else if c = '\n' then ['\\', 'n']
  else if c = '\x0C' then ['\\', 'f']
  else if c = '\r' then ['\\', 'r']
  else if c.toNat < 0x20 then
    ['\\', 'u', '0', '0', hexChar (c.toNat / 16), hexChar (c.toNat % 16)]
  else [c]

/-- A text between quotes. -/
def writeText (text : String) : List Char :=
  '"' :: text.toList.flatMap writtenChar ++ ['"']

/-- A value, or null if there is none. -/
def writeOptional {α : Type} (write : α → List Char) : Option α → List Char
  | some value => write value
  | none => ['n', 'u', 'l', 'l']

/-- A truth value. -/
def writeBool (value : Bool) : List Char :=
  if value then ['t', 'r', 'u', 'e'] else ['f', 'a', 'l', 's', 'e']

/-- A record of named values, without blanks. -/
def writeRecord (members : List (String × List Char)) : List Char :=
  let written := members.map fun (name, value) => writeText name ++ ':' :: value
  '\x7b' :: List.intercalate [','] written ++ ['\x7d']

end RowDrop.Json
