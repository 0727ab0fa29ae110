import RowDrop.Text.Digits
import RowDrop.Text.Utf8

/-!
# Characters written by number

In an address a byte can be written by its number, behind a percent sign. Writing does so for all
characters that are not kept; reading takes the bytes back, and leaves a percent sign alone that
has no number behind it.
-/

namespace RowDrop.Percent

/-- The hexadecimal digit of a number below sixteen, in upper case. -/
def upperHex (value : Nat) : Char := (Nat.digitChar value).toUpper

/-- A byte written by its number. -/
def writeByte (byte : UInt8) : List Char :=
  ['%', upperHex (byte.toNat / 16), upperHex (byte.toNat % 16)]

/-- A character written by the numbers of its bytes. -/
def writeChar (c : Char) : List Char := (String.utf8EncodeChar c).flatMap writeByte

/-- Writes by number all characters that are not kept. -/
def encode (keep : Char → Bool) (text : List Char) : List Char :=
  text.flatMap fun c => if keep c then [c] else writeChar c

/-- The bytes of a text, with those that are written by number. -/
def bytes : List Char → List UInt8
  | '%' :: a :: b :: rest =>
    match Text.hexDigit? a, Text.hexDigit? b with
    | some high, some low => UInt8.ofNat (high * 16 + low) :: bytes rest
    | _, _ => String.utf8EncodeChar '%' ++ bytes (a :: b :: rest)
  | c :: rest => String.utf8EncodeChar c ++ bytes rest
  | [] => []

/-- Reads a text; none if the bytes are no text. -/
def decode? (text : List Char) : Option (List Char) := Utf8.decode? (bytes text)

end RowDrop.Percent
