import RowDrop.Text.Printable

/-!
# Quoted text

A text inside a message stands between double quotes. Quotes and backslashes get a backslash,
line ends, tabs and the zero character their letters, and all other characters that do not show
by themselves their number in hexadecimal digits.
-/

namespace RowDrop.Text

/-- How one character stands between quotes. -/
def quotedChar (c : Char) : List Char :=
  if c = '"' then ['\\', '"']
  else if c = '\\' then ['\\', '\\']
  else if c = '\n' then ['\\', 'n']
  else if c = '\r' then ['\\', 'r']
  else if c = '\t' then ['\\', 't']
  else if c = '\x00' then ['\\', '0']
  else if showsItself c then [c]
  else ['\\', 'u', '\x7b'] ++ Nat.toDigits 16 c.toNat ++ ['\x7d']

/-- A text between double quotes. -/
def quoted (text : String) : String :=
  String.ofList ('"' :: text.toList.flatMap quotedChar ++ ['"'])

end RowDrop.Text
