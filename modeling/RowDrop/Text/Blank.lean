import RowDrop.Text.Runs

/-!
# Blanks

The characters that only make room, and texts without blanks at their ends.
-/

namespace RowDrop.Text

/-- The runs of blanks. -/
def blanks : Runs := [
  (0x9, 0xD), (0x20, 0x20), (0x85, 0x85), (0xA0, 0xA0), (0x1680, 0x1680), (0x2000, 0x200A),
  (0x2028, 0x2029), (0x202F, 0x202F), (0x205F, 0x205F), (0x3000, 0x3000)]

/-- The character only makes room. -/
def isBlank (c : Char) : Bool := blanks.contains c

/-- The text without the blanks at both ends. -/
def trim (text : List Char) : List Char :=
  ((text.dropWhile isBlank).reverse.dropWhile isBlank).reverse

end RowDrop.Text
