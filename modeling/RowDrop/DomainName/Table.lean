import RowDrop.Text.Digits
import RowDrop.Text.Split

/-!
# Tables of characters

The tables of the Unicode standard that domain names need are kept as text. An item is a run of
numbers, maybe with a step other than one, and maybe with what stands for its first number: `41`,
`41-5A`, `100-12E/2`, `41-5A>61`, `BC>31.2044.34`. All numbers are hexadecimal. The later numbers
of a run stand for values that are as much greater.
-/

namespace RowDrop.DomainName

/-- A run of numbers with its values. -/
structure Entry where
  first : Nat
  last : Nat
  step : Nat
  values : List Nat
  deriving DecidableEq, Repr

/-- The number that hexadecimal digits stand for. -/
def hexNumber (digits : List Char) : Nat := (Text.number? 16 digits).getD 0

namespace Entry

/-- The number in some pieces at a place, and another one if there is no such piece. -/
def numberAt (pieces : List (List Char)) (place : Nat) (other : Nat) : Nat :=
  (pieces[place]?.map hexNumber).getD other

/-- Reads an item of a table. -/
def ofItem (item : List Char) : Entry :=
  let sides := Text.split '>' item
  let run := Text.split '/' (sides.headD [])
  let ends := Text.split '-' (run.headD [])
  let first := numberAt ends 0 0
  { first
    last := numberAt ends 1 first
    step := numberAt run 1 1
    values := (sides[1]?.map fun values => (Text.split '.' values).map hexNumber).getD [] }

/-- The values of a number; none if it does not lie in the run. -/
def values? (entry : Entry) (number : Nat) : Option (List Nat) :=
  if entry.first ≤ number ∧ number ≤ entry.last ∧ (number - entry.first) % entry.step = 0 then
    some (entry.values.map (· + (number - entry.first)))
  else none

end Entry

/-- A table, in its order. -/
abbrev Table := List Entry

namespace Table

/-- Reads the lines of a table, with blanks between their items. -/
def ofLines (lines : List String) : Table :=
  lines.flatMap fun line => (Text.split ' ' line.toList).map Entry.ofItem

/-- The values of a character. -/
def values? (table : Table) (c : Char) : Option (List Nat) :=
  table.findSome? (·.values? c.toNat)

/-- The first value of a character, zero if there is none. -/
def value (table : Table) (c : Char) : Nat := ((table.values? c).getD []).headD 0

/-- The characters that the values of a character are the numbers of. -/
def characters? (table : Table) (c : Char) : Option (List Char) :=
  (table.values? c).map (·.map Char.ofNat)

/-- The table has the character. -/
def contains (table : Table) (c : Char) : Bool := (table.values? c).isSome

end Table
end RowDrop.DomainName
