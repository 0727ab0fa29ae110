import RowDrop.Decimal.Binary64

/-!
# The shortest decimal of a floating-point number

All reals in an interval round to one number. The shortest decimal is the one with the fewest
digits in that interval, and of those the nearest to the number. It is found by trying one digit,
two digits, and so on up to seventeen, each time with the two neighbours of the number on the
grid of that many digits.
-/

namespace RowDrop

/-- A decimal number: `digits * 10 ^ exponent`. -/
structure Decimal where
  digits : Nat
  exponent : Int
  deriving DecidableEq, Repr

namespace Decimal

/-- The decimal times a power of two is a quotient of whole numbers; gives them. -/
def quotient (decimal : Decimal) : Nat × Nat :=
  if 0 ≤ decimal.exponent then (decimal.digits * Nat.pow 10 decimal.exponent.toNat, 1)
  else (decimal.digits, Nat.pow 10 (-decimal.exponent).toNat)

/-- The decimal rounds to the number. -/
def reads (decimal : Decimal) (number : Binary64) : Bool :=
  Binary64.ofQuotient decimal.quotient.1 decimal.quotient.2 = some number

/-- The distance of a decimal from a number, as a quotient of whole numbers. -/
def distance (decimal : Decimal) (number : Binary64) : Nat × Nat :=
  let (a, b) := decimal.quotient
  let (c, d) := number.quotient
  ((a * d - c * b) + (c * b - a * d), b * d)

/-- How many decimal digits stand in front of the point of a quotient, less one; negative below
one. -/
def magnitude (num den : Nat) : Int :=
  if den ≤ num then ((Nat.toDigits 10 (num / den)).length : Int) - 1
  else
    let up := (Nat.toDigits 10 (den / num)).length
    if den ≤ num * Nat.pow 10 (up - 1) then -((up : Int) - 1) else -(up : Int)

/-- The decimal below a number on the grid with the given exponent. -/
def below (number : Binary64) (exponent : Int) : Decimal :=
  let (num, den) := number.quotient
  if 0 ≤ exponent then ⟨num / (den * Nat.pow 10 exponent.toNat), exponent⟩
  else ⟨num * Nat.pow 10 (-exponent).toNat / den, exponent⟩

/-- Of two neighbours on a grid, the one that reads back; the nearer one, or the even one, if both
do. -/
def pick (number : Binary64) (lower : Decimal) : Option Decimal :=
  let upper : Decimal := ⟨lower.digits + 1, lower.exponent⟩
  match lower.reads number, upper.reads number with
  | false, false => none
  | true, false => some lower
  | false, true => some upper
  | true, true =>
    let (a, b) := lower.distance number
    let (c, d) := upper.distance number
    if a * d < c * b ∨ a * d = c * b ∧ lower.digits % 2 = 0 then some lower else some upper

/-- A decimal without zeros at the end of its digits. -/
def trim : (fuel : Nat) → Decimal → Decimal
  | 0, decimal => decimal
  | fuel + 1, decimal =>
    if decimal.digits ≠ 0 ∧ decimal.digits % 10 = 0 then
      trim fuel ⟨decimal.digits / 10, decimal.exponent + 1⟩
    else decimal

/-- The shortest decimal that rounds to a number. -/
def shortest (number : Binary64) : Decimal :=
  if number.significand = 0 then ⟨0, 0⟩
  else
    let (num, den) := number.quotient
    let top := magnitude num den
    let found := (List.range 17).findSome? fun (i : Nat) => pick number (below number (top - i))
    trim 20 (found.getD ⟨0, 0⟩)

/-- Digits from left to right. -/
def digitChars (decimal : Decimal) : List Char := Nat.toDigits 10 decimal.digits

/-- The exponent of the first digit. -/
def leading (decimal : Decimal) : Int :=
  decimal.exponent + (decimal.digitChars.length : Int) - 1

/-- The smallest exponent of the first digit for which the point is written in place. -/
def leastPlain : Int := -5

/-- The greatest exponent of the first digit for which the point is written in place. -/
def greatestPlain : Int := 15

/-- A decimal as messages show it: with a point in place and at least one digit behind it for
moderate sizes, else with one digit before the point, if there are more, and an exponent with its
sign. -/
def text (decimal : Decimal) : String :=
  let chars := decimal.digitChars
  let leading := decimal.leading
  if decimal.digits = 0 then "0.0"
  else if leastPlain ≤ leading ∧ leading ≤ greatestPlain then
    if 0 ≤ decimal.exponent then
      String.ofList (chars ++ List.replicate decimal.exponent.toNat '0' ++ ['.', '0'])
    else if 0 ≤ leading then
      let whole := leading.toNat + 1
      String.ofList (chars.take whole ++ '.' :: chars.drop whole)
    else
      String.ofList ('0' :: '.' :: List.replicate (-leading).toNat.pred '0' ++ chars)
  else
    let fraction := chars.drop 1
    let body := if fraction = [] then chars else chars.take 1 ++ '.' :: fraction
    let sign := if leading < 0 then "-" else "+"
    String.ofList body ++ "e" ++ sign ++ toString leading.natAbs

end Decimal
end RowDrop
