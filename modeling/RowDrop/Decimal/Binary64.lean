/-!
# Binary floating-point numbers of 64 bits

The finite numbers without their sign, each a significand times a power of two. Every single sum,
product and quotient is rounded to the nearest number, and of two equally near ones to the one with
the even significand.
-/

namespace RowDrop

/-- A finite number without its sign: `significand * 2 ^ exponent`. -/
structure Binary64 where
  significand : Nat
  exponent : Int
  deriving DecidableEq, Repr

namespace Binary64

/-- The least exponent. -/
def leastExponent : Int := -1074

/-- The greatest exponent. -/
def greatestExponent : Int := 971

/-- How many bits a significand has. -/
def precision : Nat := 53

/-- Zero. -/
def zero : Binary64 := ⟨0, leastExponent⟩

/-- A quotient rounded to a whole number, a half to the even neighbour. -/
def divideEven (num den : Nat) : Nat :=
  let below := num / den
  let twice := 2 * (num % den)
  if twice < den ∨ twice = den ∧ below % 2 = 0 then below else below + 1

/-- The quotient `num / (den * 2 ^ exponent)` rounded to a whole number. -/
def significandAt (num den : Nat) (exponent : Int) : Nat :=
  if 0 ≤ exponent then divideEven num (den <<< exponent.toNat)
  else divideEven (num <<< (-exponent).toNat) den

/-- The exponent at which the whole part of a quotient has as many bits as a significand, but none
below the least one. -/
def exponentOf (num den : Nat) : Int :=
  let guess : Int := num.log2 - den.log2 - precision
  let tooSmall : Bool :=
    if 0 ≤ guess then den <<< (guess.toNat + precision) ≤ num
    else den <<< precision ≤ num <<< (-guess).toNat
  max leastExponent (if tooSmall then guess + 1 else guess)

/-- The number nearest to a quotient; none if the quotient is beyond the greatest number. -/
def ofQuotient (num den : Nat) : Option Binary64 :=
  if num = 0 then some zero
  else
    let exponent := exponentOf num den
    let significand := significandAt num den exponent
    let rounded : Binary64 :=
      if significand = 1 <<< precision then ⟨1 <<< (precision - 1), exponent + 1⟩
      else ⟨significand, exponent⟩
    if greatestExponent < rounded.exponent then none else some rounded

/-- Two whole numbers with the value of the number as their quotient. -/
def quotient (number : Binary64) : Nat × Nat :=
  if 0 ≤ number.exponent then (number.significand <<< number.exponent.toNat, 1)
  else (number.significand, 1 <<< (-number.exponent).toNat)

/-- The number nearest to a whole number below `2 ^ 64`. -/
def ofNat (value : Nat) : Binary64 := (ofQuotient value 1).getD zero

/-- The greatest power of ten that is a number. -/
def greatestPower : Nat := 308

/-- The number nearest to a power of ten up to the greatest one. -/
def powerOfTen (exponent : Nat) : Binary64 := (ofQuotient (Nat.pow 10 exponent) 1).getD zero

/-- The rounded product; none if it is too large. -/
def multiply (a b : Binary64) : Option Binary64 :=
  ofQuotient (a.quotient.1 * b.quotient.1) (a.quotient.2 * b.quotient.2)

/-- The rounded quotient by a number that is not zero. -/
def divide (a b : Binary64) : Binary64 :=
  (ofQuotient (a.quotient.1 * b.quotient.2) (a.quotient.2 * b.quotient.1)).getD zero

/-- The rounded sum of two numbers that are not too large for it. -/
def add (a b : Binary64) : Binary64 :=
  (ofQuotient (a.quotient.1 * b.quotient.2 + b.quotient.1 * a.quotient.2)
    (a.quotient.2 * b.quotient.2)).getD zero

/-- The first is smaller than the second. -/
def less (a b : Binary64) : Bool := a.quotient.1 * b.quotient.2 < b.quotient.1 * a.quotient.2

/-- Divides by a power of ten, in steps of the greatest power. -/
def shrink (number : Binary64) (exponent : Nat) : Binary64 :=
  if exponent ≤ greatestPower then number.divide (powerOfTen exponent)
  else if number = zero then zero
  else shrink (number.divide (powerOfTen greatestPower)) (exponent - greatestPower)
termination_by exponent
decreasing_by
  simp [greatestPower] at *
  omega

/-- The number that stands for a whole number below `2 ^ 64` times a power of ten. It is reached
in rounded steps and therefore not always the nearest one. None if it is too large. -/
def scaled (significand : Nat) (exponent : Int) : Option Binary64 :=
  if exponent < 0 then some ((ofNat significand).shrink exponent.natAbs)
  else if exponent.toNat ≤ greatestPower then
    (ofNat significand).multiply (powerOfTen exponent.toNat)
  else if significand = 0 then some zero
  else none

end Binary64
end RowDrop
