import RowDrop.Json.Failure

/-!
# Numbers of JSON

A number that nobody needs is only passed over (`passNumber`). Where another kind of value was
expected the number itself goes into the message, so it is read: whole numbers of 64 bits stay
whole, all others become floating-point numbers. Digits that no longer fit into 64 bits are not
kept; in the whole part each of them counts as one power of ten.
-/

namespace RowDrop.Json

/-- The value of a decimal digit. -/
def digit? (c : Char) : Option Nat :=
  if '0' ≤ c ∧ c ≤ '9' then some (c.toNat - '0'.toNat) else none

/-- The character is a decimal digit. -/
def isDigit (c : Char) : Bool := (digit? c).isSome

/-- The letter in front of an exponent. -/
def isExponentMark (c : Char) : Bool := c = 'e' || c = 'E'

/-- The first number that does not fit into 64 bits. -/
def wordLimit : Nat := UInt64.size

/-- The greatest exponent that can be written. -/
def exponentLimit : Nat := 0x7FFFFFFF

/-- Appends digits to a number while it fits into 64 bits. Gives the number, how many digits were
appended, and what stands behind them. -/
def absorb (value : Nat) : List Char → Nat × Nat × List Char
  | [] => (value, 0, [])
  | c :: rest =>
    match digit? c with
    | none => (value, 0, c :: rest)
    | some digit =>
      if value * 10 + digit < wordLimit then
        let (value, taken, rest) := absorb (value * 10 + digit) rest
        (value, taken + 1, rest)
      else (value, 0, c :: rest)

/-- What stands behind the digits at the front. -/
def skipDigits (cs : List Char) : List Char := cs.dropWhile isDigit

/-- How many digits stand at the front. -/
def countDigits (cs : List Char) : Nat := (cs.takeWhile isDigit).length

/-- A floating-point number of a significand and an exponent. -/
def finishFloat (negative : Bool) (significand : Nat) (exponent : Int) (rest : List Char) :
    Except Fault (Found × List Char) :=
  match Binary64.scaled significand exponent with
  | some value => .ok (.float negative value, rest)
  | none => .error (.behind .numberOutOfRange rest)

/-- Appends digits to an exponent while it stays within the limit. Gives the exponent and what
stands behind it, or what stands behind the digit that went too far. -/
def absorbExponent (value : Nat) : List Char → Except (List Char) (Nat × List Char)
  | [] => .ok (value, [])
  | c :: rest =>
    match digit? c with
    | none => .ok (value, c :: rest)
    | some digit =>
      if value * 10 + digit ≤ exponentLimit then absorbExponent (value * 10 + digit) rest
      else .error rest

/-- Reads the sign of an exponent; gives whether it is negative. -/
def readSign : List Char → Bool × List Char
  | [] => (false, [])
  | c :: rest => if c = '+' then (false, rest) else if c = '-' then (true, rest)
    else (false, c :: rest)

/-- Reads an exponent behind its letter and finishes the number. -/
def readExponent (negative : Bool) (significand : Nat) (shift : Int) (cs : List Char) :
    Except Fault (Found × List Char) :=
  let (down, cs) := readSign cs
  match cs with
  | [] => .error (.behind .endOfValue [])
  | c :: _ =>
    if isDigit c then
      match absorbExponent 0 cs with
      | .ok (exponent, rest) =>
        finishFloat negative significand (if down then shift - exponent else shift + exponent) rest
      | .error rest =>
        if significand ≠ 0 ∧ !down then .error (.behind .numberOutOfRange rest)
        else .ok (.float negative .zero, skipDigits rest)
    else .error (.next .invalidNumber cs)

/-- Reads what may stand behind the digits of a number and finishes it. -/
def readTail (negative : Bool) (significand : Nat) (shift : Int) (cs : List Char) :
    Except Fault (Found × List Char) :=
  match cs with
  | [] => finishFloat negative significand shift []
  | c :: rest =>
    if isExponentMark c then readExponent negative significand shift rest
    else finishFloat negative significand shift cs

/-- Reads the digits behind a decimal point and finishes the number. -/
def readFraction (negative : Bool) (significand : Nat) (shift : Int) (cs : List Char) :
    Except Fault (Found × List Char) :=
  let (significand, taken, rest) := absorb significand cs
  if taken = 0 ∧ countDigits rest = 0 then
    .error (.next (if rest = [] then .endOfValue else .invalidNumber) rest)
  else readTail negative significand (shift - taken) (skipDigits rest)

/-- A whole number that fits into 64 bits. Minus zero and numbers below the least signed one
become floating-point numbers. -/
def wholeNumber (negative : Bool) (value : Nat) : Found :=
  if !negative then .integer value
  else if value = 0 ∨ wordLimit / 2 < value then .float true (.ofNat value)
  else .integer (-value)

/-- Reads what stands behind the whole digits. -/
def readPoint (negative : Bool) (significand : Nat) (dropped : Nat) (cs : List Char) :
    Except Fault (Found × List Char) :=
  match cs with
  | '.' :: rest => readFraction negative significand dropped rest
  | _ =>
    if dropped = 0 ∧ !(cs.head?.any isExponentMark) then
      .ok (wholeNumber negative significand, cs)
    else readTail negative significand dropped cs

/-- Reads a number whose sign has been read. -/
def readNumber (negative : Bool) (cs : List Char) : Except Fault (Found × List Char) :=
  match cs with
  | [] => .error (.behind .endOfValue [])
  | c :: rest =>
    if !isDigit c then .error (.next .invalidNumber cs)
    else if c = '0' then
      if rest.head?.any isDigit then .error (.next .invalidNumber rest)
      else readPoint negative 0 0 rest
    else
      let (significand, _, rest) := absorb 0 cs
      readPoint negative significand (countDigits rest) (skipDigits rest)

/-- Passes over an exponent behind its letter. -/
def passExponent (cs : List Char) : Except Fault (List Char) :=
  let (_, cs) := readSign cs
  if cs.head?.any isDigit then .ok (skipDigits cs) else .error (.next .invalidNumber cs)

/-- Passes over what may stand behind the digits of a number. -/
def passTail (cs : List Char) : Except Fault (List Char) :=
  match cs with
  | [] => .ok []
  | c :: rest => if isExponentMark c then passExponent rest else .ok cs

/-- Passes over what stands behind the whole digits. -/
def passPoint (cs : List Char) : Except Fault (List Char) :=
  match cs with
  | '.' :: rest =>
    if rest.head?.any isDigit then passTail (skipDigits rest)
    else .error (.next .invalidNumber rest)
  | _ => passTail cs

/-- Passes over a number whose sign has been read. -/
def passNumber (cs : List Char) : Except Fault (List Char) :=
  match cs with
  | [] => .error (.behind .invalidNumber [])
  | c :: rest =>
    if !isDigit c then .error (.next .invalidNumber cs)
    else if c = '0' then
      if rest.head?.any isDigit then .error (.next .invalidNumber rest) else passPoint rest
    else passPoint (skipDigits rest)

end RowDrop.Json
