/-!
# Labels in the basic set

A label of a domain name with other characters is written in letters, digits and dashes: first its
basic characters, then where and which the others are, as numbers of a variable length whose
digits are letters and digits. How far the digits of a number reach adapts to the numbers before.
-/

namespace RowDrop.DomainName.Punycode

/-- How many digits there are. -/
def base : Nat := 36

/-- The number of the first character beyond the basic set. -/
def firstCode : Nat := 0x80

/-- The value of a digit. -/
def digitValue? (c : Char) : Option Nat :=
  if c.isDigit then some (c.toNat - '0'.toNat + 26)
  else if c.isLower then some (c.toNat - 'a'.toNat)
  else if c.isUpper then some (c.toNat - 'A'.toNat)
  else none

/-- The digit of a value below thirty-six. -/
def digit (value : Nat) : Char :=
  if value < 26 then Char.ofNat ('a'.toNat + value) else Char.ofNat ('0'.toNat + (value - 26))

/-- The bias of the first number. -/
def firstBias : Nat := 72

/-- The value from which on a digit is not the last one of its number, at a place that is given in
steps of the base. -/
def threshold (bias place : Nat) : Nat := min 26 (max 1 (base * (place + 1) - bias))

/-- Divides until a number is small, and counts the divisions in steps of the base. -/
def settle (delta : Nat) (steps : Nat) : Nat × Nat :=
  if 455 < delta then settle (delta / 35) (steps + base) else (delta, steps)
termination_by delta

/-- The bias after a number, when there are `count` characters. -/
def adapt (delta count : Nat) (first : Bool) : Nat :=
  let delta := if first then delta / 700 else delta / 2
  let (delta, steps) := settle (delta + delta / count) 0
  steps + 36 * delta / (delta + 38)

/-- The digits of a number. -/
def digits (bias place number : Nat) : List Char :=
  let limit := threshold bias place
  if number < limit then [digit number]
  else
    digit (limit + (number - limit) % (base - limit))
      :: digits bias (place + 1) ((number - limit) / (base - limit))
termination_by number
decreasing_by
  have h1 : 1 ≤ threshold bias place := by unfold threshold; omega
  exact Nat.lt_of_le_of_lt (Nat.div_le_self _ _) (by omega)

/-- What has been written so far. -/
structure Writing where
  /-- The digits. -/
  text : List Char
  bias : Nat
  /-- How many characters have been written. -/
  count : Nat
  /-- How far the next number has got. -/
  delta : Nat

/-- Writes where one character beyond the basic set stands, going through all characters of a
label; `code` is its number. -/
def writeCode (basic : Nat) (code : Nat) (writing : Writing) (c : Nat) : Writing :=
  if c < code then { writing with delta := writing.delta + 1 }
  else if c = code then
    { text := writing.text ++ digits writing.bias 0 writing.delta
      bias := adapt writing.delta (writing.count + 1) (writing.count = basic)
      count := writing.count + 1
      delta := 0 }
  else writing

/-- Writes all characters of a label with the given numbers, from the smallest to the greatest;
`next` is the smallest number that may still come. -/
def writeCodes (basic : Nat) (label : List Nat) : (next : Nat) → List Nat → Writing → Writing
  | _, [], writing => writing
  | next, code :: codes, writing =>
    let writing := { writing with
      delta := writing.delta + (code - next) * (writing.count + 1) }
    let writing := label.foldl (writeCode basic code) writing
    writeCodes basic label (code + 1) codes { writing with delta := writing.delta + 1 }

/-- Puts a number into an ascending list, once. -/
def insertCode (code : Nat) : List Nat → List Nat
  | [] => [code]
  | other :: rest =>
    if code < other then code :: other :: rest
    else if code = other then other :: rest
    else other :: insertCode code rest

/-- Writes a label. -/
def encode (label : List Char) : List Char :=
  let basic := label.filter (·.toNat < firstCode)
  let codes := (label.map (·.toNat)).filter (firstCode ≤ ·)
  let writing := writeCodes basic.length (label.map (·.toNat)) firstCode
    (codes.foldl (fun sorted code => insertCode code sorted) [])
    ⟨[], firstBias, basic.length, 0⟩
  if basic = [] then writing.text else basic ++ '-' :: writing.text

/-- What has been read so far. -/
structure Reading where
  /-- The characters. -/
  label : List Nat
  bias : Nat
  /-- The number of the character that comes next. -/
  code : Nat
  /-- Where the last character went, and behind it what the digits of the next number give. -/
  start : Nat
  place : Nat
  weight : Nat
  sum : Nat

/-- Reads one digit. -/
def readDigit (reading : Reading) (value : Nat) : Reading :=
  let sum := reading.sum + value * reading.weight
  let limit := threshold reading.bias reading.place
  if value < limit then
    let count := reading.label.length + 1
    let position := sum % count
    let code := reading.code + sum / count
    { label := reading.label.take position ++ code :: reading.label.drop position
      bias := adapt (sum - reading.start) count (reading.start = 0)
      code
      start := position + 1
      place := 0
      weight := 1
      sum := position + 1 }
  else
    { reading with place := reading.place + 1, weight := reading.weight * (base - limit), sum }

/-- Reads digits; none if one of them is none, or if the last number has no end. -/
def readDigits? (reading : Reading) : List Char → Option (List Nat)
  | [] => if reading.place = 0 then some reading.label else none
  | c :: rest =>
    match digitValue? c with
    | some value => readDigits? (readDigit reading value) rest
    | none => none

/-- Reads a label that is written in the basic set. -/
def decode? (text : List Char) : Option (List Char) := do
  let behind := (text.reverse.takeWhile (· ≠ '-')).reverse
  let front := text.take (text.length - behind.length - 1)
  let behind := if front = [] then text else behind
  let codes ← readDigits? ⟨front.map (·.toNat), firstBias, firstCode, 0, 0, 1, 0⟩ behind
  if codes.all (·.isValidChar) then some (codes.map Char.ofNat) else none

end RowDrop.DomainName.Punycode
