import RowDrop.Json.Failure
import RowDrop.Text.Digits

/-!
# Words, blanks and texts of JSON

Readers of the smallest parts. Each takes the characters that are still to be read and gives the
part with the characters behind it. A text is read up to its closing quote; `textFrom` walks along
the characters and leaves out those that belong to an escape it has already read.
-/

namespace RowDrop.Json

/-- Characters that may stand between the parts of a JSON text. -/
def isBlank (c : Char) : Bool := c = ' ' || c = '\n' || c = '\t' || c = '\r'

/-- What stands behind the blanks at the front. -/
def skipBlanks (cs : List Char) : List Char := cs.dropWhile isBlank

/-- Reads the given letters, of which a value's first letter is not one any more. -/
def readWord : (letters : List Char) → List Char → Except Fault (List Char)
  | [], rest => .ok rest
  | _ :: _, [] => .error (.behind .endOfValue [])
  | letter :: letters, c :: rest =>
    if c = letter then readWord letters rest else .error (.next .expectedWord (c :: rest))

/-- The number in the four digits at the front. With fewer than four bytes left the text ends too
early. -/
def readHex (cs : List Char) : Except Fault Nat :=
  if Utf8.size (cs.take 4) < 4 then .error (.behind .endOfText [])
  else
    match Text.number? 16 (cs.take 4) with
    | some value => .ok value
    | none => .error ⟨.invalidEscape, Utf8.size cs - 4⟩

/-- The first half of a pair of surrogates. -/
def isLeading (code : Nat) : Bool := 0xD800 ≤ code && code ≤ 0xDBFF

/-- The second half of a pair of surrogates. -/
def isTrailing (code : Nat) : Bool := 0xDC00 ≤ code && code ≤ 0xDFFF

/-- The character of a pair of surrogates. -/
def joinPair (leading trailing : Nat) : Char :=
  Char.ofNat ((leading - 0xD800) * 0x400 + (trailing - 0xDC00) + 0x10000)

/-- The second half of a pair, given what stands behind the first half. -/
def readSecondHalf (leading : Nat) : List Char → Except Fault Char
  | '\\' :: 'u' :: rest => do
    let code ← readHex rest
    if isTrailing code then .ok (joinPair leading code)
    else .error (.behind .loneSurrogate (rest.drop 4))
  | ['\\'] => .error (.behind .endOfText [])
  | '\\' :: c :: rest => .error (.next .unpairedEscape (c :: rest))
  | [] => .error (.behind .endOfText [])
  | c :: rest => .error (.next .unpairedEscape (c :: rest))

/-- The character of an escape with hexadecimal digits, and how many characters it takes behind
the letter `u`. -/
def readCode (cs : List Char) : Except Fault (Char × Nat) := do
  let code ← readHex cs
  if isTrailing code then .error (.behind .loneSurrogate (cs.drop 4))
  else if isLeading code then return (← readSecondHalf code (cs.drop 4), 10)
  else return (Char.ofNat code, 4)

/-- The character that a letter behind a backslash stands for. -/
def shortEscape? (c : Char) : Option Char :=
  if c = '"' then some '"'
  else if c = '\\' then some '\\'
  else if c = '/' then some '/'
  else if c = 'b' then some '\x08'
  else if c = 'f' then some '\x0C'
  else if c = 'n' then some '\n'
  else if c = 'r' then some '\r'
  else if c = 't' then some '\t'
  else none

/-- The character of an escape, and how many characters it takes behind the backslash. -/
def readEscape : List Char → Except Fault (Char × Nat)
  | [] => .error (.behind .endOfText [])
  | c :: rest =>
    match shortEscape? c with
    | some meant => .ok (meant, 1)
    | none =>
      if c = 'u' then do
        let (meant, taken) ← readCode rest
        return (meant, taken + 1)
      else .error (.next .invalidEscape (c :: rest))

/-- Characters that may not stand in a text as they are. -/
def isControl (c : Char) : Bool := c.toNat < 0x20

/-- Reads a text up to its closing quote, where the first `taken` characters belong to an escape
that has been read. -/
def textFrom : (taken : Nat) → List Char → Except Fault (List Char × List Char)
  | _, [] => .error (.behind .endOfText [])
  | taken + 1, _ :: rest => textFrom taken rest
  | 0, c :: rest =>
    if c = '"' then .ok ([], rest)
    else if c = '\\' then do
      let (meant, taken) ← readEscape rest
      let (text, rest) ← textFrom taken rest
      return (meant :: text, rest)
    else if isControl c then .error (.next .controlCharacter (c :: rest))
    else do
      let (text, rest) ← textFrom 0 rest
      return (c :: text, rest)

/-- Reads a text whose opening quote has been read. -/
def readText (cs : List Char) : Except Fault (List Char × List Char) := textFrom 0 cs

/-- How many characters an escape takes behind the backslash, where halves of pairs need no
partner. -/
def skipEscape : List Char → Except Fault Nat
  | [] => .error (.behind .endOfText [])
  | c :: rest =>
    match shortEscape? c with
    | some _ => .ok 1
    | none =>
      if c = 'u' then do
        discard <| readHex rest
        return 5
      else .error (.next .invalidEscape (c :: rest))

/-- Passes over a text up to its closing quote, where the first `taken` characters belong to an
escape that has been passed. -/
def passFrom : (taken : Nat) → List Char → Except Fault (List Char)
  | _, [] => .error (.behind .endOfText [])
  | taken + 1, _ :: rest => passFrom taken rest
  | 0, c :: rest =>
    if c = '"' then .ok rest
    else if c = '\\' then do
      let taken ← skipEscape rest
      passFrom taken rest
    else if isControl c then .error (.behind .controlCharacter (c :: rest))
    else passFrom 0 rest

/-- Passes over a text whose opening quote has been read. -/
def passText (cs : List Char) : Except Fault (List Char) := passFrom 0 cs

end RowDrop.Json
