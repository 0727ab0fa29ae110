import RowDrop.DomainName.Ascii
import RowDrop.Store.Percent

/-!
# Hosts in addresses

A host is a number of the old or of the new kind, or a name. Numbers are brought into one form
each: four parts with points between them, or up to eight groups in brackets with colons between
them, where the longest run of zeros is left out. A name is a domain name where the scheme has
such, and any text otherwise.
-/

namespace RowDrop.Host

/-- Visible characters of the basic set. -/
def isGraphic (c : Char) : Bool := 0x20 < c.toNat && c.toNat < 0x7F

/-! ## Numbers of the old kind -/

/-- A part of a number: decimal, octal behind a zero, hexadecimal behind a zero and an `x`. -/
def part? : List Char → Option Nat
  | [] => none
  | '0' :: 'x' :: digits | '0' :: 'X' :: digits => Text.number? 16 digits
  | '0' :: c :: digits => Text.number? 8 (c :: digits)
  | digits => Text.number? 10 digits

/-- The parts of a host, without an empty one at its end. -/
def parts (host : List Char) : List (List Char) :=
  let parts := Text.split '.' host
  if 1 < parts.length ∧ parts.getLast? = some [] then parts.dropLast else parts

/-- The host is meant to be a number: its last part is one, or consists of digits. -/
def endsInNumber (host : List Char) : Bool :=
  (parts host).getLast?.any fun last =>
    last ≠ [] && (last.all Char.isDigit || (part? last).isSome)

/-- The four parts of a number with points between them. -/
def writeFour (number : Nat) : List Char :=
  Text.join '.' <| [24, 16, 8, 0].map fun shift => Nat.toDigits 10 (number >>> shift % 256)

/-- The number of a host. The last part stands for all that the others leave open. -/
def four? (host : List Char) : Option Nat := do
  let numbers ← (parts host).mapM part?
  let last ← numbers.getLast?
  let front := numbers.dropLast
  if 4 < numbers.length ∨ front.any (255 < ·) ∨ 0xFFFFFFFF >>> (8 * front.length) < last then none
  else
    some <| (front.zipIdx.map fun (part, place) => part <<< (8 * (3 - place))).foldl (· + ·) last

/-! ## Numbers of the new kind -/

/-- A group: one to four hexadecimal digits. -/
def group? (digits : List Char) : Option Nat :=
  if digits = [] ∨ 4 < digits.length then none else Text.number? 16 digits

/-- A decimal number below 256 without a zero in front. -/
def byte? (digits : List Char) : Option Nat := do
  if digits = [] ∨ 1 < digits.length ∧ digits.head? = some '0' then none
  else
    let value ← Text.number? 10 digits
    if value < 256 then some value else none

/-- The two groups that four decimal numbers stand for. -/
def dotted? (text : List Char) : Option (List Nat) := do
  match ← (Text.split '.' text).mapM byte? with
  | [a, b, c, d] => some [a * 256 + b, c * 256 + d]
  | _ => none

/-- The groups of a text with colons between them; the last one may be four decimal numbers. -/
def groups? (dotted : Bool) (text : List Char) : Option (List Nat) :=
  let pieces := Text.split ':' text
  match pieces.reverse with
  | [] => none
  | last :: front => do
    let behind ← if dotted ∧ '.' ∈ last then dotted? last else (group? last).map ([·])
    return (← front.reverse.mapM group?) ++ behind

/-- Cuts a text at the first two colons that follow each other. -/
def cutGap? : List Char → Option (List Char × List Char)
  | ':' :: ':' :: rest => some ([], rest)
  | c :: rest => (cutGap? rest).map fun (front, behind) => (c :: front, behind)
  | [] => none

/-- How many groups there are. -/
def groupCount : Nat := 8

/-- The eight groups of a text between brackets. A gap stands for at least one group of zero. -/
def eight? (text : List Char) : Option (List Nat) := do
  match cutGap? text with
  | none =>
    let groups ← groups? true text
    if groups.length = groupCount then some groups else none
  | some (front, behind) =>
    let front ← if front = [] then some [] else groups? false front
    let behind ← if behind = [] then some [] else groups? true behind
    let count := front.length + behind.length
    if count < groupCount then
      some (front ++ List.replicate (groupCount - count) 0 ++ behind)
    else none

/-- The length of the run of zeros at the beginning of some groups. -/
def zeros (groups : List Nat) : Nat := (groups.takeWhile (· = 0)).length

/-- The place and the length of the longest run of zeros, the first one of equals. -/
def longestZeros (groups : List Nat) : Nat × Nat :=
  (List.range groups.length).foldl (fun best place =>
    let length := zeros (groups.drop place)
    if best.2 < length then (place, length) else best) (0, 0)

/-- Groups with colons between them. -/
def joinGroups (groups : List Nat) : List Char := Text.join ':' (groups.map (Nat.toDigits 16))

/-- Eight groups between brackets, with a gap for the longest run of zeros if it has at least two
groups. -/
def writeEight (groups : List Nat) : List Char :=
  let (place, length) := longestZeros groups
  let written :=
    if length < 2 then joinGroups groups
    else joinGroups (groups.take place) ++ "::".toList ++ joinGroups (groups.drop (place + length))
  '[' :: written ++ [']']

/-- Reads what stands between brackets. -/
def bracketed? (text : List Char) : Option (List Char) :=
  if text.getLast? = some ']' then (eight? (text.drop 1).dropLast).map writeEight else none

/-! ## Names -/

/-- A character that no domain name in an address may hold. -/
def forbidden (c : Char) : Bool := c.toNat ≤ 0x20 || c.toNat = 0x7F || "%#/:<>?@[\\]^|".contains c

/-- The host of a scheme that has domain names. -/
def parse? (text : List Char) : Option (List Char) :=
  if text.head? = some '[' then bracketed? text
  else do
    let name ← DomainName.toAscii? (← Percent.decode? text)
    if name = [] ∨ name.any forbidden then none
    else if endsInNumber name then (four? name).map writeFour
    else some name

/-- A character that no other host may hold. -/
def forbiddenAnywhere (c : Char) : Bool := c = '\x00' || " #/:<>?@[\\]^|".contains c

/-- The host of any other scheme. -/
def parseAny? (text : List Char) : Option (List Char) :=
  if text.head? = some '[' then bracketed? text
  else if text = [] ∨ text.any forbiddenAnywhere then none
  else some (Percent.encode isGraphic text)

/-- The name of this machine itself. -/
def thisMachine : List Char := "localhost".toList

/-- The text is the letter of a drive. -/
def isDrive : List Char → Bool
  | [letter, mark] => letter.isAlpha && (mark = ':' || mark = '|')
  | _ => false

/-- The host of a file that lies on another machine. -/
def parseFile? (text : List Char) : Option (List Char) := do
  if text = [] ∨ isDrive text then none
  else
    let host ← parse? text
    if host = thisMachine then none else some host

end RowDrop.Host
