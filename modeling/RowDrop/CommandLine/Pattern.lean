import RowDrop.Text.Alphanumeric
import RowDrop.Text.Blank
import RowDrop.Text.Digits

/-!
# Patterns

A filter may compare a field with a pattern, a regular expression. Here is only decided whether a
text is one. The text is read in single steps with a stack of the groups that are open. Counted
repetitions and named properties need braces, which a filter keeps for itself, so no pattern has
them; references to groups and word boundaries are refused.
-/

namespace RowDrop.CommandLine.Pattern

/-- The letters behind a backslash that stand for one character. -/
def namedCharacters : List (Char × Nat) :=
  [('a', 0x07), ('f', 0x0C), ('t', 0x09), ('n', 0x0A), ('r', 0x0D), ('v', 0x0B)]

/-- The letters of the general categories. -/
def isCategory (c : Char) : Bool := "CLMNPSZ".contains c.toUpper

/-- How many hexadecimal digits follow a letter behind a backslash. -/
def digitCount? : Char → Option Nat
  | 'x' => some 2
  | 'u' => some 4
  | 'U' => some 8
  | _ => none

/-- Reads a given number of hexadecimal digits. -/
def readHex? : (count : Nat) → (value : Nat) → List Char → Option (Nat × List Char)
  | 0, value, rest => some (value, rest)
  | _ + 1, _, [] => none
  | count + 1, value, c :: rest =>
    match Text.hexDigit? c with
    | some digit => readHex? count (value * 16 + digit) rest
    | none => none

/-- What stands behind a backslash. -/
inductive Escaped where
  /-- One character, by its number. -/
  | character (number : Nat)
  /-- A set of characters. -/
  | set
  /-- A place between characters. -/
  | place
  deriving DecidableEq, Repr

/-- Reads what stands behind a backslash. -/
def readEscaped? : List Char → Option (Escaped × List Char)
  | [] => none
  | c :: rest =>
    if let some count := digitCount? c then
      match readHex? count 0 rest with
      | some (number, rest) =>
        if number.isValidChar then some (.character number, rest) else none
      | none => none
    else if c = 'p' ∨ c = 'P' then
      match rest with
      | name :: rest => if isCategory name then some (.set, rest) else none
      | [] => none
    else if "dDsSwW".contains c then some (.set, rest)
    else if c = 'A' ∨ c = 'z' then some (.place, rest)
    else if let some number := namedCharacters.lookup c then some (.character number, rest)
    else if c.toNat < 0x80 ∧ !c.isAlphanum ∧ c ≠ '<' ∧ c ≠ '>' then
      some (.character c.toNat, rest)
    else none

/-- Leaves out blanks and comments, where a pattern is spaced out. -/
def skipBlanks (spaced : Bool) (text : List Char) : List Char :=
  if spaced then skip false text else text
where
  /-- Leaves out blanks, and what stands behind a hash up to the end of its line. -/
  skip : (comment : Bool) → List Char → List Char
    | _, [] => []
    | true, c :: rest => skip (c ≠ '\n') rest
    | false, c :: rest =>
      if c = '#' then skip true rest
      else if Text.isBlank c then skip false rest
      else c :: rest

/-- Reads one item of a set: a character or a smaller set. -/
def readItem? : List Char → Option (Escaped × List Char)
  | [] => none
  | '\\' :: rest =>
    match readEscaped? rest with
    | some (.place, _) => none
    | escaped => escaped
  | c :: rest => some (.character c.toNat, rest)

/-- Reads one item of a set, or two of them with a dash between them: the ends of a run. A dash at
the end of the set, or in front of another dash, stands for itself. -/
def readRange? (spaced : Bool) (text : List Char) : Option (List Char) := do
  let (first, rest) ← readItem? text
  match skipBlanks spaced rest with
  | '-' :: behind =>
    match skipBlanks spaced behind with
    | ']' :: _ | '-' :: _ => some ('-' :: behind)
    | behind =>
      match first, ← readItem? behind with
      | .character low, (.character high, rest) => if low ≤ high then some rest else none
      | _, _ => none
  | rest => some rest

/-- Reads the beginning of a set: a caret, dashes, and a bracket that stands for itself. -/
def openSet (spaced : Bool) (text : List Char) : List Char :=
  let text := skipBlanks spaced text
  let text := match text with
    | '^' :: rest => skipBlanks spaced rest
    | text => text
  match skipDashes text.length text with
  | (false, ']' :: rest) => rest
  | (_, text) => text
where
  /-- Leaves out dashes and says whether there were any. -/
  skipDashes : Nat → List Char → Bool × List Char
    | fuel + 1, '-' :: rest => (true, (skipDashes fuel (skipBlanks spaced rest)).2)
    | _, text => (false, text)

/-- Reads a set up to its closing bracket, where `depth` more are open around it. -/
def readSet? (spaced : Bool) : (fuel : Nat) → (depth : Nat) → List Char → Option (List Char)
  | 0, _, _ => none
  | fuel + 1, depth, text =>
    match skipBlanks spaced text with
    | [] => none
    | '[' :: rest => readSet? spaced fuel (depth + 1) (openSet spaced rest)
    | ']' :: rest =>
      match depth with
      | 0 => some rest
      | depth + 1 => readSet? spaced fuel depth rest
    | '&' :: '&' :: rest | '-' :: '-' :: rest | '~' :: '~' :: rest =>
      readSet? spaced fuel depth rest
    | text =>
      match readRange? spaced text with
      | some rest => readSet? spaced fuel depth rest
      | none => none

/-- What stands at the beginning of a group. -/
inductive Opening where
  /-- A group; it may have a name. -/
  | group (name : Option (List Char)) (spaced : Bool)
  /-- Switches for the rest of the group around it. -/
  | switches (spaced : Bool)

/-- Reads switches up to a colon or a parenthesis. `seen` holds those that have been read, with the
dash that turns off the ones behind it. -/
def readSwitches? (spaced : Bool) : (seen : List Char) → List Char → Option (Opening × List Char)
  | _, [] => none
  | seen, c :: rest =>
    if c = ':' ∨ c = ')' then
      if seen.head? = some '-' ∨ c = ')' ∧ seen = [] then none
      else
        let spaced := if 'x' ∈ seen then 'x' ∉ seen.takeWhile (· ≠ '-') ∨ '-' ∉ seen else spaced
        some (if c = ':' then .group none spaced else .switches spaced, rest)
    else if "imsUuRx-".contains c ∧ c ∉ seen then readSwitches? spaced (c :: seen) rest
    else none

/-- The characters of a name are fit for it. -/
def isName : List Char → Bool
  | [] => false
  | first :: rest =>
    (first = '_' || Text.isAlphanumeric first && !first.isDigit)
      && rest.all fun c => "_.[]".contains c || Text.isAlphanumeric c

/-- Reads the beginning of a group. -/
def readOpening? (spaced : Bool) (text : List Char) : Option (Opening × List Char) :=
  match skipBlanks spaced text with
  | '?' :: 'P' :: '<' :: rest | '?' :: '<' :: rest =>
    match rest.dropWhile (· ≠ '>') with
    | _ :: behind =>
      let name := rest.takeWhile (· ≠ '>')
      if isName name then some (.group (some name) spaced, behind) else none
    | [] => none
  | '?' :: rest => readSwitches? spaced [] rest
  | rest => some (.group none spaced, rest)

/-- What has been read of a pattern. -/
structure Reading where
  /-- The pattern is spaced out here. -/
  spaced : Bool
  /-- For each open group, whether the pattern is spaced out around it. -/
  around : List Bool
  /-- The names of groups. -/
  names : List (List Char)
  /-- There is something that can be repeated. -/
  repeatable : Bool

/-- Reads one step of a pattern, of which there is more. -/
def step? (reading : Reading) (c : Char) (rest : List Char) : Option (Reading × List Char) :=
  let read (rest : List Char) : Reading × List Char := ({ reading with repeatable := true }, rest)
  match c with
  | '(' =>
    match readOpening? reading.spaced rest with
    | some (.switches spaced, rest) => some ({ reading with spaced, repeatable := false }, rest)
    | some (.group name spaced, rest) =>
      if name.any (· ∈ reading.names) then none
      else
        some (⟨spaced, reading.spaced :: reading.around, name.toList ++ reading.names, false⟩, rest)
    | none => none
  | ')' =>
    match reading.around with
    | spaced :: around => some (⟨spaced, around, reading.names, true⟩, rest)
    | [] => none
  | '|' => some ({ reading with repeatable := false }, rest)
  | '[' => (readSet? reading.spaced rest.length 0 (openSet reading.spaced rest)).map read
  | '\\' => (readEscaped? rest).map fun (_, rest) => read rest
  | '*' | '+' | '?' =>
    if reading.repeatable then
      some (read (match rest with | '?' :: rest => rest | rest => rest))
    else none
  | '\x7b' => none
  | _ => some (read rest)

/-- The rest of a text completes a pattern. -/
def completes : (fuel : Nat) → Reading → List Char → Bool
  | 0, _, _ => false
  | fuel + 1, reading, text =>
    match skipBlanks reading.spaced text with
    | [] => reading.around.isEmpty
    | c :: rest =>
      match step? reading c rest with
      | some (reading, rest) => completes fuel reading rest
      | none => false

/-- The text is a pattern. -/
def isPattern (text : List Char) : Bool := completes (text.length + 1) ⟨false, [], [], false⟩ text

end RowDrop.CommandLine.Pattern
