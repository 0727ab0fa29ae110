import RowDrop.CommandLine.Pattern
import RowDrop.Environment
import RowDrop.Log
import RowDrop.Text.Digits
import RowDrop.Text.Split

/-!
# Filters of the log

A filter is a text of directives with commas between them. A directive is a level, or a target with
brackets and a level: it lets events through whose target begins with its own, up to the level's
detail. The brackets name a span, or in braces a field, which may be compared with a pattern. An
event stands in no span and has one field, its message. Of the directives that fit an event the one
with the longest target decides, and an event that none fits is left out.

The places of a directive's marks are counted in bytes from its first character that is not blank,
but its pieces are cut from the start of the directive, blanks included. A piece may therefore end
within a character; then the whole run is broken off.
-/

namespace RowDrop.CommandLine

/-- How much a directive lets through. -/
structure Directive where
  /-- The beginning of the targets that it is about. -/
  target : Option (List Char)
  /-- It is only about what happens in some spans. -/
  spans : Bool
  /-- The field that events must have. -/
  field : Option (List Char)
  /-- The greatest detail that it lets through; zero for nothing. -/
  detail : Nat
  deriving DecidableEq, Repr

/-- The directives of a filter. -/
structure Filter where
  directives : List Directive
  deriving DecidableEq, Repr

namespace Directive

/-- The directive for all events up to a level. -/
def ofLevel (level : Level) : Directive := ⟨none, false, none, level.detail⟩

/-- The details of the levels by name. -/
def levelNames : List (String × Nat) :=
  [("off", 0), ("error", 1), ("warn", 2), ("info", 3), ("debug", 4), ("trace", 5)]

/-- The greatest detail. -/
def allDetail : Nat := 5

/-- The number that digits stand for. -/
def number? (text : List Char) : Option Nat :=
  let digits := match text with
    | '+' :: rest => rest
    | text => text
  if digits = [] then none else Text.number? 10 digits

/-- The detail of a level, given by its number or its name in any mix of cases. -/
def detail? (text : List Char) : Option Nat :=
  match number? text with
  | some number =>
    if number ≤ allDetail then some number
    else none
  | none => levelNames.lookup (String.ofList (text.map Char.toLower))

/-- The characters with which a directive may begin, besides a bracket. -/
def opens (c : Char) : Bool := "-:_".contains c || Text.isAlphanumeric c

/-- Why a directive cannot be read. -/
inductive Fault where
  /-- It has no meaning. -/
  | refused
  /-- It is cut within a character. -/
  | brokenOff
  deriving DecidableEq, Repr

/-- The characters behind a number of bytes; none if a character lies across that place. -/
def dropBytes? : Nat → List Char → Option (List Char)
  | 0, text => some text
  | _ + 1, [] => none
  | bytes + 1, c :: rest =>
    if c.utf8Size ≤ bytes + 1 then dropBytes? (bytes + 1 - c.utf8Size) rest else none
termination_by _ text => text.length

/-- The first characters, up to a number of bytes; none if a character lies across that place. -/
def takeBytes? (bytes : Nat) (text : List Char) : Option (List Char) :=
  (dropBytes? bytes text).map fun rest => text.take (text.length - rest.length)

/-- The characters between two places. -/
def slice (text : List Char) (low high : Nat) : Except Fault (List Char) :=
  match dropBytes? low text, takeBytes? high text with
  | some _, some front =>
    match dropBytes? low front with
    | some piece => .ok piece
    | none => .error .brokenOff
  | _, _ => .error .brokenOff

/-- The characters from a place on. -/
def sliceFrom (text : List Char) (low : Nat) : Except Fault (List Char) :=
  match dropBytes? low text with
  | some piece => .ok piece
  | none => .error .brokenOff

/-- The digits and the point of a decimal number, and the power of ten behind them. -/
def isDecimal (text : List Char) : Bool :=
  let mantissa := text.takeWhile fun c => c ≠ 'e' && c ≠ 'E'
  let exponent := match text.dropWhile fun c => c ≠ 'e' && c ≠ 'E' with
    | _ :: '+' :: digits | _ :: '-' :: digits | _ :: digits => some digits
    | [] => none
  mantissa.any Char.isDigit && (mantissa.erase '.').all Char.isDigit
    && exponent.all fun digits => digits ≠ [] && digits.all Char.isDigit

/-- The text stands for a number, which may be infinite or none at all. -/
def isNumber (text : List Char) : Bool :=
  let text := match text with
    | '+' :: rest | '-' :: rest => rest
    | text => text
  isDecimal text
    || ["inf", "infinity", "nan"].contains (String.ofList (text.map Char.toLower))

/-- Cuts the text of a field into its name and what it is compared with. -/
def cutField (text : List Char) : List Char × Option (List Char) :=
  (text.takeWhile (· ≠ '='), match text.dropWhile (· ≠ '=') with
    | _ :: value => some (value.takeWhile (· ≠ '='))
    | [] => none)

/-- What comes next in a directive. -/
inductive Expecting where
  | start
  /-- A level or a target that begins at the start. -/
  | word
  /-- The name of a span, which begins at a place. -/
  | span (low : Nat)
  /-- A field, which begins at a place. -/
  | field (low : Nat)
  /-- The end of the brackets behind a field. -/
  | closing
  /-- An equals sign behind the brackets. -/
  | equals
  /-- A level, which begins at a place. -/
  | level (low : Nat)
  deriving DecidableEq, Repr

/-- A directive that has been read in part. -/
structure Reading where
  directive : Directive
  expecting : Expecting
  deriving DecidableEq, Repr

/-- Reads one character at its place in the directive without blanks; `part` is the directive with
blanks. -/
def Reading.step (part : List Char) (reading : Reading) (place : Nat) (c : Char) :
    Except Fault Reading :=
  let directive := reading.directive
  match reading.expecting, c with
  | .start, '[' => .ok { reading with expecting := .span (place + 1) }
  | .start, c => if opens c then .ok { reading with expecting := .word } else .error .refused
  | .word, '=' => do
    let target ← slice part 0 place
    return ⟨{ directive with target := some target }, .level (place + 1)⟩
  | .word, '[' => do
    let target ← slice part 0 place
    return ⟨{ directive with target := some target }, .span (place + 1)⟩
  | .span low, ']' => do
    discard <| slice part low place
    return ⟨{ directive with spans := true }, .equals⟩
  | .span low, '\x7b' => do
    let name ← slice part low place
    return ⟨{ directive with spans := name ≠ [] }, .field (place + 1)⟩
  | .field low, '\x7d' => do
    let text ← slice part low place
    let (name, value) := cutField text
    if text = [] ∨ value.any (fun value => !isNumber value && !Pattern.isPattern value) then
      .error .refused
    else
      return ⟨{ directive with spans := directive.spans || value.isSome, field := some name },
        .closing⟩
  | .closing, ']' => .ok { reading with expecting := .equals }
  | .equals, '=' => .ok { reading with expecting := .level (place + 1) }
  | .closing, _ | .equals, _ => .error .refused
  | .word, _ | .span _, _ | .field _, _ | .level _, _ => .ok reading

/-- Reads characters from a place on. -/
def Reading.steps (part : List Char) (reading : Reading) (place : Nat) :
    List Char → Except Fault Reading
  | [] => .ok reading
  | c :: rest =>
    match reading.step part place c with
    | .ok reading => reading.steps part (place + c.utf8Size) rest
    | .error fault => .error fault

/-- The directive that has been read when it ends. -/
def Reading.finish (part : List Char) (reading : Reading) : Except Fault Directive :=
  match reading.expecting with
  | .word =>
    match detail? part with
    | some detail => .ok { reading.directive with detail }
    | none => .ok { reading.directive with target := some part }
  | .level low => do
    let text ← sliceFrom part low
    if text = [] then return reading.directive
    else
      match detail? text with
      | some detail => return { reading.directive with detail }
      | none => .error .refused
  | .equals => .ok reading.directive
  | .start | .span _ | .field _ | .closing => .error .refused

/-- Reads one directive. -/
def parse (part : List Char) : Except Fault Directive := do
  let start : Reading := ⟨⟨none, false, none, allDetail⟩, .start⟩
  (← start.steps part 0 (Text.trim part)).finish part

/-- The name of the only field that an event has. -/
def eventField : List Char := "message".toList

/-- The directive fits events of a target. -/
def fits (directive : Directive) (target : String) : Bool :=
  !directive.spans && (directive.target.getD []).isPrefixOf target.toList
    && directive.field.all (· = eventField)

/-- How closely a directive fits: the length of its target counts first, where no target is less
than an empty one, and then whether it names a field. -/
def closeness (directive : Directive) : Nat :=
  let target := (directive.target.map fun target => target.length + 1).getD 0
  2 * target + directive.field.toList.length

end Directive

namespace Filter

/-- The filter of a text. A text without directives lets errors through. -/
def parse (text : String) : Except Directive.Fault Filter := do
  let directives ← ((Text.split ',' text.toList).filter (· ≠ [])).mapM Directive.parse
  return ⟨if directives = [] then [.ofLevel .error] else directives⟩

/-- The filter where none is given. -/
def standard : Filter := ⟨[.ofLevel .warn]⟩

/-- The variable that holds the filter. -/
def variableName : String := "RUST_LOG"

/-- The filter of the environment; the standard one if it has no meaning, and none if reading it is
broken off. -/
def ofEnvironment? (environment : Environment) : Option Filter :=
  match (environment.text? variableName).map parse with
  | some (.ok filter) => some filter
  | some (.error .brokenOff) => none
  | some (.error .refused) | none => some standard

/-- The directive that decides about a target: the one that fits most closely, and of equally close
ones the last. -/
def directiveFor? (filter : Filter) (target : String) : Option Directive :=
  (filter.directives.filter (·.fits target)).foldl (fun best directive =>
    match best with
    | some other =>
      if directive.closeness < other.closeness then best else some directive
    | none => some directive) none

/-- The event is let through. -/
def allows (filter : Filter) (event : Event) : Bool :=
  match filter.directiveFor? event.target with
  | some directive => event.level.detail ≤ directive.detail
  | none => false

end Filter
end RowDrop.CommandLine
