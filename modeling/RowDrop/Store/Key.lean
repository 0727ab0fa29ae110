import RowDrop.Text.Split

/-!
# Object keys

A key is used as it is given or refused. A slash at either end is left out of the object's name;
between slashes stand segments, none of which may be empty, `.`, `..` or hold a control character.
-/

namespace RowDrop

/-- Why a key is refused. -/
inductive KeyError where
  /-- A segment is empty. -/
  | emptySegment (key : String)
  /-- A segment is not allowed, because of the given characters in it. -/
  | badSegment (key segment sequence : String)
  deriving DecidableEq, Repr

/-- The reason as messages give it. -/
def KeyError.text : KeyError → String
  | emptySegment key => "Path \"" ++ key ++ "\" contained empty path segment"
  | badSegment key segment sequence =>
    "Error parsing Path \"" ++ key ++ "\": Encountered illegal character sequence \"" ++ sequence
      ++ "\" whilst parsing path segment \"" ++ segment ++ "\""

namespace ObjectKey

/-- Leaves out a slash at the front. -/
def dropLeading : List Char → List Char
  | '/' :: rest => rest
  | key => key

/-- Leaves out a slash at the end. -/
def dropTrailing (key : List Char) : List Char :=
  if key.getLast? = some '/' then key.dropLast else key

/-- The characters that no segment may hold. -/
def isControl (c : Char) : Bool := c.toNat < 0x20 || c.toNat = 0x7F

/-- The part of a segment for which it is refused. -/
def offence? (segment : List Char) : Option (List Char) :=
  if segment = ['.'] ∨ segment = ['.', '.'] then some segment
  else (segment.find? isControl).map ([·])

/-- Why a segment of a key is refused. -/
def refusal? (key : String) (segment : List Char) : Option KeyError :=
  if segment = [] then some (.emptySegment key)
  else
    (offence? segment).map fun sequence =>
      .badSegment key (String.ofList segment) (String.ofList sequence)

/-- The name of the object that a key stands for, or the first reason to refuse the key. -/
def name (key : String) : Except KeyError String :=
  let stripped := dropLeading key.toList
  if stripped = [] then .ok ""
  else
    let stripped := dropTrailing stripped
    match (Text.split '/' stripped).findSome? (refusal? key) with
    | some error => .error error
    | none => .ok (String.ofList stripped)

end ObjectKey
end RowDrop
