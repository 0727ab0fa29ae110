import RowDrop.Json.Value

/-!
# Records with known fields

A record is read into a value that starts with the defaults: every known field lays its value on
top, and fields that are not known are passed over. No known field may stand twice. The same
record can be written as a list of the values of its first fields in their order.
-/

namespace RowDrop.Json

/-- A field of a record of type `σ`: its name, and a reader that lays the value on top. -/
structure Field (σ : Type) where
  name : String
  read : σ → List Char → Except Fault (σ × List Char)

/-- The field whose value is read by `read` and laid on top by `set`. -/
def Field.of {σ α : Type} (name : String) (read : List Char → Except Fault (α × List Char))
    (set : σ → α → σ) : Field σ where
  name := name
  read record cs := do
    let (value, rest) ← read cs
    return (set record value, rest)

/-- Looks for the next key of a record: whether there is one, and what stands behind the quote that
opens it or else behind the end of the record. -/
def nextKey (first : Bool) (cs : List Char) : Except Fault (Bool × List Char) :=
  match skipBlanks cs with
  | [] => .error (.next .endOfRecord [])
  | c :: rest =>
    if c = '\x7d' then .ok (false, rest)
    else if first then
      if c = '"' then .ok (true, rest) else .error (.next .keyNotText (c :: rest))
    else if c = ',' then
      match skipBlanks rest with
      | [] => .error (.next .endOfValue [])
      | '"' :: rest => .ok (true, rest)
      | '\x7d' :: rest => .error (.next .trailingComma ('\x7d' :: rest))
      | rest => .error (.next .keyNotText rest)
    else .error (.next .expectedRecordEnd (c :: rest))

/-- Where a repeated key is blamed: behind the blanks that follow it, and behind the end of the
record if it stands there. -/
def behindKey (cs : List Char) : List Char :=
  match skipBlanks cs with
  | '\x7d' :: rest => rest
  | rest => rest

/-- Reads the value of a key: a known one that has not been seen, or an unknown one. -/
def readMember {σ : Type} (fields : List (Field σ)) (seen : List String) (record : σ)
    (key : String) (cs : List Char) : Except Fault ((List String × σ) × List Char) :=
  match fields.find? (·.name = key) with
  | none => do
    let rest ← passValue (← passColon cs)
    return ((seen, record), rest)
  | some field =>
    if key ∈ seen then .error (.behind (.duplicateField key) (behindKey cs))
    else do
      let (record, rest) ← field.read record (← passColon cs)
      return ((key :: seen, record), rest)

/-- Reads the members of a record up to its end, at most as many as there is fuel. -/
def readMembers {σ : Type} (fields : List (Field σ)) : (fuel : Nat) → (first : Bool) →
    (seen : List String) → σ → List Char → Except Fault (σ × List Char)
  | 0, _, _, _, cs => .error (.next .endOfRecord cs)
  | fuel + 1, first, seen, record, cs => do
    let (more, rest) ← nextKey first cs
    if more then
      let (key, rest) ← readText rest
      let ((seen, record), rest) ← readMember fields seen record (String.ofList key) rest
      readMembers fields fuel false seen record rest
    else return (record, rest)

/-- Ends a list whose last possible value has been read. -/
def endList (cs : List Char) : Except Fault (List Char) :=
  match skipBlanks cs with
  | [] => .error (.next .endOfList [])
  | ']' :: rest => .ok rest
  | ',' :: rest =>
    match skipBlanks rest with
    | ']' :: rest => .error (.next .trailingComma (']' :: rest))
    | rest => .error (.next .trailingCharacters rest)
  | rest => .error (.next .trailingCharacters rest)

/-- Reads the values of the fields in their order, up to the end of the list. -/
def readValues {σ : Type} : (fields : List (Field σ)) → (first : Bool) → σ → List Char →
    Except Fault (σ × List Char)
  | [], _, record, cs => do return (record, ← endList cs)
  | field :: fields, first, record, cs =>
    match skipBlanks cs with
    | [] => .error (.next .endOfList [])
    | c :: rest =>
      if c = ']' then .ok (record, rest)
      else if first then do
        let (record, rest) ← field.read record (c :: rest)
        readValues fields false record rest
      else if c = ',' then
        match skipBlanks rest with
        | [] => .error (.next .endOfValue [])
        | ']' :: rest => .error (.next .trailingComma (']' :: rest))
        | rest => do
          let (record, rest) ← field.read record rest
          readValues fields false record rest
      else .error (.next .expectedListEnd (c :: rest))

/-- Reads a record or the list of its values; `expected` is its name in messages. -/
def readRecord {σ : Type} (expected : String) (fields : List (Field σ)) (start : σ)
    (cs : List Char) : Except Fault (σ × List Char) :=
  match skipBlanks cs with
  | '\x7b' :: rest => readMembers fields (rest.length + 1) true [] start rest
  | '[' :: rest => readValues fields true start rest
  | cs => refuse expected cs

/-- Reads a whole text: a value with nothing but blanks behind it. -/
def readDocument {α : Type} (read : List Char → Except Fault (α × List Char)) (text : String) :
    Except Failure α :=
  let cs := text.toList
  match read cs with
  | .error fault => .error (fault.locate cs)
  | .ok (value, rest) =>
    match skipBlanks rest with
    | [] => .ok value
    | rest => .error ((Fault.next .trailingCharacters rest).locate cs)

end RowDrop.Json
