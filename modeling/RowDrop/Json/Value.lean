import RowDrop.Json.Number
import RowDrop.Json.Token

/-!
# Values of JSON

A value of an unknown field is passed over: its syntax is checked, nothing else. A value of a known
field is read as the kind that the field needs; a value of another kind is read as far as the
message about it shows.
-/

namespace RowDrop.Json

/-- Passes over the colon behind a key. -/
def passColon (cs : List Char) : Except Fault (List Char) :=
  match skipBlanks cs with
  | ':' :: rest => .ok rest
  | [] => .error (.next .endOfRecord [])
  | rest => .error (.next .expectedColon rest)

/-- Passes over a key and its colon. -/
def passKey (cs : List Char) : Except Fault (List Char) :=
  match skipBlanks cs with
  | '"' :: rest => do passColon (← passText rest)
  | [] => .error (.next .endOfRecord [])
  | rest => .error (.next .keyNotText rest)

mutual
/-- Passes over a value. The fuel bounds how far values are nested and how many stand side by side;
a list or a record and each of its parts takes two from it, and at least one character from the
text. -/
def passValueWithin (fuel : Nat) (cs : List Char) : Except Fault (List Char) :=
  match fuel with
  | 0 => .error (.next .endOfValue cs)
  | fuel + 1 =>
    match skipBlanks cs with
    | [] => .error (.next .endOfValue [])
    | c :: rest =>
      if c = 'n' then readWord ['u', 'l', 'l'] rest
      else if c = 't' then readWord ['r', 'u', 'e'] rest
      else if c = 'f' then readWord ['a', 'l', 's', 'e'] rest
      else if c = '-' then passNumber rest
      else if isDigit c then passNumber (c :: rest)
      else if c = '"' then passText rest
      else if c = '[' then passItems fuel true rest
      else if c = '\x7b' then passMembers fuel true rest
      else .error (.next .expectedValue (c :: rest))

/-- Passes over the items of a list up to its end. In front of every item but the first stands a
comma. -/
def passItems (fuel : Nat) (first : Bool) (cs : List Char) : Except Fault (List Char) :=
  match fuel with
  | 0 => .error (.next .endOfList cs)
  | fuel + 1 =>
    match skipBlanks cs with
    | [] => .error (.next .endOfList [])
    | c :: rest =>
      if c = ']' then .ok rest
      else if first then do passItems fuel false (← passValueWithin fuel (c :: rest))
      else if c = ',' then do passItems fuel false (← passValueWithin fuel rest)
      else .error (.next .expectedListEnd (c :: rest))

/-- Passes over the members of a record up to its end. In front of every member but the first
stands a comma. -/
def passMembers (fuel : Nat) (first : Bool) (cs : List Char) : Except Fault (List Char) :=
  match fuel with
  | 0 => .error (.next .endOfRecord cs)
  | fuel + 1 =>
    match skipBlanks cs with
    | [] => .error (.next .endOfRecord [])
    | c :: rest =>
      if c = '\x7d' then .ok rest
      else if first then do
        passMembers fuel false (← passValueWithin fuel (← passKey (c :: rest)))
      else if c = ',' then do
        passMembers fuel false (← passValueWithin fuel (← passKey rest))
      else .error (.next .expectedRecordEnd (c :: rest))
end

/-- Passes over a value of any kind. -/
def passValue (cs : List Char) : Except Fault (List Char) :=
  passValueWithin (2 * cs.length + 1) cs

/-- Refuses a value that begins with `c` and is of another kind than needed. -/
def refuse {α : Type} (expected : String) (cs : List Char) : Except Fault (α × List Char) :=
  let wrong (found : Found) (rest : List Char) : Fault :=
    .behind (.wrongKind found expected) rest
  match cs with
  | [] => .error (.next .endOfValue [])
  | c :: rest =>
    if c = 'n' then do .error (wrong .null (← readWord ['u', 'l', 'l'] rest))
    else if c = 't' then do .error (wrong (.bool true) (← readWord ['r', 'u', 'e'] rest))
    else if c = 'f' then do .error (wrong (.bool false) (← readWord ['a', 'l', 's', 'e'] rest))
    else if c = '-' then do
      let (found, rest) ← readNumber true rest
      .error (wrong found rest)
    else if isDigit c then do
      let (found, rest) ← readNumber false cs
      .error (wrong found rest)
    else if c = '"' then do
      let (text, rest) ← readText rest
      .error (wrong (.text text) rest)
    else if c = '[' then .error (wrong .list cs)
    else if c = '\x7b' then .error (wrong .record cs)
    else .error (.next .expectedValue cs)

/-- Reads a text; `expected` is its name in messages. -/
def readTextAs (expected : String) (cs : List Char) : Except Fault (String × List Char) :=
  match skipBlanks cs with
  | '"' :: rest => do
    let (text, rest) ← readText rest
    return (String.ofList text, rest)
  | cs => refuse expected cs

/-- Reads a truth value. -/
def readBool (cs : List Char) : Except Fault (Bool × List Char) :=
  match skipBlanks cs with
  | 't' :: rest => return (true, ← readWord ['r', 'u', 'e'] rest)
  | 'f' :: rest => return (false, ← readWord ['a', 'l', 's', 'e'] rest)
  | cs => refuse "a boolean" cs

/-- Reads nothing but null. -/
def readNull (cs : List Char) : Except Fault (Unit × List Char) :=
  match skipBlanks cs with
  | 'n' :: rest => return ((), ← readWord ['u', 'l', 'l'] rest)
  | cs => refuse "unit" cs

/-- Reads null as no value, and anything else as `read` does. -/
def readOptional {α : Type} (read : List Char → Except Fault (α × List Char)) (cs : List Char) :
    Except Fault (Option α × List Char) :=
  match skipBlanks cs with
  | 'n' :: rest => return (none, ← readWord ['u', 'l', 'l'] rest)
  | cs => do
    let (value, rest) ← read cs
    return (some value, rest)

/-- Reads the name of a variant: a text, or a record with the name as its only key and null as
its value. -/
def readVariant {α : Type} (known : List String) (meaning : String → Option α) (cs : List Char) :
    Except Fault (α × List Char) :=
  let named (text rest : List Char) : Except Fault (α × List Char) :=
    match meaning (String.ofList text) with
    | some value => .ok (value, rest)
    | none => .error (.behind (.unknownVariant text known) rest)
  match skipBlanks cs with
  | [] => .error (.next .endOfValue [])
  | '"' :: rest => do
    let (text, rest) ← readText rest
    named text rest
  | '\x7b' :: rest =>
    match skipBlanks rest with
    | [] => .error (.next .endOfRecord [])
    | '"' :: rest => do
      let (text, rest) ← readText rest
      let (value, rest) ← named text rest
      let ((), rest) ← readNull (← passColon rest)
      match skipBlanks rest with
      | '\x7d' :: rest => .ok (value, rest)
      | [] => .error (.behind .endOfRecord [])
      | rest => .error (.behind .expectedValue rest)
    | '\x7d' :: rest => .error (.next .expectedValue ('\x7d' :: rest))
    | rest => .error (.next .keyNotText rest)
  | cs => .error (.next .expectedValue cs)

end RowDrop.Json
