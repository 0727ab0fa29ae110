import RowDrop.CommandLine.Usage
import RowDrop.Text.Similarity

/-!
# Reading arguments

Arguments are read from left to right. An option that takes a value waits for it; it is settled,
with its value or without, as soon as another option comes or the arguments end. Only then it turns
out whether the value is missing or the option stands twice. An argument that is not known is
refused at once.
-/

namespace RowDrop.CommandLine

/-- What an argument looks like. -/
inductive Token where
  /-- Two dashes, behind which there are no options. -/
  | separator
  /-- Two dashes and a word, maybe with a value behind an equals sign. -/
  | word (name : String) (value : Option String)
  /-- One dash and letters. -/
  | letters (letters : List Char)
  /-- Anything else. -/
  | plain
  deriving DecidableEq, Repr

/-- What an argument looks like. -/
def Token.ofArgument (argument : String) : Token :=
  match argument.toList with
  | ['-', '-'] => .separator
  | '-' :: '-' :: rest =>
    let name := String.ofList (rest.takeWhile (· ≠ '='))
    match rest.dropWhile (· ≠ '=') with
    | _ :: value => .word name (some (String.ofList value))
    | [] => .word name none
  | '-' :: c :: rest => .letters (c :: rest)
  | _ => .plain

/-- Why reading stops early. -/
inductive Stop where
  | usage (error : UsageError)
  | help
  | version
  deriving DecidableEq, Repr

/-- The arguments that have been read. -/
structure Reading where
  /-- The options that are settled, in their order. -/
  given : List (Flag × String)
  /-- The option that is not settled yet, and its value if it has come. -/
  waiting : Option (Flag × Option String)
  deriving DecidableEq, Repr

namespace Reading

/-- Nothing has been read. -/
def start : Reading := ⟨[], none⟩

/-- The options that are settled. -/
def used (reading : Reading) : List Flag := reading.given.map (·.1)

/-- Settles an option with the value that it has. If that fails, the options that count as used
come with the error: an option that stands twice is no longer among them. -/
def accept (given : List (Flag × String)) (flag : Flag) (value : Option String) :
    Except (UsageError × List (Flag × String)) (List (Flag × String)) :=
  match value with
  | none =>
    if flag.takesValue then .error (.missingValue flag, given)
    else if given.any (·.1 = flag) then
      .error (.repeated flag, given.filter (·.1 ≠ flag))
    else .ok (given ++ [(flag, "")])
  | some value =>
    if given.any (·.1 = flag) then .error (.repeated flag, given.filter (·.1 ≠ flag))
    else if value = "" ∧ flag.refusesEmpty then
      .error (.missingValue flag, given ++ [(flag, value)])
    else .ok (given ++ [(flag, value)])

/-- Settles the option that waits. -/
def settle (reading : Reading) :
    Except (UsageError × List (Flag × String)) (List (Flag × String)) :=
  match reading.waiting with
  | some (flag, value) => accept reading.given flag value
  | none => .ok reading.given

/-- Settles the option that waits, or stops. -/
def settled (reading : Reading) : Except Stop (List (Flag × String)) :=
  match reading.settle with
  | .ok given => .ok given
  | .error (error, _) => .error (.usage error)

/-- The options that count as used once the option that waits is settled. -/
def usedAfter (reading : Reading) : List Flag :=
  match reading.settle with
  | .ok given => given.map (·.1)
  | .error (_, given) => given.map (·.1)

/-- Settles what waits, and then an option that has its value with it or takes none. -/
def acceptNow (reading : Reading) (flag : Flag) (value : Option String) : Except Stop Reading := do
  let given ← reading.settled
  if flag = .help then .error .help
  else if flag = .version then .error .version
  else
    match accept given flag value with
    | .ok given => return ⟨given, none⟩
    | .error (error, _) => .error (.usage error)

/-- Lets an option wait for its value. -/
def await (reading : Reading) (flag : Flag) : Except Stop Reading := do
  return ⟨← reading.settled, some (flag, none)⟩

/-- Reads an option that takes a value, maybe with the value. -/
def acceptValue (reading : Reading) (flag : Flag) (value : Option String) : Except Stop Reading :=
  match value with
  | some value => reading.acceptNow flag (some value)
  | none => reading.await flag

/-- The words of all options. -/
def words : List (List Char × Flag) :=
  Flag.all.filterMap fun flag => flag.word?.map fun word => (word.toList, flag)

/-- Refuses a word that is not known. -/
def refuseWord (reading : Reading) (name : String) : Stop :=
  let used := reading.usedAfter
  let similar := Text.mostSimilar? name.toList words
  let shown := match similar with
    | some flag => if flag ∈ used then used else used ++ [flag]
    | none => used
  .usage (.unexpected ("--" ++ name) similar shown)

/-- Reads a word with its value. -/
def readWord (reading : Reading) (name : String) (value : Option String) : Except Stop Reading :=
  match Flag.ofWord? name with
  | none => .error (reading.refuseWord name)
  | some flag =>
    if flag.takesValue then reading.acceptValue flag value
    else
      match value with
      | some value => .error (.usage (.unneededValue value flag (reading.used ≠ [])))
      | none => reading.acceptNow flag none

/-- The value behind a letter: what is left, without an equals sign in front. -/
def attached : List Char → Option String
  | [] => none
  | '=' :: rest => some (String.ofList rest)
  | rest => some (String.ofList rest)

/-- Reads letters: options without a value up to one with a value, to which the rest belongs. -/
def readLetters (reading : Reading) : List Char → Except Stop Reading
  | [] => .ok reading
  | letter :: rest =>
    match Flag.ofLetter? letter with
    | none => .error (.usage (.unexpected (String.ofList ['-', letter]) none []))
    | some flag =>
      if flag.takesValue then reading.acceptValue flag (attached rest)
      else
        match reading.acceptNow flag none with
        | .ok reading => readLetters reading rest
        | .error stop => .error stop

/-- Reads an argument that is no option: the value of the option that waits for one. -/
def readPlain (reading : Reading) (argument : String) : Except Stop Reading :=
  match reading.waiting with
  | some (flag, none) => .ok { reading with waiting := some (flag, some argument) }
  | _ => .error (.usage (.unexpected argument none []))

/-- Reads arguments up to their end. -/
def readAll (reading : Reading) : List String → Except Stop (List (Flag × String))
  | [] => reading.settled
  | argument :: rest =>
    match Token.ofArgument argument with
    | .separator =>
      match rest with
      | [] => reading.settled
      | extra :: _ => .error (.usage (.unexpected extra none []))
    | .word name value => do readAll (← reading.readWord name value) rest
    | .letters letters => do readAll (← reading.readLetters letters) rest
    | .plain => do readAll (← reading.readPlain argument) rest

end Reading

/-- The choices that arguments make, or why there are none. -/
def parse (arguments : List String) : Except Stop Options := do
  return .ofGiven (← Reading.start.readAll arguments)

end RowDrop.CommandLine
