import RowDrop.Path

/-!
# Options of the command line

The options with their spellings, and the choices that a command line makes with them.
-/

namespace RowDrop.CommandLine

/-- An option. -/
inductive Flag where
  | path
  | undo
  | config
  | endpoint
  | stagingPath
  | help
  | version
  deriving DecidableEq, Repr

namespace Flag

/-- All options, in the order of the help text. -/
def all : List Flag := [path, undo, config, endpoint, stagingPath, help, version]

/-- The word behind two dashes that stands for an option. -/
def word? : Flag → Option String
  | path => some "path"
  | undo => none
  | config => some "config"
  | endpoint => some "endpoint"
  | stagingPath => some "staging-path"
  | help => some "help"
  | version => some "version"

/-- The letter behind one dash that stands for an option. -/
def letter? : Flag → Option Char
  | path => some 'p'
  | undo => some 'r'
  | config => some 'c'
  | endpoint => none
  | stagingPath => none
  | help => some 'h'
  | version => some 'V'

/-- What messages call the value of an option; none if the option takes no value. -/
def valueName? : Flag → Option String
  | path => some "PATH"
  | config => some "CONFIG"
  | endpoint => some "ENDPOINT"
  | stagingPath => some "STAGING_PATH"
  | undo | help | version => none

/-- The option takes a value. -/
def takesValue (flag : Flag) : Bool := flag.valueName?.isSome

/-- The option only prints a text. -/
def prints : Flag → Bool
  | help | version => true
  | _ => false

/-- An empty value counts as no value. -/
def refusesEmpty : Flag → Bool
  | config | stagingPath => true
  | _ => false

/-- The option of a word. -/
def ofWord? (word : String) : Option Flag := all.find? fun flag => flag.word? = some word

/-- The option of a letter. -/
def ofLetter? (letter : Char) : Option Flag := all.find? fun flag => flag.letter? = some letter

/-- The option as messages show it, with the name of its value. -/
def shown (flag : Flag) : String :=
  let spelling := match flag.word?, flag.letter? with
    | some word, _ => "--" ++ word
    | none, some letter => String.ofList ['-', letter]
    | none, none => ""
  match flag.valueName? with
  | some value => s!"{spelling} <{value}>"
  | none => spelling

end Flag

/-- What a command line chooses. -/
structure Options where
  /-- The location of the dataset. -/
  path : String
  /-- The last drop is undone. -/
  undo : Bool
  /-- The file of settings. -/
  config : Option Path
  endpoint : Option String
  stagingPath : Option Path
  deriving DecidableEq, Repr

namespace Options

/-- The choices of options with their values. -/
def ofGiven (given : List (Flag × String)) : Options where
  path := (given.lookup .path).getD ""
  undo := (given.lookup .undo).isSome
  config := (given.lookup .config).map Path.ofString
  endpoint := given.lookup .endpoint
  stagingPath := (given.lookup .stagingPath).map Path.ofString

end Options
end RowDrop.CommandLine
