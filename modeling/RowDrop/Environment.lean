import RowDrop.Path

/-!
# Environment variables

A variable has a name and a value of bytes. Where text is needed, a value that is none counts as
if the variable were not set.
-/

namespace RowDrop

/-- The variables of a run, each name once. -/
structure Environment where
  entries : List (String × List UInt8)
  deriving DecidableEq, Repr

namespace Environment

/-- No variables. -/
def empty : Environment := ⟨[]⟩

/-- The bytes of a variable. -/
def bytes? (environment : Environment) (name : String) : Option (List UInt8) :=
  environment.entries.lookup name

/-- The text of a variable. -/
def text? (environment : Environment) (name : String) : Option String :=
  (environment.bytes? name).bind fun bytes => (Utf8.decode? bytes).map String.ofList

/-- All variables whose value is text. -/
def texts (environment : Environment) : List (String × String) :=
  environment.entries.filterMap fun (name, bytes) =>
    (Utf8.decode? bytes).map fun text => (name, String.ofList text)

/-- Lays variables on top; a name that is set already gets the new value. -/
def layer (below above : Environment) : Environment :=
  ⟨below.entries.filter (fun (name, _) => above.entries.all (·.1 ≠ name))
    ++ above.entries⟩

/-- The directory for files that need not last: the one that is set, else `/tmp`. -/
def temporaryDirectory (environment : Environment) : Path :=
  match environment.bytes? "TMPDIR" with
  | some bytes => ⟨bytes⟩
  | none => Path.ofString "/tmp"

end Environment
end RowDrop
