import RowDrop.Content
import RowDrop.Json.Failure
import RowDrop.Location
import RowDrop.Store.Failure
import RowDrop.Store.Key

/-!
# Errors of an operation

Why dropping or restoring a row failed. An error has a message, and the causes inside it, which a
report lists below the message.
-/

namespace RowDrop

/-- Why settings or a location cannot be used. -/
inductive SettingsError where
  /-- The file of settings cannot be read. -/
  | unreadable (path : Path) (error : IoError)
  /-- The location names a bucket and no object. -/
  | noKey (bucket : String)
  /-- The key of the location is refused. -/
  | refusedKey (bucket key : String) (error : KeyError)
  /-- Any other reason. -/
  | other (text : String)
  deriving DecidableEq, Repr

/-- The reason as messages give it. -/
def SettingsError.text : SettingsError → String
  | unreadable path error => s!"cannot read {path.display}: {error.text}"
  | noKey bucket => "no object key in " ++ Location.objectText bucket ""
  | refusedKey bucket key error =>
    "unsupported object key " ++ Location.objectText bucket key ++ ": " ++ error.text
  | other text => text

/-- Why an operation failed. -/
inductive Error where
  /-- The dataset does not exist; the text names it. -/
  | notFound (name : String)
  /-- There is no backup to restore from. -/
  | backupNotFound (path : Path)
  /-- The dataset has no row to drop. -/
  | emptyDataset (name : String)
  | io (error : IoError)
  | format (error : FormatError)
  | store (error : StoreError)
  | settings (error : SettingsError)
  | json (failure : Json.Failure)
  /-- The endpoint makes no address that can be asked for; such a run is broken off. -/
  | invalidEndpoint
  /-- A signature does not fit into the headers of a request; such a run is broken off. -/
  | unfitSignature

namespace Error

/-- The error as messages give it. -/
def message : Error → String
  | notFound name => "Dataset not found: " ++ name
  | backupNotFound path => "Backup not found: " ++ path.display
  | emptyDataset name => "Dataset is empty: " ++ name
  | io error => "IO error: " ++ error.text
  | format error => "Parquet error: " ++ error.text
  | store error => "Object store error: " ++ error.text
  | settings error => "Configuration error: " ++ error.text
  | json failure => "JSON error: " ++ failure.text
  | invalidEndpoint | unfitSignature => "panic"

/-- A run with this error is broken off. -/
def breaksOff : Error → Bool
  | invalidEndpoint | unfitSignature => true
  | _ => false

/-- The causes inside an error, the outermost first. -/
def causes : Error → List String
  | io error => [error.text]
  | format error => [error.text]
  | store error => error.chain
  | json failure => [failure.text]
  | _ => []

end Error
end RowDrop
