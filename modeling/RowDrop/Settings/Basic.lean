import RowDrop.Codec
import RowDrop.Environment

/-!
# Settings

How datasets are written and how object stores are reached. Everything but the staging path may be
left open: an open codec means the standard one, and open settings of the object store fall back
to other sources or to its defaults.
-/

namespace RowDrop

/-- How an object store is reached. -/
structure StoreSettings where
  endpoint : Option String
  region : Option String
  accessKeyId : Option String
  secretAccessKey : Option String
  allowHttp : Option Bool
  deriving DecidableEq, Repr

namespace StoreSettings

/-- Everything is left open. -/
def unset : StoreSettings := ⟨none, none, none, none, none⟩

/-- The letters of an endpoint that is reached without encryption. -/
def plainScheme : String := "http://"

/-- The text opens with the plain scheme in any mix of cases. -/
def isPlain (endpoint : String) : Bool :=
  ((endpoint.toList.take plainScheme.length).map Char.toLower) = plainScheme.toList

/-- Unencrypted connections are allowed: as set, else if the endpoint has the plain scheme. -/
def allowsHttp (settings : StoreSettings) : Bool :=
  settings.allowHttp.getD (settings.endpoint.any isPlain)

/-- The settings with a key and its secret. -/
def withCredentials (settings : StoreSettings) (key secret : String) : StoreSettings :=
  { settings with accessKeyId := some key, secretAccessKey := some secret }

/-- The settings with an endpoint. -/
def withEndpoint (settings : StoreSettings) (endpoint : String) : StoreSettings :=
  { settings with endpoint := some endpoint }

end StoreSettings

/-- All settings. -/
structure Settings where
  /-- The local file through which objects are changed. -/
  stagingPath : Path
  compression : Option Codec
  store : StoreSettings
  deriving DecidableEq, Repr

namespace Settings

/-- The name of the staging file in the directory for temporary files. -/
def stagingName : List UInt8 := Utf8.encode "data.parquet".toList

/-- The settings where nothing is chosen. -/
def standard (environment : Environment) : Settings where
  stagingPath := environment.temporaryDirectory.child stagingName
  compression := none
  store := .unset

/-- The codec with which files are written. -/
def codec (settings : Settings) : Codec := settings.compression.getD .standard

end Settings
end RowDrop
