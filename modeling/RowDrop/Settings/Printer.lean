import RowDrop.Error
import RowDrop.Json.Printer
import RowDrop.Settings.Basic

/-!
# Writing settings

Settings are written as one record without blanks, with every field in its order and null for what
is left open.
-/

namespace RowDrop

/-- The settings of the object store as a record. -/
def StoreSettings.write (settings : StoreSettings) : List Char :=
  let text := Json.writeOptional Json.writeText
  Json.writeRecord [
    ("endpoint", text settings.endpoint),
    ("region", text settings.region),
    ("access_key_id", text settings.accessKeyId),
    ("secret_access_key", text settings.secretAccessKey),
    ("allow_http", Json.writeOptional Json.writeBool settings.allowHttp)]

/-- The settings as a record, unless the staging path is no text. -/
def Settings.write (settings : Settings) : Except Error String :=
  match settings.stagingPath.text? with
  | none => .error (.json .pathNotText)
  | some stagingPath =>
    .ok <| String.ofList <| Json.writeRecord [
      ("staging_path", Json.writeText stagingPath),
      ("compression",
        Json.writeOptional (fun codec => Json.writeText codec.name) settings.compression),
      ("s3", settings.store.write)]

end RowDrop
