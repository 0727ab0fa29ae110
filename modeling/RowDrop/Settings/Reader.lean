import RowDrop.Json.Record
import RowDrop.Settings.Basic

/-!
# Reading settings

A text of settings is a record, or a list of the values of the first fields. Fields that are
missing keep their defaults, null leaves a field open, and fields that are not known are passed
over.
-/

namespace RowDrop

/-- Reads a text, or null for none. -/
def Json.readOptionalText : List Char → Except Json.Fault (Option String × List Char) :=
  Json.readOptional (Json.readTextAs "a string")

namespace StoreSettings

/-- The fields of the object store's settings. -/
def fields : List (Json.Field StoreSettings) := [
  .of "endpoint" Json.readOptionalText fun settings value => { settings with endpoint := value },
  .of "region" Json.readOptionalText fun settings value => { settings with region := value },
  .of "access_key_id" Json.readOptionalText fun settings value =>
    { settings with accessKeyId := value },
  .of "secret_access_key" Json.readOptionalText fun settings value =>
    { settings with secretAccessKey := value },
  .of "allow_http" (Json.readOptional Json.readBool) fun settings value =>
    { settings with allowHttp := value }]

/-- Reads the settings of the object store. -/
def read : List Char → Except Json.Fault (StoreSettings × List Char) :=
  Json.readRecord "struct S3Config" fields unset

end StoreSettings

namespace Settings

/-- Reads a codec. -/
def readCodec : List Char → Except Json.Fault (Codec × List Char) :=
  Json.readVariant (Codec.all.map Codec.name) Codec.ofName?

/-- The fields of the settings. -/
def fields : List (Json.Field Settings) := [
  .of "staging_path" (Json.readTextAs "path string") fun settings value =>
    { settings with stagingPath := Path.ofString value },
  .of "compression" (Json.readOptional readCodec) fun settings value =>
    { settings with compression := value },
  .of "s3" StoreSettings.read fun settings value => { settings with store := value }]

/-- The settings that a text gives, on top of some defaults. -/
def parse (defaults : Settings) (text : String) : Except Json.Failure Settings :=
  Json.readDocument (Json.readRecord "struct MutatorConfig" fields defaults) text

end Settings
end RowDrop
