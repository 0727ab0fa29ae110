import RowDrop.Settings.Basic

/-!
# Layers of settings

Environment variables lie on top of a file of settings, and options of the command line on top of
both. A variable counts only if its value is text and not empty; an option counts also if it is
empty.
-/

namespace RowDrop

namespace Variable

/-- The variable for the endpoint. -/
def endpoint : String := "PARQUET_MUTATOR_S3_ENDPOINT"
/-- The variable for the region. -/
def region : String := "PARQUET_MUTATOR_S3_REGION"
/-- The variable for the access key. -/
def accessKeyId : String := "PARQUET_MUTATOR_S3_ACCESS_KEY_ID"
/-- The variable for the secret of the access key. -/
def secretAccessKey : String := "PARQUET_MUTATOR_S3_SECRET_ACCESS_KEY"
/-- The variable for the staging path. -/
def stagingPath : String := "PARQUET_MUTATOR_STAGING_PATH"

end Variable

namespace Settings

/-- Lays variables on top, where `lookup` gives the text of a variable. -/
def withVariables (settings : Settings) (lookup : String → Option String) : Settings :=
  let value (name : String) : Option String := (lookup name).filter (· ≠ "")
  { settings with
    stagingPath := ((value Variable.stagingPath).map Path.ofString).getD settings.stagingPath
    store := { settings.store with
      endpoint := (value Variable.endpoint).or settings.store.endpoint
      region := (value Variable.region).or settings.store.region
      accessKeyId := (value Variable.accessKeyId).or settings.store.accessKeyId
      secretAccessKey := (value Variable.secretAccessKey).or settings.store.secretAccessKey } }

/-- Lays the environment on top. -/
def withEnvironment (settings : Settings) (environment : Environment) : Settings :=
  settings.withVariables environment.text?

/-- Lays options on top. -/
def withOptions (settings : Settings) (endpoint : Option String) (stagingPath : Option Path) :
    Settings :=
  { settings with
    stagingPath := stagingPath.getD settings.stagingPath
    store := { settings.store with endpoint := endpoint.or settings.store.endpoint } }

end Settings
end RowDrop
