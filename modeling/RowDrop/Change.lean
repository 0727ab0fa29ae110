import RowDrop.Backup
import RowDrop.Dataset
import RowDrop.Transfer

/-!
# Dropping the first row, and undoing it

A local dataset is loaded, backed up and rewritten without its first row. An object is downloaded
to the staging file, changed there like a local dataset, and uploaded; its backup stands next to
the staging file. Undoing restores the file from its backup, and for an object uploads it.
-/

namespace RowDrop

/-- What changes work with: the settings, and the place of objects. -/
structure Setup where
  settings : Settings
  remote : Remote
  deriving DecidableEq, Repr

namespace Setup

/-- The setup whose objects are on the server that the settings and the environment name. -/
def ofSettings (settings : Settings) (environment : Environment) : Setup :=
  ⟨settings, .server settings.store environment⟩

/-- Drops the first row of a file. The frame without the row is at hand before the backup is taken,
so that a dataset without rows keeps its earlier backup. -/
def dropFromFile (setup : Setup) (path : Path) : Operation Unit := do
  let name := path.display
  let frame ← Dataset.load path
  let rest ← Operation.orFail id (Dataset.dropFirst name frame)
  discard <| Backup.take path
  Dataset.save path rest setup.settings.codec
  Operation.note (.dropped name rest.height)

/-- Drops the first row of an object. -/
def dropFromObject (setup : Setup) (bucket key : String) : Operation Unit := do
  let staging := setup.settings.stagingPath
  discard <| setup.remote.download bucket key staging
  setup.dropFromFile staging
  discard <| setup.remote.upload bucket key staging

/-- Drops the first row of the dataset at a location. -/
def drop (setup : Setup) (location : String) : Operation Unit :=
  match Location.parse location with
  | .file path => setup.dropFromFile (Path.ofString path)
  | .object bucket key => setup.dropFromObject bucket key

/-- Restores a file. -/
def undoFile (path : Path) : Operation Unit := do
  Backup.restore path
  Operation.note (.undone path)

/-- Restores the staging file and uploads it in place of an object. -/
def undoObject (setup : Setup) (bucket key : String) : Operation Unit := do
  let staging := setup.settings.stagingPath
  Backup.restore staging
  discard <| setup.remote.upload bucket key staging
  Operation.note (.undoneObject (Location.objectText bucket key) staging)

/-- Undoes the last drop at a location. -/
def undo (setup : Setup) (location : String) : Operation Unit :=
  match Location.parse location with
  | .file path => undoFile (Path.ofString path)
  | .object bucket key => setup.undoObject bucket key

end Setup
end RowDrop
