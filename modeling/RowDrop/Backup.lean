import RowDrop.Program

/-!
# Backups

The backup of a file stands next to it, under the file's name with `.bk` behind it. Taking a backup
copies the file and replaces an earlier backup; restoring moves the backup back over the file, so
that afterwards there is none.
-/

namespace RowDrop

/-- What a failure to copy a file to its backup means. -/
def Error.ofCopy (path : Path) (error : IoError) : Error :=
  if error.isMissing then .notFound path.display else .io error

namespace Backup

/-- Takes a backup of a file and gives the backup's path. -/
def take (path : Path) : Operation Path := do
  discard <| Operation.orFail (Error.ofCopy path) (← Operation.ask (.copyFile path path.backup))
  Operation.note (.backedUp path.backup)
  return path.backup

/-- Moves the backup of a file back over it. -/
def restore (path : Path) : Operation Unit := do
  let found : Bool ← Operation.ask (.isFile path.backup)
  if found then
    Operation.orFail .io (← Operation.ask (.renameFile path.backup path))
    Operation.note (.restored path path.backup)
  else
    throw (.backupNotFound path.backup)

end Backup
end RowDrop
