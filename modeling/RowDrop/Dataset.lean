import RowDrop.Program

/-!
# Datasets in files

Loading reads a whole file into a frame, saving writes a frame in place of what a file holds. A
file that does not exist means that the dataset does not exist; every other failure to open it is
an error of the system. Saving first opens and empties the file and then writes it, so that it
keeps its permission bits and its other names.
-/

namespace RowDrop

/-- What a failure to open a dataset means. -/
def Error.ofOpen (path : Path) (error : IoError) : Error :=
  if error.isMissing then .notFound path.display else .io error

namespace Dataset

/-- The frame that an opened file holds. -/
def decode : Opened → Except FormatError Frame
  | .file _ content _ => content.decode
  | .directory => .error .directory

/-- Reads the frame of a file. -/
def load (path : Path) : Operation Frame := do
  let opened ← Operation.orFail (Error.ofOpen path) (← Operation.ask (.openFile path))
  let frame ← Operation.orFail .format (decode opened)
  Operation.note (.loaded path frame.height frame.width)
  return frame

/-- The frame without its first row; `name` is the dataset's name in the message. -/
def dropFirst (name : String) (frame : Frame) : Except Error Frame :=
  if frame.height = 0 then .error (.emptyDataset name) else .ok frame.dropFirst

/-- Writes a frame into a file. -/
def save (path : Path) (frame : Frame) (codec : Codec) : Operation Unit := do
  let inode ← Operation.orFail .io (← Operation.ask (.createFile path))
  Operation.ask (.writeOpened inode (.ofFrame frame codec))
  Operation.note (.saved path frame.height frame.width)

end Dataset
end RowDrop
