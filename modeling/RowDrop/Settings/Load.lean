import RowDrop.Program
import RowDrop.Settings.Reader

/-!
# Files of settings

A file of settings is read as text. That it cannot be read, or is no text, is an error of the
settings; that the text is refused is an error of its own kind with the place in the text.
-/

namespace RowDrop

/-- The text that an opened file holds. The image of a frame is no text. -/
def Opened.text : Opened → Except IoError String
  | .file _ (.raw bytes) _ =>
    match Utf8.decode? bytes with
    | some text => .ok (String.ofList text)
    | none => .error .notText
  | .file _ (.encoded _ _) _ => .error .notText
  | .directory => .error (.os .isDirectory)

namespace Settings

/-- Reads the settings of a file on top of the standard ones. -/
def load (environment : Environment) (path : Path) : Operation Settings := do
  let unreadable (error : IoError) : Error := .settings (.unreadable path error)
  let opened ← Operation.orFail unreadable (← Operation.ask (.openFile path))
  let text ← Operation.orFail unreadable opened.text
  Operation.orFail .json (parse (.standard environment) text)

end Settings
end RowDrop
