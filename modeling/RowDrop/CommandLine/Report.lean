import RowDrop.Error

/-!
# Reports of errors

A report shows the message of an error and below it the causes, one to a line, numbered if there
are several. Further lines of a cause are indented like its first.
-/

namespace RowDrop.CommandLine

/-- An error with what was being done when it arose. -/
structure Report where
  message : String
  /-- The causes, the outermost first. -/
  causes : List String
  deriving DecidableEq, Repr

namespace Report

/-- The report of an error. -/
def ofError (error : Error) : Report := ⟨error.message, error.causes⟩

/-- The report of an error that arose in some activity. -/
def within (activity : String) (error : Error) : Report :=
  ⟨activity, error.message :: error.causes⟩

/-- A text whose further lines begin with an indent. -/
def indentLines (indent : List Char) (text : String) : String :=
  String.ofList <| text.toList.flatMap fun c => if c = '\n' then '\n' :: indent else [c]

/-- A number in five places. -/
def numberLabel (number : Nat) : String :=
  let digits := (toString number).toList
  String.ofList (List.replicate (5 - digits.length) ' ' ++ digits ++ [':', ' '])

/-- The indent of further lines below a number. -/
def numberedIndent : List Char := List.replicate 7 ' '

/-- The indent of a cause that stands alone. -/
def plainIndent : List Char := List.replicate 4 ' '

/-- The causes as lines. -/
def causeLines (causes : List String) : String :=
  match causes with
  | [cause] => "\n" ++ String.ofList plainIndent ++ indentLines plainIndent cause
  | causes =>
    "".intercalate (causes.zipIdx.map fun (cause, number) =>
      "\n" ++ numberLabel number ++ indentLines numberedIndent cause)

/-- The text of the report. -/
def text (report : Report) : String :=
  "Error: " ++ report.message
    ++ (if report.causes = [] then "" else "\n\nCaused by:" ++ causeLines report.causes) ++ "\n"

end Report
end RowDrop.CommandLine
