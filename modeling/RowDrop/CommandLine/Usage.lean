import RowDrop.CommandLine.Options

/-!
# Texts about the use of the command line

The help and the version, and the messages about arguments that cannot be understood.
-/

namespace RowDrop.CommandLine

/-- The name of the program. -/
def programName : String := "delete_first_row"

/-- The text of the version. -/
def versionText : String := programName ++ " 0.1.0\n"

/-- The text of the help. -/
def helpText : String :=
  "Drop the first row of a parquet file, or revert the last drop\n\n"
  ++ "Usage: " ++ programName ++ " [OPTIONS]\n\n"
  ++ "Options:\n"
  ++ "  -p, --path <PATH>                  Local path or s3://bucket/key of the parquet file "
  ++ "[default: \"\"]\n"
  ++ "  -r                                 Restore the file from its backup instead\n"
  ++ "  -c, --config <CONFIG>              JSON configuration file\n"
  ++ "      --endpoint <ENDPOINT>          S3-compatible endpoint, e.g. http://127.0.0.1:9000\n"
  ++ "      --staging-path <STAGING_PATH>  Local file object-store datasets are staged through\n"
  ++ "  -h, --help                         Print help\n"
  ++ "  -V, --version                      Print version\n"

/-- Why the arguments cannot be understood. -/
inductive UsageError where
  /-- An argument is not known. There may be a similar option, and the options that were used before
  are shown. -/
  | unexpected (argument : String) (similar : Option Flag) (used : List Flag)
  /-- An option that needs a value has none. -/
  | missingValue (flag : Flag)
  /-- An option stands twice. -/
  | repeated (flag : Flag)
  /-- An option that takes no value has one. Other options may stand in front of it. -/
  | unneededValue (value : String) (flag : Flag) (others : Bool)
  deriving DecidableEq, Repr

namespace UsageError

/-- The line that shows how the program is used, with the given arguments. -/
def usageOf (shown : List String) : String :=
  "Usage: " ++ " ".intercalate (programName :: shown) ++ "\n\n"

/-- The line that shows how the program is used, with the given options. -/
def usageLine (used : List Flag) : String :=
  usageOf (if used = [] then ["[OPTIONS]"] else used.map Flag.shown)

/-- All options but those that only print a text, as alternatives. -/
def alternatives : String :=
  "<" ++ "|".intercalate ((Flag.all.filter fun flag => !flag.prints).map Flag.shown) ++ ">"

/-- The line that shows an option alone or, if there are others, beside all of them. -/
def usageBeside (flag : Flag) (others : Bool) : String :=
  usageOf (flag.shown :: if others then [alternatives] else [])

/-- The last line of all messages. -/
def advice : String := "For more information, try '--help'.\n"

/-- The line about a similar option. -/
def tip (flag : Flag) : String :=
  "  tip: a similar argument exists: '--" ++ flag.word?.getD "" ++ "'\n\n"

/-- The message. -/
def text : UsageError → String
  | unexpected argument similar used =>
    s!"error: unexpected argument '{argument}' found\n\n"
      ++ (similar.map tip).getD "" ++ usageLine used ++ advice
  | missingValue flag =>
    s!"error: a value is required for '{flag.shown}' but none was supplied\n\n" ++ advice
  | repeated flag =>
    s!"error: the argument '{flag.shown}' cannot be used multiple times\n\n"
      ++ usageLine [] ++ advice
  | unneededValue value flag others =>
    s!"error: unexpected value '{value}' for '{flag.shown}' found; no more were expected\n\n"
      ++ usageBeside flag others ++ advice

end UsageError
end RowDrop.CommandLine
