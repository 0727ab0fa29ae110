import RowDrop.CommandLine.Run

/-!
# The program

Runs a command line on the files of the system: every step of the library's program is carried out
as it comes. The bytes of files are used as they are. This program encodes no frames and opens no
connections, so it restores backups and reports what stands in the way of anything else.
-/

namespace RowDrop.Main

/-- The number of a failed system call. -/
def errno : IO.Error → Option Nat
  | .alreadyExists _ code _ | .resourceBusy code _ | .resourceVanished code _
  | .unsupportedOperation code _ | .hardwareFault code _ | .unsatisfiedConstraints code _
  | .illegalOperation code _ | .protocolError code _ | .timeExpired code _
  | .interrupted _ code _ | .noFileOrDirectory _ code _ | .invalidArgument _ code _
  | .permissionDenied _ code _ | .resourceExhausted _ code _ | .inappropriateType _ code _
  | .noSuchThing _ code _ | .otherError code _ => some code.toNat
  | .unexpectedEof | .userError _ => none

/-- The failure of a step, from the failure of the system call in it. -/
def failure (error : IO.Error) : IoError :=
  match errno error with
  | some code => .os ⟨code⟩
  | none => .other error.toString

/-- Does something to the file of a path; a failure becomes a reply. -/
def onFile {α : Type} (path : Path) (act : String → IO α) : IO (Except IoError α) := do
  match path.text? with
  | none => return .error (.other "the path is no text")
  | some name =>
    if name.contains '\x00' then return .error .nulInPath
    else
      try return .ok (← act name)
      catch error => return .error (failure error)

/-- The bytes of a file. -/
def readBytes (path : Path) : IO (Except IoError Content) :=
  onFile path fun name => do return .raw (← IO.FS.readBinFile name).toList

/-- The bytes of contents; images have none here and never come up. -/
def bytes : Content → ByteArray
  | .raw bytes => ⟨bytes.toArray⟩
  | .encoded _ _ => .empty

/-- Replaces the bytes of a file. -/
def writeBytes (path : Path) (content : Content) : IO (Except IoError Unit) :=
  onFile path fun name => IO.FS.writeBinFile name (bytes content)

/-- Object stores as this program sees them: none can be reached. -/
def store : Store := { Store.empty with reachable := false }

/-- The files that have been opened for writing, and the events, the last one first. -/
structure Session where
  opened : List Path
  events : List Event

/-- Carries out a step. -/
def perform (session : Session) : (call : Call) → IO (call.Reply × Session)
  | .openFile path => do
    match ← readBytes path with
    | .ok content => return (.ok (.file 0 content Tree.newFileMode), session)
    | .error error =>
      if error = .os .isDirectory then return (.ok .directory, session)
      else return (.error error, session)
  | .copyFile source target => do
    match ← readBytes source with
    | .error error => return (.error error, session)
    | .ok content =>
      match ← writeBytes target content with
      | .error error => return (.error error, session)
      | .ok () => return (.ok content, session)
  | .createFile path => do
    match ← writeBytes path .empty with
    | .error error => return (.error error, session)
    | .ok () =>
      return (.ok session.opened.length, { session with opened := session.opened ++ [path] })
  | .writeOpened inode content => do
    match session.opened[inode]? with
    | some path => discard (writeBytes path content)
    | none => pure ()
    return ((), session)
  | .writeFile path content => do return (← writeBytes path content, session)
  | .isFile path => do return ((← readBytes path).toBool, session)
  | .renameFile source target => do
    match target.text? with
    | none => return (.error (.other "the path is no text"), session)
    | some name => return (← onFile source fun source => IO.FS.rename source name, session)
  | .getObject target => return ((store.get target).1, session)
  | .putObject target content => return ((store.put target content).1, session)
  | .note event => return ((), { session with events := event :: session.events })

/-- Carries out a program. -/
def performAll {α : Type} (session : Session) : Program α → IO (α × Session)
  | .done value => return (value, session)
  | .step call next => do
    let (reply, session) ← perform session call
    performAll session (next reply)

/-- The variables that settings, clients and the log look at. -/
def variableNames : List String := [
  "TMPDIR", CommandLine.Filter.variableName,
  Variable.endpoint, Variable.region, Variable.accessKeyId, Variable.secretAccessKey,
  Variable.stagingPath,
  "AWS_ACCESS_KEY_ID", "AWS_SECRET_ACCESS_KEY", "AWS_DEFAULT_REGION", "AWS_REGION",
  "AWS_ENDPOINT", "AWS_ENDPOINT_URL", "AWS_SESSION_TOKEN", "AWS_TOKEN", "AWS_ALLOW_HTTP",
  "AWS_SKIP_SIGNATURE", "AWS_S3_EXPRESS", "AWS_UNSIGNED_PAYLOAD", "AWS_DISABLE_TAGGING",
  "AWS_CHECKSUM_ALGORITHM", "AWS_COPY_IF_NOT_EXISTS", "AWS_CONDITIONAL_PUT",
  "AWS_SERVER_SIDE_ENCRYPTION", "AWS_SSE_KMS_KEY_ID", "AWS_SSE_BUCKET_KEY_ENABLED",
  "AWS_IMDSV1_FALLBACK", "AWS_CONTAINER_CREDENTIALS_RELATIVE_URI",
  "AWS_WEB_IDENTITY_TOKEN_FILE", "AWS_ROLE_ARN"]

/-- The environment of the program. -/
def environment : IO Environment := do
  let entries ← variableNames.filterMapM fun name => do
    return (← IO.getEnv name).map fun value => (name, Utf8.encode value.toList)
  return ⟨entries⟩

/-- Prints what a run leaves behind and gives its exit code. -/
def finish (outcome : CommandLine.Outcome) : IO UInt32 := do
  (← IO.getStdout).putStr outcome.stdout
  (← IO.getStderr).putStr outcome.stderr
  return UInt32.ofNat outcome.exitCode

/-- Runs the command line with the given arguments. -/
def run (arguments : List String) : IO UInt32 := do
  match CommandLine.parse arguments with
  | .error stop => finish stop.outcome
  | .ok options =>
    let environment ← environment
    match CommandLine.Filter.ofEnvironment? environment with
    | none => finish .brokenOff
    | some filter =>
      let (result, session) ← performAll ⟨[], []⟩ (CommandLine.execute options environment)
      finish (options.outcome filter result session.events.reverse)

end RowDrop.Main

/-- Runs the command line with the given arguments. -/
def main (arguments : List String) : IO UInt32 := RowDrop.Main.run arguments
