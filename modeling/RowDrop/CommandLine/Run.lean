import RowDrop.CommandLine.Arguments
import RowDrop.CommandLine.Filter
import RowDrop.CommandLine.Report
import RowDrop.Change
import RowDrop.Settings.Layers
import RowDrop.Settings.Load

/-!
# Running a command line

The arguments are read first, then the filter of the log, and then the settings: a file if one is
named, the environment on top of it, and options on top of both. Then the last drop is undone or a
row is dropped, and the path is printed if that succeeds.
-/

namespace RowDrop.CommandLine

/-- Why a run fails after its arguments were read. -/
inductive Failure where
  /-- The file of settings cannot be loaded. -/
  | settings (path : Path) (error : Error)
  /-- The dataset cannot be changed. -/
  | operation (error : Error)

/-- The settings that a run uses. -/
def settings (options : Options) (environment : Environment) : Operation Settings := do
  let base ← match options.config with
    | some path => Settings.load environment path
    | none => pure (.standard environment)
  return (base.withEnvironment environment).withOptions options.endpoint options.stagingPath

/-- The change that a run makes. -/
def change (options : Options) (setup : Setup) : Operation Unit := do
  if options.path = "" then Operation.note .noPath
  if options.undo then setup.undo options.path
  else setup.drop options.path

/-- Carries out the choices of a command line. -/
def execute (options : Options) (environment : Environment) : Program (Except Failure Unit) := do
  match ← ExceptT.run (settings options environment) with
  | .error error => return .error (.settings (options.config.getD ⟨[]⟩) error)
  | .ok settings =>
    match ← ExceptT.run (change options (.ofSettings settings environment)) with
    | .error error => return .error (.operation error)
    | .ok () => return .ok ()

/-- What a run leaves behind, besides files and objects. -/
structure Outcome where
  exitCode : Nat
  stdout : String
  stderr : String
  deriving DecidableEq, Repr

/-- The report of a failure; none if the run is broken off. -/
def Failure.report? : Failure → Option Report
  | settings path error => some (.within s!"loading config {path.display}" error)
  | operation error => if error.breaksOff then none else some (.ofError error)

/-- The lines of the log that a filter lets through, the first event first. -/
def logText (filter : Filter) (events : List Event) : String :=
  "".intercalate ((events.filter filter.allows).map fun event => event.line ++ "\n")

/-- What arguments without choices lead to. -/
def Stop.outcome : Stop → Outcome
  | usage error => ⟨2, "", error.text⟩
  | help => ⟨0, helpText, ""⟩
  | version => ⟨0, versionText, ""⟩

/-- What a run leads to that is broken off. -/
def Outcome.brokenOff : Outcome := ⟨101, "", "panic"⟩

/-- What the choices of a command line lead to, given how they ended and the events on the way. -/
def Options.outcome (options : Options) (filter : Filter) (result : Except Failure Unit)
    (events : List Event) : Outcome :=
  let log := logText filter events
  match result with
  | .ok () => ⟨0, options.path ++ "\n", log⟩
  | .error failure =>
    match failure.report? with
    | some report => ⟨1, "", log ++ report.text⟩
    | none => .brokenOff

/-- Runs a command line. -/
def run (arguments : List String) (environment : Environment) (world : World) : Outcome × World :=
  match parse arguments with
  | .error stop => (stop.outcome, world)
  | .ok options =>
    match Filter.ofEnvironment? environment with
    | none => (.brokenOff, world)
    | some filter =>
      let (result, after) := (execute options environment).run { world with log := [] }
      (options.outcome filter result after.log.reverse, after)

end RowDrop.CommandLine
