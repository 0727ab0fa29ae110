import RowDrop.Files.Edit
import RowDrop.Proofs.CommandLine.Accepted
import RowDrop.Proofs.CommandLine.Precedence
import RowDrop.Proofs.Runs

/-!
# The command line as a front

A run of the command line does what the operation behind it does, and no more: arguments that are
not accepted and settings that cannot be loaded end it before anything is changed, and the path is
printed only after the operation has succeeded (`run_fronts`). The log plays no part in what an
operation does (`Program.run_log`). The order of the options and their spelling make no difference.
What a front cannot promise is an exit code where the run is broken off, by the filter of the log or
by an error of the operation.
-/

namespace RowDrop

/-! ## The log -/

/-- A step gives the same reply whatever is in the log, and changes the rest of the world alike. -/
theorem World.reply_log (world : World) (log : List Event) (call : Call) :
    ∃ log', ({ world with log } : World).reply call =
      ((world.reply call).1, { (world.reply call).2 with log := log' }) := by
  have changed {α : Type} (result : Except IoError (α × Tree)) :
      ({ world with log } : World).change result =
        ((world.change result).1, { (world.change result).2 with log }) := by
    cases result <;> rfl
  cases call with
  | openFile | isFile | writeOpened | getObject | putObject => exact ⟨log, rfl⟩
  | copyFile | createFile | writeFile | renameFile => exact ⟨log, changed _⟩
  | note event => exact ⟨event :: log, rfl⟩

/-- A program ends with the same value whatever is in the log, and leaves the rest of the world
alike. -/
theorem Program.run_log {α : Type} (program : Program α) (world : World) (log : List Event) :
    ∃ log', program.run { world with log } =
      ((program.run world).1, { (program.run world).2 with log := log' }) := by
  induction program generalizing world log with
  | done value => exact ⟨log, rfl⟩
  | step call next ih =>
    obtain ⟨replied, same⟩ := world.reply_log log call
    obtain ⟨left, rest⟩ := ih (world.reply call).1 (world.reply call).2 replied
    refine ⟨left, ?_⟩
    rw [run_step, same]
    exact rest

theorem Operation.run_log {α : Type} (operation : Operation α) (world : World) (log : List Event) :
    ∃ log', operation.run { world with log } =
      ((operation.run world).1, { (operation.run world).2 with log := log' }) :=
  Program.run_log _ world log

namespace CommandLine

variable {arguments arguments' : List String} {environment : Environment} {world : World}
variable {given given' : List (Flag × String)} {options : Options} {filter : Filter}

/-- What the options have done to the dataset. -/
def Options.action (options : Options) : Action := if options.undo then .undo else .drop

/-- A run that ends with an exit code has printed nothing and changed nothing. -/
structure Refuses (world : World) (exitCode : Nat) (ended : Outcome × World) : Prop where
  exitCode : ended.1.exitCode = exitCode
  stdout : ended.1.stdout = ""
  files : ended.2.files = world.files
  store : ended.2.store = world.store

/-- A run has left the files and objects that an operation leaves, and tells how this has ended. -/
structure Fronts (path : String) (operation : Except Error Unit × World)
    (ended : Outcome × World) : Prop where
  files : ended.2.files = operation.2.files
  store : ended.2.store = operation.2.store
  succeeded : operation.1 = .ok () → ended.1.exitCode = 0 ∧ ended.1.stdout = path ++ "\n"
  failed : ∀ error, operation.1 = .error error →
    ended.1.stdout = "" ∧ ended.1.exitCode = if error.breaksOff then 101 else 1

/-- Two runs have the same exit code and print the same, and leave the same files and objects. -/
structure EndsAlike (ended ended' : Outcome × World) : Prop where
  exitCode : ended'.1.exitCode = ended.1.exitCode
  stdout : ended'.1.stdout = ended.1.stdout
  files : ended'.2.files = ended.2.files
  store : ended'.2.store = ended.2.store

theorem EndsAlike.refl (ended : Outcome × World) : EndsAlike ended ended := ⟨rfl, rfl, rfl, rfl⟩

theorem Refuses.endsAlike {exitCode : Nat} {ended ended' : Outcome × World}
    (h : Refuses world exitCode ended) (h' : Refuses world exitCode ended') :
    EndsAlike ended ended' where
  exitCode := h'.exitCode.trans h.exitCode.symm
  stdout := h'.stdout.trans h.stdout.symm
  files := h'.files.trans h.files.symm
  store := h'.store.trans h.store.symm

/-! ## The parts of a run -/

/-- Loading settings changes nothing. -/
theorem run_load_world (path : Path) :
    (Operation.run (Settings.load environment path) world).2 = world := by
  rw [Settings.load, Operation.run_bind_ok (Operation.run_ask _ _)]
  show (Operation.run _ world).2 = world
  cases (world.reply (.openFile path)).1 with
  | error error => rfl
  | ok opened =>
    rw [Operation.run_bind_ok (Operation.run_orFail_ok _ _ _)]
    cases opened.text with
    | error error => rfl
    | ok text =>
      rw [Operation.run_bind_ok (Operation.run_orFail_ok _ _ _)]
      cases Settings.parse (.standard environment) text with
      | error failure => rfl
      | ok settings => rfl

theorem run_settings_world :
    (Operation.run (CommandLine.settings options environment) world).2 = world := by
  rw [CommandLine.settings]
  cases options.config with
  | none => rfl
  | some path =>
    have unchanged : (Operation.run (Settings.load environment path) world).2 = world :=
      run_load_world path
    rw [Operation.run_bind]
    cases loaded : Operation.run (Settings.load environment path) world with
    | mk result after =>
      rw [loaded] at unchanged
      obtain rfl : after = world := unchanged
      cases result with
      | error error => rfl
      | ok base => rfl

/-- A change ends like the operation on the dataset; only the log can differ. -/
theorem run_change (options : Options) (setup : Setup) (world : World) :
    let operation := (setup.perform options.path options.action).run world
    ∃ log, (change options setup).run world = (operation.1, { operation.2 with log }) := by
  have chosen : (if options.undo then setup.undo options.path else setup.drop options.path) =
      setup.perform options.path options.action := by
    cases undone : options.undo <;> simp [Options.action, Setup.perform, undone]
  rw [change, chosen]
  by_cases empty : options.path = ""
  · -- the warning comes first
    rw [if_pos empty, Operation.run_bind_ok (Operation.run_note _ world)]
    exact Operation.run_log _ world (.noPath :: world.log)
  · rw [if_neg empty]
    exact ⟨_, rfl⟩

theorem run_execute_error {error : Error}
    (failed : (Operation.run (CommandLine.settings options environment) world).1 = .error error) :
    (execute options environment).run world =
      (.error (.settings (options.config.getD ⟨[]⟩) error), world) := by
  have ended : Operation.run (CommandLine.settings options environment) world =
      (.error error, world) := Prod.ext failed run_settings_world
  rw [Operation.run] at ended
  rw [execute, Program.run_bind, ended]
  rfl

/-- Behind settings that are loaded comes the operation; only the log can differ. -/
theorem run_execute_ok {settings : Settings}
    (loaded : (Operation.run (CommandLine.settings options environment) world).1 = .ok settings) :
    let setup := Setup.ofSettings settings environment
    let operation := (setup.perform options.path options.action).run world
    ∃ log, (execute options environment).run world =
      (operation.1.mapError .operation, { operation.2 with log }) := by
  intro setup operation
  have ended : Operation.run (CommandLine.settings options environment) world =
      (.ok settings, world) := Prod.ext loaded run_settings_world
  obtain ⟨log, changed⟩ := run_change options setup world
  refine ⟨log, ?_⟩
  rw [Operation.run] at ended changed
  rw [execute, Program.run_bind, ended]
  dsimp only
  rw [Program.run_bind, changed]
  cases operation.1 with
  | error error => rfl
  | ok => rfl

/-- A run with accepted arguments and a filter carries out the choices. -/
theorem run_of_parse (world : World) (accepted : parse arguments = .ok options)
    (filtered : Filter.ofEnvironment? environment = some filter) :
    let carried := (execute options environment).run world
    ∃ log, run arguments environment world =
      (options.outcome filter carried.1 log.reverse, { carried.2 with log }) := by
  obtain ⟨log, same⟩ := Program.run_log (execute options environment) world []
  refine ⟨log, ?_⟩
  rw [run, accepted]
  dsimp only
  rw [filtered]
  dsimp only
  rw [same]

/-! ## How a run ends -/

theorem refuses_of_parse (silent : ∀ argument ∈ arguments, ¬Asks argument)
    (refused : ∀ options, parse arguments ≠ .ok options) :
    Refuses world 2 (run arguments environment world) := by
  cases parsed : parse arguments with
  | ok options => exact absurd parsed (refused options)
  | error stop =>
    obtain ⟨error, rfl⟩ := isUsage_of_parse silent parsed
    rw [run, parsed]
    exact ⟨rfl, rfl, rfl, rfl⟩

theorem refuses_of_filter (accepted : parse arguments = .ok options)
    (unfiltered : Filter.ofEnvironment? environment = none) :
    Refuses world 101 (run arguments environment world) := by
  rw [run, accepted]
  dsimp only
  rw [unfiltered]
  exact ⟨rfl, rfl, rfl, rfl⟩

theorem refuses_of_settings {error : Error} (accepted : parse arguments = .ok options)
    (filtered : Filter.ofEnvironment? environment = some filter)
    (failed : (Operation.run (CommandLine.settings options environment) world).1 = .error error) :
    Refuses world 1 (run arguments environment world) := by
  obtain ⟨log, same⟩ := run_of_parse world accepted filtered
  rw [run_execute_error failed] at same
  rw [same]
  exact ⟨rfl, rfl, rfl, rfl⟩

theorem fronts_of_settings {settings : Settings} (accepted : parse arguments = .ok options)
    (filtered : Filter.ofEnvironment? environment = some filter)
    (loaded : (Operation.run (CommandLine.settings options environment) world).1 = .ok settings) :
    let setup := Setup.ofSettings settings environment
    Fronts options.path ((setup.perform options.path options.action).run world)
      (run arguments environment world) := by
  intro setup
  obtain ⟨log, same⟩ := run_of_parse world accepted filtered
  obtain ⟨log', carried⟩ := run_execute_ok loaded
  rw [carried] at same
  rw [same]
  refine ⟨rfl, rfl, ?_, ?_⟩
  · intro succeeded
    rw [succeeded]
    exact ⟨rfl, rfl⟩
  · intro error failed
    rw [failed]
    cases breaks : error.breaksOff <;>
      simp [Except.mapError, Options.outcome, Failure.report?, breaks, Outcome.brokenOff]

/-! ## The command line as a whole -/

/-- A run of the command line whose arguments do not ask for a text. If the arguments spell no
proper options, or the settings cannot be loaded, it refuses with exit code 2 or 1. Otherwise it
fronts the operation that the options choose, with the file of settings below the environment and
the environment below the options. Where the filter of the log breaks it off, it refuses with exit
code 101, whatever else it is asked to do. Other arguments that spell the same options in any order
make it end in the same way. -/
theorem run_fronts (silent : ∀ argument ∈ arguments, ¬Asks argument) :
    ((∀ given, Spells given arguments → ¬Proper given) →
        Refuses world 2 (run arguments environment world)) ∧
      (∀ given, Spells given arguments → Proper given →
        let options := Options.ofGiven given
        (Filter.ofEnvironment? environment = none →
            Refuses world 101 (run arguments environment world)) ∧
          ∀ filter, Filter.ofEnvironment? environment = some filter →
            ((∀ file, ¬world.Configures options.config file) →
                Refuses world 1 (run arguments environment world)) ∧
              ∀ file, world.Configures options.config file →
                let settings := ((file.onto (.standard environment)).withEnvironment
                  environment).withOptions options.endpoint options.stagingPath
                let setup := Setup.ofSettings settings environment
                Fronts options.path ((setup.perform options.path options.action).run world)
                  (run arguments environment world)) ∧
      ∀ given given' arguments', Spells given arguments → Spells given' arguments' →
        given.Perm given' →
          EndsAlike (run arguments environment world) (run arguments' environment world) ∧
            (Proper given →
              run arguments' environment world = run arguments environment world) := by
  refine ⟨?_, ?_, ?_⟩
  · intro improper
    refine refuses_of_parse silent fun options accepted => ?_
    obtain ⟨given, spelled, proper, -⟩ := parse_eq_ok_iff.mp accepted
    exact improper given spelled proper
  · intro given spelled proper options
    have accepted : parse arguments = .ok options :=
      (parse_eq_ok_of_spells spelled).mpr ⟨proper, rfl⟩
    refine ⟨refuses_of_filter accepted, fun filter filtered => ⟨?_, ?_⟩⟩
    · intro unconfigured
      cases loaded : (Operation.run (CommandLine.settings options environment) world).1 with
      | error error => exact refuses_of_settings accepted filtered loaded
      | ok settings =>
        obtain ⟨file, configures, -⟩ := run_settings_iff.mp loaded
        exact absurd configures (unconfigured file)
    · intro file configures
      exact fronts_of_settings accepted filtered (run_settings_iff.mpr ⟨file, configures, rfl⟩)
  · intro given given' arguments' spelled spelled' same
    by_cases proper : Proper given
    · obtain ⟨proper', alike⟩ := Options.ofGiven_perm proper same
      have parsed : parse arguments' = parse arguments := by
        rw [(parse_eq_ok_of_spells spelled').mpr ⟨proper', rfl⟩,
          (parse_eq_ok_of_spells spelled).mpr ⟨proper, rfl⟩, alike]
      have equal : run arguments' environment world = run arguments environment world := by
        rw [run, run, parsed]
      exact ⟨equal ▸ .refl _, fun _ => equal⟩
    · have improper' : ¬Proper given' := fun proper' =>
        proper (Options.ofGiven_perm proper' same.symm).1
      have refused : Refuses world 2 (run arguments environment world) :=
        refuses_of_parse silent fun options accepted =>
          proper ((parse_eq_ok_of_spells spelled).mp accepted).1
      have refused' : Refuses world 2 (run arguments' environment world) :=
        refuses_of_parse spelled'.silent fun options accepted =>
          improper' ((parse_eq_ok_of_spells spelled').mp accepted).1
      exact ⟨refused.endsAlike refused', fun proper' => absurd proper' proper⟩

/-- The pieces of this directive are cut as if the blank in front were not there, so its level
begins within a letter. -/
theorem Directive.parse_behind_blank :
    Directive.parse ['\u00a0', '\u00e9', '=', 'i', 'n', 'f', 'o'] = .error .brokenOff := by
  have trimmed : Text.trim ['\u00a0', '\u00e9', '=', 'i', 'n', 'f', 'o'] =
      ['\u00e9', '=', 'i', 'n', 'f', 'o'] := by decide +kernel
  have letter : opens '\u00e9' := by
    have within : Text.isAlphanumeric '\u00e9' := by
      rw [Text.isAlphanumeric, Text.Runs.contains_iff]
      exact ⟨(0xD8, 0xF6), by decide +kernel, by decide +kernel, by decide +kernel⟩
    simp [opens, within]
  have size : ('\u00e9' : Char).utf8Size = 2 := by decide +kernel
  have target : slice ['\u00a0', '\u00e9', '=', 'i', 'n', 'f', 'o'] 0 2 = .ok ['\u00a0'] := by
    simp [slice, takeBytes?, dropBytes?, Char.utf8Size]
  have level : sliceFrom ['\u00a0', '\u00e9', '=', 'i', 'n', 'f', 'o'] 3 = .error .brokenOff := by
    simp [sliceFrom, dropBytes?, Char.utf8Size]
  have read : Reading.steps ['\u00a0', '\u00e9', '=', 'i', 'n', 'f', 'o']
      ⟨⟨none, false, none, allDetail⟩, .start⟩ 0 ['\u00e9', '=', 'i', 'n', 'f', 'o'] =
        .ok ⟨⟨some ['\u00a0'], false, none, allDetail⟩, .level 3⟩ := by
    simp [Reading.steps, Reading.step, letter, target, size, Bind.bind, Except.bind, pure,
      Except.pure]
  rw [parse, trimmed]
  refine bind_eq_error.mpr (.inr ⟨_, read, ?_⟩)
  rw [Reading.finish]
  exact bind_eq_error.mpr (.inl level)

/-- Nothing that settings say about objects matters to a drop of a row of a file. -/
theorem drop_two_rows (staging : Path) (store : StoreSettings) (remote : Remote) :
    let dataset : Content := .ofFrame ⟨[⟨"n", .scalar .bool, [.bool true, .bool false]⟩]⟩ .zstd
    let rest : Content := .ofFrame ⟨[⟨"n", .scalar .bool, [.bool false]⟩]⟩ .zstd
    let world : World := ⟨Tree.fresh.put (.ofString "d") dataset, .superuser, .empty, []⟩
    let dropped := ((Setup.mk ⟨staging, none, store⟩ remote).perform "d" .drop).run world
    dropped.1 = .ok () ∧ dropped.2.files.content? (.ofString "d") = some rest ∧
      dropped.2.files.content? (Path.ofString "d").backup = some dataset :=
  ⟨rfl, rfl, rfl⟩

/-- A drop with the path in either spelling, and a filter that is cut within a character. -/
theorem run_fronts_two_rows :
    let dataset : Content := .ofFrame ⟨[⟨"n", .scalar .bool, [.bool true, .bool false]⟩]⟩ .zstd
    let rest : Content := .ofFrame ⟨[⟨"n", .scalar .bool, [.bool false]⟩]⟩ .zstd
    let world : World := ⟨Tree.fresh.put (.ofString "d") dataset, .superuser, .empty, []⟩
    let cut : Environment := ⟨[(Filter.variableName, Utf8.encode "\u00a0\u00e9=info".toList)]⟩
    let ended := run ["--path=d"] .empty world
    ended.1.exitCode = 0 ∧ ended.1.stdout = "d\n" ∧
      ended.2.files.content? (.ofString "d") = some rest ∧
      ended.2.files.content? (Path.ofString "d").backup = some dataset ∧
      run ["-p", "d"] .empty world = ended ∧ Refuses world 101 (run ["--path=d"] cut world) := by
  intro dataset rest world cut ended
  have spelled : Spells [(.path, "d")] ["--path=d"] :=
    .whole (@SpellsArgument.equals .path "path" "d" rfl rfl) .nil
  have spelled' : Spells [(.path, "d")] ["-p", "d"] :=
    .next (.letters (by decide) (@SpellsLetters.waits .path 'p' rfl rfl)) (.inr (by decide)) .nil
  have proper : Proper [(.path, "d")] := proper_concat.mpr ⟨proper_nil, by decide, by decide⟩
  have standard : Filter.ofEnvironment? .empty = some .standard := by decide +kernel
  have unreadable : Filter.ofEnvironment? cut = none := by
    have value : cut.text? Filter.variableName = some "\u00a0\u00e9=info" := by decide +kernel
    have pieces : (Text.split ',' "\u00a0\u00e9=info".toList).filter (· ≠ []) =
        [['\u00a0', '\u00e9', '=', 'i', 'n', 'f', 'o']] := by decide +kernel
    have parsed : Filter.parse "\u00a0\u00e9=info" = .error .brokenOff := by
      rw [Filter.parse, pieces, List.mapM_cons, Directive.parse_behind_blank]
      rfl
    rw [Filter.ofEnvironment?, value, Option.map_some, parsed]
  obtain ⟨-, plain, same⟩ := @run_fronts ["--path=d"] .empty world spelled.silent
  obtain ⟨-, broken, -⟩ := @run_fronts ["--path=d"] cut world spelled.silent
  have fronts : Fronts "d" _ ended := ((plain _ spelled proper).2 _ standard).2 .nothing .absent
  obtain ⟨succeeds, left, kept⟩ := drop_two_rows _ _ _
  obtain ⟨exits, prints⟩ := fronts.succeeded succeeds
  refine ⟨exits, prints, ?_, ?_, ?_, ?_⟩
  · rw [fronts.files]
    exact left
  · rw [fronts.files]
    exact kept
  · exact (same _ _ _ spelled spelled' (.refl _)).2 proper
  · exact (broken _ spelled proper).1 unreadable

end CommandLine
end RowDrop
