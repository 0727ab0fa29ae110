import RowDrop.CommandLine.Run
import RowDrop.Proofs.CommandLine.Choices
import RowDrop.Proofs.Settings.Given

/-!
# From the command line to the client

Every setting has one order of sources: the command line, the variables of the program, the file of
settings, the variables of the object store, and a default. The first source that has the setting
decides (`CommandLine.settings_precedence`).
-/

namespace RowDrop

/-- The text of a variable, if it is text and not empty. -/
def Environment.chosen? (environment : Environment) (name : String) : Option String :=
  (environment.text? name).filter (· ≠ "")

/-- Another environment differs at most in variables whose names have a lead. -/
def Environment.SameBut (lead : String) (environment other : Environment) : Prop :=
  ∀ name, ¬lead.toList <+: name.toList → other.bytes? name = environment.bytes? name

namespace Environment.SameBut

variable {lead name : String} {environment other : Environment}

theorem refl (lead : String) (environment : Environment) : environment.SameBut lead environment :=
  fun _ _ => rfl

theorem text? (h : environment.SameBut lead other) (hname : ¬lead.toList <+: name.toList) :
    other.text? name = environment.text? name := by
  rw [Environment.text?, h name hname, Environment.text?]

theorem chosen? (h : environment.SameBut lead other) (hname : ¬lead.toList <+: name.toList) :
    other.chosen? name = environment.chosen? name := by
  rw [Environment.chosen?, h.text? hname, Environment.chosen?]

end Environment.SameBut

section File

/-- The file of settings that a command line names gives some values; without a file nothing is
given. -/
inductive World.Configures (world : World) : Option Path → Settings.Given → Prop
  | absent : Configures world none .nothing
  | file {path : Path} {text : String} {file : Settings.Given} (holds : world.Holds path text)
      (gives : ∀ defaults, Settings.parse defaults text = .ok (file.onto defaults)) :
      Configures world (some path) file

/-- Only a file with UTF-8 text has a text. -/
theorem Opened.eq_of_text {opened : Opened} {text : String} (h : opened.text = .ok text) :
    ∃ inode mode, opened = .file inode (.raw (Utf8.encode text.toList)) mode := by
  cases opened with
  | directory => cases h
  | file inode content mode =>
    cases content with
    | encoded => cases h
    | raw bytes =>
      refine ⟨inode, mode, ?_⟩
      simp only [Opened.text] at h
      split at h
      · next chars decoded =>
        obtain rfl := Except.ok.inj h
        rw [String.toList_ofList, Utf8.encode_of_decode? decoded]
      · cases h

/-- A file that can be loaded gives values, and the settings are these values on top of the standard
ones. -/
theorem Settings.exists_configured {environment : Environment} {world : World} {path : Path}
    {settings : Settings}
    (h : (Operation.run (load environment path) world).1 = .ok settings) :
    ∃ file : Given, world.Configures (some path) file ∧
      settings = file.onto (.standard environment) := by
  rw [load, Operation.run_bind_ok (Operation.run_ask _ _)] at h
  cases hopen : (world.reply (.openFile path)).1 with
  | error error =>
    rw [hopen, Operation.run_bind_error (Operation.run_orFail_error _ _ _)] at h
    cases h
  | ok opened =>
    rw [hopen, Operation.run_bind_ok (Operation.run_orFail_ok _ _ _)] at h
    cases htext : opened.text with
    | error error =>
      rw [htext, Operation.run_bind_error (Operation.run_orFail_error _ _ _)] at h
      cases h
    | ok text =>
      rw [htext, Operation.run_bind_ok (Operation.run_orFail_ok _ _ _)] at h
      cases hparse : parse (.standard environment) text with
      | error failure =>
        rw [hparse, Operation.run_orFail_error] at h
        cases h
      | ok parsed =>
        rw [hparse, Operation.run_orFail_ok] at h
        obtain rfl := Except.ok.inj h
        obtain ⟨file, gives⟩ := exists_given hparse
        obtain ⟨inode, mode, rfl⟩ := Opened.eq_of_text htext
        refine ⟨file, .file ⟨inode, mode, hopen⟩ gives, ?_⟩
        exact Except.ok.inj (hparse.symm.trans (gives _))

/-- Whatever a file gives lies on top of the standard settings when it is loaded. -/
theorem World.Configures.run_load {world : World} {path : Path} {file : Settings.Given}
    (h : world.Configures (some path) file) (environment : Environment) :
    (Operation.run (Settings.load environment path) world).1
      = .ok (file.onto (.standard environment)) := by
  cases h with
  | file holds gives =>
    rw [← Json.toOption_eq_some_iff, Settings.run_load _ holds, gives]
    rfl

end File

namespace CommandLine

/-- The settings of a run: what the file gives on top of the standard settings, the environment on
top of it, and the options on top of both. -/
theorem run_settings_iff {options : Options} {environment : Environment} {world : World}
    {settings : Settings} :
    (Operation.run (CommandLine.settings options environment) world).1 = .ok settings ↔
      ∃ file : Settings.Given, world.Configures options.config file ∧
        settings = ((file.onto (.standard environment)).withEnvironment environment).withOptions
          options.endpoint options.stagingPath := by
  rw [CommandLine.settings]
  cases options.config with
  | none =>
    rw [Operation.run_bind_ok (Operation.run_pure _ _), Operation.run_pure]
    constructor
    · intro h
      exact ⟨.nothing, .absent, (Except.ok.inj h).symm⟩
    · rintro ⟨_, ⟨⟩, rfl⟩
      rfl
  | some path =>
    constructor
    · intro h
      rw [Operation.run_bind] at h
      cases hload : Operation.run (Settings.load environment path) world with
      | mk result after =>
        rw [hload] at h
        cases result with
        | error error => cases h
        | ok base =>
          obtain ⟨file, configures, rfl⟩ := Settings.exists_configured (congrArg Prod.fst hload)
          exact ⟨file, configures, (Except.ok.inj h).symm⟩
    · rintro ⟨file, configures, rfl⟩
      have hload := configures.run_load environment
      rw [Operation.run_bind]
      cases hrun : Operation.run (Settings.load environment path) world with
      | mk result after =>
        rw [hrun] at hload
        dsimp only at hload
        subst hload
        rfl

end CommandLine

namespace Client

variable {choices : ClientChoices} {bucket : String} {client : Client}

/-- A client that is set up uses what its choices say. -/
theorem of_build (h : build choices bucket = .ok client) :
    client.region = choices.region.getD standardRegion ∧
      client.endpoint = choices.endpoint.getD (standardEndpoint client.region) ∧
      allowsHttp choices = .ok client.allowHttp ∧
      ∃ unsigned credentials, Choice.switch choices.skipSignature = .ok unsigned ∧
        credentials? choices = .ok credentials ∧
        client.credentials = if unsigned then none else credentials := by
  simp only [build, bind_eq_ok] at h
  obtain ⟨_, _, _, _, _, _, credentials, hcredentials, _, _, _, _, _, _, unsigned, hunsigned, _, _,
    allowHttp, hallow, hclient⟩ := h
  obtain rfl := Except.ok.inj hclient
  exact ⟨rfl, rfl, hallow, unsigned, credentials, hunsigned, hcredentials, rfl⟩

/-- Credentials are a key and its secret, and neither is chosen where there are none. -/
theorem eq_of_credentials? {credentials : Option Credentials}
    (h : credentials? choices = .ok credentials) :
    credentials = choices.accessKeyId.bind fun key =>
      choices.secretAccessKey.map fun secret => ⟨key, secret, choices.token⟩ := by
  rw [credentials?] at h
  cases hk : choices.accessKeyId with
  | some key =>
    cases hs : choices.secretAccessKey with
    | some secret =>
      rw [hk, hs] at h
      exact (Except.ok.inj h).symm
    | none =>
      rw [hk, hs] at h
      cases h
  | none =>
    cases hs : choices.secretAccessKey with
    | some secret =>
      rw [hk, hs] at h
      cases h
    | none =>
      rw [hk, hs] at h
      dsimp only at h
      split_ifs at h
      · obtain ⟨_, _, h⟩ := bind_eq_ok.mp h
        exact (Except.ok.inj h).symm
      · exact (Except.ok.inj h).symm

end Client

/-- Where the settings of a run come from. -/
structure Sources where
  options : CommandLine.Options
  environment : Environment
  /-- What the file of settings gives. -/
  file : Settings.Given

namespace Sources

/-- What the file says about the object store. -/
def inFile (sources : Sources) : StoreSettings := sources.file.store.getD .unset

/-- The option first, then the variable, then the file, then the directory for temporary files. -/
def stagingPath (sources : Sources) : Path :=
  (sources.options.stagingPath.or
    (((sources.environment.chosen? Variable.stagingPath).map Path.ofString).or
      sources.file.stagingPath)).getD
    (sources.environment.temporaryDirectory.child Settings.stagingName)

/-- The option first, even if it is empty, then the variable, then the file. -/
def endpoint? (sources : Sources) : Option String :=
  sources.options.endpoint.or
    ((sources.environment.chosen? Variable.endpoint).or sources.inFile.endpoint)

def region? (sources : Sources) : Option String :=
  (sources.environment.chosen? Variable.region).or sources.inFile.region

def accessKeyId? (sources : Sources) : Option String :=
  (sources.environment.chosen? Variable.accessKeyId).or sources.inFile.accessKeyId

def secretAccessKey? (sources : Sources) : Option String :=
  (sources.environment.chosen? Variable.secretAccessKey).or sources.inFile.secretAccessKey

/-- All settings that the sources give, without the variables of the object store. -/
def settings (sources : Sources) : Settings where
  stagingPath := sources.stagingPath
  compression := sources.file.compression.getD none
  store := {
    endpoint := sources.endpoint?
    region := sources.region?
    accessKeyId := sources.accessKeyId?
    secretAccessKey := sources.secretAccessKey?
    allowHttp := sources.inFile.allowHttp }

@[simp] theorem settings_endpoint (sources : Sources) :
    sources.settings.store.endpoint = sources.endpoint? := rfl

@[simp] theorem settings_allowHttp (sources : Sources) :
    sources.settings.store.allowHttp = sources.inFile.allowHttp := rfl

theorem settings_eq (sources : Sources) :
    sources.settings = ((sources.file.onto (.standard sources.environment)).withEnvironment
      sources.environment).withOptions sources.options.endpoint sources.options.stagingPath := by
  have hstaging : sources.stagingPath = sources.options.stagingPath.getD
      (((sources.environment.chosen? Variable.stagingPath).map Path.ofString).getD
        (sources.file.stagingPath.getD
          (sources.environment.temporaryDirectory.child Settings.stagingName))) := by
    simp only [stagingPath, Option.getD_or]
  rw [settings, hstaging]
  rfl

/-- Variables of the object store have no part in the settings. -/
theorem settings_sameBut {sources : Sources} {other : Environment}
    (h : sources.environment.SameBut ClientChoices.variableLead other) :
    { sources with environment := other : Sources }.settings = sources.settings := by
  have hdirectory : other.temporaryDirectory = sources.environment.temporaryDirectory := by
    rw [Environment.temporaryDirectory, h _ (by decide), Environment.temporaryDirectory]
  have hstaging : other.chosen? Variable.stagingPath = _ := h.chosen? (by decide)
  have hendpoint : other.chosen? Variable.endpoint = _ := h.chosen? (by decide)
  have hregion : other.chosen? Variable.region = _ := h.chosen? (by decide)
  have hkey : other.chosen? Variable.accessKeyId = _ := h.chosen? (by decide)
  have hsecret : other.chosen? Variable.secretAccessKey = _ := h.chosen? (by decide)
  simp only [settings, stagingPath, endpoint?, region?, accessKeyId?, secretAccessKey?, hdirectory,
    hstaging, hendpoint, hregion, hkey, hsecret]
  rfl

end Sources

/-- The text opens with the plain scheme in any mix of cases. -/
theorem StoreSettings.isPlain_iff {endpoint : String} :
    isPlain endpoint = true ↔ "http://".toList <+: endpoint.toList.map Char.toLower := by
  rw [isPlain, decide_eq_true_iff, List.prefix_iff_eq_take, eq_comm, List.map_take,
    String.length_toList, plainScheme]

/-- The client uses what the sources give, below it what the choices of the object store's variables
give, and below both the defaults of a client. -/
structure Client.Follows (sources : Sources) (choices : ClientChoices) (client : Client) :
    Prop where
  endpoint : client.endpoint
    = (sources.endpoint?.or choices.endpoint).getD (standardEndpoint client.region)
  region : client.region = (sources.region?.or choices.region).getD standardRegion
  /-- There are credentials with a key and its secret, unless requests shall not be signed. -/
  credentials : ∃ unsigned, Choice.switch choices.skipSignature = .ok unsigned ∧
    client.credentials = if unsigned then none else
      (sources.accessKeyId?.or choices.accessKeyId).bind fun key =>
        (sources.secretAccessKey?.or choices.secretAccessKey).map fun secret =>
          ⟨key, secret, choices.token⟩
  allowHttp : client.allowHttp = true ↔
    sources.inFile.allowHttp = some true ∨
      sources.inFile.allowHttp = none ∧
        ((∃ endpoint, sources.endpoint? = some endpoint ∧
            "http://".toList <+: endpoint.toList.map Char.toLower) ∨
          sources.endpoint? = none ∧ allowsHttp choices = .ok true)

/-- What a client uses of what the sources give, whatever the variables of the object store are. -/
structure Client.Keeps (sources : Sources) (client : Client) : Prop where
  endpoint : ∀ endpoint, sources.endpoint? = some endpoint → client.endpoint = endpoint
  region : ∀ region, sources.region? = some region → client.region = region
  accessKeyId : ∀ key, sources.accessKeyId? = some key →
    ∀ credentials, client.credentials = some credentials → credentials.accessKeyId = key
  secretAccessKey : ∀ secret, sources.secretAccessKey? = some secret →
    ∀ credentials, client.credentials = some credentials → credentials.secretAccessKey = secret
  allowHttp : sources.inFile.allowHttp.isSome ∨ sources.endpoint?.isSome →
    client.allowHttp = sources.settings.store.allowsHttp

namespace Client

variable {sources : Sources} {environment : Environment} {bucket : String} {client : Client}

/-- Settings that say something about unencrypted connections, or have an endpoint, decide. -/
theorem allowsHttp_of_isSome {choices : ClientChoices} {settings : StoreSettings}
    (h : settings.allowHttp.isSome ∨ settings.endpoint.isSome) :
    allowsHttp (choices.withSettings settings) = .ok settings.allowsHttp := by
  simp only [allowsHttp, ClientChoices.withSettings, if_pos h]

theorem follows_of_client
    (h : Remote.client sources.settings.store environment bucket = .ok client) :
    client.Follows sources (.ofEnvironment environment) := by
  rw [Remote.client] at h
  split at h
  · next built hbuild =>
    obtain rfl := Except.ok.inj h
    obtain ⟨hregion, hendpoint, hallow, unsigned, credentials, hunsigned, hcredentials, hclient⟩ :=
      of_build hbuild
    refine ⟨hendpoint, hregion, ⟨unsigned, hunsigned, ?_⟩, ?_⟩
    · rw [hclient, eq_of_credentials? hcredentials]
      rfl
    · cases hfile : sources.inFile.allowHttp with
      | some allowed =>
        rw [allowsHttp_of_isSome (.inl (by simp [hfile]))] at hallow
        obtain hallow := Except.ok.inj hallow
        simp [← hallow, StoreSettings.allowsHttp, hfile]
      | none =>
        cases hendpoint : sources.endpoint? with
        | some endpoint =>
          rw [allowsHttp_of_isSome (.inr (by simp [hendpoint]))] at hallow
          obtain hallow := Except.ok.inj hallow
          simpa [← hallow, StoreSettings.allowsHttp, hfile, hendpoint]
            using StoreSettings.isPlain_iff
        | none =>
          have hchoices : allowsHttp (.ofEnvironment environment) = .ok built.allowHttp := by
            simpa [ClientChoices.withSettings, allowsHttp, hfile, hendpoint]
              using hallow
          simp [hchoices]
  · cases h

theorem Follows.keeps {choices : ClientChoices} (h : client.Follows sources choices) :
    client.Keeps sources := by
  obtain ⟨unsigned, -, hcredentials⟩ := h.credentials
  refine ⟨fun endpoint hgiven => ?_, fun region hgiven => ?_, ?_, ?_, fun hgiven => ?_⟩
  · rw [h.endpoint, hgiven]
    rfl
  · rw [h.region, hgiven]
    rfl
  · rintro key hgiven credentials hclient
    rw [hcredentials, hgiven] at hclient
    split_ifs at hclient
    obtain ⟨secret, -, rfl⟩ := Option.map_eq_some_iff.mp hclient
    rfl
  · rintro secret hgiven credentials hclient
    rw [hcredentials, hgiven] at hclient
    split_ifs at hclient
    obtain ⟨key, -, hclient⟩ := Option.bind_eq_some_iff.mp hclient
    obtain rfl := Option.some.inj hclient
    rfl
  · rw [Bool.eq_iff_iff, h.allowHttp, StoreSettings.allowsHttp]
    cases hfile : sources.inFile.allowHttp with
    | some allowed => simp [hfile]
    | none =>
      obtain ⟨endpoint, hendpoint⟩ :=
        Option.isSome_iff_exists.mp (hgiven.resolve_left (by simp [hfile]))
      simpa [hfile, hendpoint] using StoreSettings.isPlain_iff.symm

end Client

namespace CommandLine

/-- The settings that a run uses are those of its sources, and no variable of the object store
changes them. -/
theorem run_settings {options : Options} {environment other : Environment} {world : World}
    {file : Settings.Given} (configures : world.Configures options.config file)
    (h : environment.SameBut ClientChoices.variableLead other) :
    (Operation.run (CommandLine.settings options other) world).1
      = .ok (Sources.mk options environment file).settings := by
  refine run_settings_iff.mpr ⟨file, configures, ?_⟩
  exact (Sources.settings_sameBut h).symm.trans (Sources.settings_eq ⟨options, other, file⟩)

/-- The arguments are accepted, and the file of settings can be loaded if one is named. Then the
options are what the arguments give, the settings that are used come from the first source that has
them, and each client has what they give, then what the variables of the object store give, then
the defaults of a client. Another environment changes nothing of what the other sources give if it
differs in variables of the object store only. Left out are clients for a bucket in one zone: where
no endpoint is given, `Client.build` takes the one of the region. -/
theorem settings_precedence {arguments : List String} {options : Options}
    {environment : Environment} {world : World} (accepted : parse arguments = .ok options)
    (loadable : ∀ path, options.config = some path →
      ∃ base, (Operation.run (Settings.load environment path) world).1 = .ok base) :
    (∀ endpoint, options.endpoint = some endpoint ↔ Gives arguments "endpoint" endpoint) ∧
      (∀ path, options.stagingPath = some path ↔
        ∃ value, Gives arguments "staging-path" value ∧ path = .ofString value) ∧
      ∃ file, world.Configures options.config file ∧
        let sources : Sources := ⟨options, environment, file⟩
        ∀ other, environment.SameBut "AWS_" other →
          ∃ settings, (Operation.run (CommandLine.settings options other) world).1 = .ok settings ∧
            let setup := Setup.ofSettings settings other
            setup.settings.stagingPath = sources.stagingPath ∧
              ∀ bucket key client place name,
                setup.remote.prepare bucket key = .ok (.remote client place name) →
                  client.Follows sources (.ofEnvironment other) ∧ client.Keeps sources := by
  obtain ⟨hendpoint, hstaging⟩ := of_parse accepted
  have configured : ∃ file, world.Configures options.config file := by
    cases hconfig : options.config with
    | none => exact ⟨.nothing, .absent⟩
    | some path =>
      obtain ⟨base, hload⟩ := loadable path hconfig
      obtain ⟨file, configures, -⟩ := Settings.exists_configured hload
      exact ⟨file, configures⟩
  obtain ⟨file, configures⟩ := configured
  refine ⟨hendpoint, hstaging, file, configures, ?_⟩
  intro sources other sameBut
  refine ⟨sources.settings, run_settings configures sameBut, rfl, ?_⟩
  intro bucket key client place name hprepare
  obtain ⟨_, -, hprepare⟩ := bind_eq_ok.mp hprepare
  obtain ⟨_, hclient, hprepare⟩ := bind_eq_ok.mp hprepare
  cases hprepare
  have follows := Client.follows_of_client hclient
  exact ⟨follows, follows.keeps⟩

/-- An empty option is above a variable, and a file is above a variable of the object store. The
client that is set up has both, and no unencrypted connections. -/
theorem settings_precedence_empty_endpoint :
    let arguments := ["--config", "c", "--endpoint=", "--staging-path", "s"]
    let options : Options := ⟨"", false, some (.ofString "c"), some "", some (.ofString "s")⟩
    let environment : Environment := ⟨[
      ("PARQUET_MUTATOR_S3_ENDPOINT", Utf8.encode "http://a".toList),
      ("AWS_REGION", Utf8.encode "b".toList)]⟩
    let world : World := (World.reply ⟨Tree.fresh, .superuser, Store.empty, []⟩
      (.writeFile (.ofString "c") (.raw (Utf8.encode
        "\x7b\"s3\":\x7b\"region\":\"d\"\x7d\x7d".toList)))).2
    parse arguments = .ok options ∧
      (∀ path, options.config = some path →
        ∃ base, (Operation.run (Settings.load environment path) world).1 = .ok base) ∧
      ∃ settings,
        (Operation.run (CommandLine.settings options environment) world).1 = .ok settings ∧
          let setup := Setup.ofSettings settings environment
          setup.settings.stagingPath = .ofString "s" ∧
            (∀ bucket key client place name,
              setup.remote.prepare bucket key = .ok (.remote client place name) →
                client.endpoint = "" ∧ client.region = "d" ∧ client.allowHttp = false) ∧
            ∃ client, setup.remote.prepare "b" "k" = .ok (.remote client "b" "k") ∧
              client.endpoint = "" ∧ client.region = "d" ∧ client.allowHttp = false := by
  intro arguments options environment world
  let text := "\x7b\"s3\":\x7b\"region\":\"d\"\x7d\x7d"
  have holds : world.Holds (.ofString "c") text := ⟨3, Tree.newFileMode, rfl⟩
  have accepted : parse arguments = .ok options := rfl
  have parsed : (Settings.parse (.standard environment) text).toOption.map (·.store)
      = some { StoreSettings.unset with region := some "d" } := by
    decide +kernel
  obtain ⟨base, hparse, hstore⟩ := Option.map_eq_some_iff.mp parsed
  have loads : (Operation.run (Settings.load environment (.ofString "c")) world).1 = .ok base := by
    rw [← Json.toOption_eq_some_iff, Settings.run_load _ holds, hparse]
  have loadable : ∀ path, options.config = some path →
      ∃ base, (Operation.run (Settings.load environment path) world).1 = .ok base := by
    rintro _ ⟨⟩
    exact ⟨base, loads⟩
  refine ⟨accepted, loadable, ?_⟩
  obtain ⟨-, -, file, configures, precedence⟩ := settings_precedence accepted loadable
  obtain ⟨settings, hrun, hstaging, clients⟩ := precedence environment (.refl _ _)
  -- the file gives the region and nothing else of the object store
  have hfile : file.store.getD .unset = { StoreSettings.unset with region := some "d" } := by
    have hbase := configures.run_load environment
    rw [loads] at hbase
    rw [Except.ok.inj hbase] at hstore
    exact hstore
  have used : ∀ bucket key client place name,
      (Setup.ofSettings settings environment).remote.prepare bucket key =
        .ok (.remote client place name) →
      client.endpoint = "" ∧ client.region = "d" ∧ client.allowHttp = false := by
    intro bucket key client place name hprepare
    obtain ⟨-, keeps⟩ := clients bucket key client place name hprepare
    refine ⟨keeps.endpoint "" rfl, keeps.region "d" ?_, ?_⟩
    · have hvariable : environment.chosen? Variable.region = none := by decide +kernel
      rw [Sources.region?, hvariable, Sources.inFile, hfile]
      rfl
    · rw [keeps.allowHttp (.inr rfl), StoreSettings.allowsHttp, Sources.settings_allowHttp,
        Sources.inFile, hfile]
      exact (by decide : StoreSettings.isPlain "" = false)
  have stored : (Operation.run (CommandLine.settings options environment) world).1.toOption.map
      (·.store) = some ⟨some "", some "d", none, none, none⟩ := by
    decide +kernel
  have store : settings.store = ⟨some "", some "d", none, none, none⟩ := by
    rw [hrun] at stored
    exact Option.some.inj stored
  have built : (Setup.ofSettings settings environment).remote.prepare "b" "k" =
      .ok (.remote ⟨"", "d", none, false⟩ "b" "k") := by
    rw [Setup.ofSettings, store]
    rfl
  exact ⟨settings, hrun, hstaging, used, _, built, used "b" "k" _ "b" "k" built⟩

end CommandLine

end RowDrop
