import SafactoryServer.CanonicalJson
import SafactoryServer.Specs

/-! The initialization file and the settings of the server: what the schema of the file admits,
`apply_initialization_config`, and for which files the two agree. -/

namespace SafactoryServer.Initialization

/-- The strings of the interpreter, and the texts of its floats. -/
structure Runtime extends Unicode where
  floats : FloatTexts

/-- `if condition: raise ValueError(...)`. -/
def refuse (condition : Bool) : Except PyExc Unit :=
  if condition then .error .valueError else .ok ()

/-- `value <= 0`, which no NaN is. -/
def notPositive (value : PyFloat) : Bool := value.lt (.finite 0) || value == .finite 0

/-- `Path(path).is_absolute()`. -/
def isAbsolute (path : String) : Bool := path.toList.head? == some '/'

/-- `Path(path).parts` behind the root. -/
def pathParts (path : String) : List (List Char) :=
  (path.toList.splitOn '/').filter fun part => part ≠ [] ∧ part ≠ ['.']

/-- `filename.is_absolute() or ".." in filename.parts`. -/
def leavesDirectory (filename : String) : Bool :=
  isAbsolute filename || (pathParts filename).contains ['.', '.']

/-! ### The schema

The fields that `apply_initialization_config` reads.  The constraints of a model and the results of
its validators are fields: `model_validate` makes such a value, or raises. -/

/-- A `dict[str, Any]`. -/
structure Mapping (f : FloatTexts) where
  entries : List (String × YamlValue)
  distinct : (entries.map (·.1)).Nodup
  valid : ∀ e ∈ entries, e.2.Valid f

namespace Mapping

variable {f : FloatTexts}

def value (mapping : Mapping f) : YamlValue :=
  .dict (mapping.entries.map fun e => (.str e.1, e.2))

/-- `mapping.get(key)`. -/
def get (mapping : Mapping f) (key : String) : YamlValue :=
  (lookup key mapping.entries).getD .null

theorem value_valid (mapping : Mapping f) : mapping.value.Valid f := by
  rw [value, YamlValue.Valid, YamlValue.validEntries_iff, List.forall_mem_map, List.map_map]
  refine ⟨?_, mapping.valid⟩
  rw [show (fun e : YamlValue × YamlValue => e.1) ∘
    (fun e : String × YamlValue => (.str e.1, e.2)) = YamlValue.str ∘ (·.1) from rfl,
    ← List.map_map]
  exact mapping.distinct.map fun _ _ h => YamlValue.str.inj h

/-- A `dict[str, str]`. -/
def ofTexts (f : FloatTexts) (texts : List (String × String))
    (distinct : (texts.map (·.1)).Nodup) : Mapping f where
  entries := texts.map fun e => (e.1, .str e.2)
  distinct := by rwa [List.map_map]
  valid := List.forall_mem_map.mpr fun _ _ => trivial

def ofInts (f : FloatTexts) (numbers : List (String × Int))
    (distinct : (numbers.map (·.1)).Nodup) : Mapping f where
  entries := numbers.map fun e => (e.1, .int e.2)
  distinct := by rwa [List.map_map]
  valid := List.forall_mem_map.mpr fun _ _ => trivial

end Mapping

inductive Backend
  | brainpp
  | http

def Backend.text : Backend → String
  | .brainpp => "brainpp"
  | .http => "http"

inductive Scheme
  | http
  | https

def Scheme.text : Scheme → String
  | .http => "http"
  | .https => "https"

inductive StorageType
  | cloud
  | sqlite

def StorageType.text : StorageType → String
  | .cloud => "cloud"
  | .sqlite => "sqlite"

structure DatabaseConfig where
  controlDbPath : String
  dataPlatformFactory : String
  environment : List (String × String) := []
  minLength : dataPlatformFactory ≠ "" := by decide
  distinct : (environment.map (·.1)).Nodup := by decide

/-- `required_endpoint`. -/
def requiredEndpoint (backend : Backend) (clusterEntry endpoint : Option String) :
    Except PyExc Unit :=
  match backend with
  | .brainpp => refuse (clusterEntry.getD "" == "")
  | .http => refuse (endpoint.getD "" == "")

structure RJobConnectionConfig where
  backend : Backend := .brainpp
  clusterEntry : Option String := none
  endpoint : Option String := none
  token : Option String := none
  rjobNamespace : String
  chargedGroup : String
  accessKey : Option String := none
  secretKey : Option String := none
  verifyssl : Bool := true
  retries : Int := 3
  noPackaging : Bool := true
  restartPolicy : String := "Never"
  privateMachine : String := "Group"
  hostNetwork : Option Bool := none
  autoDeleteDuration : String := "12h"
  maxRunningDuration : String := "14h"
  pollIntervalSeconds : PyFloat := .finite 5
  minLength : ∀ text ∈ [rjobNamespace, chargedGroup, restartPolicy, privateMachine,
    autoDeleteDuration, maxRunningDuration], text ≠ "" := by decide
  retriesGe : 0 ≤ retries := by decide
  pollGt : notPositive pollIntervalSeconds = false := by decide
  required : requiredEndpoint backend clusterEntry endpoint = .ok () := by decide

structure ManagedLocationConfig where
  localPath : String
  rjobSource : String
  mountPath : String
  minLength : rjobSource ≠ "" ∧ mountPath ≠ "" := by decide
  /-- `absolute_mount`. -/
  absoluteMount : refuse (!isAbsolute mountPath) = .ok () := by decide

structure StorageConfig where
  environment : ManagedLocationConfig
  results : ManagedLocationConfig

structure CatalogConfig where
  rangesPath : String

/-- `valid_paths`. -/
def validPaths (configMountDir workdir configFilename : String) : Except PyExc Unit := do
  refuse (!isAbsolute configMountDir)
  refuse (!isAbsolute workdir)
  refuse (leavesDirectory configFilename)

structure GatewayRuntimeConfig (f : FloatTexts) where
  config : Mapping f
  configMountDir : String := "/app/runtime-config"
  configFilename : String := "gateway.yaml"
  namePrefix : String := "safactory-gateway"
  workdir : String := "/app"
  port : Int := 8000
  scheme : Scheme := .http
  healthPath : String := "/readyz"
  sessionsPath : String := "/v1/sessions"
  readyTimeoutSeconds : Int := 300
  healthTimeoutSeconds : PyFloat := .finite 3
  resources : Mapping f := .ofInts f [("cpu", 1), ("gpu", 0), ("memory_in_mb", 4096)] (by decide)
  requests : Mapping f := .ofInts f [] (by decide)
  configMinLength : config.entries ≠ []
  minLength : ∀ text ∈ [configMountDir, configFilename, namePrefix, workdir, healthPath,
    sessionsPath], text ≠ "" := by decide
  portRange : 1 ≤ port ∧ port ≤ 65535 := by decide
  readyGt : 0 < readyTimeoutSeconds := by decide
  healthGt : notPositive healthTimeoutSeconds = false := by decide
  paths : validPaths configMountDir workdir configFilename = .ok () := by decide

structure SafactoryRuntimeConfig (f : FloatTexts) where
  namePrefix : String := "safactory"
  workdir : String := "/app"
  pythonBin : String := "python"
  launcherRjobConfig : String := "config.yaml"
  storageType : StorageType := .cloud
  poolSize : Int := 10
  multiplier : PyFloat := .finite 1
  maxWorkers : Int := 10
  maxSteps : Int := 150
  agentStartTimeoutSeconds : PyFloat := .finite 9000
  enableEvaluation : Bool := true
  timeoutSeconds : Int := 14 * 60 * 60
  resources : Mapping f := .ofInts f [("cpu", 4), ("gpu", 0), ("memory_in_mb", 16384)] (by decide)
  requests : Mapping f := .ofInts f [] (by decide)
  episodeRjobDefaults : Mapping f := .ofInts f [] (by decide)
  launcherArgs : List String := []
  minLength : ∀ text ∈ [namePrefix, workdir, pythonBin, launcherRjobConfig], text ≠ "" := by decide
  gt : ∀ number ∈ [poolSize, maxWorkers, maxSteps, timeoutSeconds], 0 < number := by decide
  floatsGt : ∀ number ∈ [multiplier, agentStartTimeoutSeconds], notPositive number = false := by
    decide
  /-- `absolute_workdir`. -/
  absoluteWorkdir : refuse (!isAbsolute workdir) = .ok () := by decide

/-- One route of `complete_runtime_config`. -/
def checkRoute (u : Unicode) (route : YamlValue × YamlValue) : Except PyExc Unit :=
  match route.1 with
  | .str modelName => do
    refuse (u.strip modelName == "")
    refuse (modelName != u.strip modelName)
    match route.2 with
    | .dict entries => refuse entries.isEmpty
    | _ => .error .valueError
  | _ => .error .valueError

/-- `complete_runtime_config`. -/
def completeRuntimeConfig {f : FloatTexts} (u : Unicode) (gateway : GatewayRuntimeConfig f)
    (safactory : SafactoryRuntimeConfig f) : Except PyExc Unit := do
  refuse !((gateway.config.get "listen_port").equals (.int gateway.port))
  refuse !((gateway.config.get "base_session_path").equals (.str gateway.sessionsPath))
  refuse !((gateway.config.get "storage_type").equals (.str safactory.storageType.text))
  match gateway.config.get "llm_routes" with
  | .dict routes => do
    refuse routes.isEmpty
    routes.forM (checkRoute u)
  | _ => .error .valueError

structure InitializationConfig (py : Runtime) where
  database : DatabaseConfig
  rjob : RJobConnectionConfig
  storage : StorageConfig
  catalog : CatalogConfig
  gateway : GatewayRuntimeConfig py.floats
  safactory : SafactoryRuntimeConfig py.floats
  runtimeNoProxy : Option String := none
  complete : completeRuntimeConfig py.toUnicode gateway safactory = .ok ()

/-! ### The settings -/

/-- The settings of the server, with those that the orchestrator reads. -/
structure ServerSettings extends Settings where
  port : Int := 8000
  retryAfterSeconds : Int := 1
  logFileMaxBytes : Int := 100 * 1024 * 1024
  logFileBackupCount : Int := 5
  rangeConfigPath : String := "/etc/safactory/ranges.yaml"
  controlDbPath : String := "/var/lib/safactory/control.db"
  sharedStorageRoot : String := "/mnt/safactory"
  sharedStorageRjobSource : String := "/mnt/safactory"
  resultsRoot : String := "/mnt/safactory/results"
  resultsRjobSource : String := "/mnt/safactory/results"
  environmentMountDir : String := "/app/env"
  resultsMountDir : String := "/app/results"
  rjobBackend : String := "http"
  rjobToken : Option String := none
  rjobVerifyssl : Bool := true
  rjobRetries : Int := 3
  rjobNoPackaging : Bool := true
  gatewayConfigJson : JsonText := ⟨"\x7b\x7d", some (.obj [])⟩
  gatewayConfigFilename : String := "gateway.yaml"
  gatewayHealthTimeoutSeconds : PyFloat := .finite 3
  orchestratorPollSeconds : PyFloat := .finite 2
  dataPlatformFactory : String := "wt_sdk:WTGatewayClient"

/-- `Settings.__post_init__`. -/
def postInit (u : Unicode) (s : ServerSettings) : Except PyExc Unit := do
  refuse !(1 ≤ s.port && s.port ≤ 65535)
  refuse (s.retryAfterSeconds < 1)
  refuse (s.logFileMaxBytes ≤ 0 || s.logFileBackupCount < 0)
  refuse !(1 ≤ s.gatewayPort && s.gatewayPort ≤ 65535)
  refuse !(["http", "https"].contains s.gatewayScheme)
  refuse !(["http", "brainpp"].contains s.rjobBackend)
  refuse (s.rjobRetries < 0)
  refuse (u.strip s.rjobRestartPolicy == "")
  [s.environmentMountDir, s.resultsMountDir, s.gatewayConfigMountDir, s.gatewayWorkdir,
    s.safactoryWorkdir].forM fun value => refuse (!isAbsolute value)
  refuse (leavesDirectory s.gatewayConfigFilename)
  refuse (u.strip s.gatewayNamePrefix == "" || u.strip s.safactoryNamePrefix == "")
  refuse !(["cloud", "sqlite"].contains s.safactoryStorageType)
  refuse (s.safactoryPoolSize ≤ 0 || s.safactoryMaxWorkers ≤ 0 || s.safactoryMaxSteps ≤ 0 ||
    notPositive s.safactoryMultiplier || notPositive s.safactoryAgentStartTimeoutSeconds)
  refuse (notPositive s.orchestratorPollSeconds)
  refuse (notPositive s.gatewayHealthTimeoutSeconds)
  refuse (s.gatewayReadyTimeoutSeconds ≤ 0 || s.safactoryTimeoutSeconds ≤ 0)

section

variable (py : Runtime)

/-- `canonical_json`, with the document that is read back. -/
def written (value : YamlValue) : Except PyExc JsonText := do
  let text ← value.canonicalJson py.floats.digits
  return ⟨text, (loads py.floats.reader text).toOption⟩

/-- The arguments of `replace`, given the texts of the mappings and of the launcher's arguments. -/
def replaced (settings : ServerSettings) (config : InitializationConfig py)
    (databaseEnvironmentJson gatewayConfigJson gatewayResourcesJson gatewayRequestsJson
      safactoryResourcesJson safactoryRequestsJson episodeRjobDefaultsJson
      safactoryLauncherArgsJson : JsonText) : ServerSettings :=
  { settings with
    rangeConfigPath := config.catalog.rangesPath
    controlDbPath := config.database.controlDbPath
    dataPlatformFactory := config.database.dataPlatformFactory
    databaseEnvironmentJson
    sharedStorageRoot := config.storage.environment.localPath
    sharedStorageRjobSource := config.storage.environment.rjobSource
    environmentMountDir := config.storage.environment.mountPath
    resultsRoot := config.storage.results.localPath
    resultsRjobSource := config.storage.results.rjobSource
    resultsMountDir := config.storage.results.mountPath
    rjobBackend := config.rjob.backend.text
    rjobEndpoint := config.rjob.endpoint
    rjobToken := config.rjob.token
    rjobClusterEntry := config.rjob.clusterEntry
    rjobAccessKey := config.rjob.accessKey
    rjobSecretKey := config.rjob.secretKey
    rjobVerifyssl := config.rjob.verifyssl
    rjobRetries := config.rjob.retries
    rjobNoPackaging := config.rjob.noPackaging
    rjobRestartPolicy := config.rjob.restartPolicy
    rjobNamespace := config.rjob.rjobNamespace
    chargedGroup := config.rjob.chargedGroup
    rjobPrivateMachine := config.rjob.privateMachine
    rjobHostNetwork := config.rjob.hostNetwork
    rjobAutoDeleteDuration := config.rjob.autoDeleteDuration
    rjobMaxRunningDuration := config.rjob.maxRunningDuration
    orchestratorPollSeconds := config.rjob.pollIntervalSeconds
    gatewayConfigJson
    gatewayConfigMountDir := config.gateway.configMountDir
    gatewayConfigFilename := config.gateway.configFilename
    gatewayNamePrefix := config.gateway.namePrefix
    gatewayWorkdir := config.gateway.workdir
    gatewayPort := config.gateway.port
    gatewayScheme := config.gateway.scheme.text
    gatewayHealthPath := config.gateway.healthPath
    gatewaySessionsPath := config.gateway.sessionsPath
    gatewayHealthTimeoutSeconds := config.gateway.healthTimeoutSeconds
    gatewayReadyTimeoutSeconds := config.gateway.readyTimeoutSeconds
    gatewayResourcesJson
    gatewayRequestsJson
    runtimeNoProxy := match config.runtimeNoProxy with
      | some noProxy => if noProxy = "" then settings.runtimeNoProxy else noProxy
      | none => settings.runtimeNoProxy
    safactoryNamePrefix := config.safactory.namePrefix
    safactoryWorkdir := config.safactory.workdir
    safactoryPythonBin := config.safactory.pythonBin
    safactoryLauncherRjobConfig := config.safactory.launcherRjobConfig
    safactoryStorageType := config.safactory.storageType.text
    safactoryPoolSize := config.safactory.poolSize
    safactoryMultiplier := config.safactory.multiplier
    safactoryMaxWorkers := config.safactory.maxWorkers
    safactoryMaxSteps := config.safactory.maxSteps
    safactoryAgentStartTimeoutSeconds := config.safactory.agentStartTimeoutSeconds
    safactoryEnableEvaluation := config.safactory.enableEvaluation
    safactoryTimeoutSeconds := config.safactory.timeoutSeconds
    safactoryResourcesJson
    safactoryRequestsJson
    episodeRjobDefaultsJson
    safactoryLauncherArgsJson }

/-- `apply_initialization_config`. -/
def applyInitializationConfig (settings : ServerSettings) (config : InitializationConfig py) :
    Except PyExc ServerSettings := do
  let databaseEnvironment : Mapping py.floats :=
    .ofTexts py.floats config.database.environment config.database.distinct
  let databaseEnvironmentJson ← written py databaseEnvironment.value
  let gatewayConfigJson ← written py config.gateway.config.value
  let gatewayResourcesJson ← written py config.gateway.resources.value
  let gatewayRequestsJson ← written py config.gateway.requests.value
  let safactoryResourcesJson ← written py config.safactory.resources.value
  let safactoryRequestsJson ← written py config.safactory.requests.value
  let episodeRjobDefaultsJson ← written py config.safactory.episodeRjobDefaults.value
  let safactoryLauncherArgsJson ← written py (.tuple (config.safactory.launcherArgs.map .str))
  let result := replaced py settings config databaseEnvironmentJson gatewayConfigJson
    gatewayResourcesJson gatewayRequestsJson safactoryResourcesJson safactoryRequestsJson
    episodeRjobDefaultsJson safactoryLauncherArgsJson
  postInit py.toUnicode result
  return result

end

/-! ### The agreement of the two -/

section

variable {py : Runtime}

/-- The free-form mappings of the file. -/
def freeForm (config : InitializationConfig py) : List (Mapping py.floats) :=
  [config.gateway.config, config.gateway.resources, config.gateway.requests,
    config.safactory.resources, config.safactory.requests, config.safactory.episodeRjobDefaults]

/-- The mappings of the file, each with the JSON text of the settings that carries it. -/
def carried (config : InitializationConfig py) (result : ServerSettings) :
    List (YamlValue × JsonText) :=
  [((Mapping.ofTexts py.floats config.database.environment config.database.distinct).value,
      result.databaseEnvironmentJson),
    (config.gateway.config.value, result.gatewayConfigJson),
    (config.gateway.resources.value, result.gatewayResourcesJson),
    (config.gateway.requests.value, result.gatewayRequestsJson),
    (config.safactory.resources.value, result.safactoryResourcesJson),
    (config.safactory.requests.value, result.safactoryRequestsJson),
    (config.safactory.episodeRjobDefaults.value, result.episodeRjobDefaultsJson)]

/-- The settings take the file, and their JSON texts are read back as the mappings. -/
def Agrees (settings : ServerSettings) (config : InitializationConfig py) : Prop :=
  ∃ result, applyInitializationConfig py settings config = .ok result ∧
    ∀ e ∈ carried config result, ∃ document, e.2.document = some document ∧
      e.1.equals document = true

/-- The file has no blank text where the settings refuse one, and only JSON documents in its
free-form mappings. -/
structure Accepted (config : InitializationConfig py) : Prop where
  restartPolicy : py.strip config.rjob.restartPolicy ≠ ""
  gatewayPrefix : py.strip config.gateway.namePrefix ≠ ""
  safactoryPrefix : py.strip config.safactory.namePrefix ≠ ""
  json : ∀ mapping ∈ freeForm config, mapping.value.isJson = true

/-! Checks. -/

theorem unit_bind_ok {α : Type} {x : Except PyExc Unit} {rest : Except PyExc α} {a : α} :
    (x >>= fun _ => rest) = .ok a ↔ x = .ok () ∧ rest = .ok a := by
  cases x with
  | error e =>
    refine iff_of_false ?_ fun h => nomatch h.1
    rintro ⟨⟩
  | ok _ => exact (and_iff_right rfl).symm

theorem refuse_ok {condition : Bool} : refuse condition = .ok () ↔ condition = false := by
  cases condition <;> simp [refuse]

theorem forM_refuse {p : String → Bool} {values : List String} :
    (values.forM fun value => refuse (p value)) = .ok () ↔ ∀ value ∈ values, p value = false := by
  induction values with
  | nil => exact iff_of_true rfl fun _ h => nomatch h
  | cons value rest ih => rw [List.forM, unit_bind_ok, refuse_ok, ih, List.forall_mem_cons]

theorem not_contains {values : List String} {value : String} :
    (!values.contains value) = false ↔ value ∈ values := by
  rw [Bool.not_eq_false', List.contains_iff_mem]

/-- The settings that `__post_init__` lets pass. -/
structure Passes (u : Unicode) (s : ServerSettings) : Prop where
  port : 1 ≤ s.port ∧ s.port ≤ 65535
  retryAfter : 1 ≤ s.retryAfterSeconds
  logFile : 0 < s.logFileMaxBytes ∧ 0 ≤ s.logFileBackupCount
  gatewayPort : 1 ≤ s.gatewayPort ∧ s.gatewayPort ≤ 65535
  gatewayScheme : s.gatewayScheme ∈ ["http", "https"]
  rjobBackend : s.rjobBackend ∈ ["http", "brainpp"]
  rjobRetries : 0 ≤ s.rjobRetries
  restartPolicy : u.strip s.rjobRestartPolicy ≠ ""
  mounts : ∀ value ∈ [s.environmentMountDir, s.resultsMountDir, s.gatewayConfigMountDir,
    s.gatewayWorkdir, s.safactoryWorkdir], isAbsolute value = true
  configFilename : leavesDirectory s.gatewayConfigFilename = false
  prefixes : u.strip s.gatewayNamePrefix ≠ "" ∧ u.strip s.safactoryNamePrefix ≠ ""
  storageType : s.safactoryStorageType ∈ ["cloud", "sqlite"]
  numbers : ∀ number ∈ [s.safactoryPoolSize, s.safactoryMaxWorkers, s.safactoryMaxSteps,
    s.gatewayReadyTimeoutSeconds, s.safactoryTimeoutSeconds], 0 < number
  floats : ∀ number ∈ [s.safactoryMultiplier, s.safactoryAgentStartTimeoutSeconds,
    s.orchestratorPollSeconds, s.gatewayHealthTimeoutSeconds], notPositive number = false

theorem postInit_iff {u : Unicode} {s : ServerSettings} :
    postInit u s = .ok () ↔ Passes u s := by
  rw [postInit]
  simp only [unit_bind_ok, forM_refuse, refuse_ok, not_contains]
  constructor
  · rintro ⟨hport, hretry, hlog, hgatewayPort, hscheme, hbackend, hretries, hpolicy, hmounts,
      hfilename, hprefixes, hstorage, hlauncher, hpoll, hhealth, htimeouts⟩
    simp at hlauncher htimeouts
    exact
      { port := by simpa using hport
        retryAfter := by simpa using hretry
        logFile := by simpa using hlog
        gatewayPort := by simpa using hgatewayPort
        gatewayScheme := hscheme
        rjobBackend := hbackend
        rjobRetries := by simpa using hretries
        restartPolicy := by simpa using hpolicy
        mounts := by simpa using hmounts
        configFilename := hfilename
        prefixes := by simpa using hprefixes
        storageType := hstorage
        numbers := by simp [hlauncher, htimeouts]
        floats := by simp [hlauncher, hpoll, hhealth] }
  · intro h
    have hnumbers := h.numbers
    have hfloats := h.floats
    simp at hnumbers hfloats
    exact ⟨by simpa using h.port, by simpa using h.retryAfter, by simpa using h.logFile,
      by simpa using h.gatewayPort, h.gatewayScheme, h.rjobBackend, by simpa using h.rjobRetries,
      by simpa using h.restartPolicy, by simpa using h.mounts, h.configFilename,
      by simpa using h.prefixes, h.storageType, by simp [hnumbers, hfloats],
      by simp [hfloats], by simp [hfloats], by simp [hnumbers]⟩

/-! Texts. -/

theorem written_isJson {value : YamlValue} (hjson : value.isJson = true)
    (hvalid : value.Valid py.floats) :
    ∃ text, written py value = .ok text ∧
      ∃ document, text.document = some document ∧ value.equals document = true := by
  obtain ⟨text, document, htext, hloads, hequal⟩ := (YamlValue.roundTrips_iff hvalid).mpr hjson
  refine ⟨⟨text, (loads py.floats.reader text).toOption⟩, ?_, document, ?_, hequal⟩
  · rw [written, htext]
    rfl
  · rw [hloads]
    rfl

theorem isJson_of_written {value : YamlValue} {text : JsonText} {document : Json}
    (h : written py value = .ok text) (hequal : value.equals document = true) :
    value.isJson = true := by
  obtain ⟨_, hjson, -⟩ := bind_ok h
  obtain ⟨_, hencode, -⟩ := bind_ok hjson
  exact YamlValue.isJson_of_equals hencode hequal

/-- The arguments of the launcher are strings, which are always written. -/
theorem written_args (py : Runtime) (args : List String) :
    ∃ text, written py (.tuple (args.map .str)) = .ok text := by
  have hitems : YamlValue.encodeItems py.floats.digits (args.map .str) =
      .ok ((args.map YamlValue.str).map fun item =>
        match item with
        | .str s => encodeString s
        | _ => []) := by
    refine YamlValue.encodeItems_ok fun item hitem => ?_
    obtain ⟨s, -, rfl⟩ := List.mem_map.mp hitem
    rfl
  rw [written, YamlValue.canonicalJson, YamlValue.encode, hitems]
  exact ⟨_, rfl⟩

theorem ofTexts_isJson (py : Runtime) (texts : List (String × String))
    (distinct : (texts.map (·.1)).Nodup) :
    (Mapping.ofTexts py.floats texts distinct).value.isJson = true := by
  rw [Mapping.value, YamlValue.isJson, YamlValue.isJsonEntries_iff]
  simp only [Mapping.ofTexts, List.map_map, List.forall_mem_map]
  exact fun e _ => ⟨⟨e.1, rfl⟩, rfl⟩

theorem backend_text (backend : Backend) : backend.text ∈ ["http", "brainpp"] := by
  cases backend <;> simp [Backend.text]

theorem scheme_text (scheme : Scheme) : scheme.text ∈ ["http", "https"] := by
  cases scheme <;> simp [Scheme.text]

theorem storageType_text (storageType : StorageType) :
    storageType.text ∈ ["cloud", "sqlite"] := by
  cases storageType <;> simp [StorageType.text]

/-- The schema keeps every check of the settings but for the blanks. -/
theorem replaced_passes {settings : ServerSettings} {config : InitializationConfig py}
    {t₀ t₁ t₂ t₃ t₄ t₅ t₆ t₇ : JsonText} (hbase : Passes py.toUnicode settings)
    (h : Accepted config) :
    Passes py.toUnicode (replaced py settings config t₀ t₁ t₂ t₃ t₄ t₅ t₆ t₇) where
  port := hbase.port
  retryAfter := hbase.retryAfter
  logFile := hbase.logFile
  gatewayPort := config.gateway.portRange
  gatewayScheme := scheme_text config.gateway.scheme
  rjobBackend := backend_text config.rjob.backend
  rjobRetries := config.rjob.retriesGe
  restartPolicy := h.restartPolicy
  mounts := by
    have hpaths := config.gateway.paths
    simp only [validPaths, unit_bind_ok, refuse_ok, Bool.not_eq_false'] at hpaths
    have henvironment := refuse_ok.mp config.storage.environment.absoluteMount
    have hresults := refuse_ok.mp config.storage.results.absoluteMount
    have hworkdir := refuse_ok.mp config.safactory.absoluteWorkdir
    rw [Bool.not_eq_false'] at henvironment hresults hworkdir
    simp only [List.forall_mem_cons]
    exact ⟨henvironment, hresults, hpaths.1, hpaths.2.1, hworkdir, fun _ h => nomatch h⟩
  configFilename := by
    have hpaths := config.gateway.paths
    simp only [validPaths, unit_bind_ok, refuse_ok] at hpaths
    exact hpaths.2.2
  prefixes := ⟨h.gatewayPrefix, h.safactoryPrefix⟩
  storageType := storageType_text config.safactory.storageType
  numbers := by
    have hnumbers := config.safactory.gt
    simp only [List.forall_mem_cons] at hnumbers ⊢
    obtain ⟨hpool, hworkers, hsteps, htimeout, -⟩ := hnumbers
    exact ⟨hpool, hworkers, hsteps, config.gateway.readyGt, htimeout, fun _ h => nomatch h⟩
  floats := by
    have hfloats := config.safactory.floatsGt
    simp only [List.forall_mem_cons] at hfloats ⊢
    obtain ⟨hmultiplier, hstart, -⟩ := hfloats
    exact ⟨hmultiplier, hstart, config.rjob.pollGt, config.gateway.healthGt,
      fun _ h => nomatch h⟩

/-- What `apply_initialization_config` returns, with the texts that it wrote. -/
theorem applied {settings result : ServerSettings} {config : InitializationConfig py}
    (h : applyInitializationConfig py settings config = .ok result) :
    Passes py.toUnicode result ∧
      ∃ environment gatewayConfig gatewayResources gatewayRequests safactoryResources
        safactoryRequests defaults args,
      result = replaced py settings config environment gatewayConfig gatewayResources
        gatewayRequests safactoryResources safactoryRequests defaults args ∧
      written py config.gateway.config.value = .ok gatewayConfig ∧
      written py config.gateway.resources.value = .ok gatewayResources ∧
      written py config.gateway.requests.value = .ok gatewayRequests ∧
      written py config.safactory.resources.value = .ok safactoryResources ∧
      written py config.safactory.requests.value = .ok safactoryRequests ∧
      written py config.safactory.episodeRjobDefaults.value = .ok defaults := by
  obtain ⟨environment, -, h⟩ := bind_ok h
  obtain ⟨gatewayConfig, hconfig, h⟩ := bind_ok h
  obtain ⟨gatewayResources, hresources, h⟩ := bind_ok h
  obtain ⟨gatewayRequests, hrequests, h⟩ := bind_ok h
  obtain ⟨safactoryResources, hresources', h⟩ := bind_ok h
  obtain ⟨safactoryRequests, hrequests', h⟩ := bind_ok h
  obtain ⟨defaults, hdefaults, h⟩ := bind_ok h
  obtain ⟨args, -, h⟩ := bind_ok h
  obtain ⟨_, hpost, h⟩ := bind_ok h
  cases h
  exact ⟨postInit_iff.mp hpost, environment, gatewayConfig, gatewayResources, gatewayRequests,
    safactoryResources, safactoryRequests, defaults, args, rfl, hconfig, hresources, hrequests,
    hresources', hrequests', hdefaults⟩

/-- Valid settings take a file of the schema, and carry its mappings, just when no text is blank
that the settings refuse, and the mappings are JSON documents. -/
theorem agrees_iff {settings : ServerSettings} {config : InitializationConfig py}
    (hbase : postInit py.toUnicode settings = .ok ()) :
    Agrees settings config ↔ Accepted config := by
  constructor
  · rintro ⟨result, happly, hread⟩
    obtain ⟨hpasses, environment, gatewayConfig, gatewayResources, gatewayRequests,
      safactoryResources, safactoryRequests, defaults, args, rfl, hconfig, hresources, hrequests,
      hresources', hrequests', hdefaults⟩ := applied happly
    refine ⟨hpasses.restartPolicy, hpasses.prefixes.1, hpasses.prefixes.2, ?_⟩
    simp only [carried, List.forall_mem_cons] at hread
    obtain ⟨-, ⟨_, -, h₁⟩, ⟨_, -, h₂⟩, ⟨_, -, h₃⟩, ⟨_, -, h₄⟩, ⟨_, -, h₅⟩, ⟨_, -, h₆⟩, -⟩ := hread
    simp only [freeForm, List.forall_mem_cons]
    exact ⟨isJson_of_written hconfig h₁, isJson_of_written hresources h₂,
      isJson_of_written hrequests h₃, isJson_of_written hresources' h₄,
      isJson_of_written hrequests' h₅, isJson_of_written hdefaults h₆, fun _ h => nomatch h⟩
  · intro h
    have hwritten : ∀ mapping ∈ freeForm config, ∃ text, written py mapping.value = .ok text ∧
        ∃ document, text.document = some document ∧ mapping.value.equals document = true :=
      fun mapping hmem => written_isJson (h.json mapping hmem) mapping.value_valid
    simp only [freeForm, List.forall_mem_cons] at hwritten
    obtain ⟨⟨gatewayConfig, hconfig, h₁⟩, ⟨gatewayResources, hresources, h₂⟩,
      ⟨gatewayRequests, hrequests, h₃⟩, ⟨safactoryResources, hresources', h₄⟩,
      ⟨safactoryRequests, hrequests', h₅⟩, ⟨defaults, hdefaults, h₆⟩, -⟩ := hwritten
    obtain ⟨environment, henvironment, h₀⟩ := written_isJson
      (ofTexts_isJson py config.database.environment config.database.distinct)
      (Mapping.value_valid _)
    obtain ⟨args, hargs⟩ := written_args py config.safactory.launcherArgs
    refine ⟨replaced py settings config environment gatewayConfig gatewayResources gatewayRequests
      safactoryResources safactoryRequests defaults args, ?_, ?_⟩
    · simp only [applyInitializationConfig, henvironment, hconfig, hresources, hrequests,
        hresources', hrequests', hdefaults, hargs, bind, Except.bind]
      rw [postInit_iff.mpr (replaced_passes (postInit_iff.mp hbase) h)]
      rfl
    · simp only [carried, List.forall_mem_cons]
      exact ⟨h₀, h₁, h₂, h₃, h₄, h₅, h₆, fun _ h => nomatch h⟩

end

/-- An interpreter that knows ASCII white space and one float. -/
def plainRuntime : Runtime where
  isspace := fun _ => false
  isalnum := fun _ => false
  isprintable := fun _ => false
  lower := id
  floats :=
    { isFloat := fun value => value = 1 / 2
      digits := fun _ => "0.5"
      floatOf := fun _ => .finite (1 / 2)
      isFloatText := fun _ _ => show IsFloatText ([] ++ ['0'] ++ ['.', '5'] ++ []) from
        .parts (.inl rfl) ⟨allDigits_iff.mpr rfl, fun _ => rfl⟩
          (.digits (allDigits_iff.mpr rfl)) .none (by decide)
      floatOf_digits := fun value h => by rw [decide_eq_true_eq.mp h] }

/-- A file with one route, and this restart policy. -/
def routeConfig (restartPolicy : String)
    (minLength : ∀ text ∈ ["ns", "group", restartPolicy, "Group", "12h", "14h"], text ≠ "") :
    InitializationConfig plainRuntime where
  database := { controlDbPath := "/srv/control.db", dataPlatformFactory := "sdk:create_client" }
  rjob :=
    { clusterEntry := some "https://rjob.example"
      rjobNamespace := "ns"
      chargedGroup := "group"
      restartPolicy
      minLength }
  storage :=
    { environment :=
        { localPath := "/srv/env", rjobSource := "gpfs://shared/env", mountPath := "/app/env" }
      results :=
        { localPath := "/srv/results", rjobSource := "gpfs://shared/results",
          mountPath := "/app/results" } }
  catalog := { rangesPath := "/srv/ranges.yaml" }
  gateway :=
    { config :=
        { entries := [("listen_port", .int 8000), ("base_session_path", .str "/v1/sessions"),
            ("storage_type", .str "cloud"),
            ("llm_routes", .dict [(.str "test", .dict [(.str "base_url", .str "https://m")])])]
          distinct := by decide
          valid := by simp [YamlValue.Valid] }
      configMinLength := by simp }
  safactory := {}
  complete := by rfl

theorem agrees_never : Agrees {} (routeConfig "Never" (by decide)) :=
  (agrees_iff (by rfl)).mpr ⟨by decide, by decide, by decide, by
    simp only [freeForm, List.forall_mem_cons]
    exact ⟨by decide, by decide, by decide, by decide, by decide, by decide, fun _ h => nomatch h⟩⟩

theorem blank_policy_raises :
    postInit plainRuntime.toUnicode {} = .ok () ∧
      ¬ Agrees {} (routeConfig " " (by decide)) := by
  refine ⟨by rfl, ?_⟩
  rintro ⟨result, happly, -⟩
  obtain ⟨hpasses, _, _, _, _, _, _, _, _, rfl, -⟩ := applied happly
  have hblank : plainRuntime.strip " " = "" := by decide
  exact hpasses.restartPolicy hblank

end SafactoryServer.Initialization
