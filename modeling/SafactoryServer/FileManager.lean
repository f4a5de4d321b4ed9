import SafactoryServer.Binding
import SafactoryServer.Catalog
import SafactoryServer.Effect.Program
import SafactoryServer.FileTree
import SafactoryServer.Landing

/-! `SharedFileManager.bind`: the input directory of a Job is rendered from the files of a range
into a staging directory, and published by one rename. -/

namespace SafactoryServer

open Effect FileTree

/-- The components of an absolute path without symlinks. -/
abbrev Path := List String

/-- `str(path)`. -/
def Path.str (path : Path) : String := "/" ++ String.intercalate "/" path

abbrev Bytes := List UInt8

/-- What a file holds: bytes, or the text of a JSON document. -/
inductive FileContent
  | bytes (data : Bytes)
  | json (document : Json)

abbrev Files := Tree String FileContent

/-- The exceptions of the calls in `bind`, as its `except` clauses tell them apart: an `OSError`, a
`UnicodeError`, another `ValueError`, a `TypeError`, a `yaml.YAMLError`, or any other. -/
inductive Fault
  | os
  | unicode
  | value
  | type
  | yaml
  | other (x : PyExc)
deriving DecidableEq

/-- What `bind` raises. -/
inductive BindExc
  | fileBinding (message : String)
  | fault (x : Fault)
deriving DecidableEq

/-- What `_copy_environment_files` finds of an entry of a directory. -/
inductive SourceKind
  | dir (tree : Files)
  | file (content : FileContent)
  | other

/-- An entry of the directory of an environment; `holdsTarget` if the target of the copy is at or
below it. -/
structure SourceItem where
  name : String
  holdsTarget : Bool
  kind : SourceKind

/-- The calls of `bind` on the catalog, the sources of a range and the shared storage, and
`request`, which waits for its next arguments.  A source is named as the range configures it;
`isFileBeside` and `iterdirBeside` are about the directory that holds a source. -/
inductive FileOp
  | request
  | catalog
  | readYaml (source : String)
  | readBytes (source : String)
  | isFileBeside (source file : String)
  | iterdirBeside (source : String)
  | exists (path : Path)
  | readText (path : Path)
  | mkdirs (path : Path) (existOk : Bool)
  | mkdir (path : Path)
  | mkdtemp (dir : Path)
  | write (path : Path) (content : FileContent)
  | copytree (path : Path) (tree : Files)
  | replace (src dst : Path)
  | rmtree (path : Path)

@[reducible] def FileAns : FileOp → Type
  | .request => String × String
  | .catalog => RealCatalog
  | .readYaml _ => Except Fault Value
  | .readBytes _ => Except Fault Bytes
  | .isFileBeside _ _ => Except Fault Bool
  | .iterdirBeside _ => Except Fault (List SourceItem)
  | .exists _ => Bool
  | .readText _ => Except Fault Json
  | .mkdirs _ _ => Except Fault Unit
  | .mkdir _ => Except Fault Unit
  | .mkdtemp _ => Except Fault Path
  | .write _ _ => Except Fault Unit
  | .copytree _ _ => Except Fault Unit
  | .replace _ _ => Except Fault Unit
  | .rmtree _ => Unit

abbrev FileTask (α : Type) := Task FileOp FileAns BindExc α

namespace FileTask

variable {α : Type}

/-- `raise FileBindingError(message)`. -/
def fail (message : String) : FileTask α := throw (.fileBinding message)

@[simp] theorem fail_bind {β : Type} (message : String) (f : α → FileTask β) :
    (fail message >>= f) = fail message := rfl

def attempt : Except Fault α → FileTask α
  | .ok a => return a
  | .error x => throw (.fault x)

/-- The result of checks that raise `FileBindingError`. -/
def checked : Except String α → FileTask α
  | .ok a => return a
  | .error message => fail message

def catalog : FileTask RealCatalog := Task.ask FileOp.catalog

def isFileBeside (source file : String) : FileTask Bool := do
  attempt (← Task.ask (.isFileBeside source file))

def iterdirBeside (source : String) : FileTask (List SourceItem) := do
  attempt (← Task.ask (.iterdirBeside source))

def pathExists (path : Path) : FileTask Bool := Task.ask (FileOp.exists path)

def readText (path : Path) : FileTask Json := do attempt (← Task.ask (.readText path))

def mkdirs (path : Path) (existOk : Bool) : FileTask Unit := do
  attempt (← Task.ask (.mkdirs path existOk))

def mkdir (path : Path) : FileTask Unit := do attempt (← Task.ask (.mkdir path))

def mkdtemp (dir : Path) : FileTask Path := do attempt (← Task.ask (.mkdtemp dir))

def write (path : Path) (content : FileContent) : FileTask Unit := do
  attempt (← Task.ask (.write path content))

/-- `path.write_text(json.dumps(document))`: an integer that is too long is a `ValueError`. -/
def writeJson (path : Path) (document : Json) : FileTask Unit := do
  attempt (if ∀ n ∈ document.ints, Json.Prints n then .ok () else .error .value)
  write path (.json document)

def copytree (path : Path) (tree : Files) : FileTask Unit := do
  attempt (← Task.ask (.copytree path tree))

def replace (src dst : Path) : FileTask Unit := do attempt (← Task.ask (.replace src dst))

def rmtree (path : Path) : FileTask Unit := Task.ask (FileOp.rmtree path)

end FileTask

open FileTask

/-- `_read_yaml`. -/
def readYaml (source : String) : FileTask Row := do
  match ← Task.ask (FileOp.readYaml source) with
  | .error .os | .error .unicode | .error .yaml =>
    fail "a trusted YAML input is unavailable or invalid"
  | .error x => throw (.fault x)
  | .ok document =>
    match document.asDict? with
    | none => fail "trusted YAML root must be an object"
    | some fields => return fields

/-- The characters at which `str.splitlines` ends a line. -/
def endsLine (c : Char) : Bool :=
  [0x0A, 0x0B, 0x0C, 0x0D, 0x1C, 0x1D, 0x1E, 0x85, 0x2028, 0x2029].contains c.toNat

/-- `_mount_target`. -/
def mountTarget : Value → Option String
  | .str s =>
    if s.toList.contains ':' then
      some (String.ofList (s.toList.reverse.takeWhile (· ≠ ':')).reverse)
    else none
  | .dict fields => (Row.field fields "target").asStr?
  | _ => none

/-- `_validate_launcher_rjob_config`. -/
def validateLauncherRjobConfig (document : Row) : Except String Unit :=
  match (document.field "rjob").asDict? with
  | none | some [] => .error "launcher RJob config must contain a non-empty rjob mapping"
  | some _ => .ok ()

/-- `_validate_start_config`. -/
def validateStartConfig (document : Row) (envName resultTarget : String) : Except String Unit := do
  if (document.field "agent_name").asStr? ≠ some envName then
    throw "agent_name does not match env_name"
  if ((document.field "container").field "runner_entrypoint").asDict?.isNone then
    throw "runner_entrypoint is missing"
  if (document.field "rjob").asDict?.isNone then throw "rjob configuration is missing"
  match ((document.field "rjob").field "mount_config").asList? with
  | none | some [] => throw "result mount_config is missing"
  | some mounts =>
    if !mounts.any (mountTarget · = some resultTarget) then
      throw ("result mount target must be " ++ resultTarget)

/-- The names that `_copy_environment_files` leaves out. -/
def ignoredNames : List String :=
  [".git", ".pytest_cache", ".ruff_cache", "__pycache__", "datasets", "runtime", "results"]

/-- `shutil.ignore_patterns`, of names without wildcards. -/
def withoutIgnored (tree : Files) : Files :=
  fun path => if path.any ignoredNames.contains then none else tree path

/-- One round of the loop of `_copy_environment_files`. -/
def copyItem (target : Path) (item : SourceItem) : FileTask Unit :=
  if ignoredNames.contains item.name || item.holdsTarget then return
  else match item.kind with
    | .dir tree => copytree (target ++ [item.name]) (withoutIgnored tree)
    | .file content => write (target ++ [item.name]) content
    | .other => return

/-- `_copy_environment_files` from the directory that holds `source`. -/
def copyEnvironmentFiles (source : String) (target : Path) : FileTask Unit := do
  mkdirs target false
  (← iterdirBeside source).forM (copyItem target)

/-- The first loop of `_render_binding`: the environments by their names. -/
def nameEnvironments : List Value → List (String × Row) → Except String (List (String × Row))
  | [], named => .ok named
  | environment :: rest, named =>
    match environment.asDict? with
    | none => .error "each environment must be an object"
    | some fields =>
      match (Row.field fields "env_name").asStr? with
      | none => .error "env_name is missing or unsafe"
      | some name =>
        if !safeName name then .error "env_name is missing or unsafe"
        else if named.any (·.1 = name) then .error "env_name values must be unique"
        else nameEnvironments rest (named ++ [(name, fields)])

/-- The storage, and what the code takes from its libraries: `yaml.safe_dump`, the hexadecimal
SHA-256 digest, and UTF-8. -/
structure SharedFileManager where
  root : Path
  rjobRoot : String
  resultsRoot : Path
  resultsRjobRoot : String
  inputTarget : String := "/mnt/safactory-job"
  resultTarget : String := "/app/results"
  gatewayConfig : Row := []
  gatewayConfigMountDir : Path := ["app", "runtime-config"]
  gatewayConfigFilename : Path := ["gateway.yaml"]
  python : Interpreter
  safeDump : Value → Except Fault Bytes
  sha256 : Bytes → String
  decode : Bytes → Option String

/-- The loop of `_read_dataset`: every line is an object. -/
def checkRecords (py : Interpreter) : List String → Except PyExc Unit
  | [] => .ok ()
  | line :: rest => do
    if (← py.loads line).asDict?.isNone then throw .valueError
    checkRecords py rest

namespace SharedFileManager

variable (m : SharedFileManager)

/-- The number of records of a dataset; a `ValueError` if it is not valid. -/
def datasetRecords (content : Bytes) : Except PyExc Nat := do
  let some text := m.decode content | throw .valueError
  let lines := (text.toList.splitOnP endsLine).map String.ofList
  let records := lines.filter fun line => m.python.toUnicode.strip line ≠ ""
  if records.isEmpty then throw .valueError
  checkRecords m.python records
  return records.length

/-- `_read_dataset`. -/
def readDataset (source : String) : FileTask (Bytes × Nat) := do
  match ← Task.ask (FileOp.readBytes source) with
  | .error .os | .error .unicode | .error .value =>
    fail "dataset.jsonl is unavailable or invalid"
  | .error x => throw (.fault x)
  | .ok content =>
    match m.datasetRecords content with
    | .error .valueError => fail "dataset.jsonl is unavailable or invalid"
    | .error x => throw (.fault (.other x))
    | .ok records => return (content, records)

/-- `_validate_runner_entrypoint`; the start config has passed `_validate_start_config`. -/
def validateRunnerEntrypoint (document : Row) (startConfig : String) : FileTask Unit := do
  let entrypoint := (document.field "container").field "runner_entrypoint"
  match (entrypoint.field "command").asStr? with
  | none => fail "runner_entrypoint.command is missing"
  | some command =>
    if m.python.toUnicode.strip command = "" then fail "runner_entrypoint.command is missing"
    if (entrypoint.asDict?.bind (lookup "source")).isSome then
      match (entrypoint.field "source").asStr? with
      | none => fail "runner_entrypoint.source is invalid"
      | some source =>
        if m.python.toUnicode.strip source = "" then fail "runner_entrypoint.source is invalid"
        if !source.startsWith "/" then
          if !(← isFileBeside startConfig source) then
            fail ("relative runner source is unavailable: " ++ source)

/-- The start config with the result mount of the Job. -/
def renderStart (document : Row) (resultSource : String) : Row :=
  let rjob : Row := ((document.field "rjob").asDict?).getD []
  let mounts := ((rjob.field "mount_config").asList?).getD []
  let kept := mounts.filter fun mount => mountTarget mount ≠ some m.resultTarget
  let mount := resultSource ++ ":" ++ m.resultTarget
  Landing.assign "rjob" (.dict (Landing.assign "mount_config" (.list (kept ++ [.str mount])) rjob))
    document

/-- The fields of the environment of a group, as the loop over the groups checks them. -/
def environmentFields (envName : String) (environment : Row) :
    Except String (String × Int × Row) :=
  match (environment.field "env_image").asStr? with
  | none => .error ("env_image is invalid for " ++ envName)
  | some envImage =>
    if m.python.toUnicode.strip envImage = "" then .error ("env_image is invalid for " ++ envName)
    else match environment.field "env_num" with
      | .int envNum =>
        if envNum < 1 then .error ("env_num is invalid for " ++ envName)
        else match (environment.field "env_params").asDict? with
          | none => .error ("env_params is invalid for " ++ envName)
          | some envParams => .ok (envImage, envNum, envParams)
      | _ => .error ("env_num is invalid for " ++ envName)

/-- One round of the loop over the groups: the environment as it is rendered, and its binding. -/
def renderGroup (staging : Path) (resultSource : String) (group : RangeGroupConfig)
    (environment : Row) : FileTask (Row × EnvironmentBinding) := do
  let (envImage, envNum, envParams) ← checked (m.environmentFields group.envName environment)
  let (dataset, records) ← m.readDataset group.dataset
  let startDocument ← readYaml group.startConfig
  checked (validateStartConfig startDocument group.envName m.resultTarget)
  m.validateRunnerEntrypoint startDocument group.startConfig
  let groupDir := staging ++ ["groups", group.envName]
  copyEnvironmentFiles group.startConfig groupDir
  write (groupDir ++ ["dataset.jsonl"]) (.bytes dataset)
  let start ← attempt (m.safeDump (.dict (m.renderStart startDocument resultSource)))
  write (groupDir ++ ["start.rjob.yaml"]) (.bytes start)
  let target := m.inputTarget ++ "/groups/" ++ group.envName ++ "/dataset.jsonl"
  let params := Landing.assign "safactory_results_root" (.str m.resultTarget) envParams
  return (Landing.assign "env_params" (.dict params)
      (Landing.assign "dataset" (.str target) environment),
    { envName := group.envName, envImage := envImage, envNum := envNum
      datasetRecords := records, datasetChecksum := m.sha256 dataset
      startConfigChecksum := m.sha256 start })

/-- The loop over the groups, with its accumulators. -/
def renderGroups (staging : Path) (resultSource : String) : List RangeGroupConfig →
    List (String × Row) → List EnvironmentBinding → Int →
    FileTask (List (String × Row) × List EnvironmentBinding × Int)
  | [], environments, bindings, total => return (environments, bindings, total)
  | group :: rest, environments, bindings, total => do
    let some environment := lookup group.envName environments
      | throw (.fault (.other .keyError))
    let (rendered, binding) ← m.renderGroup staging resultSource group environment
    renderGroups staging resultSource rest (Landing.assign group.envName rendered environments)
      (bindings ++ [binding]) (total + binding.datasetRecords * binding.envNum)

/-- The launcher config of a range that has one, with its path and checksum. -/
def renderLauncher (staging : Path) (config : RangeConfig) : FileTask (Option String × String) := do
  match config.launcherRjobConfig with
  | none => return (none, "")
  | some source =>
    let document ← readYaml source
    checked (validateLauncherRjobConfig document)
    let content ← attempt (m.safeDump (.dict document))
    write (staging ++ ["launcher.rjob.yaml"]) (.bytes content)
    return (some (m.inputTarget ++ "/launcher.rjob.yaml"), m.sha256 content)

/-- The checks of `_render_binding` on the environments of the agent config. -/
def matchEnvironments (agentDocument : Row) (groups : List RangeGroupConfig) :
    Except String (List (String × Row)) := do
  match (agentDocument.field "environments").asList? with
  | none | some [] => throw "agent config must contain non-empty environments"
  | some environments =>
    let named ← nameEnvironments environments []
    let declared := groups.map (·.envName)
    if !(named.all (declared.contains ·.1) && declared.all fun name => named.any (·.1 = name)) then
      throw "range groups do not match agent environments"
    return named

/-- `_render_binding`. -/
def renderBinding (staging finalInput : Path) (jobId : String) (config : RangeConfig) :
    FileTask JobFileBinding := do
  let agentDocument ← readYaml config.agentConfig
  let environments ← checked (matchEnvironments agentDocument config.groups)
  let [onlyGroup] := config.groups
    | fail ("the Safactory launcher accepts one agent start config per Job; " ++
        "configure exactly one environment group")
  let (launcherPath, launcherChecksum) ← m.renderLauncher staging config
  let resultLocalPath := m.resultsRoot ++ [jobId]
  mkdirs resultLocalPath true
  let resultSource := joinSource m.resultsRjobRoot jobId
  let (rendered, groupBindings, totalEpisodes) ←
    m.renderGroups staging resultSource config.groups environments [] 0
  let agent ← attempt (m.safeDump (.dict (Landing.assign "environments"
    (.list (rendered.map fun p => .dict p.2)) agentDocument)))
  write (staging ++ ["config.yaml"]) (.bytes agent)
  let gateway ← attempt (m.safeDump (.dict m.gatewayConfig))
  mkdir (staging ++ ["gateway"])
  write (staging ++ "gateway" :: m.gatewayConfigFilename) (.bytes gateway)
  let inputSource := joinSource m.rjobRoot jobId
  return {
    jobId := jobId
    rangeId := config.rangeId
    inputLocalPath := finalInput.str
    inputSource := inputSource
    inputTarget := m.inputTarget
    resultLocalPath := resultLocalPath.str
    resultSource := resultSource
    resultTarget := m.resultTarget
    agentConfigPath := m.inputTarget ++ "/config.yaml"
    agentStartConfigPath :=
      m.inputTarget ++ "/groups/" ++ onlyGroup.envName ++ "/start.rjob.yaml"
    agentConfigChecksum := m.sha256 agent
    groups := groupBindings
    totalEpisodes := totalEpisodes
    launcherRjobConfigPath := launcherPath
    launcherRjobConfigChecksum := launcherChecksum
    gatewayConfigSource := joinSource inputSource "gateway"
    gatewayConfigPath := (m.gatewayConfigMountDir ++ m.gatewayConfigFilename).str
    gatewayConfigChecksum := m.sha256 gateway }

/-- The exceptions that the second `except` clause of `bind` names. -/
def handled : Fault → Bool
  | .other _ => false
  | _ => true

/-- The `try` clause of `bind`. -/
def publish (staging finalInput : Path) (jobId : String) (config : RangeConfig) :
    FileTask JobFileBinding := do
  let binding ← m.renderBinding staging finalInput jobId config
  writeJson (staging ++ [".binding.json"]) binding.toJson
  replace staging finalInput
  return binding

/-- The `except` clauses of `bind`. -/
def discard (staging : Path) : BindExc → FileTask JobFileBinding
  | .fileBinding message => do
    rmtree staging
    fail message
  | .fault x =>
    if handled x then do
      rmtree staging
      fail "failed to publish immutable job files"
    else throw (.fault x)

/-- `bind`, once no input of the Job exists. -/
def bindFresh (finalInput : Path) (jobId : String) (config : RangeConfig) :
    FileTask JobFileBinding := do
  mkdirs m.root true
  let staging ← mkdtemp m.root
  tryCatch (m.publish staging finalInput jobId config) (discard staging)

/-- `bind`, once the Job has a `.binding.json`. -/
def bindAgain (bindingPath : Path) (jobId rangeId : String) : FileTask JobFileBinding := do
  match JobFileBinding.fromJson (← readText bindingPath) with
  | .error .fileBindingError =>
    fail "legacy multi-environment binding has no launcher start config"
  | .error x => throw (.fault (.other x))
  | .ok binding =>
    if binding.jobId ≠ jobId ∨ binding.rangeId ≠ rangeId then
      fail "existing immutable binding does not match job"
    return binding

/-- `bind`, once the range is known to be available. -/
def bindInput (jobId rangeId : String) (config : RangeConfig) : FileTask JobFileBinding := do
  let finalInput := m.root ++ [jobId]
  let bindingPath := finalInput ++ [".binding.json"]
  if ← pathExists bindingPath then
    bindAgain bindingPath jobId rangeId
  else if ← pathExists finalInput then
    fail "partial input binding already exists"
  else m.bindFresh finalInput jobId config

/-- `bind`. -/
def bind (jobId rangeId : String) : FileTask JobFileBinding := do
  if !safeName jobId then fail "job_id is not safe for storage"
  match (← catalog).resolveRange rangeId with
  | .error x => throw (.fault (.other x))
  | .ok none => fail "range is unavailable"
  | .ok (some config) =>
    if !config.available then fail "range is unavailable"
    m.bindInput jobId rangeId config

/-- One call of `bind` with any arguments. -/
def serve : FileTask JobFileBinding := do
  let (jobId, rangeId) ← Task.ask FileOp.request
  m.bind jobId rangeId

end SharedFileManager

/-- The arguments of `SharedFileManager.__init__` beside the libraries. -/
structure StorageSettings where
  root : Path
  rjobRoot : Option String := none
  resultsRoot : Option Path := none
  resultsRjobRoot : Option String := none
  inputTarget : String := "/mnt/safactory-job"
  resultTarget : String := "/app/results"
  gatewayConfig : Row := []
  gatewayConfigMountDir : Path := ["app", "runtime-config"]
  gatewayConfigFilename : Path := ["gateway.yaml"]

/-- `text.rstrip("/") or "/"`. -/
def mountDirectory (text : String) : String :=
  if rstrip ['/'] text = "" then "/" else rstrip ['/'] text

/-- `SharedFileManager.__init__`, with an absolute `gateway_config_mount_dir` and a relative
`gateway_config_filename`. -/
def SharedFileManager.init (settings : StorageSettings) (python : Interpreter)
    (safeDump : Value → Except Fault Bytes) (sha256 : Bytes → String)
    (decode : Bytes → Option String) : Except PyExc SharedFileManager := do
  if settings.gatewayConfigFilename.contains ".." then throw .valueError
  let resultsRoot := settings.resultsRoot.getD (settings.root ++ ["results"])
  return {
    root := settings.root
    rjobRoot := (settings.rjobRoot.filter (· ≠ "")).getD settings.root.str
    resultsRoot := resultsRoot
    resultsRjobRoot := (settings.resultsRjobRoot.filter (· ≠ "")).getD resultsRoot.str
    inputTarget := mountDirectory settings.inputTarget
    resultTarget := mountDirectory settings.resultTarget
    gatewayConfig := settings.gatewayConfig
    gatewayConfigMountDir := settings.gatewayConfigMountDir
    gatewayConfigFilename := settings.gatewayConfigFilename
    python := python
    safeDump := safeDump
    sha256 := sha256
    decode := decode }

end SafactoryServer
