import SafactoryServer.Binding
import SafactoryServer.Net
import SafactoryServer.RJob

/-! What the orchestrator computes without waiting: the specifications of the two RJobs of a Job,
the checks of a Gateway snapshot and of a result summary, and the deadlines. -/

namespace SafactoryServer

/-- A JSON text of the settings and the document that `json.loads` makes of it, if any. -/
structure JsonText where
  text : String
  document : Option Json

/-- `DEFAULT_RUNTIME_NO_PROXY`. -/
def defaultRuntimeNoProxy : String :=
  "localhost,127.0.0.1,::1,10.0.0.0/8,100.96.0.0/12," ++
  "172.16.0.0/12,192.168.0.0/16,.svc,.svc.cluster.local," ++
  ".cluster.local,.pjlab.local,.pjlab.org.cn,.pjh-service.org.cn," ++
  "kubernetes.default.svc"

/-- The settings that the orchestrator reads. -/
structure Settings where
  rjobEndpoint : Option String := none
  rjobClusterEntry : Option String := none
  rjobAccessKey : Option String := none
  rjobSecretKey : Option String := none
  rjobRestartPolicy : String := "Never"
  rjobNamespace : String := "default"
  chargedGroup : String := "default"
  rjobPrivateMachine : String := "Group"
  rjobHostNetwork : Option Bool := none
  keepRjobs : Bool := false
  rjobAutoDeleteDuration : String := "12h"
  rjobMaxRunningDuration : String := "14h"
  rjobCredentialRef : String := ""
  dataPlatformConfigRef : String := ""
  databaseEnvironmentJson : JsonText := ⟨"{}", some (.obj [])⟩
  gatewayResourcesJson : JsonText := ⟨"{}", some (.obj [])⟩
  gatewayRequestsJson : JsonText := ⟨"{}", some (.obj [])⟩
  safactoryResourcesJson : JsonText := ⟨"{}", some (.obj [])⟩
  safactoryRequestsJson : JsonText := ⟨"{}", some (.obj [])⟩
  episodeRjobDefaultsJson : JsonText := ⟨"{}", some (.obj [])⟩
  gatewayConfigMountDir : String := "/app/runtime-config"
  gatewayNamePrefix : String := "safactory-gateway"
  gatewayWorkdir : String := "/app"
  gatewayPort : Int := 8000
  gatewayScheme : String := "http"
  gatewayHealthPath : String := "/readyz"
  gatewaySessionsPath : String := "/v1/sessions"
  runtimeNoProxy : String := defaultRuntimeNoProxy
  safactoryNamePrefix : String := "safactory"
  safactoryWorkdir : String := "/app"
  safactoryPythonBin : String := "python"
  safactoryLauncherRjobConfig : String := "config.yaml"
  safactoryStorageType : String := "cloud"
  safactoryPoolSize : Int := 10
  safactoryMultiplier : PyFloat := .finite 1
  safactoryMaxWorkers : Int := 10
  safactoryMaxSteps : Int := 150
  safactoryAgentStartTimeoutSeconds : PyFloat := .finite 9000
  safactoryEnableEvaluation : Bool := true
  safactoryLauncherArgsJson : JsonText := ⟨"[]", some (.arr [])⟩
  gatewayReadyTimeoutSeconds : Int := 300
  safactoryTimeoutSeconds : Int := 7200

/-- The orchestrator: its settings, the pull policy of the initialization file, and Python's
character tables and float digits. -/
structure RealJobOrchestrator where
  settings : Settings
  imagePullPolicy : String
  unicode : Unicode
  digits : ℚ → String

/-- `_json_object`. -/
def jsonObject (value : JsonText) : Except PyExc (List (String × Json)) :=
  match value.document.bind Json.asObj? with
  | some parsed => .ok parsed
  | none => .error .trustedConfigError

/-- `_json_string_list`. -/
def jsonStringList (value : JsonText) : Except PyExc (List String) :=
  match value.document with
  | some (.arr items) => (items.mapM Json.asStr?).elim (.error .trustedConfigError) .ok
  | _ => .error .trustedConfigError

/-- One value of `_string_environment`. -/
def environmentValue (digits : ℚ → String) : Json → Except PyExc String
  | .str s => .ok s
  | .int n => .ok (toString n)
  | .bool b => .ok (if b then "True" else "False")
  | .float x => .ok (x.str digits)
  | _ => .error .trustedConfigError

/-- `_string_environment`. -/
def stringEnvironment (digits : ℚ → String) :
    List (String × Json) → Except PyExc (List (String × String))
  | [] => .ok []
  | (key, item) :: rest => do
    if key = "" then throw .trustedConfigError
    let value ← environmentValue digits item
    return (key, value) :: (← stringEnvironment digits rest)

/-- `entries[key] = value`. -/
def dictSet (entries : List (String × String)) (item : String × String) : List (String × String) :=
  if entries.any (·.1 == item.1) then
    entries.map fun entry => if entry.1 == item.1 then item else entry
  else entries ++ [item]

/-- `{**entries, **items}`. -/
def dictUpdate (entries items : List (String × String)) : List (String × String) :=
  items.foldl dictSet entries

structure GatewayModelConfig where
  route : List (String × Json)
  environment : List (String × String)
  llmModel : Option String

/-- `GatewayModelConfig.model_validate_json`. -/
def GatewayModelConfig.validate (document : Json) : Except PyExc GatewayModelConfig := do
  let some raw := document.asObj? | throw .valueError
  if raw.any (·.1 ∉ ["route", "environment", "llm_model"]) then throw .valueError
  let some route := (lookup "route" raw).bind Json.asObj? | throw .valueError
  if route.isEmpty then throw .valueError
  let some entries := ((lookup "environment" raw).getD (.obj [])).asObj? | throw .valueError
  let some environment := entries.mapM fun (key, value) => value.asStr?.map (key, ·)
    | throw .valueError
  let some llmModel := ((lookup "llm_model" raw).getD .null).asOptionalStr? | throw .valueError
  return { route := route, environment := environment, llmModel := llmModel }

/-- The stored model snapshot, as both submissions read it. -/
def storedModel (job : ControlJob) : Except PyExc GatewayModelConfig :=
  match GatewayModelConfig.validate job.modelGatewayJson with
  | .error .valueError => .error .trustedConfigError
  | result => result

/-- `re.sub` of every run of characters that are not kept, from inside a run or not. -/
def dashRuns (keep : Char → Bool) : (inRun : Bool) → List Char → List Char
  | _, [] => []
  | inRun, c :: rest =>
    if keep c then c :: dashRuns keep false rest
    else if inRun then dashRuns keep true rest else '-' :: dashRuns keep true rest

/-- `_safe_rjob_name`. -/
def safeRjobName (u : Unicode) (value : String) : String :=
  let keep := fun c : Char => ('a' ≤ c && c ≤ 'z') || c.isDigit || c == '.' || c == '-'
  let normalized := rstrip ['-', '.'] (lstrip ['-', '.']
    (String.ofList (dashRuns keep false (u.lowered value).toList)))
  rstrip ['-', '.'] (String.ofList
    ((if normalized = "" then "safactory" else normalized).toList.take 49))

namespace RealJobOrchestrator

variable (o : RealJobOrchestrator)

/-- The specification that `_submit_gateway` creates. -/
def gatewaySpec (job : ControlJob) (binding : JobFileBinding) : Except PyExc RJobSpec := do
  let gatewayModel ← storedModel job
  let databaseEnvironment ←
    stringEnvironment o.digits (← jsonObject o.settings.databaseEnvironmentJson)
  let environment := dictUpdate (dictUpdate gatewayModel.environment databaseEnvironment)
    [("PYTHONPATH", o.settings.gatewayWorkdir),
     ("PYTHONDONTWRITEBYTECODE", "1"),
     ("PYTHONUNBUFFERED", "1"),
     ("NO_PROXY", o.settings.runtimeNoProxy),
     ("no_proxy", o.settings.runtimeNoProxy),
     ("SAFACTORY_JOB_ID", job.jobId),
     ("SAFACTORY_MODEL_ID", job.modelId),
     ("SAFACTORY_MODEL_ROUTE", (Json.obj gatewayModel.route).dumps o.digits),
     ("GATEWAY_LISTEN_PORT", toString o.settings.gatewayPort)]
  return {
    name := safeRjobName o.unicode (o.settings.gatewayNamePrefix ++ "-" ++ job.jobId)
    idempotencyKey := job.jobId ++ ":gateway"
    «namespace» := o.settings.rjobNamespace
    chargedGroup := o.settings.chargedGroup
    image := job.gatewayImage
    imagePullPolicy := o.imagePullPolicy
    role := "gateway"
    labels := [("safactory.brainpp.cn/job-id", job.jobId),
      ("safactory.brainpp.cn/component", "gateway")]
    environment := environment
    command := gatewayCommand o.unicode binding.gatewayConfigPath
    workingDir := o.settings.gatewayWorkdir
    mounts := [⟨binding.gatewayConfigSource, o.settings.gatewayConfigMountDir, true⟩]
    resources := ← jsonObject o.settings.gatewayResourcesJson
    requests := ← jsonObject o.settings.gatewayRequestsJson
    timeoutSeconds := o.settings.safactoryTimeoutSeconds
    daemon := true
    restartPolicy := o.settings.rjobRestartPolicy
    privateMachine := some o.settings.rjobPrivateMachine
    hostNetwork := o.settings.rjobHostNetwork
    autoDeleteDuration := some o.settings.rjobAutoDeleteDuration }

/-- `_launcher_command`. -/
def launcherCommand (binding : JobFileBinding) (jobId gatewayUrl llmModel : String) :
    Except PyExc (List String) := do
  let configured := binding.launcherRjobConfigPath.getD ""
  let launcherRjobConfig :=
    if configured = "" then o.settings.safactoryLauncherRjobConfig else configured
  let command :=
    [o.settings.safactoryPythonBin, "launcher.py",
     "--mode", "rjob",
     "--rjob-config", launcherRjobConfig,
     "--agent-config", binding.agentConfigPath,
     "--agent-start-config", binding.agentStartConfigPath,
     "--gateway-base-url", gatewayUrl,
     "--llm-model", llmModel,
     "--storage-type", o.settings.safactoryStorageType,
     "--job-id", jobId,
     "--pool-size", toString o.settings.safactoryPoolSize,
     "--multiplier", o.settings.safactoryMultiplier.str o.digits,
     "--max-workers", toString o.settings.safactoryMaxWorkers,
     "--max-steps", toString o.settings.safactoryMaxSteps,
     "--agent-start-timeout-s", o.settings.safactoryAgentStartTimeoutSeconds.str o.digits]
  let evaluation := if o.settings.safactoryEnableEvaluation then ["--enable-evaluation"] else []
  return command ++ evaluation ++ (← jsonStringList o.settings.safactoryLauncherArgsJson)

/-- The specification that `_submit_safactory` creates. -/
def safactorySpec (job : ControlJob) (binding : JobFileBinding) : Except PyExc RJobSpec := do
  let gatewayUrl := job.gatewayUrl.getD ""
  if gatewayUrl = "" then throw .runtimeError
  let gatewaySessionsUrl := appendUrlPath gatewayUrl o.settings.gatewaySessionsPath
  let gatewayModel ← storedModel job
  let llmModel := gatewayModel.llmModel.getD ""
  let launcherCommand ← o.launcherCommand binding job.jobId gatewaySessionsUrl
    (if llmModel = "" then job.modelId else llmModel)
  let databaseEnvironment ←
    stringEnvironment o.digits (← jsonObject o.settings.databaseEnvironmentJson)
  let environment := dictUpdate databaseEnvironment
    [("RJOB_CLUSTER_ENTRY", o.settings.rjobClusterEntry.getD ""),
     ("RJOB_NAMESPACE", o.settings.rjobNamespace),
     ("RJOB_ACCESS_KEY", o.settings.rjobAccessKey.getD ""),
     ("RJOB_SECRET_KEY", o.settings.rjobSecretKey.getD ""),
     ("RJOB_CHARGED_GROUP", o.settings.chargedGroup),
     ("RJOB_GATEWAY_BASE_URL", gatewaySessionsUrl),
     ("PYTHONPATH", o.settings.safactoryWorkdir),
     ("PYTHONDONTWRITEBYTECODE", "1"),
     ("PYTHONUNBUFFERED", "1"),
     ("NO_PROXY", o.settings.runtimeNoProxy),
     ("no_proxy", o.settings.runtimeNoProxy),
     ("SAFACTORY_JOB_ID", job.jobId),
     ("SAFACTORY_MODEL_ID", job.modelId),
     ("SAFACTORY_GATEWAY_URL", gatewaySessionsUrl),
     ("SAFACTORY_AGENT_CONFIG", binding.agentConfigPath),
     ("SAFACTORY_INPUT_ROOT", binding.inputTarget),
     ("SAFACTORY_RESULTS_ROOT", binding.resultTarget),
     ("SAFACTORY_RJOB_NAMESPACE", o.settings.rjobNamespace),
     ("SAFACTORY_CHARGED_GROUP", o.settings.chargedGroup),
     ("SAFACTORY_RJOB_ENDPOINT", o.settings.rjobEndpoint.getD ""),
     ("SAFACTORY_RJOB_CREDENTIAL_REF", o.settings.rjobCredentialRef),
     ("SAFACTORY_DATA_PLATFORM_CONFIG_REF", o.settings.dataPlatformConfigRef),
     ("SAFACTORY_EPISODE_RJOB_DEFAULTS", o.settings.episodeRjobDefaultsJson.text)]
  return {
    name := safeRjobName o.unicode (o.settings.safactoryNamePrefix ++ "-" ++ job.jobId)
    idempotencyKey := job.jobId ++ ":controller"
    «namespace» := o.settings.rjobNamespace
    chargedGroup := o.settings.chargedGroup
    image := job.safactoryImage
    imagePullPolicy := o.imagePullPolicy
    role := "safactory-controller"
    labels := [("safactory.brainpp.cn/job-id", job.jobId),
      ("safactory.brainpp.cn/component", "launcher")]
    environment := environment
    command := launcherCommand
    workingDir := o.settings.safactoryWorkdir
    mounts := [⟨binding.inputSource, binding.inputTarget, true⟩,
      ⟨binding.resultSource, binding.resultTarget, false⟩]
    resources := ← jsonObject o.settings.safactoryResourcesJson
    requests := ← jsonObject o.settings.safactoryRequestsJson
    timeoutSeconds := o.settings.safactoryTimeoutSeconds
    restartPolicy := o.settings.rjobRestartPolicy
    privateMachine := some o.settings.rjobPrivateMachine
    hostNetwork := o.settings.rjobHostNetwork
    autoDeleteDuration := some o.settings.rjobAutoDeleteDuration
    maxRunningDuration := some o.settings.rjobMaxRunningDuration }

/-- One label of a host name that `_gateway_has_route` accepts. -/
def hostLabel (label : List Char) : Bool :=
  match label.head?, label.getLast? with
  | some first, some last =>
    label.length ≤ 63 && o.unicode.alnum first && o.unicode.alnum last &&
      label.all fun c => o.unicode.alnum c || c == '-'
  | _, _ => false

/-- `_gateway_has_route`. -/
def gatewayHasRoute (snapshot : RJobSnapshot) : Bool :=
  if snapshot.state ≠ .running ∨ !snapshot.ready then false
  else
    let address := snapshot.address.getD ""
    if address = "" ∨ snapshot.port.getD 0 = 0 then false
    else
      let hostname := rstrip ['.'] (o.unicode.lowered (o.unicode.strip address))
      if hostname = "localhost" ∨ hostname = "0.0.0.0" then false
      else match IPAddress.parse hostname with
        | none => hostname.length ≤ 253 && (hostname.toList.splitOn '.').all o.hostLabel
        | some parsed => !(parsed.isLoopback || parsed.isUnspecified)

/-- The URL that `_reconcile` builds from a snapshot with a route. -/
def gatewayUrlOf (snapshot : RJobSnapshot) : String :=
  gatewayUrl o.settings.gatewayScheme (snapshot.address.getD "") (snapshot.port.getD 0)

/-- `_timed_out`, with the time that the clock shows. -/
def timedOut (job : ControlJob) (timeoutSeconds now : Int) : Bool :=
  timeoutSeconds * 1000000 < now - parseTimestamp job.createdAt

/-- `_controller_timed_out`, with the time that the clock shows. -/
def controllerTimedOut (job : ControlJob) (now : Int) : Bool :=
  match job.startedAt with
  | none => false
  | some startedAt =>
    o.settings.safactoryTimeoutSeconds * 1000000 < now - parseTimestamp startedAt

/-- The condition of `reconcile_once` on a Job that it could not reconcile. -/
def expired (job : ControlJob) (now : Int) : Bool :=
  if job.safactoryRjobId.isSome then o.controllerTimedOut job now
  else timedOut job o.settings.gatewayReadyTimeoutSeconds now

end RealJobOrchestrator

/-- `_results_complete`. -/
def resultsComplete (binding : JobFileBinding) (snapshot : RJobSnapshot) : Bool :=
  let summary := snapshot.workloadSummary
  if summary.isEmpty then true
  else
    let expected := binding.totalEpisodes
    lookup "total" summary = some expected && lookup "succeeded" summary = some expected &&
      lookup "collected" summary = some expected && (lookup "failed" summary).getD 0 = 0 &&
      (lookup "running" summary).getD 0 = 0

/-- `entries[key] = value` changes what is found under its own key. -/
theorem lookup_dictSet (key : String) (entries : List (String × String)) (item : String × String) :
    lookup key (dictSet entries item) =
      if item.1 = key then some item.2 else lookup key entries := by
  have hMap : lookup key (entries.map fun entry => if entry.1 == item.1 then item else entry) =
      if item.1 = key ∧ entries.any (·.1 == item.1) then some item.2
      else lookup key entries := by
    induction entries with
    | nil => simp [lookup]
    | cons entry rest ih =>
      rw [List.map_cons, lookup_cons, lookup_cons, ih, List.any_cons]
      by_cases hEntry : entry.1 = item.1
      · by_cases hKey : item.1 = key <;> simp [hKey, hEntry]
      · have hBeq : (entry.1 == item.1) = false := by simpa using hEntry
        by_cases hKey : item.1 = key
        · have hNe : ¬ entry.1 = key := hKey ▸ hEntry
          simp only [hBeq, Bool.false_eq_true, if_false, hNe, Bool.false_or]
        · simp only [hBeq, Bool.false_eq_true, if_false, hKey, false_and]
  unfold dictSet
  split
  · next hAny =>
    rw [hMap]
    simp only [hAny, and_true]
  · next hAny =>
    rw [Bool.not_eq_true, List.any_eq_false] at hAny
    rw [lookup, List.find?_append]
    by_cases hKey : item.1 = key
    · have hNone : entries.find? (·.1 == key) = none := by
        rw [List.find?_eq_none]
        intro entry hMem
        exact hKey ▸ hAny entry hMem
      simp [hNone, hKey]
    · simp [hKey, lookup]

/-- `{**entries, **items}` keeps what is under a key of no item. -/
theorem lookup_dictUpdate_of_notMem {key : String} {items : List (String × String)}
    (h : key ∉ items.map (·.1)) (entries : List (String × String)) :
    lookup key (dictUpdate entries items) = lookup key entries := by
  induction items generalizing entries with
  | nil => rfl
  | cons item rest ih =>
    rw [List.map_cons, List.mem_cons, not_or] at h
    rw [dictUpdate, List.foldl_cons, ← dictUpdate, ih h.2, lookup_dictSet,
      if_neg fun heq => h.1 heq.symm]

/-- The last of the items under a key is found in `{**entries, **items}`. -/
theorem lookup_dictUpdate {key value : String} {items : List (String × String)}
    (hNodup : (items.map (·.1)).Nodup) (h : (key, value) ∈ items)
    (entries : List (String × String)) : lookup key (dictUpdate entries items) = some value := by
  induction items generalizing entries with
  | nil => cases h
  | cons item rest ih =>
    rw [List.map_cons, List.nodup_cons] at hNodup
    rw [dictUpdate, List.foldl_cons, ← dictUpdate]
    rcases List.mem_cons.mp h with rfl | h
    · rw [lookup_dictUpdate_of_notMem hNodup.1, lookup_dictSet, if_pos rfl]
    · exact ih hNodup.2 h _

theorem jsonObject_noConflict (value : JsonText) : NoConflict (jsonObject value) := by
  unfold jsonObject
  split
  · exact .ok _
  · exact .error (by simp)

theorem jsonStringList_noConflict (value : JsonText) : NoConflict (jsonStringList value) := by
  unfold jsonStringList
  split
  · next items _ => cases items.mapM Json.asStr? <;> simp [NoConflict]
  · exact .error (by simp)

theorem environmentValue_noConflict (digits : ℚ → String) (value : Json) :
    NoConflict (environmentValue digits value) := by
  cases value <;> simp [environmentValue, NoConflict]

theorem stringEnvironment_noConflict (digits : ℚ → String) (entries : List (String × Json)) :
    NoConflict (stringEnvironment digits entries) := by
  induction entries with
  | nil => exact .ok []
  | cons entry rest ih =>
    obtain ⟨key, item⟩ := entry
    unfold stringEnvironment
    simp only
    split
    · exact .error (by simp)
    · exact (environmentValue_noConflict digits item).bind fun value => ih.bind fun rest => .ok _

theorem GatewayModelConfig.validate_noConflict (document : Json) :
    NoConflict (GatewayModelConfig.validate document) := by
  unfold GatewayModelConfig.validate
  repeat' split
  all_goals
    first
    | exact .ok _
    | exact .error (by simp)

theorem storedModel_noConflict (job : ControlJob) : NoConflict (storedModel job) := by
  unfold storedModel
  split
  · exact .error (by simp)
  · exact GatewayModelConfig.validate_noConflict _

/-- The places where the RJob of a controller is told the URL of its Gateway. -/
structure RJobSpec.Carries (spec : RJobSpec) (url : String) : Prop where
  launcher : ["--gateway-base-url", url] <:+: spec.command
  controller : lookup "SAFACTORY_GATEWAY_URL" spec.environment = some url
  episodes : lookup "RJOB_GATEWAY_BASE_URL" spec.environment = some url

namespace RealJobOrchestrator

variable {o : RealJobOrchestrator}

theorem gatewaySpec_noConflict (job : ControlJob) (binding : JobFileBinding) :
    NoConflict (o.gatewaySpec job binding) := by
  unfold gatewaySpec
  refine (storedModel_noConflict job).bind fun model => ?_
  refine (jsonObject_noConflict _).bind fun database => ?_
  refine (stringEnvironment_noConflict _ database).bind fun environment => ?_
  refine (jsonObject_noConflict _).bind fun resources => ?_
  exact (jsonObject_noConflict _).bind fun requests => .ok _

theorem launcherCommand_noConflict (binding : JobFileBinding)
    (jobId gatewayUrl llmModel : String) :
    NoConflict (o.launcherCommand binding jobId gatewayUrl llmModel) := by
  unfold launcherCommand
  exact (jsonStringList_noConflict _).bind fun args => .ok _

theorem safactorySpec_noConflict (job : ControlJob) (binding : JobFileBinding) :
    NoConflict (o.safactorySpec job binding) := by
  unfold safactorySpec
  simp only
  split
  · exact .error (by simp)
  · refine (storedModel_noConflict job).bind fun model => ?_
    refine (launcherCommand_noConflict _ _ _ _).bind fun command => ?_
    refine (jsonObject_noConflict _).bind fun database => ?_
    refine (stringEnvironment_noConflict _ database).bind fun environment => ?_
    refine (jsonObject_noConflict _).bind fun resources => ?_
    exact (jsonObject_noConflict _).bind fun requests => .ok _

/-- What the platform knows the Gateway RJob of a Job by. -/
theorem gatewaySpec_ok {job : ControlJob} {binding : JobFileBinding} {spec : RJobSpec}
    (h : o.gatewaySpec job binding = .ok spec) :
    spec.role = "gateway" ∧ spec.idempotencyKey = job.jobId ++ ":gateway" ∧
      spec.name = safeRjobName o.unicode (o.settings.gatewayNamePrefix ++ "-" ++ job.jobId) ∧
      spec.ownerJob = some job.jobId := by
  obtain ⟨model, -, h⟩ := bind_ok h
  obtain ⟨database, -, h⟩ := bind_ok h
  obtain ⟨environment, -, h⟩ := bind_ok h
  obtain ⟨resources, -, h⟩ := bind_ok h
  obtain ⟨requests, -, h⟩ := bind_ok h
  rw [← Except.ok.inj h]
  exact ⟨rfl, rfl, rfl, rfl⟩

theorem safactorySpec_ok {job : ControlJob} {binding : JobFileBinding} {spec : RJobSpec}
    (h : o.safactorySpec job binding = .ok spec) :
    spec.role = "safactory-controller" ∧ spec.idempotencyKey = job.jobId ++ ":controller" ∧
      spec.name = safeRjobName o.unicode (o.settings.safactoryNamePrefix ++ "-" ++ job.jobId) ∧
      spec.ownerJob = some job.jobId := by
  unfold safactorySpec at h
  simp only at h
  split at h
  · cases h
  · obtain ⟨model, -, h⟩ := bind_ok h
    obtain ⟨command, -, h⟩ := bind_ok h
    obtain ⟨database, -, h⟩ := bind_ok h
    obtain ⟨environment, -, h⟩ := bind_ok h
    obtain ⟨resources, -, h⟩ := bind_ok h
    obtain ⟨requests, -, h⟩ := bind_ok h
    rw [← Except.ok.inj h]
    exact ⟨rfl, rfl, rfl, rfl⟩

theorem launcherCommand_ok {binding : JobFileBinding} {jobId url llmModel : String}
    {command : List String} (h : o.launcherCommand binding jobId url llmModel = .ok command) :
    ["--gateway-base-url", url] <:+: command := by
  obtain ⟨args, -, h⟩ := bind_ok h
  rw [← Except.ok.inj h]
  exact ⟨[_, _, _, _, _, _, _, _, _, _], _, rfl⟩

theorem safactorySpec_carries {job : ControlJob} {binding : JobFileBinding} {spec : RJobSpec}
    {url : String} (h : o.safactorySpec job binding = .ok spec)
    (hurl : job.gatewayUrl = some url) :
    spec.Carries (appendUrlPath url o.settings.gatewaySessionsPath) := by
  unfold safactorySpec at h
  simp only [hurl, Option.getD_some] at h
  split at h
  · cases h
  · obtain ⟨model, -, h⟩ := bind_ok h
    obtain ⟨command, hCommand, h⟩ := bind_ok h
    obtain ⟨database, -, h⟩ := bind_ok h
    obtain ⟨environment, -, h⟩ := bind_ok h
    obtain ⟨resources, -, h⟩ := bind_ok h
    obtain ⟨requests, -, h⟩ := bind_ok h
    rw [← Except.ok.inj h]
    refine ⟨launcherCommand_ok hCommand, ?_, ?_⟩
    · dsimp only
      exact lookup_dictUpdate (by simp) (by simp) _
    · dsimp only
      exact lookup_dictUpdate (by simp) (by simp) _

end RealJobOrchestrator

theorem RealJobOrchestrator.gatewayHasRoute_some {o : RealJobOrchestrator}
    {snapshot : RJobSnapshot} (h : o.gatewayHasRoute snapshot = true) :
    snapshot.address.isSome ∧ snapshot.port.isSome := by
  unfold gatewayHasRoute at h
  split at h
  · cases h
  · simp only at h
    split at h
    · cases h
    · next hs =>
      cases ha : snapshot.address with
      | none => simp [ha] at hs
      | some address =>
        cases hp : snapshot.port with
        | none => simp [hp] at hs
        | some port => exact ⟨rfl, rfl⟩

theorem RealJobOrchestrator.gatewayHasRoute_running {o : RealJobOrchestrator}
    {snapshot : RJobSnapshot} (h : o.gatewayHasRoute snapshot = true) :
    snapshot.state = .running ∧ snapshot.ready = true := by
  unfold gatewayHasRoute at h
  split at h
  · cases h
  · next hs => simpa using hs

end SafactoryServer
