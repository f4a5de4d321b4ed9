import SafactoryServer.Python
import Mathlib.Algebra.BigOperators.Group.List.Basic
import Mathlib.Algebra.Ring.Int.Defs

/-! `JobFileBinding`: its JSON document, and how `SharedFileManager.bind` makes one from the files
of a range. -/

namespace SafactoryServer

structure EnvironmentBinding where
  envName : String
  envImage : String
  envNum : Int
  datasetRecords : Int
  datasetChecksum : String
  startConfigChecksum : String
deriving DecidableEq

structure JobFileBinding where
  jobId : String
  rangeId : String
  inputLocalPath : String
  inputSource : String
  inputTarget : String
  resultLocalPath : String
  resultSource : String
  resultTarget : String
  agentConfigPath : String
  agentStartConfigPath : String
  agentConfigChecksum : String
  groups : List EnvironmentBinding
  totalEpisodes : Int
  launcherRjobConfigPath : Option String
  launcherRjobConfigChecksum : String
  gatewayConfigSource : String
  gatewayConfigPath : String
  gatewayConfigChecksum : String
deriving DecidableEq

/-- `_join_source`. -/
def joinSource (root child : String) : String := rstrip ['/'] root ++ "/" ++ lstrip ['/'] child

def EnvironmentBinding.toJson (group : EnvironmentBinding) : Json :=
  .obj [("dataset_checksum", .str group.datasetChecksum),
    ("dataset_records", .int group.datasetRecords), ("env_image", .str group.envImage),
    ("env_name", .str group.envName), ("env_num", .int group.envNum),
    ("start_config_checksum", .str group.startConfigChecksum)]

/-- The document of `JobFileBinding.to_json`. -/
def JobFileBinding.toJson (b : JobFileBinding) : Json :=
  .obj [("agent_config_checksum", .str b.agentConfigChecksum),
    ("agent_config_path", .str b.agentConfigPath),
    ("agent_start_config_path", .str b.agentStartConfigPath),
    ("gateway_config_checksum", .str b.gatewayConfigChecksum),
    ("gateway_config_path", .str b.gatewayConfigPath),
    ("gateway_config_source", .str b.gatewayConfigSource),
    ("groups", .arr (b.groups.map (·.toJson))),
    ("input_local_path", .str b.inputLocalPath),
    ("input_source", .str b.inputSource),
    ("input_target", .str b.inputTarget),
    ("job_id", .str b.jobId),
    ("launcher_rjob_config_checksum", .str b.launcherRjobConfigChecksum),
    ("launcher_rjob_config_path", b.launcherRjobConfigPath.elim .null .str),
    ("range_id", .str b.rangeId),
    ("result_local_path", .str b.resultLocalPath),
    ("result_source", .str b.resultSource),
    ("result_target", .str b.resultTarget),
    ("total_episodes", .int b.totalEpisodes)]

/-- `raw[key]`, or the argument `key` of a data class.  The data classes do not check the types of
their fields; a value of another type is refused here. -/
def field {α : Type} (missing : PyExc) (read : Json → Option α) (key : String)
    (raw : List (String × Json)) : Except PyExc α :=
  match lookup key raw with
  | none => .error missing
  | some value => (read value).elim (.error .typeError) .ok

/-- `raw.setdefault(key, default)`. -/
def fieldD {α : Type} (read : Json → Option α) (key : String) (default : α)
    (raw : List (String × Json)) : Except PyExc α :=
  match lookup key raw with
  | none => .ok default
  | some value => (read value).elim (.error .typeError) .ok

/-- A field of type `str | None`. -/
def Json.asOptionalStr? : Json → Option (Option String)
  | .null => some none
  | .str s => some (some s)
  | _ => none

/-- `EnvironmentBinding(**item)`. -/
def EnvironmentBinding.fromJson (item : Json) : Except PyExc EnvironmentBinding := do
  let some raw := item.asObj? | throw .typeError
  if raw.any (·.1 ∉ ["dataset_checksum", "dataset_records", "env_image", "env_name", "env_num",
    "start_config_checksum"]) then throw .typeError
  return {
    envName := ← field .typeError Json.asStr? "env_name" raw
    envImage := ← field .typeError Json.asStr? "env_image" raw
    envNum := ← field .typeError Json.asInt? "env_num" raw
    datasetRecords := ← field .typeError Json.asInt? "dataset_records" raw
    datasetChecksum := ← field .typeError Json.asStr? "dataset_checksum" raw
    startConfigChecksum := ← field .typeError Json.asStr? "start_config_checksum" raw }

/-- The default of `agent_start_config_path` in a document that lacks it. -/
def legacyStartConfigPath (raw : List (String × Json)) (groups : List EnvironmentBinding) :
    Except PyExc String :=
  match groups with
  | [group] => do
    let inputTarget ← field .keyError Json.asStr? "input_target" raw
    return inputTarget ++ "/groups/" ++ group.envName ++ "/start.rjob.yaml"
  | _ => throw .fileBindingError

/-- `raw.get("agent_start_config_path")` with the default that `from_json` sets. -/
def agentStartConfigPathOf (raw : List (String × Json)) (groups : List EnvironmentBinding) :
    Except PyExc String :=
  match lookup "agent_start_config_path" raw with
  | some value => value.asStr?.elim (.error .typeError) .ok
  | none => legacyStartConfigPath raw groups

/-- `JobFileBinding.from_json`, behind `json.loads`. -/
def JobFileBinding.fromJson (document : Json) : Except PyExc JobFileBinding := do
  let some raw := document.asObj? | throw .typeError
  let items ← field .keyError (fun | .arr items => some items | _ => none) "groups" raw
  let groups ← items.mapM EnvironmentBinding.fromJson
  let inputSource ← field .keyError Json.asStr? "input_source" raw
  let resultSource ← field .keyError Json.asStr? "result_source" raw
  let agentStartConfigPath ← agentStartConfigPathOf raw groups
  if raw.any (·.1 ∉ ["agent_config_checksum", "agent_config_path", "agent_start_config_path",
    "gateway_config_checksum", "gateway_config_path", "gateway_config_source", "groups",
    "input_local_path", "input_source", "input_target", "job_id", "launcher_rjob_config_checksum",
    "launcher_rjob_config_path", "range_id", "result_local_path", "result_source", "result_target",
    "total_episodes"]) then throw .typeError
  return {
    jobId := ← field .typeError Json.asStr? "job_id" raw
    rangeId := ← field .typeError Json.asStr? "range_id" raw
    inputLocalPath := ← fieldD Json.asStr? "input_local_path" inputSource raw
    inputSource := inputSource
    inputTarget := ← field .typeError Json.asStr? "input_target" raw
    resultLocalPath := ← fieldD Json.asStr? "result_local_path" resultSource raw
    resultSource := resultSource
    resultTarget := ← field .typeError Json.asStr? "result_target" raw
    agentConfigPath := ← field .typeError Json.asStr? "agent_config_path" raw
    agentStartConfigPath := agentStartConfigPath
    agentConfigChecksum := ← field .typeError Json.asStr? "agent_config_checksum" raw
    groups := groups
    totalEpisodes := ← field .typeError Json.asInt? "total_episodes" raw
    launcherRjobConfigPath := ← fieldD Json.asOptionalStr? "launcher_rjob_config_path" none raw
    launcherRjobConfigChecksum := ← fieldD Json.asStr? "launcher_rjob_config_checksum" "" raw
    gatewayConfigSource :=
      ← fieldD Json.asStr? "gateway_config_source" (joinSource inputSource "gateway") raw
    gatewayConfigPath :=
      ← fieldD Json.asStr? "gateway_config_path" "/app/runtime-config/gateway.yaml" raw
    gatewayConfigChecksum := ← fieldD Json.asStr? "gateway_config_checksum" "" raw }

theorem field_noConflict {α : Type} {missing : PyExc} (hm : missing ≠ .jobStateConflict)
    (read : Json → Option α) (key : String) (raw : List (String × Json)) :
    NoConflict (field missing read key raw) := by
  unfold field
  split
  · exact .error hm
  · next value _ => cases read value <;> simp [NoConflict]

theorem fieldD_noConflict {α : Type} (read : Json → Option α) (key : String) (default : α)
    (raw : List (String × Json)) : NoConflict (fieldD read key default raw) := by
  unfold fieldD
  split
  · exact .ok default
  · next value _ => cases read value <;> simp [NoConflict]

theorem EnvironmentBinding.fromJson_noConflict (item : Json) :
    NoConflict (EnvironmentBinding.fromJson item) := by
  unfold EnvironmentBinding.fromJson
  split
  · split
    · exact .error (by simp)
    · repeat refine NoConflict.bind (field_noConflict (by simp) _ _ _) fun _ => ?_
      exact .ok _
  · exact .error (by simp)

theorem legacyStartConfigPath_noConflict (raw : List (String × Json))
    (groups : List EnvironmentBinding) : NoConflict (legacyStartConfigPath raw groups) := by
  unfold legacyStartConfigPath
  split
  · exact .bind (field_noConflict (by simp) _ _ _) fun _ => .ok _
  · exact .error (by simp)

theorem agentStartConfigPathOf_noConflict (raw : List (String × Json))
    (groups : List EnvironmentBinding) : NoConflict (agentStartConfigPathOf raw groups) := by
  unfold agentStartConfigPathOf
  split
  · next value _ => cases value.asStr? <;> simp [NoConflict]
  · exact legacyStartConfigPath_noConflict raw groups

theorem JobFileBinding.fromJson_noConflict (document : Json) :
    NoConflict (JobFileBinding.fromJson document) := by
  unfold JobFileBinding.fromJson
  split
  · next raw _ =>
    refine .bind (field_noConflict (by simp) _ _ _) fun items => ?_
    refine .bind (.mapM EnvironmentBinding.fromJson_noConflict items) fun groups => ?_
    refine .bind (field_noConflict (by simp) _ _ _) fun inputSource => ?_
    refine .bind (field_noConflict (by simp) _ _ _) fun resultSource => ?_
    refine .bind (agentStartConfigPathOf_noConflict raw groups) fun agentStartConfigPath => ?_
    split
    · exact .error (by simp)
    · repeat
        first
        | refine NoConflict.bind (field_noConflict (by simp) _ _ _) fun _ => ?_
        | refine NoConflict.bind (fieldD_noConflict _ _ _ _) fun _ => ?_
      exact .ok _
  · exact .error (by simp)

@[simp] theorem EnvironmentBinding.fromJson_toJson (group : EnvironmentBinding) :
    EnvironmentBinding.fromJson group.toJson = .ok group := by
  rfl

theorem EnvironmentBinding.mapM_fromJson_toJson (groups : List EnvironmentBinding) :
    (groups.map (·.toJson)).mapM EnvironmentBinding.fromJson = .ok groups := by
  induction groups with
  | nil => rfl
  | cons group rest ih =>
    rw [List.map_cons, List.mapM_cons, fromJson_toJson, ih]
    rfl

/-- The document of a binding reads back as that binding. -/
theorem JobFileBinding.fromJson_toJson (b : JobFileBinding) : fromJson b.toJson = .ok b := by
  have hgroups := EnvironmentBinding.mapM_fromJson_toJson b.groups
  obtain ⟨_, _, _, _, _, _, _, _, _, _, _, groups, _, launcher, _, _, _, _⟩ := b
  cases launcher <;>
  · show Except.bind ((groups.map (·.toJson)).mapM EnvironmentBinding.fromJson) _ = _
    rw [hgroups]
    rfl

/-! ### Publishing -/

/-- `SAFE_NAME.fullmatch`. -/
def safeName (name : String) : Bool :=
  match name.toList with
  | [] => false
  | c :: rest => Unicode.isAscii c && c.isAlphanum && rest.length ≤ 127 &&
    rest.all fun c => Unicode.isAscii c && (c.isAlphanum || ['_', '.', '-'].contains c)

/-- What the files of one environment group hold: its entry of the agent config, the number of
records and the checksum of its dataset, and the checksum of its rendered start config. -/
structure GroupFiles where
  envName : String
  environment : List (String × Json)
  dataset : Except PyExc (Nat × String)
  startConfig : Except PyExc String

/-- What the files of an available range hold: the groups that match its agent config, and the paths
and checksums of its binding. -/
structure RangeFiles where
  groups : Except PyExc (List GroupFiles)
  binding : Except PyExc JobFileBinding

/-- One round of the loop over the groups in `_render_binding`. -/
def bindGroup (u : Unicode) (group : GroupFiles) : Except PyExc EnvironmentBinding := do
  let some envImage := (lookup "env_image" group.environment).bind Json.asStr?
    | throw .fileBindingError
  if u.strip envImage = "" then throw .fileBindingError
  let some envNum := (lookup "env_num" group.environment).bind Json.asInt?
    | throw .fileBindingError
  if envNum < 1 then throw .fileBindingError
  if ((lookup "env_params" group.environment).bind Json.asObj?).isNone then
    throw .fileBindingError
  let (records, datasetChecksum) ← group.dataset
  let startConfigChecksum ← group.startConfig
  return { envName := group.envName, envImage := envImage, envNum := envNum,
           datasetRecords := records, datasetChecksum := datasetChecksum,
           startConfigChecksum := startConfigChecksum }

/-- The loop over the groups, with its two accumulators. -/
def bindGroups (u : Unicode) : List GroupFiles → List EnvironmentBinding → Int →
    Except PyExc (List EnvironmentBinding × Int)
  | [], bindings, total => .ok (bindings, total)
  | group :: rest, bindings, total => do
    let b ← bindGroup u group
    bindGroups u rest (bindings ++ [b]) (total + b.datasetRecords * b.envNum)

/-- `_render_binding`, once the environments of the agent config match the groups of the range. -/
def renderBinding (u : Unicode) (files : RangeFiles) (jobId rangeId : String) :
    Except PyExc JobFileBinding := do
  let groups ← files.groups
  if groups.length ≠ 1 then throw .fileBindingError
  let (bindings, total) ← bindGroups u groups [] 0
  let binding ← files.binding
  return { binding with jobId := jobId, rangeId := rangeId, groups := bindings,
                        totalEpisodes := total }

/-- `SharedFileManager.bind`; `published` is the document of the Job's `.binding.json`, and `range`
the files of the range if it is available. -/
def bindJobFiles (u : Unicode) (published : Option Json) (range : Option RangeFiles)
    (jobId rangeId : String) : Except PyExc JobFileBinding :=
  if !safeName jobId then throw .fileBindingError
  else match range, published with
    | none, _ => throw .fileBindingError
    | some _, some document => do
      let binding ← JobFileBinding.fromJson document
      if binding.jobId ≠ jobId ∨ binding.rangeId ≠ rangeId then throw .fileBindingError
      return binding
    | some files, none => renderBinding u files jobId rangeId

/-- The sum over the groups of dataset records times `env_num`. -/
def episodes (groups : List EnvironmentBinding) : Int :=
  (groups.map fun group => group.datasetRecords * group.envNum).sum

theorem bindGroups_total {u : Unicode} {files : List GroupFiles}
    {bindings bindings' : List EnvironmentBinding} {total total' : Int}
    (h : bindGroups u files bindings total = .ok (bindings', total'))
    (hTotal : total = episodes bindings) : total' = episodes bindings' := by
  induction files generalizing bindings total with
  | nil =>
    simp only [bindGroups, Except.ok.injEq, Prod.mk.injEq] at h
    obtain ⟨rfl, rfl⟩ := h
    exact hTotal
  | cons group rest ih =>
    simp only [bindGroups] at h
    cases hb : bindGroup u group with
    | error x => rw [hb] at h; cases h
    | ok b =>
      rw [hb] at h
      refine ih h ?_
      rw [hTotal, episodes, episodes, List.map_append, List.sum_append]
      simp

theorem renderBinding_total {u : Unicode} {files : RangeFiles} {jobId rangeId : String}
    {b : JobFileBinding} (h : renderBinding u files jobId rangeId = .ok b) :
    b.totalEpisodes = episodes b.groups := by
  obtain ⟨groups, -, h⟩ := bind_ok h
  split at h
  · cases h
  · obtain ⟨⟨bindings, total⟩, hl, h⟩ := bind_ok h
    obtain ⟨binding, -, h⟩ := bind_ok h
    cases h
    exact bindGroups_total hl rfl

/-- The total of a binding that `bind` returns is the sum over its groups, as long as what was
published before is such a binding. -/
theorem bindJobFiles_total {u : Unicode} {published : Option Json} {range : Option RangeFiles}
    {jobId rangeId : String} {b : JobFileBinding}
    (h : bindJobFiles u published range jobId rangeId = .ok b)
    (hPublished : ∀ document, published = some document →
      ∃ b : JobFileBinding, document = b.toJson ∧ b.totalEpisodes = episodes b.groups) :
    b.totalEpisodes = episodes b.groups := by
  unfold bindJobFiles at h
  split at h
  · cases h
  · split at h
    · cases h
    · obtain ⟨b', rfl, hb'⟩ := hPublished _ rfl
      rw [JobFileBinding.fromJson_toJson] at h
      obtain ⟨b'', hb'', h⟩ := bind_ok h
      cases hb''
      split at h
      · cases h
      · cases h
        exact hb'
    · exact renderBinding_total h

/-- The binding of a Job with two episodes. -/
def sampleBinding : JobFileBinding where
  jobId := "job"
  rangeId := "range"
  inputLocalPath := "/data/inputs/job"
  inputSource := "storage/inputs/job"
  inputTarget := "/app/env"
  resultLocalPath := "/data/results/job"
  resultSource := "storage/results/job"
  resultTarget := "/app/results"
  agentConfigPath := "/app/env/agent.yaml"
  agentStartConfigPath := "/app/env/start.yaml"
  agentConfigChecksum := ""
  groups := [⟨"env", "image", 2, 1, "", ""⟩]
  totalEpisodes := 2
  launcherRjobConfigPath := none
  launcherRjobConfigChecksum := ""
  gatewayConfigSource := "storage/gateway"
  gatewayConfigPath := "/app/runtime-config/gateway.yaml"
  gatewayConfigChecksum := ""

end SafactoryServer
