import SafactoryServer.Specs

/-! `RealCatalog`: the models that are Gateway routes and the ranges of the Range YAML. -/

namespace SafactoryServer

structure RangeGroupConfig where
  envName : String
  dataset : String
  startConfig : String
  supportsMilestones : Bool := false
  resultArtifact : Option String := none

structure RangeConfig where
  rangeId : String
  available : Bool := true
  agentConfig : String
  launcherRjobConfig : Option String := none
  groups : List RangeGroupConfig
  uniqueGroups : (groups.map (·.envName)).Nodup

structure RangeDocument where
  ranges : List RangeConfig
  uniqueIds : (ranges.map (·.rangeId)).Nodup

/-- The models and the ranges.  `ranges` is what `_ranges` makes of the Range YAML, and `checksum`
the digest of the canonical JSON of a document. -/
structure RealCatalog where
  ranges : Except PyExc RangeDocument
  gatewayRoutes : List (String × Json)
  checksum : Json → String

structure ModelConfig where
  modelId : String
  gateway : GatewayModelConfig

/-- The document of `GatewayModelConfig.model_dump_json`. -/
def GatewayModelConfig.dump (config : GatewayModelConfig) : Json :=
  .obj [("route", .obj config.route),
    ("environment", .obj (config.environment.map fun (key, value) => (key, .str value))),
    ("llm_model", config.llmModel.elim .null .str)]

structure Model where
  modelId : String
  name : String
  available : Bool
deriving DecidableEq

namespace RealCatalog

variable (catalog : RealCatalog)

/-- `list_models`. -/
def listModels : List Model :=
  catalog.gatewayRoutes.map fun route => ⟨route.1, route.1, true⟩

/-- `get_model`. -/
def getModel (modelId : String) : Option Model :=
  if catalog.gatewayRoutes.any (·.1 == modelId) then some ⟨modelId, modelId, true⟩ else none

/-- `resolve_model`. -/
def resolveModel (modelId : String) : Except PyExc (Option ModelConfig) :=
  match lookup modelId catalog.gatewayRoutes with
  | none | some .null => .ok none
  | some (.obj route) =>
    if modelId = "" ∨ route.isEmpty then .error .valueError
    else .ok (some { modelId := modelId
                     gateway := { route := route, environment := [], llmModel := some modelId } })
  | some _ => .error .valueError

/-- `resolve_range`. -/
def resolveRange (rangeId : String) : Except PyExc (Option RangeConfig) := do
  return (← catalog.ranges).ranges.find? (·.rangeId == rangeId)

/-- `model_checksum`. -/
def modelChecksum : String := catalog.checksum (.obj catalog.gatewayRoutes)

variable {catalog}

/-- A range is resolved by its own ID. -/
theorem resolveRange_rangeId {rangeId : String} {config : RangeConfig}
    (h : catalog.resolveRange rangeId = .ok (some config)) : config.rangeId = rangeId := by
  obtain ⟨document, -, h⟩ := bind_ok h
  simpa using List.find?_some (Except.ok.inj h)

end RealCatalog

end SafactoryServer
