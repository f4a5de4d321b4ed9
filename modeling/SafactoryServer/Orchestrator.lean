import SafactoryServer.ControlStore
import SafactoryServer.Effect.Program
import SafactoryServer.Specs

/-! `RealJobOrchestrator`: one pass over the Jobs, as a program over the operations that it awaits
and the clock. -/

namespace SafactoryServer

open Effect

/-- What a pass asks of the clock, the control store, the RJob client, the health checker and the
file manager. -/
inductive Op
  | now
  | listActive
  | listCleanupPending
  | get (jobId : String)
  | update (jobId : String) (now : Int) (changes : Changes)
  | addEvent (event : JobEvent)
  | createRJob (spec : RJobSpec)
  | getRJob (rjobId : String)
  | stopRJob (rjobId : String)
  | ready (gatewayUrl healthPath : String)
  | bind (jobId rangeId : String)

@[reducible] def Ans : Op → Type
  | .now => Int
  | .listActive => List ControlJob
  | .listCleanupPending => List ControlJob
  | .get _ => Option ControlJob
  | .update _ _ _ => Except PyExc ControlJob
  | .addEvent _ => Except PyExc Unit
  | .createRJob _ => Except PyExc String
  | .getRJob _ => Except PyExc RJobSnapshot
  | .stopRJob _ => Except PyExc Unit
  | .ready _ _ => Except PyExc Bool
  | .bind _ _ => Except PyExc JobFileBinding

/-- A coroutine of the orchestrator. -/
abbrev Coroutine (α : Type) := Task Op Ans PyExc α

namespace Coroutine

def now : Coroutine Int := Task.ask Op.now

def listActive : Coroutine (List ControlJob) := Task.ask Op.listActive

def listCleanupPending : Coroutine (List ControlJob) := Task.ask Op.listCleanupPending

def get (jobId : String) : Coroutine (Option ControlJob) := Task.ask (Op.get jobId)

def update (jobId : String) (now : Int) (changes : Changes) : Coroutine ControlJob :=
  ExceptT.mk (Program.perform (Op.update jobId now changes))

def addEvent (event : JobEvent) : Coroutine Unit := ExceptT.mk (Program.perform (Op.addEvent event))

def createRJob (spec : RJobSpec) : Coroutine String :=
  ExceptT.mk (Program.perform (Op.createRJob spec))

def getRJob (rjobId : String) : Coroutine RJobSnapshot :=
  ExceptT.mk (Program.perform (Op.getRJob rjobId))

def stopRJob (rjobId : String) : Coroutine Unit := ExceptT.mk (Program.perform (Op.stopRJob rjobId))

def ready (gatewayUrl healthPath : String) : Coroutine Bool :=
  ExceptT.mk (Program.perform (Op.ready gatewayUrl healthPath))

def bindFiles (jobId rangeId : String) : Coroutine JobFileBinding :=
  ExceptT.mk (Program.perform (Op.bind jobId rangeId))

def lift {α : Type} (result : Except PyExc α) : Coroutine α := ExceptT.mk (.done result)

end Coroutine

namespace RealJobOrchestrator

variable (o : RealJobOrchestrator)

/-- `_event`. -/
def event (job : ControlJob) (eventType : String) (payload : List (String × Json) := []) :
    Coroutine Unit := do
  let now ← Coroutine.now
  Coroutine.addEvent { jobId := job.jobId, eventType := eventType, phase := job.phase,
                       payload := sanitizeEventPayload o.unicode payload
                       createdAt := timestamp now }

/-- The first stop of `_cleanup`: the cleanup of the controller's own RJobs needs the Gateway. -/
def stopController (job : ControlJob) : Coroutine Unit := do
  let safactoryRjobId := job.safactoryRjobId.getD ""
  if safactoryRjobId ≠ "" then
    o.event job "episode_cleanup_requested"
    Coroutine.stopRJob safactoryRjobId
    o.event job "safactory_rjob_deleted"

/-- The second stop of `_cleanup`. -/
def stopGateway (job : ControlJob) : Coroutine Unit := do
  let gatewayRjobId := job.gatewayRjobId.getD ""
  if gatewayRjobId ≠ "" then
    Coroutine.stopRJob gatewayRjobId
    o.event job "gateway_rjob_deleted"

/-- The stops of `_cleanup`. -/
def stopRecorded (job : ControlJob) : Coroutine Unit := do
  o.stopController job
  o.stopGateway job

/-- The end of `_cleanup`, after every stop returned. -/
def finishCleanup (job : ControlJob) : Coroutine Unit := do
  let closing := job.status = .closing
  let now ← Coroutine.now
  let changes : Changes :=
    if closing then
      { cleanupRequested := some 0, status := some .closed, phase := some "completed"
        completedAt := some (some (timestamp now)), statusReason := some none }
    else { cleanupRequested := some 0 }
  let job ← Coroutine.update job.jobId now changes
  o.event job "cleanup_completed"
  if closing then o.event job "job_closed"

/-- `_cleanup` of a row with `keep_rjobs`, which leaves the RJobs running. -/
def skipCleanup (job : ControlJob) : Coroutine Unit := do
  let _ ← Coroutine.update job.jobId (← Coroutine.now) { cleanupRequested := some 0 }
  o.event job "rjob_cleanup_skipped"
    [("reason", .str "SAFACTORY_KEEP_RJOBS"),
     ("gateway_rjob_id", job.gatewayRjobId.elim .null .str),
     ("safactory_rjob_id", job.safactoryRjobId.elim .null .str)]

/-- `_cleanup` after it read the row. -/
def cleanupRow (job : ControlJob) : Coroutine Unit :=
  if o.settings.keepRjobs ∧ job.status ≠ .closing then o.skipCleanup job
  else do
    let stopped ← tryCatch (do o.stopRecorded job; return true) fun
      | .rjobDependencyError => return false
      | x => throw x
    if stopped then o.finishCleanup job

/-- `_cleanup`. -/
def cleanup (job : ControlJob) : Coroutine Unit := do
  match ← Coroutine.get job.jobId with
  | none => return
  | some job => o.cleanupRow job

/-- `_fail`. -/
def fail (jobId reason : String) : Coroutine Unit := do
  match ← Coroutine.get jobId with
  | none => return
  | some job =>
    if job.status = .succeeded ∨ job.status = .closing ∨ job.status = .closed then return
    if job.status = .failed then o.cleanup job
    else
      let now ← Coroutine.now
      let failed ← tryCatch
        (some <$> Coroutine.update jobId now
          { status := some .failed, phase := some "cleaning_rjobs"
            statusReason := some (some reason), completedAt := some (some (timestamp now))
            cleanupRequested := some 1 })
        fun
          | .jobStateConflict => return none
          | x => throw x
      match failed with
      | none => return
      | some job =>
        o.event job "job_failed" [("reason", .str reason)]
        o.cleanup job

/-- The end of `_bind_files`, after the files are bound. -/
def recordBinding (job : ControlJob) (binding : JobFileBinding) : Coroutine ControlJob := do
  let job ← Coroutine.update job.jobId (← Coroutine.now)
    { bindingJson := some (some binding.toJson), episodeTotal := some binding.totalEpisodes
      phase := some "submitting_gateway_rjob" }
  o.event job "job_files_bound"
    [("environment_groups", .int binding.groups.length), ("episodes", .int binding.totalEpisodes)]
  return job

/-- `_bind_files`. -/
def bindFiles (job : ControlJob) : Coroutine ControlJob := do
  let job ← Coroutine.update job.jobId (← Coroutine.now)
    { status := some .preparing, phase := some "resolving_job_files" }
  let bound ← tryCatch (some <$> Coroutine.bindFiles job.jobId job.rangeId) fun
    | .fileBindingError => return none
    | x => throw x
  match bound with
  | some binding => o.recordBinding job binding
  | none =>
    o.fail job.jobId "FILE_BINDING_FAILED"
    match ← Coroutine.get job.jobId with
    | none => throw .runtimeError
    | some failed => return failed

/-- `_submit_gateway`. -/
def submitGateway (job : ControlJob) (binding : JobFileBinding) : Coroutine ControlJob := do
  let spec ← Coroutine.lift (o.gatewaySpec job binding)
  let rjobId ← Coroutine.createRJob spec
  let job ← Coroutine.update job.jobId (← Coroutine.now)
    { gatewayRjobId := some (some rjobId), gatewayStatus := some (some .pending)
      phase := some "waiting_gateway_address" }
  o.event job "gateway_rjob_submitted" [("rjob_id", .str rjobId)]
  return job

/-- The changes that record a created controller. -/
def controllerChanges (job : ControlJob) (rjobId : String) (now : Int) : Changes :=
  { safactoryRjobId := some (some rjobId), safactoryStatus := some (some .pending)
    startedAt := some (some (job.startedAt.getD (timestamp now))) }

/-- `_submit_safactory`. -/
def submitSafactory (job : ControlJob) (binding : JobFileBinding) : Coroutine ControlJob := do
  let spec ← Coroutine.lift (o.safactorySpec job binding)
  let rjobId ← Coroutine.createRJob spec
  let now ← Coroutine.now
  let changes := controllerChanges job rjobId now
  let job ← tryCatch
    (Coroutine.update job.jobId now
      { changes with status := some .running, phase := some "running_safactory" })
    fun
      -- the close won while the create call was in flight
      | .jobStateConflict => Coroutine.update job.jobId now changes
      | x => throw x
  o.event job "safactory_rjob_submitted" [("rjob_id", .str rjobId)]
  return job

/-- `_record_gateway_status`. -/
def recordGatewayStatus (job : ControlJob) (snapshot : RJobSnapshot) : Coroutine ControlJob := do
  Coroutine.update job.jobId (← Coroutine.now)
    { gatewayStatus := some (some snapshot.state), gatewayExitCode := some snapshot.exitCode
      gatewayFailureSummary := some snapshot.failureSummary }

/-- `_record_controller_status`. -/
def recordControllerStatus (job : ControlJob) (snapshot : RJobSnapshot) :
    Coroutine ControlJob := do
  let summary := snapshot.workloadSummary
  Coroutine.update job.jobId (← Coroutine.now)
    { safactoryStatus := some (some snapshot.state), safactoryExitCode := some snapshot.exitCode
      safactoryFailureSummary := some snapshot.failureSummary
      episodeTotal := some ((lookup "total" summary).getD job.episodeTotal)
      episodeRunning := some ((lookup "running" summary).getD job.episodeRunning)
      episodeSucceeded := some ((lookup "succeeded" summary).getD job.episodeSucceeded)
      episodeFailed := some ((lookup "failed" summary).getD job.episodeFailed)
      episodeCollected := some ((lookup "collected" summary).getD job.episodeCollected) }

/-- `_reconcile` after it recorded the status of the controller. -/
def reconcileOutcome (job : ControlJob) (binding : JobFileBinding) (controller : RJobSnapshot) :
    Coroutine Unit := do
  if job.status = .closing then return
  if controller.state = .succeeded then
    if !resultsComplete binding controller then
      o.fail job.jobId "EPISODE_RESULTS_INCOMPLETE"
      return
    let now ← Coroutine.now
    let job ← Coroutine.update job.jobId now
      { status := some .succeeded, phase := some "completed"
        completedAt := some (some (timestamp now)), cleanupRequested := some 1 }
    o.event job "job_succeeded"
    return
  if controller.state = .failed ∨ controller.state = .cancelled then
    o.fail job.jobId "SAFACTORY_RJOB_FAILED"
    return
  if o.controllerTimedOut job (← Coroutine.now) then
    o.fail job.jobId "SAFACTORY_RJOB_TIMEOUT"
    return
  o.event job "rjob_reconciliation_completed"

/-- `_reconcile` from the status query of the controller on. -/
def reconcileController (job : ControlJob) (binding : JobFileBinding) (gateway : RJobSnapshot) :
    Coroutine Unit := do
  if gateway.state ≠ .running ∨ !gateway.ready then
    o.fail job.jobId "GATEWAY_LOST_DURING_RUN"
    return
  let some safactoryRjobId := job.safactoryRjobId | throw .typeError
  let controller ← Coroutine.getRJob safactoryRjobId
  let job ← recordControllerStatus job controller
  o.reconcileOutcome job binding controller

/-- `_reconcile` from the last reading of the row before the controller on. -/
def reconcileHealthy (job : ControlJob) (binding : JobFileBinding) (gateway : RJobSnapshot) :
    Coroutine Unit := do
  match ← Coroutine.get job.jobId with
  | none => return
  | some job =>
    if job.status = .closing then return
    if job.safactoryRjobId.isSome then o.reconcileController job binding gateway
    else
      let job ← o.submitSafactory job binding
      if job.status = .closing then return
      o.reconcileController job binding gateway

/-- `_reconcile` from the reading of the row that follows the health check on. -/
def reconcileRoute (job : ControlJob) (binding : JobFileBinding) (gateway : RJobSnapshot)
    (gatewayReady : Bool) : Coroutine Unit := do
  let gatewayUrl := o.gatewayUrlOf gateway
  match ← Coroutine.get job.jobId with
  | none => return
  | some job =>
    if job.status = .closing then return
    if !gatewayReady then
      if job.safactoryRjobId.isSome then
        o.fail job.jobId "GATEWAY_LOST_DURING_RUN"
        return
      let job ← Coroutine.update job.jobId (← Coroutine.now)
        { phase := some "checking_gateway_health" }
      if timedOut job o.settings.gatewayReadyTimeoutSeconds (← Coroutine.now) then
        o.fail job.jobId "GATEWAY_HEALTH_TIMEOUT"
      return
    match job.gatewayUrl with
    | some url =>
      if url ≠ gatewayUrl then
        o.fail job.jobId "GATEWAY_ADDRESS_CHANGED"
        return
      o.reconcileHealthy job binding gateway
    | none =>
      let now ← Coroutine.now
      let readyAt ← Coroutine.now
      let job ← Coroutine.update job.jobId now
        { gatewayAddress := some gateway.address, gatewayPort := some gateway.port
          gatewayUrl := some (some gatewayUrl)
          gatewayReadyAt := some (some (timestamp readyAt))
          phase := some "submitting_safactory_rjob" }
      if job.status = .closing then return
      o.event job "gateway_rjob_ready"
      o.reconcileHealthy job binding gateway

/-- `_reconcile` after it recorded the status of the Gateway. -/
def reconcileNoted (job : ControlJob) (binding : JobFileBinding) (gateway : RJobSnapshot) :
    Coroutine Unit := do
  if job.status = .closing then return
  if gateway.state = .failed ∨ gateway.state = .cancelled ∨ gateway.state = .succeeded then
    o.fail job.jobId "GATEWAY_RJOB_FAILED"
    return
  if !o.gatewayHasRoute gateway then
    if job.safactoryRjobId.isSome then
      o.fail job.jobId "GATEWAY_LOST_DURING_RUN"
      return
    if timedOut job o.settings.gatewayReadyTimeoutSeconds (← Coroutine.now) then
      o.fail job.jobId "GATEWAY_READY_TIMEOUT"
    return
  let gatewayReady ← Coroutine.ready (o.gatewayUrlOf gateway) o.settings.gatewayHealthPath
  o.reconcileRoute job binding gateway gatewayReady

/-- `_reconcile` from the status query of the Gateway on. -/
def reconcileGateway (job : ControlJob) (binding : JobFileBinding) (gatewayRjobId : String) :
    Coroutine Unit := do
  let gateway ← Coroutine.getRJob gatewayRjobId
  let job ← recordGatewayStatus job gateway
  o.reconcileNoted job binding gateway

/-- `_reconcile` of a Job whose files are bound. -/
def reconcileBound (job : ControlJob) : Coroutine Unit := do
  let some document := job.bindingJson | throw .typeError
  let binding ← Coroutine.lift (JobFileBinding.fromJson document)
  match ← Coroutine.get job.jobId with
  | none => return
  | some job =>
    if job.status = .closing then return
    match job.gatewayRjobId with
    | some gatewayRjobId => o.reconcileGateway job binding gatewayRjobId
    | none =>
      let job ← o.submitGateway job binding
      if job.terminal ∨ job.status = .closing then return
      match job.gatewayRjobId with
      | none => return
      | some gatewayRjobId => o.reconcileGateway job binding gatewayRjobId

/-- `_reconcile` after it counted the attempt. -/
def reconcileCounted (job : ControlJob) : Coroutine Unit := do
  if job.status = .closing then return
  o.event job "rjob_reconciliation_started"
  if job.bindingJson.isSome then o.reconcileBound job
  else
    let job ← o.bindFiles job
    if job.terminal ∨ job.status = .closing then return
    o.reconcileBound job

/-- `_reconcile`. -/
def reconcile (job : ControlJob) : Coroutine Unit := do
  let job ← Coroutine.update job.jobId (← Coroutine.now)
    { orchestratorAttempt := some (job.orchestratorAttempt + 1) }
  o.reconcileCounted job

/-- The handler of `RJobDependencyError` and `TrustedConfigError` in `reconcile_once`. -/
def dependencyError (job : ControlJob) : Coroutine Unit := do
  match ← Coroutine.get job.jobId with
  | none => return
  | some latest =>
    if o.expired latest (← Coroutine.now) then o.fail job.jobId "DEPENDENCY_UNAVAILABLE"

/-- The handlers of `reconcile_once`. -/
def handle (job : ControlJob) : PyExc → Coroutine Unit
  | .rjobDependencyError | .trustedConfigError => o.dependencyError job
  | .jobStateConflict => return
  | _ => o.fail job.jobId "INTERNAL_ORCHESTRATION_ERROR"

/-- One round of the first loop of `reconcile_once`. -/
def turn (job : ControlJob) : Coroutine Unit := tryCatch (o.reconcile job) (o.handle job)

/-- The first loop of `reconcile_once`. -/
def reconcileActive : Coroutine Unit := do
  (← Coroutine.listActive).forM o.turn

/-- The second loop of `reconcile_once`. -/
def cleanupPending : Coroutine Unit := do
  (← Coroutine.listCleanupPending).forM o.cleanup

/-- `reconcile_once`. -/
def reconcileOnce : Coroutine Unit := do
  o.reconcileActive
  o.cleanupPending

end RealJobOrchestrator

end SafactoryServer
