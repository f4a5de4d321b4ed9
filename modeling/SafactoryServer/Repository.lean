import SafactoryServer.Catalog
import SafactoryServer.ControlStore
import SafactoryServer.DataPlatform
import SafactoryServer.Effect.Coupled

/-! `RealRuntimeRepository`: the commands and queries of the API, as programs over the control
store, the data platform, the files of the Sessions, the clock and the wake-up of the
orchestrator. -/

namespace SafactoryServer

open Effect

inductive ErrorCode
  | forbidden
  | invalidRequest
  | modelNotFound
  | modelNotAvailable
  | rangeNotFound
  | rangeNotAvailable
  | jobNotFound
  | sessionNotFound
  | stepNotFound
  | milestonesNotFound
  | milestonesNotSupported
  | milestonesUnavailable
  | dependencyUnavailable
  | internalError
deriving DecidableEq, Repr

structure DomainError where
  code : ErrorCode
  details : Row := []

/-- What a request raises: an error of the API, or another exception. -/
inductive ApiExc
  | domain (error : DomainError)
  | python (x : PyExc)

/-- The context variables of a request. -/
structure RequestContext where
  username : Option String
  requestId : Option String := none

structure CreatedJob where
  jobId : String
  status : JobStatus
  modelId : String
  rangeId : String
  createdAt : Int

structure CloseJobResult where
  jobId : String
  jobStatus : JobStatus
  updatedAt : Int
  retryAfterSeconds : Option Int := none

structure JobSessions where
  jobId : String
  jobStatus : JobStatus
  sessionIds : List String
  retryAfterSeconds : Option Int := none
  error : Option FailureInfo := none

inductive MilestoneStatus
  | pending
  | available
deriving DecidableEq, Repr

structure SessionMilestones where
  jobId : String
  sessionId : String
  milestoneStatus : MilestoneStatus
  snapshot : Option Row
  retryAfterSeconds : Option Int := none

/-- The exceptions of the calls on a file, as the readers tell them apart: `unreadable` is any other
`OSError`, a `UnicodeError` or a `JSONDecodeError`. -/
inductive FileExc
  | fileNotFound
  | unreadable
  | other (x : PyExc)

/-- What the calls on the path of a Session's file answer: whether it exists, whether it or one of
the two directories above it is a symlink, and, inside the `try` clause, whether it is a regular
file, its size, and the document of its text. -/
structure SessionFile where
  present : Except PyExc Bool
  symlink : Except PyExc Bool
  isFile : Except FileExc Bool
  size : Except FileExc Nat
  document : Except FileExc Value

/-- What a request asks of the clock, the identifiers, the control store, the data platform, the
files and the orchestrator. -/
inductive ApiOp
  | now
  | newId (kind : String)
  | getJob (jobId : String)
  | addJob (job : ControlJob)
  | requestClose (jobId : String) (now : Int)
  | addEvent (event : JobEvent)
  | listSessionIds (jobId : String)
  | getResult (jobId sessionId : String)
  | getSteps (jobId sessionId : String)
  | getTrajectory (jobId sessionId stepId : String)
  | sessionFile (resultLocalPath jobId sessionId name : String)
  | wakeOrchestrator

@[reducible] def ApiAns : ApiOp → Type
  | .now => Int
  | .newId _ => String
  | .getJob _ => Except PyExc (Option ControlJob)
  | .addJob _ => Except PyExc Unit
  | .requestClose _ _ => Except PyExc (ControlJob × Bool)
  | .addEvent _ => Except PyExc Unit
  | .listSessionIds _ => Except DataPlatformError (List String)
  | .getResult _ _ => Except DataPlatformError (Option SessionResult)
  | .getSteps _ _ => Except DataPlatformError (Option SessionSteps)
  | .getTrajectory _ _ _ => Except DataPlatformError (Option StepTrajectory)
  | .sessionFile _ _ _ _ => SessionFile
  | .wakeOrchestrator => Unit

/-- A coroutine of the repository. -/
abbrev ApiTask (α : Type) := Task ApiOp ApiAns ApiExc α

namespace ApiTask

def lift {α : Type} (result : Except PyExc α) : ApiTask α :=
  match result with
  | .ok a => pure a
  | .error x => throw (.python x)

def fail {α : Type} (code : ErrorCode) (details : Row := []) : ApiTask α :=
  throw (.domain { code := code, details := details })

def getJob (jobId : String) : ApiTask (Option ControlJob) := do
  lift (← Task.ask (.getJob jobId))

def addJob (job : ControlJob) : ApiTask Unit := do lift (← Task.ask (.addJob job))

def requestClose (jobId : String) (now : Int) : ApiTask (ControlJob × Bool) := do
  lift (← Task.ask (.requestClose jobId now))

def addEvent (event : JobEvent) : ApiTask Unit := do lift (← Task.ask (.addEvent event))

def now : ApiTask Int := Task.ask ApiOp.now

def newId (kind : String) : ApiTask String := Task.ask (ApiOp.newId kind)

def listSessionIds (jobId : String) : ApiTask (Except DataPlatformError (List String)) :=
  Task.ask (ApiOp.listSessionIds jobId)

def getResult (jobId sessionId : String) :
    ApiTask (Except DataPlatformError (Option SessionResult)) :=
  Task.ask (ApiOp.getResult jobId sessionId)

def getSteps (jobId sessionId : String) :
    ApiTask (Except DataPlatformError (Option SessionSteps)) :=
  Task.ask (ApiOp.getSteps jobId sessionId)

def getTrajectory (jobId sessionId stepId : String) :
    ApiTask (Except DataPlatformError (Option StepTrajectory)) :=
  Task.ask (ApiOp.getTrajectory jobId sessionId stepId)

def sessionFile (resultLocalPath jobId sessionId name : String) : ApiTask SessionFile :=
  Task.ask (ApiOp.sessionFile resultLocalPath jobId sessionId name)

def wakeOrchestrator : ApiTask Unit := Task.ask ApiOp.wakeOrchestrator

end ApiTask

/-- The exceptions of `sqlite3`, all below `sqlite3.Error`. -/
def PyExc.isSqliteError : PyExc → Bool
  | .integrityError => true
  | .other name => ["Error", "InterfaceError", "DatabaseError", "DataError", "OperationalError",
      "InternalError", "ProgrammingError", "NotSupportedError"].contains name
  | _ => false

/-- `_reconcile_result_with_job`. -/
def reconcileResultWithJob (result : SessionResult) (jobStatus : JobStatus) : SessionResult :=
  if result.resultStatus ≠ .pending ∧ result.resultStatus ≠ .running then result
  else
    let failure : Option FailureInfo := match jobStatus with
      | .failed => some ⟨"JOB_EXECUTION_FAILED",
          "The session did not complete because the job failed.", [], false⟩
      | .closed => some ⟨"SESSION_CANCELLED",
          "The session was cancelled because the job was closed.", [], false⟩
      | .succeeded => some ⟨"SESSION_RESULT_INCOMPLETE",
          "The session did not publish a completed result before the job succeeded.", [], false⟩
      | _ => none
    let status : ResultStatus :=
      if failure.isSome then .failed
      else if jobStatus = .queued ∨ jobStatus = .preparing then .pending
      else .running
    { result with resultStatus := status, score := none, completedAt := none, result := none
                  error := failure }

/-- The `try` clause of both readers.  `error` is the exception of the reader. -/
def SessionFile.bounded (error : String) (maxBytes : Nat) (file : SessionFile) :
    Except FileExc Value := do
  if !(← file.isFile) then throw (.other (.other error))
  if maxBytes < (← file.size) then throw (.other (.other error))
  file.document

/-- What `_read_milestone_snapshot` and `_read_result_artifact` share: the document of a regular
file of bounded size, or nothing if there is no file. -/
def readSessionFile (error : String) (maxBytes : Nat) (file : SessionFile) :
    Except PyExc (Option Value) := do
  if !(← file.present) then return none
  if ← file.symlink then throw (.other error)
  match file.bounded error maxBytes with
  | .ok document => return some document
  | .error .fileNotFound => return none
  | .error .unreadable => throw (.other error)
  | .error (.other x) => throw x

def maxMilestonesBytes : Nat := 1024 * 1024

def maxResultArtifactBytes : Nat := 1024 * 1024

/-- `_read_milestone_snapshot`. -/
def readMilestoneSnapshot (file : SessionFile) : Except PyExc (Option Row) := do
  match ← readSessionFile "MilestoneSnapshotError" maxMilestonesBytes file with
  | none => return none
  | some raw =>
    match raw.asDict? with
    | none => throw (.other "MilestoneSnapshotError")
    | some entries =>
      if (Row.field entries "schema_version").asStr? ≠ some "agent-range.milestones/v1" then
        throw (.other "MilestoneSnapshotError")
      return some entries

/-- `_read_result_artifact`. -/
def readResultArtifact (file : SessionFile) : Except PyExc (Option Row) := do
  match ← readSessionFile "ResultArtifactError" maxResultArtifactBytes file with
  | none => return none
  | some raw =>
    match raw.asDict? with
    | none => throw (.other "ResultArtifactError")
    | some entries => return some entries

structure RealRuntimeRepository where
  catalog : RealCatalog
  unicode : Unicode
  gatewayImage : String
  safactoryImage : String
  retryAfterSeconds : Int

namespace RealRuntimeRepository

variable (repo : RealRuntimeRepository) (ctx : RequestContext)

/-- `get_authenticated_username() or "system"`. -/
def requestedBy : String := (ctx.username.filter (· ≠ "")).getD "system"

/-- The details of an error about a Session. -/
def sessionDetails (jobId sessionId : String) : Row :=
  [("job_id", .str jobId), ("session_id", .str sessionId)]

/-- The `except TrustedConfigError` of the repository. -/
def trusted {α : Type} : Except PyExc α → ApiTask α
  | .error .trustedConfigError => ApiTask.fail .dependencyUnavailable
  | result => ApiTask.lift result

/-- `_require_job`. -/
def requireJob (jobId : String) : ApiTask ControlJob := do
  match ← ApiTask.getJob jobId with
  | none => ApiTask.fail .jobNotFound [("job_id", .str jobId)]
  | some job =>
    if ctx.username.any (job.ownerUsername ≠ ·) then
      ApiTask.fail .jobNotFound [("job_id", .str jobId)]
    else return job

/-- `_query_failed`. -/
def queryFailed (jobId operation : String) : ApiTask Unit := do
  let job ← ApiTask.getJob jobId
  let now ← ApiTask.now
  ApiTask.addEvent
    { jobId := jobId, eventType := "data_platform_query_failed"
      phase := job.elim "unknown" (·.phase)
      payload := sanitizeEventPayload repo.unicode [("operation", .str operation)]
      createdAt := timestamp now }

/-- The `except DataPlatformError` around a query. -/
def queried {α : Type} (jobId operation : String) (answer : Except DataPlatformError α) :
    ApiTask α :=
  match answer with
  | .ok value => return value
  | .error _ => do
    repo.queryFailed jobId operation
    ApiTask.fail .dependencyUnavailable

/-- `create_job`, once the catalog knows the model and the range. -/
def acceptJob (model : ModelConfig) (modelId rangeId : String) : ApiTask CreatedJob := do
  let jobId ← ApiTask.newId "job"
  let createdAt ← ApiTask.now
  let job := newControlJob
    { jobId := jobId
      requestId := (ctx.requestId.filter (· ≠ "")).getD "req_internal"
      ownerUsername := requestedBy ctx
      modelId := modelId
      modelChecksum := repo.catalog.modelChecksum
      modelGatewayJson := model.gateway.dump
      rangeId := rangeId
      gatewayImage := repo.gatewayImage
      safactoryImage := repo.safactoryImage } createdAt
  ApiTask.addJob job
  ApiTask.addEvent
    { jobId := jobId, eventType := "job_created", phase := job.phase
      payload := sanitizeEventPayload repo.unicode [("model_id", .str modelId)]
      createdAt := timestamp createdAt }
  ApiTask.wakeOrchestrator
  return { jobId := jobId, status := .queued, modelId := modelId, rangeId := rangeId,
           createdAt := createdAt }

/-- `create_job`. -/
def createJob (modelId rangeId : String) : ApiTask CreatedJob := do
  let model ← trusted (repo.catalog.resolveModel modelId)
  let rangeConfig ← trusted (repo.catalog.resolveRange rangeId)
  match model, rangeConfig with
  | some model, some _ => repo.acceptJob ctx model modelId rangeId
  | _, _ => ApiTask.fail .dependencyUnavailable

/-- The `try` clause of `close_job`. -/
def closeRow (jobId : String) (now : Int) : ApiTask ControlJob := do
  let _ ← requireJob ctx jobId
  let (job, transitioned) ← ApiTask.requestClose jobId now
  if transitioned then
    ApiTask.addEvent
      { jobId := jobId, eventType := "job_close_requested", phase := job.phase
        payload := sanitizeEventPayload repo.unicode [("requested_by", .str (requestedBy ctx))]
        createdAt := timestamp now }
  return job

/-- The `except` clauses of `close_job`. -/
def closeFailed (jobId : String) : ApiExc → ApiTask ControlJob
  | .python .keyError => ApiTask.fail .jobNotFound [("job_id", .str jobId)]
  | .python x =>
    if x.isSqliteError then ApiTask.fail .dependencyUnavailable else throw (.python x)
  | x => throw x

/-- `close_job` after its `try` clause. -/
def reportClose (job : ControlJob) : ApiTask CloseJobResult := do
  let retryAfter := if job.status = .closing then some repo.retryAfterSeconds else none
  if job.status = .closing then ApiTask.wakeOrchestrator
  return { jobId := job.jobId, jobStatus := job.status, updatedAt := parseTimestamp job.updatedAt
           retryAfterSeconds := retryAfter }

/-- `close_job`. -/
def closeJob (jobId : String) : ApiTask CloseJobResult := do
  let now ← ApiTask.now
  let job ← tryCatch (repo.closeRow ctx jobId now) (closeFailed jobId)
  repo.reportClose job

/-- `list_sessions`. -/
def listSessions (jobId : String) : ApiTask JobSessions := do
  let job ← requireJob ctx jobId
  let sessionIds ← repo.queried jobId "list_sessions" (← ApiTask.listSessionIds jobId)
  let failure : FailureInfo :=
    { code := (job.statusReason.filter (· ≠ "")).getD "JOB_EXECUTION_FAILED"
      message := "The job failed during execution.", details := [], retryable := false }
  return { jobId := jobId, jobStatus := job.status, sessionIds := sessionIds
           retryAfterSeconds := if job.terminal then none else some repo.retryAfterSeconds
           error := if job.status = .failed then some failure else none }

/-- The exceptions that both readers of a Session's file turn into an error of the API. -/
def isBindingExc (error : String) (x : PyExc) : Bool :=
  x = .fileBindingError || x = .keyError || x = .typeError || x = .other error

/-- The `try` clause around the file of a Session, and its `except` clause. -/
def boundFile (error : String) (code : ErrorCode) (read : SessionFile → Except PyExc (Option Row))
    (document : Json) (jobId sessionId name : String) : ApiTask (Option Row) :=
  tryCatch
    (do
      let binding ← ApiTask.lift (JobFileBinding.fromJson document)
      let file ← ApiTask.sessionFile binding.resultLocalPath jobId sessionId name
      ApiTask.lift (read file))
    fun
      | .python x =>
        if isBindingExc error x then ApiTask.fail code (sessionDetails jobId sessionId)
        else throw (.python x)
      | x => throw x

/-- The artifact that `get_result` looks for: the range must have one group. -/
def resultArtifact (rangeId : String) : ApiTask (Option String) := do
  match ← trusted (repo.catalog.resolveRange rangeId) with
  | none => ApiTask.fail .dependencyUnavailable
  | some rangeConfig =>
    match rangeConfig.groups with
    | [group] => return group.resultArtifact
    | _ => ApiTask.fail .dependencyUnavailable

/-- The artifact of a Session, if its Job is bound and has written one. -/
def artifactOf (job : ControlJob) (jobId sessionId name : String) : ApiTask (Option Row) :=
  match job.bindingJson with
  | none => return none
  | some document => boundFile "ResultArtifactError" .dependencyUnavailable readResultArtifact
      document jobId sessionId name

/-- The result with the payload of the artifact. -/
def withArtifact (job : ControlJob) (jobId sessionId name : String) (result : SessionResult) :
    ApiTask SessionResult := do
  if !safeName sessionId then
    ApiTask.fail .invalidRequest [("fields", .list [.str "session_id"])]
  let payload ← artifactOf job jobId sessionId name
  if payload.isNone ∧ result.resultStatus = .succeeded then
    ApiTask.fail .dependencyUnavailable (sessionDetails jobId sessionId)
  return { result with result := payload }

/-- `get_result`. -/
def getResult (jobId sessionId : String) : ApiTask SessionResult := do
  let job ← requireJob ctx jobId
  match ← repo.queried jobId "get_result" (← ApiTask.getResult jobId sessionId) with
  | none => ApiTask.fail .sessionNotFound (sessionDetails jobId sessionId)
  | some result =>
    let result := reconcileResultWithJob result job.status
    let result ← match ← repo.resultArtifact job.rangeId with
      | none => pure result
      | some name => withArtifact job jobId sessionId name result
    if result.resultStatus = .pending ∨ result.resultStatus = .running then
      return { result with retryAfterSeconds := some repo.retryAfterSeconds }
    return result

/-- `get_milestones`, once there is no snapshot. -/
def withoutSnapshot (job : ControlJob) (jobId sessionId : String) : ApiTask SessionMilestones := do
  let sessionIds ← repo.queried jobId "get_milestones" (← ApiTask.listSessionIds jobId)
  if sessionId ∉ sessionIds then
    ApiTask.fail .sessionNotFound (sessionDetails jobId sessionId)
  if job.terminal then ApiTask.fail .milestonesNotFound (sessionDetails jobId sessionId)
  return { jobId := jobId, sessionId := sessionId, milestoneStatus := .pending, snapshot := none
           retryAfterSeconds := some repo.retryAfterSeconds }

/-- The snapshot of a Session, if its Job is bound and has published one. -/
def snapshotOf (job : ControlJob) (jobId sessionId : String) : ApiTask (Option Row) :=
  match job.bindingJson with
  | none => return none
  | some document => boundFile "MilestoneSnapshotError" .milestonesUnavailable
      readMilestoneSnapshot document jobId sessionId "milestones.json"

/-- `get_milestones`. -/
def getMilestones (jobId sessionId : String) : ApiTask SessionMilestones := do
  let job ← requireJob ctx jobId
  match ← trusted (repo.catalog.resolveRange job.rangeId) with
  | none => ApiTask.fail .dependencyUnavailable
  | some rangeConfig =>
    if !rangeConfig.groups.all (·.supportsMilestones) then
      ApiTask.fail .milestonesNotSupported (sessionDetails jobId sessionId)
    if !safeName sessionId then
      ApiTask.fail .invalidRequest [("fields", .list [.str "session_id"])]
    match ← snapshotOf job jobId sessionId with
    | some snapshot => return { jobId := jobId, sessionId := sessionId
                                milestoneStatus := .available, snapshot := some snapshot }
    | none => repo.withoutSnapshot job jobId sessionId

/-- `get_steps`. -/
def getSteps (jobId sessionId : String) : ApiTask SessionSteps := do
  let _ ← requireJob ctx jobId
  match ← repo.queried jobId "get_steps" (← ApiTask.getSteps jobId sessionId) with
  | none => ApiTask.fail .sessionNotFound (sessionDetails jobId sessionId)
  | some result => return result

/-- The error of `get_trajectory` without a trajectory: an unknown Session, or an absent step. -/
def noTrajectory (jobId sessionId stepId : String) : ApiTask StepTrajectory := do
  match ← ApiTask.getSteps jobId sessionId with
  | .error _ => ApiTask.fail .dependencyUnavailable
  | .ok none => ApiTask.fail .sessionNotFound (sessionDetails jobId sessionId)
  | .ok (some _) =>
    ApiTask.fail .stepNotFound [("session_id", .str sessionId), ("step_id", .str stepId)]

/-- `get_trajectory`. -/
def getTrajectory (jobId sessionId stepId : String) : ApiTask StepTrajectory := do
  let _ ← requireJob ctx jobId
  match ← repo.queried jobId "get_trajectory"
      (← ApiTask.getTrajectory jobId sessionId stepId) with
  | none => noTrajectory jobId sessionId stepId
  | some result => return result

end RealRuntimeRepository

end SafactoryServer
