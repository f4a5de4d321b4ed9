import SafactoryServer.Python

/-! A row of the control database, the changes an update makes to it, and the row of a new Job. -/

namespace SafactoryServer

inductive JobStatus
  | queued
  | preparing
  | running
  | closing
  | succeeded
  | failed
  | closed
deriving DecidableEq, Repr

inductive RJobState
  | pending
  | running
  | succeeded
  | failed
  | cancelled
  | unknown
deriving DecidableEq, Repr

/-- One row of the table `jobs`.  The JSON columns hold the documents of their texts. -/
structure ControlJob where
  jobId : String
  requestId : String
  ownerUsername : String
  modelId : String
  modelChecksum : String
  modelGatewayJson : Json
  rangeId : String
  status : JobStatus
  phase : String
  statusReason : Option String
  bindingJson : Option Json
  gatewayImage : String
  gatewayRjobId : Option String
  gatewayStatus : Option RJobState
  gatewayAddress : Option String
  gatewayPort : Option Int
  gatewayUrl : Option String
  gatewayReadyAt : Option Int
  gatewayExitCode : Option Int
  gatewayFailureSummary : Option String
  safactoryImage : String
  safactoryRjobId : Option String
  safactoryStatus : Option RJobState
  safactoryExitCode : Option Int
  safactoryFailureSummary : Option String
  episodeTotal : Int
  episodeRunning : Int
  episodeSucceeded : Int
  episodeFailed : Int
  episodeCollected : Int
  createdAt : Int
  startedAt : Option Int
  completedAt : Option Int
  updatedAt : Int
  orchestratorAttempt : Int
  version : Nat
  cleanupRequested : Int

namespace ControlJob

/-- `ControlJob.terminal`. -/
def terminal (job : ControlJob) : Bool :=
  job.status = .succeeded || job.status = .failed || job.status = .closed

/-- The statuses that `list_active` selects and `request_close` leaves. -/
def active (job : ControlJob) : Bool :=
  job.status = .queued || job.status = .preparing || job.status = .running

@[grind =] theorem active_iff (job : ControlJob) : job.active = true ↔
    job.status = .queued ∨ job.status = .preparing ∨ job.status = .running := by
  simp [active, or_assoc]

@[grind =] theorem terminal_iff (job : ControlJob) : job.terminal = true ↔
    job.status = .succeeded ∨ job.status = .failed ∨ job.status = .closed := by
  simp [terminal, or_assoc]

end ControlJob

/-- The keyword arguments of `SQLiteControlStore.update`: for each mutable column the value to
write, if any, and the keys that are not mutable columns.  `updated_at` is missing because the
store overwrites it. -/
structure Changes where
  status : Option JobStatus := none
  phase : Option String := none
  statusReason : Option (Option String) := none
  bindingJson : Option (Option Json) := none
  gatewayImage : Option String := none
  gatewayRjobId : Option (Option String) := none
  gatewayStatus : Option (Option RJobState) := none
  gatewayAddress : Option (Option String) := none
  gatewayPort : Option (Option Int) := none
  gatewayUrl : Option (Option String) := none
  gatewayReadyAt : Option (Option Int) := none
  gatewayExitCode : Option (Option Int) := none
  gatewayFailureSummary : Option (Option String) := none
  safactoryImage : Option String := none
  safactoryRjobId : Option (Option String) := none
  safactoryStatus : Option (Option RJobState) := none
  safactoryExitCode : Option (Option Int) := none
  safactoryFailureSummary : Option (Option String) := none
  episodeTotal : Option Int := none
  episodeRunning : Option Int := none
  episodeSucceeded : Option Int := none
  episodeFailed : Option Int := none
  episodeCollected : Option Int := none
  startedAt : Option (Option Int) := none
  completedAt : Option (Option Int) := none
  orchestratorAttempt : Option Int := none
  cleanupRequested : Option Int := none
  unknown : List String := []

/-- The row that `UPDATE jobs SET <changes>, updated_at = ?, version = version + 1` leaves. -/
def Changes.write (changes : Changes) (row : ControlJob) (now : Int) : ControlJob :=
  { row with
    status := changes.status.getD row.status
    phase := changes.phase.getD row.phase
    statusReason := changes.statusReason.getD row.statusReason
    bindingJson := changes.bindingJson.getD row.bindingJson
    gatewayImage := changes.gatewayImage.getD row.gatewayImage
    gatewayRjobId := changes.gatewayRjobId.getD row.gatewayRjobId
    gatewayStatus := changes.gatewayStatus.getD row.gatewayStatus
    gatewayAddress := changes.gatewayAddress.getD row.gatewayAddress
    gatewayPort := changes.gatewayPort.getD row.gatewayPort
    gatewayUrl := changes.gatewayUrl.getD row.gatewayUrl
    gatewayReadyAt := changes.gatewayReadyAt.getD row.gatewayReadyAt
    gatewayExitCode := changes.gatewayExitCode.getD row.gatewayExitCode
    gatewayFailureSummary := changes.gatewayFailureSummary.getD row.gatewayFailureSummary
    safactoryImage := changes.safactoryImage.getD row.safactoryImage
    safactoryRjobId := changes.safactoryRjobId.getD row.safactoryRjobId
    safactoryStatus := changes.safactoryStatus.getD row.safactoryStatus
    safactoryExitCode := changes.safactoryExitCode.getD row.safactoryExitCode
    safactoryFailureSummary := changes.safactoryFailureSummary.getD row.safactoryFailureSummary
    episodeTotal := changes.episodeTotal.getD row.episodeTotal
    episodeRunning := changes.episodeRunning.getD row.episodeRunning
    episodeSucceeded := changes.episodeSucceeded.getD row.episodeSucceeded
    episodeFailed := changes.episodeFailed.getD row.episodeFailed
    episodeCollected := changes.episodeCollected.getD row.episodeCollected
    startedAt := changes.startedAt.getD row.startedAt
    completedAt := changes.completedAt.getD row.completedAt
    orchestratorAttempt := changes.orchestratorAttempt.getD row.orchestratorAttempt
    cleanupRequested := changes.cleanupRequested.getD row.cleanupRequested
    updatedAt := timestamp now
    version := row.version + 1 }

/-- The columns that tell which Job a row is: no update changes them. -/
structure Identity where
  jobId : String
  requestId : String
  ownerUsername : String
  modelId : String
  modelChecksum : String
  modelGatewayJson : Json
  rangeId : String
  createdAt : Int

/-- The identity columns of a row. -/
def ControlJob.identity (job : ControlJob) : Identity :=
  { jobId := job.jobId, requestId := job.requestId, ownerUsername := job.ownerUsername,
    modelId := job.modelId, modelChecksum := job.modelChecksum,
    modelGatewayJson := job.modelGatewayJson, rangeId := job.rangeId, createdAt := job.createdAt }

@[simp] theorem Changes.write_identity (changes : Changes) (row : ControlJob) (now : Int) :
    (changes.write row now).identity = row.identity := rfl

@[simp] theorem Changes.write_jobId (changes : Changes) (row : ControlJob) (now : Int) :
    (changes.write row now).jobId = row.jobId := rfl

@[simp] theorem Changes.write_version (changes : Changes) (row : ControlJob) (now : Int) :
    (changes.write row now).version = row.version + 1 := rfl

@[simp] theorem Changes.write_status (changes : Changes) (row : ControlJob) (now : Int) :
    (changes.write row now).status = changes.status.getD row.status := rfl

/-- The changes of `request_close`. -/
def closeChanges : Changes :=
  { status := some .closing, phase := some "cleaning_rjobs", cleanupRequested := some 1 }

/-- The row of an active Job after `request_close`. -/
def ControlJob.close (job : ControlJob) (now : Int) : ControlJob := closeChanges.write job now

/-- What the client and the catalog say of a new Job. -/
structure NewJob where
  jobId : String
  requestId : String
  ownerUsername : String
  modelId : String
  modelChecksum : String
  modelGatewayJson : Json
  rangeId : String
  gatewayImage : String
  safactoryImage : String

/-- `new_control_job`. -/
def newControlJob (new : NewJob) (now : Int) : ControlJob :=
  { jobId := new.jobId
    requestId := new.requestId
    ownerUsername := new.ownerUsername
    modelId := new.modelId
    modelChecksum := new.modelChecksum
    modelGatewayJson := new.modelGatewayJson
    rangeId := new.rangeId
    status := .queued
    phase := "validating_request"
    statusReason := none
    bindingJson := none
    gatewayImage := new.gatewayImage
    gatewayRjobId := none
    gatewayStatus := none
    gatewayAddress := none
    gatewayPort := none
    gatewayUrl := none
    gatewayReadyAt := none
    gatewayExitCode := none
    gatewayFailureSummary := none
    safactoryImage := new.safactoryImage
    safactoryRjobId := none
    safactoryStatus := none
    safactoryExitCode := none
    safactoryFailureSummary := none
    episodeTotal := 0
    episodeRunning := 0
    episodeSucceeded := 0
    episodeFailed := 0
    episodeCollected := 0
    createdAt := timestamp now
    startedAt := none
    completedAt := none
    updatedAt := timestamp now
    orchestratorAttempt := 0
    version := 1
    cleanupRequested := 0 }

/-- A Job for runs on concrete rows. -/
def sampleJob : NewJob :=
  { jobId := "job", requestId := "req", ownerUsername := "alice", modelId := "model"
    modelChecksum := "sum", modelGatewayJson := .obj [("route", .obj [("url", .str "http://m")])]
    rangeId := "range", gatewayImage := "gateway", safactoryImage := "safactory" }

end SafactoryServer
