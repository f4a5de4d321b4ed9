import SafactoryServer.Auth
import SafactoryServer.Commands
import SafactoryServer.Effect.Outcome
import SafactoryServer.Names
import SafactoryServer.Redaction
import SafactoryServer.Timestamps
import SafactoryServer.Web.Percent

/-! The HTTP application: its routes and what they read of a request, the service behind them, the
handlers of errors, and the middleware around all of it. -/

namespace SafactoryServer

namespace Api

open Effect

/-! ### Errors -/

structure ErrorSpec where
  statusCode : Nat
  message : String
  retryable : Bool

/-- `ERROR_SPECS`. -/
def errorSpecs : ErrorCode → ErrorSpec
  | .forbidden => ⟨403, "Authentication credentials are missing or invalid.", false⟩
  | .invalidRequest => ⟨400, "The request is invalid.", false⟩
  | .modelNotFound => ⟨422, "The selected model does not exist.", false⟩
  | .modelNotAvailable => ⟨422, "The selected model is not available.", false⟩
  | .rangeNotFound => ⟨422, "The selected range does not exist.", false⟩
  | .rangeNotAvailable => ⟨422, "The selected range is not available.", false⟩
  | .jobNotFound => ⟨404, "The specified job does not exist.", false⟩
  | .sessionNotFound => ⟨404, "The specified session does not exist for this job.", false⟩
  | .stepNotFound => ⟨404, "The specified step does not exist for this session.", false⟩
  | .milestonesNotFound =>
    ⟨404, "The milestone snapshot does not exist for this session.", false⟩
  | .milestonesNotSupported =>
    ⟨422, "Milestones are not supported for this environment.", false⟩
  | .milestonesUnavailable =>
    ⟨503, "The milestone snapshot is temporarily unavailable.", true⟩
  | .dependencyUnavailable => ⟨503, "A required service dependency is unavailable.", true⟩
  | .internalError => ⟨500, "An internal server error occurred.", true⟩

/-- The value of an `ErrorCode`. -/
def codeText : ErrorCode → String
  | .forbidden => "FORBIDDEN"
  | .invalidRequest => "INVALID_REQUEST"
  | .modelNotFound => "MODEL_NOT_FOUND"
  | .modelNotAvailable => "MODEL_NOT_AVAILABLE"
  | .rangeNotFound => "RANGE_NOT_FOUND"
  | .rangeNotAvailable => "RANGE_NOT_AVAILABLE"
  | .jobNotFound => "JOB_NOT_FOUND"
  | .sessionNotFound => "SESSION_NOT_FOUND"
  | .stepNotFound => "STEP_NOT_FOUND"
  | .milestonesNotFound => "MILESTONES_NOT_FOUND"
  | .milestonesNotSupported => "MILESTONES_NOT_SUPPORTED"
  | .milestonesUnavailable => "MILESTONES_UNAVAILABLE"
  | .dependencyUnavailable => "DEPENDENCY_UNAVAILABLE"
  | .internalError => "INTERNAL_ERROR"

/-- What the application raises, as the exception handlers tell it apart: a `DomainError` with its
`retryable`, a `RequestValidationError` with the fields it names, an HTTP exception, or another
exception. -/
inductive Exc
  | domain (error : DomainError) (retryable : Bool)
  | validation (fields : List String)
  | http (statusCode : Nat)
  | other (x : PyExc)

/-- A `DomainError` without a `retryable` of its own has that of its code. -/
def Exc.ofApi : ApiExc → Exc
  | .domain error => .domain error (errorSpecs error.code).retryable
  | .python x => .other x

/-- A coroutine of the application. -/
abbrev HttpTask (α : Type) := Task ApiOp ApiAns Exc α

def fail {α : Type} (code : ErrorCode) (details : Row := []) : HttpTask α :=
  throw (.ofApi (.domain { code := code, details := details }))

/-- A call of the repository. -/
def called {α : Type} (p : ApiTask α) : HttpTask α := p.recast Exc.ofApi

/-- A result that is no coroutine's. -/
def lifted {α : Type} : Except PyExc α → HttpTask α
  | .ok a => pure a
  | .error x => throw (.other x)

instance : MonadLift (Except PyExc) HttpTask := ⟨lifted⟩

/-! ### Requests -/

/-- The body of a request, as `FastAPI` reads it: none, a JSON document, a text that is no JSON
from this position on, a text that cannot be decoded, or a body of another type. -/
inductive Body
  | missing
  | json (document : Json)
  | malformed (position : Nat)
  | undecodable
  | raw

/-- `target` is the path and the query as they are sent. -/
structure HttpRequest where
  method : String
  target : List Char
  authorization : List String := []
  body : Body := .missing

/-- The path, decoded. -/
def HttpRequest.path (request : HttpRequest) : String :=
  String.ofList (Percent.unquote (request.target.takeWhile (· ≠ '?')))

/-- The pairs of the query, decoded. -/
def HttpRequest.query (request : HttpRequest) : List (String × String) :=
  (Percent.parseQsl ((request.target.dropWhile (· ≠ '?')).drop 1)).map fun pair =>
    (String.ofList pair.1, String.ofList pair.2)

/-- The Unicode property `White_Space`, with which `pydantic` strips and matches. -/
def isWhiteSpace (c : Char) : Bool :=
  let n := c.toNat
  (0x9 ≤ n && n ≤ 0xD) || n = 0x20 || n = 0x85 || n = 0xA0 || n = 0x1680 ||
    (0x2000 ≤ n && n ≤ 0x200A) || n = 0x2028 || n = 0x2029 || n = 0x202F || n = 0x205F || n = 0x3000

def trim (text : String) : String :=
  String.ofList (((text.toList.dropWhile isWhiteSpace).reverse.dropWhile isWhiteSpace).reverse)

/-- `RequiredId`: the last value of the name, with a character that is no white space. -/
def requiredId (query : List (String × String)) (name : String) : Option String :=
  ((query.filter (·.1 = name)).getLast?.map (·.2)).filter fun value =>
    value.toList.any fun c => !isWhiteSpace c

/-- The parameters of an endpoint: all that are missing or invalid are reported. -/
def requiredIds (request : HttpRequest) (names : List String) : HttpTask (String → String) :=
  let invalid := names.filter fun name => (requiredId request.query name).isNone
  if invalid = [] then return fun name => (requiredId request.query name).getD ""
  else throw (.validation invalid)

/-- The name of a location in an error: `body` and `query` are left out of it. -/
def fieldName (part : String) : String := if part = "body" ∨ part = "query" then "" else part

/-- `NonBlankString`. -/
def nonBlank (entries : List (String × Json)) (name : String) : Option String :=
  (((lookup name entries).bind Json.asStr?).map trim).filter (· ≠ "")

/-- The names of `CreateJobRequest`. -/
def createJobFields : List String := ["model_id", "range_id"]

/-- `CreateJobRequest`. -/
def readCreateJob : Body → HttpTask (String × String)
  | .json (.obj entries) =>
    let invalid := createJobFields.filter fun name => (nonBlank entries name).isNone
    let extra := (entries.map (·.1)).filter fun name => !createJobFields.contains name
    if invalid ++ extra = [] then
      return ((nonBlank entries "model_id").getD "", (nonBlank entries "range_id").getD "")
    else throw (.validation ((invalid ++ extra).map fieldName))
  | .missing | .json _ | .raw => throw (.validation [""])
  | .malformed position => throw (.validation [toString position])
  | .undecodable => throw (.http 400)

/-! ### The service -/

structure Range where
  rangeId : String
  description : String
  available : Bool
  availabilityRetryable : Bool

/-- The application.  `catalog` is what the service reads of the catalog, which may have changed
when the repository reads it again; `describe` gives the `description` and the
`availability_retryable` of a range; `dumpAny` is the JSON of a value of any type; and `unmatched`
is what answers a method and a path that are no route of this API. -/
structure Application where
  catalog : RealCatalog
  describe : RangeConfig → String × Bool
  service : JobService
  dumpAny : Value → Except PyExc Json
  dumpAny_int : ∀ n, dumpAny (.int n) = .ok (.int n)
  dumpAny_str : ∀ text, dumpAny (.str text) = .ok (.str text)
  dumpAny_list : ∀ items, dumpAny (.list items) = (items.mapM dumpAny).map .arr
  unmatched : String → String → Except Nat HttpResponse

namespace Application

variable (app : Application) (ctx : RequestContext)

/-- `JobService.list_models`. -/
def listModels : List Model := app.catalog.listModels.filter (·.available)

def rangeOf (item : RangeConfig) : Range where
  rangeId := item.rangeId
  description := (app.describe item).1
  available := item.available
  availabilityRetryable := (app.describe item).2

/-- The `except TrustedConfigError` of the catalog. -/
def trusted {α : Type} : Except PyExc α → HttpTask α
  | .error .trustedConfigError => fail .dependencyUnavailable
  | result => lifted result

/-- `JobService.list_ranges`. -/
def listRanges : HttpTask (List Range) := do
  let document ← trusted app.catalog.ranges
  return (document.ranges.map app.rangeOf).filter (·.available)

/-- `RealCatalog.get_range`. -/
def getRange (rangeId : String) : HttpTask (Option Range) := do
  return (← trusted (app.catalog.resolveRange rangeId)).map app.rangeOf

/-- `JobService.create_job`. -/
def createJob (modelId rangeId : String) : HttpTask CreatedJob := do
  match app.catalog.getModel modelId with
  | none => fail .modelNotFound [("model_id", .str modelId)]
  | some model =>
    if !model.available then fail .modelNotAvailable [("model_id", .str modelId)]
    match ← app.getRange rangeId with
    | none => fail .rangeNotFound [("range_id", .str rangeId)]
    | some range =>
      if !range.available then
        throw (.domain { code := .rangeNotAvailable, details := [("range_id", .str rangeId)] }
          range.availabilityRetryable)
      called (app.service.runtime.createJob ctx modelId rangeId)

/-! ### Responses -/

def jobStatusText : JobStatus → String
  | .queued => "queued"
  | .preparing => "preparing"
  | .running => "running"
  | .closing => "closing"
  | .succeeded => "succeeded"
  | .failed => "failed"
  | .closed => "closed"

def resultStatusText : ResultStatus → String
  | .pending => "pending"
  | .running => "running"
  | .succeeded => "succeeded"
  | .failed => "failed"

def milestoneStatusText : MilestoneStatus → String
  | .pending => "pending"
  | .available => "available"

/-- `UtcTimestamp` of an instant. -/
def utc (instant : Int) : Except PyExc Json := do
  return .str (← storedTimestamp ⟨instant, some 0⟩)

/-- `UtcTimestamp` of a `datetime` that may be missing. -/
def optionalUtc : Option Datetime → Except PyExc Json
  | none => .ok .null
  | some value => do
    return .str (← storedTimestamp { value with utcoffset := some (value.utcoffset.getD 0) })

/-- A `dict[str, Any]`. -/
def dumpRow (row : Row) : Except PyExc Json := do
  return .obj (← row.mapM fun entry => do return (entry.1, ← app.dumpAny entry.2))

/-- `ErrorBody`. -/
def errorBody (code message : String) (details : Row) (retryable : Bool) : Except PyExc Json := do
  return .obj [("code", .str code), ("message", .str message), ("details", ← app.dumpRow details),
    ("retryable", .bool retryable)]

/-- A field that is left out when it is `None`. -/
def present {α : Type} (name : String) (dump : α → Except PyExc Json) :
    Option α → Except PyExc (List (String × Json))
  | none => .ok []
  | some value => do return [(name, ← dump value)]

/-- A number that is at least 1. -/
def positive (n : Nat) : Except PyExc Json :=
  if 1 ≤ n then .ok (.int n) else .error (.other "ValidationError")

def trajectoryFields : List String := ["model_input", "model_output", "action", "observation"]

/-- A value of `dict[str, Any] | None`. -/
def isOptionalDict : Value → Bool
  | .null | .dict _ => true
  | _ => false

/-- `Trajectory`: its fields are objects, and those that are `None` are left out. -/
def trajectoryJson (row : Row) : Except PyExc Json := do
  if row.any fun entry => !trajectoryFields.contains entry.1 || !isOptionalDict entry.2 then
    throw (.other "ValidationError")
  app.dumpRow (trajectoryFields.filterMap fun name =>
    (lookup name row).bind fun value => value.asDict?.map fun _ => (name, value))

/-- The `error` of a response. -/
def failure : Option FailureInfo → Except PyExc (List (String × Json)) :=
  present "error" fun info => app.errorBody info.code info.message info.details info.retryable

def response (statusCode : Nat) (headers : List (String × String)) (body : Json) :
    HttpResponse where
  statusCode := statusCode
  headers := ("Content-Type", "application/json") :: headers
  body := body

/-- The `Location` of a Job. -/
def location (jobId : String) : String :=
  "/v1/jobs/sessions?job_id=" ++ String.ofList (Percent.quote jobId.toList)

def retryAfter : Option Int → List (String × String)
  | none => []
  | some seconds => [("Retry-After", toString seconds)]

/-! ### The endpoints -/

inductive Endpoint
  | listModels
  | listRanges
  | createJob
  | closeJob
  | listJobSessions
  | getSessionMilestones
  | getSessionResult
  | getSessionSteps
  | getStepTrajectory
deriving DecidableEq

/-- The routes of `api_router`. -/
def routes : List ((String × String) × Endpoint) :=
  [(("GET", "/v1/models"), .listModels), (("GET", "/v1/ranges"), .listRanges),
    (("POST", "/v1/jobs"), .createJob), (("POST", "/v1/jobs/close"), .closeJob),
    (("GET", "/v1/jobs/sessions"), .listJobSessions),
    (("GET", "/v1/sessions/milestones"), .getSessionMilestones),
    (("GET", "/v1/sessions/result"), .getSessionResult),
    (("GET", "/v1/sessions/steps"), .getSessionSteps),
    (("GET", "/v1/sessions/steps/trajectory"), .getStepTrajectory)]

def endpoint (request : HttpRequest) : Option Endpoint :=
  (routes.find? (·.1 = (request.method, request.path))).map (·.2)

/-- `create_job` of the routes. -/
def postJob (request : HttpRequest) : HttpTask HttpResponse := do
  let (modelId, rangeId) ← readCreateJob request.body
  let job ← app.createJob ctx modelId rangeId
  let createdAt ← lifted (utc job.createdAt)
  return response 202 [("Location", location job.jobId)] (.obj
    [("job_id", .str job.jobId), ("status", .str (jobStatusText job.status)),
      ("model_id", .str job.modelId), ("range_id", .str job.rangeId), ("created_at", createdAt)])

/-- `close_job` of the routes. -/
def postClose (request : HttpRequest) : HttpTask HttpResponse := do
  let id ← requiredIds request ["job_id"]
  let result ← called (app.service.runtime.closeJob ctx (id "job_id"))
  let updatedAt ← lifted (utc result.updatedAt)
  let body : Json := .obj [("job_id", .str result.jobId),
    ("job_status", .str (jobStatusText result.jobStatus)), ("updated_at", updatedAt)]
  if result.jobStatus = .closing then
    return response 202
      (("Location", location result.jobId) :: retryAfter result.retryAfterSeconds) body
  return response 200 [] body

/-- `list_job_sessions`. -/
def getSessions (request : HttpRequest) : HttpTask HttpResponse := do
  let id ← requiredIds request ["job_id"]
  let result ← called (app.service.runtime.listSessions ctx (id "job_id"))
  let error ← lifted (app.failure result.error)
  return response 200 (retryAfter result.retryAfterSeconds) (.obj
    ([("job_id", .str result.jobId), ("job_status", .str (jobStatusText result.jobStatus)),
      ("session_ids", .arr (result.sessionIds.map .str))] ++ error))

/-- `get_session_milestones`. -/
def getMilestones (request : HttpRequest) : HttpTask HttpResponse := do
  let id ← requiredIds request ["job_id", "session_id"]
  let result ← called (app.service.getMilestones ctx (id "job_id") (id "session_id"))
  let snapshot ← lifted (result.snapshot.elim (.ok .null) app.dumpRow)
  return response 200 (("Cache-Control", "no-store") :: retryAfter result.retryAfterSeconds) (.obj
    [("job_id", .str result.jobId), ("session_id", .str result.sessionId),
      ("milestone_status", .str (milestoneStatusText result.milestoneStatus)),
      ("snapshot", snapshot)])

/-- `get_session_result`. -/
def getResult (request : HttpRequest) : HttpTask HttpResponse := do
  let id ← requiredIds request ["job_id", "session_id"]
  let result ← called (app.service.runtime.getResult ctx (id "job_id") (id "session_id"))
  let completedAt ← lifted (optionalUtc result.completedAt)
  let payload ← lifted (present "result" app.dumpRow result.result)
  let error ← lifted (app.failure result.error)
  return response 200 (retryAfter result.retryAfterSeconds) (.obj
    ([("session_id", .str result.sessionId),
      ("result_status", .str (resultStatusText result.resultStatus)),
      ("score", result.score.elim .null .float), ("completed_at", completedAt)] ++
      payload ++ error))

/-- `get_session_steps`. -/
def getSteps (request : HttpRequest) : HttpTask HttpResponse := do
  let id ← requiredIds request ["job_id", "session_id"]
  let result ← called (app.service.runtime.getSteps ctx (id "job_id") (id "session_id"))
  let steps ← lifted (result.steps.mapM fun step => do
    return .obj [("step_id", .str step.stepId), ("sequence_no", ← positive step.sequenceNo)])
  return response 200 [] (.obj
    [("session_id", .str result.sessionId), ("step_count", .int result.stepCount),
      ("sealed", .bool result.isSealed), ("steps", .arr steps)])

/-- `get_step_trajectory`. -/
def getTrajectory (request : HttpRequest) : HttpTask HttpResponse := do
  let id ← requiredIds request ["job_id", "session_id", "step_id"]
  let result ← called
    (app.service.getTrajectory ctx (id "job_id") (id "session_id") (id "step_id"))
  let startedAt ← lifted (optionalUtc result.startedAt)
  let finishedAt ← lifted (optionalUtc result.finishedAt)
  let sequenceNo ← lifted (positive result.sequenceNo)
  let trajectory ← lifted (app.trajectoryJson result.trajectory)
  return response 200 [] (.obj
    [("session_id", .str result.sessionId), ("step_id", .str result.stepId),
      ("sequence_no", sequenceNo), ("started_at", startedAt),
      ("finished_at", finishedAt), ("trajectory", trajectory)])

def serve (request : HttpRequest) : Endpoint → HttpTask HttpResponse
  | .listModels => return response 200 [] (.obj [("items", .arr (app.listModels.map fun model =>
      .obj [("model_id", .str model.modelId), ("name", .str model.name)]))])
  | .listRanges => do
    let ranges ← app.listRanges
    return response 200 [("Cache-Control", "no-store")] (.arr (ranges.map fun range =>
      .obj [("range_id", .str range.rangeId), ("description", .str range.description)]))
  | .createJob => app.postJob ctx request
  | .closeJob => app.postClose ctx request
  | .listJobSessions => app.getSessions ctx request
  | .getSessionMilestones => app.getMilestones ctx request
  | .getSessionResult => app.getResult ctx request
  | .getSessionSteps => app.getSteps ctx request
  | .getStepTrajectory => app.getTrajectory ctx request

/-- The router. -/
def routed (request : HttpRequest) : HttpTask HttpResponse :=
  match endpoint request with
  | some endpoint => app.serve ctx request endpoint
  | none =>
    match app.unmatched request.method request.path with
    | .ok response => return response
    | .error statusCode => throw (.http statusCode)

/-! ### The handlers and the middleware -/

/-- `_error_response`. -/
def errorResponse (requestId : String) (statusCode : Nat) (code : ErrorCode) (message : String)
    (details : Row) (retryable : Bool) : Except PyExc HttpResponse := do
  let error ← app.errorBody (codeText code) message details retryable
  return response statusCode [] (.obj [("error", error), ("request_id", .str requestId)])

/-- The handlers of `DomainError`, `RequestValidationError` and `StarletteHTTPException`; another
exception goes on. -/
def handled (requestId : String) : Exc → HttpTask HttpResponse
  | .domain error retryable =>
    let spec := errorSpecs error.code
    lifted (app.errorResponse requestId spec.statusCode error.code spec.message error.details
      retryable)
  | .validation fields =>
    let spec := errorSpecs .invalidRequest
    lifted (app.errorResponse requestId spec.statusCode .invalidRequest spec.message
      [("fields", .list (fields.map .str))] spec.retryable)
  | .http statusCode =>
    let spec := errorSpecs .invalidRequest
    lifted (app.errorResponse requestId statusCode .invalidRequest spec.message
      [("http_status", .int statusCode)] spec.retryable)
  | .other x => throw (.other x)

/-- The application inside the middleware. -/
def answered (requestId : String) (request : HttpRequest) (username : String) :
    HttpTask HttpResponse :=
  tryCatch (app.routed { username := some username, requestId := some requestId } request)
    (app.handled requestId)

/-- `handle_unexpected_error`, which answers outside of the middleware. -/
def unexpected (requestId : String) : HttpTask HttpResponse :=
  let spec := errorSpecs .internalError
  lifted (app.errorResponse requestId spec.statusCode .internalError spec.message [] spec.retryable)

/-- The application as the server calls it, with this ID for the request. -/
def respondAs (authenticator : BearerAuthenticator) (request : HttpRequest) (requestId : String) :
    HttpTask HttpResponse :=
  tryCatch (requestContext authenticator requestId (app.answered requestId request)
    request.authorization) fun _ => app.unexpected requestId

end Application

/-! ### What an error may say -/

section

variable {α β : Type} {given : List (String × String)}

/-- The details of an error of the repository name what it was called with, or the field that it
refuses. -/
def Named (given : List (String × String)) (details : Row) : Prop :=
  ∀ entry ∈ details, (∃ text, (entry.1, text) ∈ given ∧ entry.2 = .str text) ∨
    entry = ("fields", .list [.str "session_id"])

theorem Named.nil : Named given [] := nofun

theorem Named.cons {name text : String} {details : Row} (h : (name, text) ∈ given)
    (hrest : Named given details) : Named given ((name, .str text) :: details) := by
  intro entry hentry
  rcases List.mem_cons.mp hentry with rfl | hentry
  · exact .inl ⟨text, h, rfl⟩
  · exact hrest entry hentry

theorem Named.sessionId : Named given [("fields", .list [.str "session_id"])] := by
  intro entry hentry
  exact .inr (List.mem_singleton.mp hentry)

def Within (given : List (String × String)) : ApiExc → Prop
  | .python _ => True
  | .domain error => Named given error.details

theorem raises_lift (result : Except PyExc α) : (ApiTask.lift result).Raises (Within given) := by
  cases result with
  | ok a => exact .pure trivial
  | error x => exact .throw trivial

theorem raises_ask (e : ApiOp) :
    (Task.ask e : ApiTask (ApiAns e)).Raises (Within given) := .ask fun _ => trivial

/-- A call whose answer may be an exception. -/
theorem raises_lifted {e : ApiOp} {result : ApiAns e → Except PyExc α} :
    (do ApiTask.lift (result (← Task.ask e)) : ApiTask α).Raises (Within given) :=
  (raises_ask e).seq fun _ => raises_lift _

theorem raises_fail {code : ErrorCode} {details : Row} (h : Named given details) :
    (ApiTask.fail code details : ApiTask α).Raises (Within given) := .throw h

open RealRuntimeRepository

theorem raises_trusted (result : Except PyExc α) :
    (RealRuntimeRepository.trusted result).Raises (Within given) := by
  unfold RealRuntimeRepository.trusted
  split
  · exact raises_fail .nil
  · exact raises_lift _

variable {jobId sessionId stepId : String}

theorem Named.session (hjob : ("job_id", jobId) ∈ given)
    (hsession : ("session_id", sessionId) ∈ given) :
    Named given (sessionDetails jobId sessionId) := .cons hjob (.cons hsession .nil)

theorem raises_requireJob (ctx : RequestContext) (hjob : ("job_id", jobId) ∈ given) :
    (requireJob ctx jobId).Raises (Within given) := by
  refine raises_lifted.seq fun row => ?_
  cases row with
  | none => exact raises_fail (.cons hjob .nil)
  | some job =>
    dsimp only
    split
    · exact raises_fail (.cons hjob .nil)
    · exact .pure trivial

theorem raises_queryFailed (repo : RealRuntimeRepository) (operation : String) :
    (repo.queryFailed jobId operation).Raises (Within given) :=
  raises_lifted.seq fun _ => (raises_ask _).seq fun _ => raises_lifted

theorem raises_queried (repo : RealRuntimeRepository) (operation : String)
    (answer : Except DataPlatformError α) :
    (repo.queried jobId operation answer).Raises (Within given) := by
  cases answer with
  | ok value => exact .pure trivial
  | error x => exact (raises_queryFailed repo operation).seq fun _ => raises_fail .nil

/-- A query of the data platform, and what is made of its answer. -/
theorem raises_query (repo : RealRuntimeRepository) (operation : String) {e : ApiOp}
    {answer : ApiAns e → Except DataPlatformError α} {f : α → ApiTask β}
    (hf : ∀ a, (f a).Raises (Within given)) :
    (do f (← repo.queried jobId operation (answer (← Task.ask e)))).Raises (Within given) :=
  (raises_ask e).seq fun r => (raises_queried repo operation (answer r)).seq fun a => hf a

theorem raises_createJob (repo : RealRuntimeRepository) (ctx : RequestContext)
    (modelId rangeId : String) : (repo.createJob ctx modelId rangeId).Raises (Within given) := by
  refine (raises_trusted _).seq fun model => (raises_trusted _).seq fun range => ?_
  split
  · exact (raises_ask _).seq fun _ => (raises_ask _).seq fun _ => raises_lifted.seq fun _ =>
      raises_lifted.seq fun _ => (raises_ask _).seq fun _ => .pure trivial
  · exact raises_fail .nil

theorem raises_closeJob (repo : RealRuntimeRepository) (ctx : RequestContext)
    (hjob : ("job_id", jobId) ∈ given) : (repo.closeJob ctx jobId).Raises (Within given) := by
  refine (raises_ask _).seq fun now => .seq ?_ fun job => ?_
  · refine .catching ?_ fun x hx => ?_
    · refine (raises_requireJob ctx hjob).seq fun _ => raises_lifted.seq fun closed => ?_
      dsimp only
      split
      · exact raises_lifted.seq fun _ => .pure trivial
      · exact .pure trivial
    · unfold closeFailed
      split
      · exact raises_fail (.cons hjob .nil)
      · split
        · exact raises_fail .nil
        · exact .throw trivial
      · exact .throw hx
  · unfold reportClose
    dsimp only
    split
    · exact (raises_ask _).seq fun _ => .pure trivial
    · exact .pure trivial

theorem raises_listSessions (repo : RealRuntimeRepository) (ctx : RequestContext)
    (hjob : ("job_id", jobId) ∈ given) : (repo.listSessions ctx jobId).Raises (Within given) :=
  (raises_requireJob ctx hjob).seq fun _ => raises_query repo _ fun _ => .pure trivial

theorem raises_boundFile {error : String} {code : ErrorCode}
    {read : SessionFile → Except PyExc (Option Row)} {document : Json} {name : String}
    (h : Named given (sessionDetails jobId sessionId)) :
    (boundFile error code read document jobId sessionId name).Raises (Within given) := by
  refine .catching ?_ fun x hx => ?_
  · exact (raises_lift _).seq fun _ => (raises_ask _).seq fun _ => raises_lift _
  · split
    · split
      · exact raises_fail h
      · exact .throw trivial
    · exact .throw hx

theorem raises_resultArtifact (repo : RealRuntimeRepository) (rangeId : String) :
    (repo.resultArtifact rangeId).Raises (Within given) := by
  refine (raises_trusted _).seq fun config => ?_
  split
  · exact raises_fail .nil
  · split
    · exact .pure trivial
    · exact raises_fail .nil

theorem raises_withArtifact {job : ControlJob} {name : String} {result : SessionResult}
    (h : Named given (sessionDetails jobId sessionId)) :
    (withArtifact job jobId sessionId name result).Raises (Within given) := by
  have hpayload : (artifactOf job jobId sessionId name).Raises (Within given) := by
    unfold artifactOf
    split
    · exact .pure trivial
    · exact raises_boundFile h
  unfold withArtifact
  dsimp only
  refine Task.Yields.check (raises_fail .sessionId) (hpayload.seq fun payload => ?_)
  exact Task.Yields.check (raises_fail h) (.pure trivial)

theorem raises_getResult (repo : RealRuntimeRepository) (ctx : RequestContext)
    (hjob : ("job_id", jobId) ∈ given) (hsession : ("session_id", sessionId) ∈ given) :
    (repo.getResult ctx jobId sessionId).Raises (Within given) := by
  have hnamed := Named.session hjob hsession
  refine (raises_requireJob ctx hjob).seq fun job => raises_query repo _ fun found => ?_
  cases found with
  | none => exact raises_fail hnamed
  | some result =>
    refine (raises_resultArtifact repo _).seq fun name => ?_
    have hlast : ∀ result : SessionResult, (if result.resultStatus = .pending ∨
        result.resultStatus = .running then
          pure { result with retryAfterSeconds := some repo.retryAfterSeconds }
        else pure result : ApiTask SessionResult).Raises (Within given) := by
      intro result
      split <;> exact .pure trivial
    cases name with
    | none => exact hlast _
    | some name => exact (raises_withArtifact hnamed).seq hlast

theorem raises_getMilestones (repo : RealRuntimeRepository) (ctx : RequestContext)
    (hjob : ("job_id", jobId) ∈ given) (hsession : ("session_id", sessionId) ∈ given) :
    (repo.getMilestones ctx jobId sessionId).Raises (Within given) := by
  have hnamed := Named.session hjob hsession
  refine (raises_requireJob ctx hjob).seq fun job => (raises_trusted _).seq fun config => ?_
  cases config with
  | none => exact raises_fail .nil
  | some config =>
    have hsnapshot : (snapshotOf job jobId sessionId).Raises (Within given) := by
      unfold snapshotOf
      split
      · exact .pure trivial
      · exact raises_boundFile hnamed
    have hwithout : (repo.withoutSnapshot job jobId sessionId).Raises (Within given) :=
      raises_query repo _ fun sessionIds =>
        Task.Yields.check (raises_fail hnamed)
          (Task.Yields.check (raises_fail hnamed) (.pure trivial))
    refine Task.Yields.check (raises_fail hnamed) (Task.Yields.check (raises_fail .sessionId) ?_)
    refine hsnapshot.seq fun snapshot => ?_
    cases snapshot with
    | none => exact hwithout
    | some snapshot => exact .pure trivial

theorem raises_getSteps (repo : RealRuntimeRepository) (ctx : RequestContext)
    (hjob : ("job_id", jobId) ∈ given) (hsession : ("session_id", sessionId) ∈ given) :
    (repo.getSteps ctx jobId sessionId).Raises (Within given) := by
  refine (raises_requireJob ctx hjob).seq fun job => raises_query repo _ fun found => ?_
  cases found with
  | none => exact raises_fail (.session hjob hsession)
  | some result => exact .pure trivial

theorem raises_getTrajectory (repo : RealRuntimeRepository) (ctx : RequestContext)
    (hjob : ("job_id", jobId) ∈ given) (hsession : ("session_id", sessionId) ∈ given)
    (hstep : ("step_id", stepId) ∈ given) :
    (repo.getTrajectory ctx jobId sessionId stepId).Raises (Within given) := by
  refine (raises_requireJob ctx hjob).seq fun job => raises_query repo _ fun found => ?_
  cases found with
  | none =>
    refine (raises_ask _).seq fun steps => ?_
    split
    · exact raises_fail .nil
    · exact raises_fail (.session hjob hsession)
    · exact raises_fail (.cons hsession (.cons hstep .nil))
  | some result => exact .pure trivial

end

/-! ### What an error of the application may say -/

/-- The parameters that a request gives, in its query and in its body. -/
def HttpRequest.given (request : HttpRequest) : List (String × String) :=
  request.query ++ match request.body with
    | .json (.obj entries) => entries.filterMap fun e => e.2.asStr?.map fun text => (e.1, trim text)
    | _ => []

/-- The fields that an error about a request may name: those of the schemas, and those that the
request itself has in its body. -/
def HttpRequest.fields (request : HttpRequest) : List String :=
  ["job_id", "session_id", "step_id", "model_id", "range_id", ""] ++ match request.body with
    | .json (.obj entries) => entries.map (·.1)
    | .malformed position => [toString position]
    | _ => []

/-- A detail that tells nothing but what the request has said. -/
inductive Echoes (request : HttpRequest) : String × Value → Prop
  | given {name text : String} (h : (name, text) ∈ request.given) :
    Echoes request (name, .str text)
  | fields {names : List String} (h : ∀ name ∈ names, name ∈ request.fields) :
    Echoes request ("fields", .list (names.map .str))
  | status (statusCode : Nat) : Echoes request ("http_status", .int statusCode)

def Exc.Within (request : HttpRequest) : Exc → Prop
  | .domain error retryable => (∀ entry ∈ error.details, Echoes request entry) ∧
    (retryable = (errorSpecs error.code).retryable ∨ error.code = .rangeNotAvailable)
  | .validation fields => ∀ name ∈ fields, name ∈ request.fields
  | .http _ | .other _ => True

section

variable {request : HttpRequest} {α : Type}

theorem raises_lifts (result : Except PyExc α) : (lifted result).Raises (Exc.Within request) := by
  cases result with
  | ok a => exact .pure trivial
  | error x => exact .throw trivial

theorem raises_failed {code : ErrorCode} {details : Row}
    (h : ∀ entry ∈ details, Echoes request entry) :
    (fail code details : HttpTask α).Raises (Exc.Within request) := .throw ⟨h, .inl rfl⟩

/-- An error of the repository about parameters of the request. -/
theorem raises_called {given : List (String × String)} {p : ApiTask α} (h : p.Raises (Within given))
    (hgiven : ∀ entry ∈ given, entry ∈ request.given) :
    (called p).Raises (Exc.Within request) := by
  refine h.recast fun x hx => ?_
  cases x with
  | python x => trivial
  | domain error =>
    refine ⟨fun entry hentry => ?_, .inl rfl⟩
    rcases hx entry hentry with ⟨text, hmem, hvalue⟩ | rfl
    · have := Echoes.given (hgiven _ hmem)
      rwa [← hvalue] at this
    · have hfields : ∀ name ∈ ["session_id"], name ∈ request.fields := by
        intro name hname
        rw [List.mem_singleton.mp hname]
        exact List.mem_append_left _ (by simp)
      exact .fields hfields

/-- The parameters of an endpoint: those that are missing or invalid are reported. -/
theorem requiredIds_reads (request : HttpRequest) (names : List String) :
    (requiredIds request names).Yields
      (fun id => ∀ name ∈ names, requiredId request.query name = some (id name))
      fun x => ∃ fields, x = .validation fields ∧ fields ⊆ names := by
  unfold requiredIds
  dsimp only
  split
  · next hvalid =>
    refine .pure fun name hname => ?_
    have hsome := List.filter_eq_nil_iff.mp hvalid name hname
    rw [Option.isNone_iff_eq_none] at hsome
    obtain ⟨value, hread⟩ := Option.ne_none_iff_exists'.mp hsome
    rw [hread]
    rfl
  · exact .throw ⟨_, rfl, fun name hname => (List.mem_filter.mp hname).1⟩

/-- The parameters that an endpoint reads are the request's. -/
theorem requiredIds_given {names : List String}
    (hnames : ∀ name ∈ names, name ∈ ["job_id", "session_id", "step_id"]) :
    (requiredIds request names).Yields (fun id => ∀ name ∈ names, (name, id name) ∈ request.given)
      (Exc.Within request) := by
  refine (requiredIds_reads request names).mono (fun id hid name hname => ?_) fun x hx => ?_
  · obtain ⟨hlast, -⟩ := Option.filter_eq_some_iff.mp (hid name hname)
    obtain ⟨pair, hpair, hvalue⟩ := Option.map_eq_some_iff.mp hlast
    obtain ⟨hmem, hsame⟩ := List.mem_filter.mp (List.mem_of_getLast? hpair)
    have hsame : pair.1 = name := by simpa using hsame
    have heq : pair = (name, id name) := Prod.ext hsame hvalue
    exact List.mem_append_left _ (heq ▸ hmem)
  · obtain ⟨fields, rfl, hfields⟩ := hx
    intro name hname
    have hone := hnames name (hfields hname)
    simp only [List.mem_cons, List.not_mem_nil, or_false] at hone
    rcases hone with rfl | rfl | rfl <;> exact List.mem_append_left _ (by simp)

theorem nonBlank_given {entries : List (String × Json)} {name text : String}
    (hbody : request.body = .json (.obj entries)) (h : nonBlank entries name = some text) :
    (name, text) ∈ request.given := by
  obtain ⟨htext, -⟩ := Option.filter_eq_some_iff.mp h
  obtain ⟨raw, hraw, rfl⟩ := Option.map_eq_some_iff.mp htext
  obtain ⟨value, hvalue, hstr⟩ := Option.bind_eq_some_iff.mp hraw
  unfold HttpRequest.given
  rw [hbody]
  refine List.mem_append_right _
    (List.mem_filterMap.mpr ⟨(name, value), Landing.lookup_some_mem hvalue, ?_⟩)
  simp [hstr]

/-- The body of a new Job. -/
theorem readCreateJob_given :
    (readCreateJob request.body).Yields (fun ids => ("model_id", ids.1) ∈ request.given ∧
      ("range_id", ids.2) ∈ request.given) (Exc.Within request) := by
  have hblank : ∀ name ∈ [""], name ∈ request.fields := by
    intro name hname
    rw [List.mem_singleton.mp hname]
    exact List.mem_append_left _ (by simp)
  cases hbody : request.body with
  | missing => exact .throw hblank
  | raw => exact .throw hblank
  | undecodable => exact .throw trivial
  | malformed position =>
    refine .throw fun name hname => ?_
    rw [List.mem_singleton.mp hname, HttpRequest.fields, hbody]
    exact List.mem_append_right _ (by simp)
  | json document =>
    cases document with
    | null | bool | int | float | str | arr => exact .throw hblank
    | obj entries =>
      unfold readCreateJob
      dsimp only
      split
      · next hvalid =>
        have hread : ∀ name ∈ createJobFields, ∃ text, nonBlank entries name = some text := by
          intro name hname
          have hnone := List.filter_eq_nil_iff.mp (List.append_eq_nil_iff.mp hvalid).1 name hname
          rw [Option.isNone_iff_eq_none] at hnone
          exact Option.ne_none_iff_exists'.mp hnone
        obtain ⟨modelId, hmodel⟩ := hread "model_id" (by simp [createJobFields])
        obtain ⟨rangeId, hrange⟩ := hread "range_id" (by simp [createJobFields])
        refine .pure ⟨?_, ?_⟩
        · rw [hmodel]
          exact nonBlank_given hbody hmodel
        · rw [hrange]
          exact nonBlank_given hbody hrange
      · refine .throw fun name hname => ?_
        obtain ⟨part, hpart, rfl⟩ := List.mem_map.mp hname
        unfold fieldName
        split
        · exact hblank "" (by simp)
        · unfold HttpRequest.fields
          rw [hbody]
          rcases List.mem_append.mp hpart with h | h
          · have hfield := (List.mem_filter.mp h).1
            simp only [createJobFields, List.mem_cons, List.not_mem_nil, or_false] at hfield
            rcases hfield with rfl | rfl <;> exact List.mem_append_left _ (by simp)
          · exact List.mem_append_right _ (List.mem_filter.mp h).1

variable {app : Application} {ctx : RequestContext}

theorem raises_trusts (result : Except PyExc α) :
    (Application.trusted result).Raises (Exc.Within request) := by
  unfold Application.trusted
  split
  · exact raises_failed nofun
  · exact raises_lifts _

theorem Echoes.single {entry : String × Value} (h : Echoes request entry) :
    ∀ other ∈ [entry], Echoes request other :=
  List.forall_mem_singleton.mpr h

theorem raises_createsJob {modelId rangeId : String}
    (hmodel : ("model_id", modelId) ∈ request.given)
    (hrange : ("range_id", rangeId) ∈ request.given) :
    (app.createJob ctx modelId rangeId).Raises (Exc.Within request) := by
  unfold Application.createJob
  split
  · exact raises_failed (Echoes.given hmodel).single
  · dsimp only
    refine .check (raises_failed (Echoes.given hmodel).single) ?_
    refine ((raises_trusts _).map fun _ _ => trivial).seq fun range => ?_
    cases range with
    | none => exact raises_failed (Echoes.given hrange).single
    | some range =>
      refine .check (.throw ⟨(Echoes.given hrange).single, .inr rfl⟩) ?_
      exact raises_called (raises_createJob _ ctx modelId rangeId) fun _ h => h

/-- An endpoint about existing Jobs: its parameters, the call, and the response made of its
result. -/
theorem yields_endpoint {β : Type} {R : α → Prop} {names : List String}
    {p : (String → String) → ApiTask β} {f : β → HttpTask α}
    (hnames : ∀ name ∈ names, name ∈ ["job_id", "session_id", "step_id"])
    (hp : ∀ id given, (∀ name ∈ names, (name, id name) ∈ given) → (p id).Raises (Within given))
    (hf : ∀ b, (f b).Yields R (Exc.Within request)) :
    (do f (← called (p (← requiredIds request names)))).Yields R (Exc.Within request) :=
  (requiredIds_given hnames).bind fun id hid => (raises_called (hp id request.given hid)
    fun _ h => h).seq hf

/-- What a served request is told: 202 with the place of a Job that is still to be done, or 200. -/
def Accepted (e : Application.Endpoint) (response : HttpResponse) : Prop :=
  (response.statusCode = 200 ∧ lookup "Location" response.headers = none) ∨
    response.statusCode = 202 ∧ (e = .createJob ∨ e = .closeJob) ∧ ∃ jobId fields,
      response.body = .obj (("job_id", .str jobId) :: fields) ∧
      lookup "Location" response.headers = some (Application.location jobId)

theorem Accepted.ok {e : Application.Endpoint} {headers : List (String × String)} {body : Json}
    (h : lookup "Location" headers = none) : Accepted e (Application.response 200 headers body) :=
  .inl ⟨rfl, (lookup_cons _ _ _).trans h⟩

theorem Accepted.located {e : Application.Endpoint} {headers : List (String × String)}
    {jobId : String} {fields : List (String × Json)} (h : e = .createJob ∨ e = .closeJob) :
    Accepted e (Application.response 202 (("Location", Application.location jobId) :: headers)
      (.obj (("job_id", .str jobId) :: fields))) :=
  .inr ⟨rfl, h, jobId, fields, rfl, rfl⟩

theorem lookup_retryAfter (seconds : Option Int) :
    lookup "Location" (Application.retryAfter seconds) = none := by
  cases seconds <;> rfl

theorem yields_serve (e : Application.Endpoint) :
    (app.serve ctx request e).Yields (Accepted e) (Exc.Within request) := by
  cases e with
  | listModels => exact .pure (.ok rfl)
  | listRanges => exact ((raises_trusts _).seq fun _ => .pure trivial).seq fun _ => .pure (.ok rfl)
  | createJob =>
    refine readCreateJob_given.bind fun ids hids => ?_
    exact (raises_createsJob hids.1 hids.2).seq fun job => (raises_lifts _).seq fun _ =>
      .pure (.located (.inl rfl))
  | closeJob =>
    refine yields_endpoint (by simp) (fun id given hid => raises_closeJob _ ctx (hid _ (by simp)))
      fun result => (raises_lifts _).seq fun updatedAt => ?_
    dsimp only
    split
    · exact .pure (.located (.inr rfl))
    · exact .pure (.ok rfl)
  | listJobSessions =>
    exact yields_endpoint (by simp)
      (fun id given hid => raises_listSessions _ ctx (hid _ (by simp)))
      fun result => (raises_lifts _).seq fun _ => .pure (.ok (lookup_retryAfter _))
  | getSessionMilestones =>
    refine yields_endpoint (by simp) (fun id given hid => ?_)
      fun result => (raises_lifts _).seq fun _ =>
        .pure (.ok ((lookup_cons _ _ _).trans (lookup_retryAfter _)))
    exact (raises_getMilestones _ ctx (hid _ (by simp)) (hid _ (by simp))).seq
      fun _ => .pure trivial
  | getSessionResult =>
    exact yields_endpoint (by simp)
      (fun id given hid => raises_getResult _ ctx (hid _ (by simp)) (hid _ (by simp)))
      fun result => (raises_lifts _).seq fun _ => (raises_lifts _).seq fun _ =>
        (raises_lifts _).seq fun _ => .pure (.ok (lookup_retryAfter _))
  | getSessionSteps =>
    exact yields_endpoint (by simp)
      (fun id given hid => raises_getSteps _ ctx (hid _ (by simp)) (hid _ (by simp)))
      fun result => (raises_lifts _).seq fun _ => .pure (.ok rfl)
  | getStepTrajectory =>
    refine yields_endpoint (by simp) (fun id given hid => ?_)
      fun result => (raises_lifts _).seq fun _ => (raises_lifts _).seq fun _ =>
        (raises_lifts _).seq fun _ => (raises_lifts _).seq fun _ => .pure (.ok rfl)
    exact (raises_getTrajectory _ ctx (hid _ (by simp)) (hid _ (by simp)) (hid _ (by simp))).seq
      fun _ => .pure trivial

end

/-! ### The answers -/

/-- An error as the API reports it: the status and the message of its code, a `retryable` that only
the catalog of ranges may change, and details that the request has said. -/
def Refused (app : Application) (request : HttpRequest) (requestId : String)
    (response : HttpResponse) : Prop :=
  ∃ (code : ErrorCode) (statusCode : Nat) (details : Row) (retryable : Bool) (error : Json),
    app.errorBody (codeText code) (errorSpecs code).message details retryable = .ok error ∧
    response = Application.response statusCode []
      (.obj [("error", error), ("request_id", .str requestId)]) ∧
    (statusCode = (errorSpecs code).statusCode ∨
      code = .invalidRequest ∧ details = [("http_status", .int statusCode)]) ∧
    (retryable = (errorSpecs code).retryable ∨ code = .rangeNotAvailable) ∧
    ∀ entry ∈ details, Echoes request entry

/-- The answer of the outermost handler. -/
def internalError (requestId : String) : HttpResponse :=
  Application.response 500 [] (.obj [("error", .obj [("code", .str "INTERNAL_ERROR"),
    ("message", .str "An internal server error occurred."), ("details", .obj []),
    ("retryable", .bool true)]), ("request_id", .str requestId)])

section

variable (app : Application) {request : HttpRequest} (requestId : String)

theorem dumpAny_strs (names : List String) :
    (names.map Value.str).mapM app.dumpAny = .ok (names.map .str) := by
  induction names with
  | nil => rfl
  | cons name names ih =>
    rw [List.map_cons, List.mapM_cons, app.dumpAny_str, ih]
    rfl

/-- A detail that the request has said is JSON. -/
theorem Echoes.dumps {entry : String × Value} (h : Echoes request entry) :
    ∃ document, app.dumpAny entry.2 = .ok document := by
  cases h with
  | given _ => exact ⟨_, app.dumpAny_str _⟩
  | @fields names _ =>
    refine ⟨.arr (names.map .str), ?_⟩
    show app.dumpAny (.list (names.map .str)) = _
    rw [app.dumpAny_list, dumpAny_strs app]
    rfl
  | status _ => exact ⟨_, app.dumpAny_int _⟩

theorem dumpRow_echoes {details : Row} (h : ∀ entry ∈ details, Echoes request entry) :
    ∃ document, app.dumpRow details = .ok document := by
  have hentries : ∃ entries, (details.mapM fun entry => do
      return (entry.1, ← app.dumpAny entry.2) : Except PyExc (List (String × Json))) =
        .ok entries := by
    induction details with
    | nil => exact ⟨[], rfl⟩
    | cons entry details ih =>
      obtain ⟨document, hdocument⟩ := (h entry List.mem_cons_self).dumps app
      obtain ⟨entries, hentries⟩ := ih fun other hother => h other (List.mem_cons_of_mem _ hother)
      refine ⟨(entry.1, document) :: entries, ?_⟩
      rw [List.mapM_cons, hdocument, hentries]
      rfl
  obtain ⟨entries, hentries⟩ := hentries
  exact ⟨.obj entries, by rw [Application.dumpRow, hentries]; rfl⟩

theorem errorResponse_refused (code : ErrorCode) {statusCode : Nat} {details : Row}
    {retryable : Bool} (hstatus : statusCode = (errorSpecs code).statusCode ∨
      code = .invalidRequest ∧ details = [("http_status", .int statusCode)])
    (hretryable : retryable = (errorSpecs code).retryable ∨ code = .rangeNotAvailable)
    (h : ∀ entry ∈ details, Echoes request entry) :
    ∃ response, app.errorResponse requestId statusCode code (errorSpecs code).message details
      retryable = .ok response ∧ Refused app request requestId response := by
  obtain ⟨document, hdocument⟩ := dumpRow_echoes app h
  have herror : app.errorBody (codeText code) (errorSpecs code).message details retryable = .ok
      (.obj [("code", .str (codeText code)), ("message", .str (errorSpecs code).message),
        ("details", document), ("retryable", .bool retryable)]) := by
    rw [Application.errorBody, hdocument]
    rfl
  refine ⟨_, by rw [Application.errorResponse, herror]; rfl, code, statusCode, details, retryable,
    _, herror, rfl, hstatus, hretryable, h⟩

theorem handled_refused {x : Exc} (h : x.Within request) :
    (app.handled requestId x).Yields (Refused app request requestId)
      fun y => ∃ z, y = .other z := by
  cases x with
  | domain error retryable =>
    obtain ⟨response, heq, hrefused⟩ := errorResponse_refused app requestId error.code
      (.inl rfl) h.2 h.1
    unfold Application.handled
    dsimp only
    rw [heq]
    exact .pure hrefused
  | validation fields =>
    obtain ⟨response, heq, hrefused⟩ := errorResponse_refused app requestId .invalidRequest
      (.inl rfl) (.inl rfl) (Echoes.fields h).single
    unfold Application.handled
    dsimp only
    rw [heq]
    exact .pure hrefused
  | http statusCode =>
    obtain ⟨response, heq, hrefused⟩ := errorResponse_refused app requestId .invalidRequest
      (.inr ⟨rfl, rfl⟩) (.inl rfl) (@Echoes.status request statusCode).single
    unfold Application.handled
    dsimp only
    rw [heq]
    exact .pure hrefused
  | other x => exact .throw ⟨x, rfl⟩

variable {app requestId}

/-- What the application answers inside the middleware: what a route answers, what is no route's, or
an error. -/
def Answers (app : Application) (request : HttpRequest) (requestId : String)
    (response : HttpResponse) : Prop :=
  (∃ e, Application.endpoint request = some e ∧ Accepted e response) ∨
    (Application.endpoint request = none ∧
      app.unmatched request.method request.path = .ok response) ∨
    Refused app request requestId response

theorem answered_answers (username : String) :
    (app.answered requestId request username).Yields (Answers app request requestId)
      fun y => ∃ z, y = .other z := by
  refine .tryCatch (F := Exc.Within request) ?_ fun x hx => ?_
  · unfold Application.routed
    split
    · next e he =>
      exact (yields_serve e).mono (fun response h => .inl ⟨e, he, h⟩) fun _ h => h
    · next hnone =>
      split
      · next response hok => exact .pure (.inr (.inl ⟨hnone, hok⟩))
      · exact .throw trivial
  · exact (handled_refused app requestId hx).mono (fun response h => .inr (.inr h)) fun _ h => h

theorem unexpected_eq : app.unexpected requestId = pure (internalError requestId) := rfl

end

/-- What the authenticator comes to: it answers with the user whose key is presented, or raises at a
key beyond ASCII, which is no user's. -/
theorem authenticate_cases (config : AuthConfig) {headers : List String}
    (hlatin : ∀ header ∈ headers, IsLatin1 header) :
    ((∀ key, PresentsKey headers key → isAsciiText key = true) ∧
      ∃ answer, (BearerAuthenticator.fromConfig config).authenticate headers = .ok answer ∧
        ∀ username, answer = some username ↔ PresentsUser config headers username) ∨
    (∃ key, PresentsKey headers key ∧ isAsciiText key = false) ∧
      (BearerAuthenticator.fromConfig config).authenticate headers = .error .typeError ∧
      ∀ username, ¬ PresentsUser config headers username := by
  by_cases hpresents : ∃ key, PresentsKey headers key
  · obtain ⟨key, hkey⟩ := hpresents
    rw [authenticate_key _ hlatin hkey]
    cases hascii : isAsciiText key with
    | true =>
      refine .inl ⟨fun other hother => ?_, _,
        findUser_ascii hascii config.users config.uniqueApiKeys none, ?_⟩
      · rw [← hkey.unique hother]
        exact hascii
      · rw [Option.or_none]
        exact find_user hkey
    | false =>
      refine .inr ⟨⟨key, hkey, hascii⟩, findUser_beyond hascii none, ?_⟩
      rintro username ⟨user, -, -, h⟩
      rw [← h.unique hkey, user.isAsciiText_apiKey] at hascii
      cases hascii
  · refine .inl ⟨fun key h => absurd ⟨key, h⟩ hpresents, none,
      authenticate_none _ hlatin fun key h => hpresents ⟨key, h⟩, ?_⟩
    refine fun username => iff_of_false nofun ?_
    rintro ⟨user, -, -, h⟩
    exact hpresents ⟨_, h⟩

/-- What a client is told, whatever the store, the data platform and the files answer and whatever
runs between the calls: a response always; to a user what a route answers, or an error that says
nothing but the request, with the ID of the request in its headers; to anybody else, who does not
reach the application, that access is forbidden, or of a key beyond ASCII an internal error. -/
theorem clients_told (app : Application) (config : AuthConfig) (request : HttpRequest)
    (requestId : String) (hlatin : ∀ header ∈ request.authorization, IsLatin1 header) :
    (∀ username, PresentsUser config request.authorization username →
      (app.respondAs (.fromConfig config) request requestId).Yields (fun response =>
        (∃ answer, Answers app request requestId answer ∧ response = answer.tagged requestId) ∨
          response = internalError requestId) fun _ => False) ∧
    ((∀ username, ¬ PresentsUser config request.authorization username) →
      ((∀ key, PresentsKey request.authorization key → isAsciiText key = true) →
        app.respondAs (.fromConfig config) request requestId =
          pure ((forbiddenResponse requestId).tagged requestId)) ∧
      ((∃ key, PresentsKey request.authorization key ∧ isAsciiText key = false) →
        app.respondAs (.fromConfig config) request requestId =
          pure (internalError requestId))) := by
  rcases authenticate_cases config hlatin with
    ⟨hascii, answer, hauth, hanswer⟩ | ⟨⟨key, hkey, hbeyond⟩, hauth, hnobody⟩
  · constructor
    · intro username huser
      obtain rfl := (hanswer username).mpr huser
      refine .tryCatch (F := fun _ => True) ?_ fun x _ => ?_
      · unfold requestContext
        rw [hauth]
        exact ((answered_answers username).mono (fun _ h => h) fun _ _ => trivial).bind
          fun answer h => .pure (.inl ⟨answer, h, rfl⟩)
      · rw [unexpected_eq]
        exact .pure (.inr rfl)
    · intro hnobody
      obtain rfl : answer = none := Option.eq_none_iff_forall_ne_some.mpr fun username h =>
        hnobody username ((hanswer username).mp h)
      constructor
      · intro _
        unfold Application.respondAs requestContext
        rw [hauth]
        rfl
      · rintro ⟨key, hkey, hbeyond⟩
        rw [hascii key hkey] at hbeyond
        cases hbeyond
  · refine ⟨fun username huser => absurd huser (hnobody username), fun _ => ⟨fun hascii => ?_, ?_⟩⟩
    · rw [hascii key hkey] at hbeyond
      cases hbeyond
    · intro _
      unfold Application.respondAs requestContext
      rw [hauth]
      rfl

/-! A request to an application with one range. -/

mutual

/-- The JSON of numbers, texts and lists of them. -/
def plainDump : Value → Except PyExc Json
  | .int n => .ok (.int n)
  | .str text => .ok (.str text)
  | .list items => (plainDumps items).map .arr
  | _ => .error (.other "PydanticSerializationError")

def plainDumps : List Value → Except PyExc (List Json)
  | [] => .ok []
  | item :: items => do return (← plainDump item) :: (← plainDumps items)

end

theorem plainDumps_eq (items : List Value) : plainDumps items = items.mapM plainDump := by
  induction items with
  | nil => rfl
  | cons item items ih =>
    rw [plainDumps, ih, List.mapM_cons]

def sampleApplication : Application where
  catalog := sampleRepository.catalog
  describe _ := ("a range", false)
  service := ⟨sampleRepository⟩
  dumpAny := plainDump
  dumpAny_int _ := rfl
  dumpAny_str _ := rfl
  dumpAny_list items := by rw [plainDump, plainDumps_eq]
  unmatched _ _ := .error 404

/-- A request for the Sessions of a Job. -/
def sampleRequest : HttpRequest where
  method := "GET"
  target := "/v1/jobs/sessions?job_id=job_1".toList
  authorization := ["bEARER secret"]

theorem clients_told_alice :
    Application.endpoint sampleRequest = some .listJobSessions ∧
      (sampleApplication.respondAs (.fromConfig sampleAuth) sampleRequest "req_1").Yields
        (fun response => (∃ answer, Answers sampleApplication sampleRequest "req_1" answer ∧
          response = answer.tagged "req_1") ∨ response = internalError "req_1") fun _ => False := by
  have hlatin : ∀ header ∈ sampleRequest.authorization, IsLatin1 header :=
    List.forall_mem_singleton.mpr (List.all_iff_forall_prop.mp (by decide))
  have halice : PresentsUser sampleAuth sampleRequest.authorization "alice" :=
    ⟨_, List.mem_singleton.mpr rfl, rfl, "bEARER secret", "bEARER", rfl, by decide, by decide⟩
  exact ⟨by decide, (clients_told sampleApplication sampleAuth sampleRequest "req_1" hlatin).1 _
    halice⟩

end Api

end SafactoryServer
