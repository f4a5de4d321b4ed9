import SafactoryServer.Repository

/-! What answers the calls of one request: a control store of which some transactions may fail, and
a clock, a data platform and files that stay as they are.  `Request` and `Response` put the six
requests about an existing Job side by side. -/

namespace SafactoryServer

open Effect

/-- The contents of the control database. -/
structure ControlState where
  jobs : JobTable
  events : List JobEvent

/-- The transactions of the control store that a request makes. -/
inductive Transaction
  | read
  | insertJob
  | closeJob
  | insertEvent
deriving DecidableEq

/-- The surroundings of a request; `failing` gives the exception of a transaction that fails. -/
structure Backend where
  clock : Int
  newId : String → String
  python : Interpreter
  data : SdkClient
  files : String → String → String → String → SessionFile
  failing : Transaction → Option PyExc

namespace Backend

variable (b : Backend)

/-- A transaction that fails is rolled back: only the exception is left of it. -/
def transact {α : Type} (t : Transaction) (s : ControlState)
    (result : Except PyExc (α × ControlState)) : Except PyExc α × ControlState :=
  match b.failing t, result with
  | some x, _ => (.error x, s)
  | none, .error x => (.error x, s)
  | none, .ok (a, s') => (.ok a, s')

/-- The answer to a call, and the control database after it. -/
def answer : (e : ApiOp) → ControlState → ApiAns e × ControlState
  | .now, s => (b.clock, s)
  | .newId kind, s => (b.newId kind, s)
  | .getJob jobId, s => b.transact .read s (.ok (s.jobs.find jobId, s))
  | .addJob job, s => b.transact .insertJob s do
    let jobs ← s.jobs.add job
    return ((), { s with jobs := jobs })
  | .requestClose jobId now, s => b.transact .closeJob s do
    let (job, transitioned, jobs) ← s.jobs.requestClose jobId now
    return ((job, transitioned), { s with jobs := jobs })
  | .addEvent event, s => b.transact .insertEvent s do
    let events ← s.jobs.insertEvent s.events event
    return ((), { s with events := events })
  | .listSessionIds jobId, s => (b.data.listSessionIds jobId, s)
  | .getResult jobId sessionId, s => (b.data.getResult b.python jobId sessionId, s)
  | .getSteps jobId sessionId, s => (b.data.getSteps b.python jobId sessionId, s)
  | .getTrajectory jobId sessionId stepId, s =>
    (b.data.getTrajectory b.python jobId sessionId stepId, s)
  | .sessionFile resultLocalPath jobId sessionId name, s =>
    (b.files resultLocalPath jobId sessionId name, s)
  | .wakeOrchestrator, s => ((), s)

end Backend

namespace ApiTask

variable {σ α β : Type} {S : System ApiOp ApiAns σ} {s t : σ}

/-- A result that is at hand takes no step. -/
theorem exec_lift {result : Except PyExc α} {a : α}
    (h : Exec S (α := Except ApiExc α) (lift result) s (.ok a) t) : result = .ok a ∧ t = s := by
  cases result with
  | error x => cases h
  | ok b =>
    cases h
    exact ⟨rfl, rfl⟩

/-- A call whose answer may be an exception, and what follows it. -/
theorem exec_call {e : ApiOp} (answer : ApiAns e → Except PyExc α) {b : β} {f : α → ApiTask β}
    (h : Exec S (α := Except ApiExc β)
      ((Task.ask e >>= fun r => lift (answer r) : ApiTask α) >>= f : ApiTask β) s (.ok b) t) :
    ∃ r a s₁ s₂, S.Waits s s₁ ∧ S.performs e s₁ r s₂ ∧ answer r = .ok a ∧
      Exec S (f a) s₂ (.ok b) t := by
  obtain ⟨a, s₂, hcall, hrest⟩ := Exec.task_bind_inv h
  obtain ⟨r, s₁, s₃, hw, hperforms, hlift⟩ := Exec.ask_bind_inv hcall
  obtain ⟨hanswer, rfl⟩ := exec_lift hlift
  exact ⟨r, a, s₁, _, hw, hperforms, hanswer, hrest⟩

end ApiTask

/-- The `except` clauses of `close_job` raise. -/
theorem RealRuntimeRepository.closeFailed_exec {σ : Type} {S : System ApiOp ApiAns σ} {s t : σ}
    {jobId : String} {x : ApiExc} {job : ControlJob}
    (h : Exec S (α := Except ApiExc ControlJob) (closeFailed jobId x) s (.ok job) t) : False := by
  unfold closeFailed at h
  split at h
  · cases h
  · split at h <;> cases h
  · cases h

/-- A request about an existing Job. -/
inductive Request
  | closeJob (jobId : String)
  | listSessions (jobId : String)
  | getResult (jobId sessionId : String)
  | getMilestones (jobId sessionId : String)
  | getSteps (jobId sessionId : String)
  | getTrajectory (jobId sessionId stepId : String)

inductive Response
  | closed (result : CloseJobResult)
  | sessions (result : JobSessions)
  | result (result : SessionResult)
  | milestones (result : SessionMilestones)
  | steps (result : SessionSteps)
  | trajectory (result : StepTrajectory)

/-- The method of the repository that serves a request. -/
def RealRuntimeRepository.serve (repo : RealRuntimeRepository) (ctx : RequestContext) :
    Request → ApiTask Response
  | .closeJob jobId => Response.closed <$> repo.closeJob ctx jobId
  | .listSessions jobId => Response.sessions <$> repo.listSessions ctx jobId
  | .getResult jobId sessionId => Response.result <$> repo.getResult ctx jobId sessionId
  | .getMilestones jobId sessionId => Response.milestones <$> repo.getMilestones ctx jobId sessionId
  | .getSteps jobId sessionId => Response.steps <$> repo.getSteps ctx jobId sessionId
  | .getTrajectory jobId sessionId stepId =>
    Response.trajectory <$> repo.getTrajectory ctx jobId sessionId stepId

/-- The Job that a query of the data platform asks about. -/
def ApiOp.queriedJob : ApiOp → Option String
  | .listSessionIds jobId | .getResult jobId _ | .getSteps jobId _ | .getTrajectory jobId _ _ =>
    some jobId
  | _ => none

/-! A repository and surroundings for runs on concrete rows. -/

def sampleGroup : RangeGroupConfig :=
  { envName := "env", dataset := "dataset.jsonl", startConfig := "start.yaml"
    supportsMilestones := true, resultArtifact := some "summary.json" }

def sampleRepository : RealRuntimeRepository :=
  { catalog :=
      { ranges := .ok ⟨[{ rangeId := "range", agentConfig := "agent.yaml", groups := [sampleGroup]
                          uniqueGroups := by decide }], by decide⟩
        gatewayRoutes := [("model", .obj [("url", .str "http://m")])]
        checksum := fun _ => "sum" }
    unicode := plainPython.toUnicode
    gatewayImage := "gateway"
    safactoryImage := "safactory"
    retryAfterSeconds := 5 }

def missingFile : SessionFile :=
  { present := .ok false, symlink := .ok false, isFile := .ok false
    size := .error .fileNotFound, document := .error .fileNotFound }

def sampleBackend : Backend :=
  { clock := 0
    newId := fun kind => kind ++ "_1"
    python := plainPython
    data := .serving []
    files := fun _ _ _ _ => missingFile
    failing := fun _ => none }

end SafactoryServer
