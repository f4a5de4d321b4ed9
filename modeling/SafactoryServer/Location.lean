import SafactoryServer.Api
import SafactoryServer.Ownership

/-! What a client finds at the `Location` of an answer, after anything else that the server has done
since: the Sessions of the Job, and for another user no Job. -/

namespace SafactoryServer

open Effect
open Relation (ReflTransGen)

/-! ### The owner of a Job -/

/-- Each Job still has its owner. -/
def KeepsOwners (s s' : ControlState) : Prop :=
  ∀ jobId u, Owns u s.jobs jobId → Owns u s'.jobs jobId

section

variable {b : Backend} {s s' : ControlState} {u jobId : String} {row current : ControlJob}

theorem owns_iff {jobs : JobTable} :
    Owns u jobs jobId ↔ ∃ row, jobs.find jobId = some row ∧ row.ownerUsername = u := by
  constructor
  · rintro ⟨row, hrow, rfl, hu⟩
    exact ⟨row, JobTable.find_of_mem hrow, hu⟩
  · rintro ⟨row, hfind, hu⟩
    exact ⟨row, JobTable.find_mem hfind, JobTable.find_jobId hfind, hu⟩

theorem KeepsOwners.refl (s : ControlState) : KeepsOwners s s := fun _ _ h => h

theorem KeepsOwners.trans {s'' : ControlState} (h : KeepsOwners s s') (h' : KeepsOwners s' s'') :
    KeepsOwners s s'' := fun jobId u howns => h' jobId u (h jobId u howns)

/-- A row is written, where there was none or one of the same owner. -/
theorem KeepsOwners.written
    (hfind : ∀ i, s'.jobs.find i = if i = jobId then some row else s.jobs.find i)
    (howner : ∀ current, s.jobs.find jobId = some current →
      row.ownerUsername = current.ownerUsername) : KeepsOwners s s' := by
  intro i u howns
  rw [owns_iff] at howns ⊢
  obtain ⟨current, hcurrent, hu⟩ := howns
  rw [hfind i]
  split
  · next hi =>
    subst hi
    exact ⟨row, rfl, (howner current hcurrent).trans hu⟩
  · exact ⟨current, hcurrent, hu⟩

theorem transact_keeps {α : Type} {t : Transaction} {result : Except PyExc (α × ControlState)}
    (h : ∀ a s', result = .ok (a, s') → KeepsOwners s s') :
    KeepsOwners s (b.transact t s result).2 := by
  unfold Backend.transact
  split
  · exact .refl s
  · exact .refl s
  · exact h _ _ rfl

/-- No call of a request takes a Job from its owner. -/
theorem answer_keeps (b : Backend) (e : ApiOp) (s : ControlState) :
    KeepsOwners s (b.answer e s).2 := by
  cases e with
  | now | newId | listSessionIds | getResult | getSteps | getTrajectory | sessionFile
  | wakeOrchestrator => exact .refl s
  | getJob => exact transact_keeps fun _ _ h => by cases h; exact .refl s
  | addJob job =>
    refine transact_keeps fun _ s' h => ?_
    obtain ⟨jobs, hadd, h⟩ := bind_ok h
    cases h
    obtain ⟨hnone, hfind⟩ := JobTable.add_ok hadd
    exact .written hfind fun current hcurrent => by rw [hnone] at hcurrent; cases hcurrent
  | requestClose jobId now =>
    refine transact_keeps fun _ s' h => ?_
    obtain ⟨⟨row, transitioned, jobs⟩, hclose, h⟩ := bind_ok h
    cases h
    obtain ⟨current, hcurrent, rfl | ⟨-, hfind⟩⟩ := JobTable.requestClose_ok hclose
    · exact .refl s
    · exact .written hfind fun other hother => by
        rw [hcurrent] at hother
        cases hother
        rfl
  | addEvent event =>
    refine transact_keeps fun _ s' h => ?_
    obtain ⟨events, -, h⟩ := bind_ok h
    cases h
    exact .refl s

/-- Anything that the server may do after a request: a call of another one, whatever its
surroundings, or an update of the orchestrator. -/
inductive Since : ControlState → ControlState → Prop
  | call (b : Backend) (e : ApiOp) (s : ControlState) : Since s (b.answer e s).2
  | update {s : ControlState} {jobId : String} {now : Int} {changes : Changes} {row : ControlJob}
      {jobs : JobTable} : s.jobs.update jobId now changes = .ok (row, jobs) →
      Since s { s with jobs := jobs }

theorem Since.keeps (h : Since s s') : KeepsOwners s s' := by
  cases h with
  | call b e => exact answer_keeps b e s
  | update hupdate =>
    obtain ⟨current, allowed, hcurrent, -, rfl, hfind⟩ := JobTable.update_ok hupdate
    exact .written hfind fun other hother => by
      rw [hcurrent] at hother
      cases hother
      rfl

theorem since_keeps (h : ReflTransGen Since s s') : KeepsOwners s s' := by
  induction h with
  | refl => exact .refl s
  | tail _ hstep ih => exact ih.trans hstep.keeps

/-- The server as one request sees it: while the request waits for an answer, anything of `between`
may happen. -/
def Backend.amid (b : Backend) (between : ControlState → ControlState → Prop) :
    System ApiOp ApiAns ControlState where
  performs e s answer s' := b.answer e s = (answer, s')
  interferes := between
  crashes _ _ := False

/-- Nor does a whole request, or what happens while it waits. -/
theorem exec_keeps {between : ControlState → ControlState → Prop} {α : Type}
    {p : Program ApiOp ApiAns α} {a : α} (hbetween : ∀ s s', between s s' → Since s s')
    (h : Exec (b.amid between) p s a s') : KeepsOwners s s' := by
  refine Exec.keeps (S := b.amid between) KeepsOwners.refl KeepsOwners.trans
    (fun hw => since_keeps (ReflTransGen.mono hbetween _ _ hw)) (fun hperforms => ?_) h
  exact (congrArg (fun r => KeepsOwners _ r.2) hperforms).mp (answer_keeps b _ _)

end

/-! ### The Jobs that a command names -/

section

variable {b : Backend} {between : ControlState → ControlState → Prop} {s s' : ControlState}
  {u jobId : String} {ctx : RequestContext} {repo : RealRuntimeRepository}

/-- A transaction that returned has done what it does when it does not fail. -/
theorem transact_inv {α : Type} {t : Transaction} {result : Except PyExc (α × ControlState)} {a : α}
    (h : b.transact t s result = (.ok a, s')) : result = .ok (a, s') := by
  unfold Backend.transact at h
  split at h <;> cases h
  rfl

theorem addJob_owns {job : ControlJob} {a : Unit}
    (h : Exec (b.amid between) (α := Except ApiExc Unit) (ApiTask.addJob job) s (.ok a) s') :
    Owns job.ownerUsername s'.jobs job.jobId := by
  obtain ⟨answer, s₁, s₂, -, hanswer, hlift⟩ := Exec.ask_bind_inv h
  obtain ⟨rfl, rfl⟩ := ApiTask.exec_lift hlift
  obtain ⟨jobs, hadd, hjobs⟩ := bind_ok (transact_inv hanswer)
  cases hjobs
  rw [owns_iff]
  exact ⟨job, ((JobTable.add_ok hadd).2 _).trans (if_pos rfl), rfl⟩

theorem requireJob_owns {job : ControlJob} (hctx : ctx.username = some u)
    (h : Exec (b.amid between) (α := Except ApiExc ControlJob)
      (RealRuntimeRepository.requireJob ctx jobId) s (.ok job) s') : Owns u s'.jobs jobId := by
  obtain ⟨answer, found, s₁, s₂, -, hget, rfl, h⟩ := ApiTask.exec_call (e := .getJob _) id h
  cases transact_inv hget
  cases hfind : s₁.jobs.find jobId with
  | none =>
    rw [hfind] at h
    cases h
  | some row =>
    rw [hfind] at h
    by_cases hforeign : ctx.username.any (row.ownerUsername ≠ ·) = true
    · simp only [if_pos hforeign] at h
      cases h
    · simp only [if_neg hforeign] at h
      cases h
      refine owns_iff.mpr ⟨job, hfind, ?_⟩
      simpa [hctx] using hforeign

theorem requestClose_jobId {t jobs : JobTable} {now : Int} {row : ControlJob} {transitioned : Bool}
    (h : t.requestClose jobId now = .ok (row, transitioned, jobs)) : row.jobId = jobId := by
  obtain ⟨current, hfind, -⟩ := JobTable.requestClose_ok h
  rw [JobTable.requestClose_eq hfind] at h
  split at h
  · cases h
    exact (closeChanges.write_jobId current now).trans (JobTable.find_jobId hfind)
  · cases h
    exact JobTable.find_jobId hfind

/-- A created Job is its creator's. -/
theorem createJob_owns (hbetween : ∀ s s', between s s' → Since s s') {modelId rangeId : String}
    {job : CreatedJob} (hu : RealRuntimeRepository.requestedBy ctx = u)
    (h : Exec (b.amid between) (α := Except ApiExc CreatedJob)
      (repo.createJob ctx modelId rangeId) s (.ok job) s') :
    job.jobId = b.newId "job" ∧ Owns u s'.jobs job.jobId := by
  obtain ⟨model, s₁, -, h⟩ := Exec.task_bind_inv h
  obtain ⟨config, s₂, -, h⟩ := Exec.task_bind_inv h
  cases model with
  | none => cases h
  | some model =>
    cases config with
    | none => cases h
    | some config =>
      obtain ⟨id, s₃, s₄, -, hid, h⟩ := Exec.ask_bind_inv h
      cases hid
      obtain ⟨createdAt, s₅, s₆, -, -, h⟩ := Exec.ask_bind_inv h
      obtain ⟨_, s₇, hadd, h⟩ := Exec.task_bind_inv h
      have howns := exec_keeps hbetween h _ _ (addJob_owns hadd)
      obtain ⟨_, s₈, -, h⟩ := Exec.task_bind_inv h
      obtain ⟨_, s₉, -, h⟩ := Exec.task_bind_inv h
      cases h
      exact ⟨rfl, hu ▸ howns⟩

theorem closeRow_owns (hbetween : ∀ s s', between s s' → Since s s') {now : Int} {job : ControlJob}
    (hctx : ctx.username = some u)
    (h : Exec (b.amid between) (α := Except ApiExc ControlJob) (repo.closeRow ctx jobId now) s
      (.ok job) s') : job.jobId = jobId ∧ Owns u s'.jobs jobId := by
  obtain ⟨_, s₁, hrequire, h⟩ := Exec.task_bind_inv h
  have howns := exec_keeps hbetween h _ _ (requireJob_owns hctx hrequire)
  obtain ⟨answer, ⟨row, transitioned⟩, s₂, s₃, -, hclose, rfl, h⟩ :=
    ApiTask.exec_call (e := .requestClose _ _) id h
  obtain ⟨⟨row', transitioned', jobs⟩, hrequest, hjobs⟩ := bind_ok (transact_inv hclose)
  cases hjobs
  refine ⟨?_, howns⟩
  cases transitioned with
  | false =>
    cases h
    exact requestClose_jobId hrequest
  | true =>
    obtain ⟨_, _, _, _, -, -, -, h⟩ := ApiTask.exec_call (e := .addEvent _) id h
    cases h
    exact requestClose_jobId hrequest

theorem reportClose_jobId {job : ControlJob} {result : CloseJobResult}
    (h : Exec (b.amid between) (α := Except ApiExc CloseJobResult) (repo.reportClose job) s
      (.ok result) s') : result.jobId = job.jobId := by
  unfold RealRuntimeRepository.reportClose at h
  by_cases hclosing : job.status = .closing
  · simp only [if_pos hclosing] at h
    obtain ⟨_, _, _, -, -, h⟩ := Exec.ask_bind_inv h
    cases h
    rfl
  · simp only [if_neg hclosing] at h
    cases h
    rfl

/-- A Job that a user closes is the user's. -/
theorem closeJob_owns (hbetween : ∀ s s', between s s' → Since s s') {result : CloseJobResult}
    (hctx : ctx.username = some u)
    (h : Exec (b.amid between) (α := Except ApiExc CloseJobResult) (repo.closeJob ctx jobId) s
      (.ok result) s') : result.jobId = jobId ∧ Owns u s'.jobs jobId := by
  obtain ⟨now, s₁, s₂, -, -, h⟩ := Exec.ask_bind_inv h
  obtain ⟨job, s₃, hclose, hreport⟩ := Exec.task_bind_inv h
  rcases Exec.tryCatch_inv hclose with ⟨_, heq, hrow⟩ | ⟨x, s₄, -, hfailed⟩
  · cases heq
    obtain ⟨hid, howns⟩ := closeRow_owns hbetween hctx hrow
    exact ⟨(reportClose_jobId hreport).trans hid, exec_keeps hbetween hreport _ _ howns⟩
  · exact (RealRuntimeRepository.closeFailed_exec hfailed).elim

end

/-! ### The place of a Job -/

namespace Api

/-- A text with a character that is no white space. -/
def Filled (text : String) : Prop := text.toList.any (fun c => !isWhiteSpace c) = true

/-- A request for what is at a `Location`. -/
structure Follows (location : String) (request : HttpRequest) : Prop where
  method : request.method = "GET"
  target : request.target = location.toList

/-- `list_job_sessions` has found this row and these Sessions. -/
def ShowsSessions (row : ControlJob) (sessionIds : List String) (response : HttpResponse) : Prop :=
  response.statusCode = 200 ∧ ∃ error, response.body = .obj ([("job_id", .str row.jobId),
    ("job_status", .str (Application.jobStatusText row.status)),
    ("session_ids", .arr (sessionIds.map .str))] ++ error)

/-- No Job is shown. -/
def jobNotFound (jobId requestId : String) : HttpResponse :=
  Application.response 404 [] (.obj [("error", .obj [("code", .str "JOB_NOT_FOUND"),
    ("message", .str "The specified job does not exist."),
    ("details", .obj [("job_id", .str jobId)]), ("retryable", .bool false)]),
    ("request_id", .str requestId)])

section

variable {app : Application} {ctx : RequestContext} {b : Backend}
  {between : ControlState → ControlState → Prop} {s s' : ControlState}
  {u jobId requestId : String} {request : HttpRequest} {location : String}

theorem query_jobId (value : List Char) : Percent.query [("job_id".toList, value)] =
    "job_id".toList ++ '=' :: Percent.quote value := by
  have hname : Percent.quote "job_id".toList = "job_id".toList := by decide
  rw [Percent.query, List.map_singleton, List.intercalate_singleton, Percent.quotePair]
  dsimp only
  rw [hname]

theorem location_chars (rest : List Char) : "/v1/jobs/sessions?job_id=".toList ++ rest =
    "/v1/jobs/sessions".toList ++ '?' :: ("job_id".toList ++ '=' :: rest) := by
  have hchars : "/v1/jobs/sessions?job_id=".toList =
      "/v1/jobs/sessions".toList ++ '?' :: ("job_id".toList ++ ['=']) := by decide
  rw [hchars, List.append_assoc, List.cons_append, List.append_assoc, List.singleton_append]

theorem path_chars : ∀ c ∈ "/v1/jobs/sessions".toList, decide (c ≠ '?') = true :=
  List.all_eq_true.mp (by decide)

theorem location_toList (jobId : String) : (Application.location jobId).toList =
    "/v1/jobs/sessions".toList ++ '?' :: Percent.query [("job_id".toList, jobId.toList)] := by
  unfold Application.location
  refine (String.toList_append ..).trans ((congrArg _ String.toList_ofList).trans ?_)
  exact (location_chars _).trans (congrArg _ (congrArg _ (query_jobId _).symm))

theorem Follows.path (h : Follows (Application.location jobId) request) :
    request.path = "/v1/jobs/sessions" := by
  rw [HttpRequest.path, h.target, location_toList, List.takeWhile_append_of_pos path_chars,
    List.takeWhile_cons_of_neg (by decide), List.append_nil]
  decide

theorem Follows.query (h : Follows (Application.location jobId) request) :
    request.query = [("job_id", jobId)] := by
  rw [HttpRequest.query, h.target, location_toList, List.dropWhile_append_of_pos path_chars]
  show (Percent.parseQsl (Percent.query _)).map _ = _
  rw [Percent.parseQsl_query]
  simp

theorem Follows.endpoint (h : Follows (Application.location jobId) request) :
    Application.endpoint request = some .listJobSessions := by
  rw [Application.endpoint, h.method, h.path]
  decide

theorem Follows.routed (h : Follows (Application.location jobId) request) :
    app.routed ctx request = app.getSessions ctx request := by
  unfold Application.routed
  rw [h.endpoint]
  rfl

/-- The Job of the place is the one that is asked for. -/
theorem Follows.requiredId (h : Follows (Application.location jobId) request)
    (hfilled : Filled jobId) : requiredId request.query "job_id" = some jobId := by
  rw [Api.requiredId, h.query]
  simpa [Filled] using hfilled

theorem Follows.requiredIds (h : Follows (Application.location jobId) request)
    (hfilled : Filled jobId) :
    ∃ id, Api.requiredIds request ["job_id"] = pure id ∧ id "job_id" = jobId := by
  have hread := h.requiredId hfilled
  have hvalid : ["job_id"].filter (fun name => (Api.requiredId request.query name).isNone) =
      [] := by
    rw [List.filter_eq_nil_iff]
    intro name hname
    rw [List.mem_singleton.mp hname, hread]
    exact Bool.false_ne_true
  refine ⟨fun name => (Api.requiredId request.query name).getD "", if_pos hvalid, ?_⟩
  exact congrArg (·.getD "") hread

/-! ### What is found there -/

variable {row : ControlJob} {sessionIds : List String}

theorem failure_ok (app : Application) (info : Option FailureInfo)
    (h : ∀ failure ∈ info, failure.details = []) :
    ∃ error, app.failure info = .ok error := by
  cases info with
  | none => exact ⟨[], rfl⟩
  | some failure =>
    obtain ⟨code, message, details, retryable⟩ := failure
    obtain rfl : details = [] := h _ rfl
    exact ⟨_, rfl⟩

/-- A contract that neither assumes nor promises anything. -/
def freely : Contract ApiOp ControlState where
  inv _ := True
  idle _ := True
  allowed _ _ := True

/-- What a task comes to from `s` on, whatever happens while it waits. -/
abbrev ComesTo {ε α : Type} (b : Backend) (between : ControlState → ControlState → Prop)
    (p : Task ApiOp ApiAns ε α) (Q : α → ControlState → Prop) (E : ε → ControlState → Prop)
    (s : ControlState) : Prop :=
  p.Safe (b.amid between) freely Q E s

/-- A task that comes to no exception has returned. -/
theorem ComesTo.returned {ε α : Type} {p : Task ApiOp ApiAns ε α} {Q : α → ControlState → Prop}
    {result : Except ε α} {t : ControlState} (h : ComesTo b between p Q (fun _ _ => False) s)
    (hexec : Exec (b.amid between) p s result t) : ∃ a, result = .ok a ∧ Q a t := by
  have hends : Task.Ends Q (fun _ _ => False) result t := h.exec (fun _ => trivial) hexec
  cases result with
  | ok a => exact ⟨a, rfl, hends⟩
  | error x => exact hends.elim

theorem getJob_comesTo (hread : b.failing .read = none) :
    ComesTo b between (ApiTask.getJob jobId)
      (fun found t => ReflTransGen between s t ∧ found = t.jobs.find jobId) (fun _ _ => False)
      s := by
  refine Task.Safe.bind (R := fun answer t => ReflTransGen between s t ∧
    answer = .ok (t.jobs.find jobId)) (F := fun _ _ => False) (Task.Safe.ask trivial ?_)
    (fun answer t h => ?_) fun _ _ h => h
  · intro s₁ hw _ answer s₂ hperforms _
    obtain ⟨rfl, rfl⟩ := Prod.mk.inj ((Backend.transact_ok hread).symm.trans hperforms)
    exact ⟨hw, rfl⟩
  · obtain ⟨hw, rfl⟩ := h
    exact .pure ⟨hw, rfl⟩

/-- The owner's Job is found, as it then is. -/
theorem requireJob_finds (hbetween : ∀ s s', between s s' → Since s s')
    (hread : b.failing .read = none) (howns : Owns u s.jobs jobId)
    (hctx : ctx.username = some u) :
    ComesTo b between (RealRuntimeRepository.requireJob ctx jobId)
      (fun row t => ReflTransGen between s t ∧ t.jobs.find jobId = some row) (fun _ _ => False)
      s := by
  refine Task.Safe.bind (getJob_comesTo hread) (fun found t h => ?_) fun _ _ h => h
  obtain ⟨hw, rfl⟩ := h
  have hkept := since_keeps (ReflTransGen.mono hbetween _ _ hw) _ _ howns
  obtain ⟨row, hfind, hrow⟩ := owns_iff.mp hkept
  have hown : ¬ ctx.username.any (row.ownerUsername ≠ ·) = true := by simp [hctx, hrow]
  rw [hfind]
  simp only [if_neg hown]
  exact .pure ⟨hw, hfind⟩

/-- Another user's is not. -/
theorem requireJob_hides (hbetween : ∀ s s', between s s' → Since s s')
    (hread : b.failing .read = none) (howns : Owns u s.jobs jobId) {v : String} (hne : v ≠ u)
    (hctx : ctx.username = some v) :
    ComesTo b between (RealRuntimeRepository.requireJob ctx jobId) (fun _ _ => False)
      (fun x _ => x = .domain { code := .jobNotFound, details := [("job_id", .str jobId)] }) s := by
  refine Task.Safe.bind (getJob_comesTo hread) (fun found t h => ?_) fun _ _ h => h.elim
  obtain ⟨hw, rfl⟩ := h
  have hkept := since_keeps (ReflTransGen.mono hbetween _ _ hw) _ _ howns
  obtain ⟨row, hfind, hrow⟩ := owns_iff.mp hkept
  have hforeign : ctx.username.any (row.ownerUsername ≠ ·) = true := by
    simp [hctx, hrow, hne.symm]
  rw [hfind]
  simp only [if_pos hforeign]
  exact .throw rfl

/-- The Job as it was at some time since `s`. -/
def Found (between : ControlState → ControlState → Prop) (s : ControlState) (jobId : String)
    (row : ControlJob) : Prop :=
  ∃ t, ReflTransGen between s t ∧ t.jobs.find jobId = some row

theorem listSessions_shows {repo : RealRuntimeRepository}
    (hbetween : ∀ s s', between s s' → Since s s') (hread : b.failing .read = none)
    (howns : Owns u s.jobs jobId) (hctx : ctx.username = some u)
    (hids : b.data.listSessionIds jobId = .ok sessionIds) :
    ComesTo b between (repo.listSessions ctx jobId)
      (fun result _ => ∃ row, Found between s jobId row ∧ result.jobId = jobId ∧
        result.jobStatus = row.status ∧ result.sessionIds = sessionIds ∧
        ∀ failure ∈ result.error, failure.details = []) (fun _ _ => False) s := by
  refine Task.Safe.bind (requireJob_finds hbetween hread howns hctx) (fun row t hrow => ?_)
    fun _ _ h => h
  refine Task.Safe.bind (R := fun answer _ => answer = .ok sessionIds) (F := fun _ _ => False)
    (Task.Safe.ask trivial fun _ _ _ answer _ hperforms _ =>
      (Prod.mk.inj hperforms).1.symm.trans hids) (fun answer t' hanswer => ?_) fun _ _ h => h
  subst hanswer
  refine .pure_bind (.pure ⟨row, ⟨t, hrow⟩, rfl, rfl, rfl, fun failure hfailure => ?_⟩)
  by_cases hfailed : row.status = .failed
  · rw [if_pos hfailed] at hfailure
    cases hfailure
    rfl
  · rw [if_neg hfailed] at hfailure
    cases hfailure

/-- The owner is shown the Sessions. -/
theorem getSessions_shows (app : Application) (ctx : RequestContext)
    (hbetween : ∀ s s', between s s' → Since s s')
    (h : Follows (Application.location jobId) request)
    (hfilled : Filled jobId) (hread : b.failing .read = none) (howns : Owns u s.jobs jobId)
    (hctx : ctx.username = some u) (hids : b.data.listSessionIds jobId = .ok sessionIds) :
    ComesTo b between (app.getSessions ctx request)
      (fun response _ => ∃ row, Found between s jobId row ∧ ShowsSessions row sessionIds response)
      (fun _ _ => False) s := by
  obtain ⟨id, hid, rfl⟩ := h.requiredIds hfilled
  unfold Application.getSessions
  rw [hid]
  refine .pure_bind (.bind (.recast (listSessions_shows hbetween hread howns hctx hids))
    (fun result t hresult => ?_) fun _ _ h => h)
  obtain ⟨row, ⟨t', hw, hfind⟩, hjob, hstatus, hshown, hdetails⟩ := hresult
  obtain ⟨error, herror⟩ := failure_ok app result.error hdetails
  rw [herror]
  refine .pure_bind (.pure ⟨row, ⟨t', hw, hfind⟩, rfl, error, ?_⟩)
  rw [JobTable.find_jobId hfind, hjob, hstatus, hshown]
  rfl

/-- Another user is told that there is no such Job. -/
theorem getSessions_refuses (app : Application) (ctx : RequestContext)
    (hbetween : ∀ s s', between s s' → Since s s')
    (h : Follows (Application.location jobId) request)
    (hfilled : Filled jobId) (hread : b.failing .read = none) (howns : Owns u s.jobs jobId)
    {v : String} (hne : v ≠ u) (hctx : ctx.username = some v) :
    ComesTo b between (app.getSessions ctx request) (fun _ _ => False)
      (fun x _ => x =
        .ofApi (.domain { code := .jobNotFound, details := [("job_id", .str jobId)] })) s := by
  obtain ⟨id, hid, rfl⟩ := h.requiredIds hfilled
  have hrequire := requireJob_hides hbetween hread howns hne hctx
  have hlist : ComesTo b between (app.service.runtime.listSessions ctx (id "job_id"))
      (fun _ _ => False) (fun x _ => Exc.ofApi x =
        .ofApi (.domain { code := .jobNotFound, details := [("job_id", .str (id "job_id"))] })) s :=
    Task.Safe.bind hrequire (fun _ _ h => h.elim) fun _ _ h => congrArg Exc.ofApi h
  unfold Application.getSessions
  rw [hid]
  exact .pure_bind (.bind hlist.recast (fun _ _ h => h.elim) fun _ _ h => h)

/-! ### Around a route -/

theorem tagged_location (requestId : String) (response : HttpResponse) :
    lookup "Location" (response.tagged requestId).headers = lookup "Location" response.headers := by
  have hId : lookup "Location" (Landing.assign "X-Request-ID" requestId response.headers) =
      lookup "Location" response.headers := Landing.lookup_assign_of_ne (by decide)
  unfold HttpResponse.tagged
  dsimp only
  split
  · exact (Landing.lookup_assign_of_ne (by decide)).trans hId
  · exact hId

theorem lifted_inv {α : Type} {result : Except PyExc α} {a : α}
    (h : Exec (b.amid between) (α := Except Exc α) (lifted result) s (.ok a) s') :
    result = .ok a := by
  cases result with
  | ok a' => cases h; rfl
  | error x => cases h

theorem errorResponse_location {code : ErrorCode} {statusCode : Nat} {message : String}
    {details : Row} {retryable : Bool} {response : HttpResponse}
    (h : app.errorResponse requestId statusCode code message details retryable = .ok response) :
    lookup "Location" response.headers = none := by
  obtain ⟨error, -, h⟩ := bind_ok h
  cases h
  rfl

/-- The answers of the handlers have no `Location`. -/
theorem handled_location {x : Exc} {response : HttpResponse}
    (h : Exec (b.amid between) (α := Except Exc HttpResponse) (app.handled requestId x) s
      (.ok response) s') : lookup "Location" response.headers = none := by
  cases x with
  | domain | validation | http => exact errorResponse_location (lifted_inv h)
  | other => cases h

variable {authenticator : BearerAuthenticator}

theorem requestContext_eq
    (hauth : authenticator.authenticate request.authorization = .ok (some u)) :
    requestContext authenticator requestId (app.answered requestId request)
        request.authorization =
      (do return (← app.answered requestId request u).tagged requestId) := by
  unfold requestContext
  rw [hauth]
  rfl

/-- A response with a `Location` is that of the route. -/
theorem respondAs_inv {e : Application.Endpoint} {response : HttpResponse}
    (hauth : authenticator.authenticate request.authorization = .ok (some u))
    (he : Application.endpoint request = some e)
    (h : Exec (b.amid between) (α := Except Exc HttpResponse)
      (app.respondAs authenticator request requestId) s (.ok response) s')
    (hlocation : lookup "Location" response.headers = some location) :
    ∃ answer : HttpResponse, response = answer.tagged requestId ∧
      Exec (b.amid between) (α := Except Exc HttpResponse)
        (app.serve { username := some u, requestId := some requestId } request e) s (.ok answer)
        s' ∧ lookup "Location" answer.headers = some location := by
  rcases Exec.tryCatch_inv h with ⟨_, heq, h⟩ | ⟨x, t, -, h⟩
  · cases heq
    rw [requestContext_eq hauth] at h
    obtain ⟨answer, t, hanswered, h⟩ := Exec.task_bind_inv h
    cases h
    rw [tagged_location] at hlocation
    rcases Exec.tryCatch_inv hanswered with ⟨_, heq, hserved⟩ | ⟨x, t, -, hhandled⟩
    · cases heq
      unfold Application.routed at hserved
      rw [he] at hserved
      exact ⟨answer, rfl, hserved, hlocation⟩
    · rw [handled_location hhandled] at hlocation
      cases hlocation
  · rw [unexpected_eq] at h
    cases h
    cases hlocation

/-- The new Job of an application is one of its repository. -/
theorem createJob_inv {modelId rangeId : String} {job : CreatedJob}
    (h : Exec (b.amid between) (α := Except Exc CreatedJob) (app.createJob ctx modelId rangeId) s
      (.ok job) s') :
    ∃ t, Exec (b.amid between) (α := Except ApiExc CreatedJob)
      (app.service.runtime.createJob ctx modelId rangeId) t (.ok job) s' := by
  unfold Application.createJob at h
  split at h
  · cases h
  · next model hmodel =>
    dsimp only at h
    split at h
    · cases h
    · obtain ⟨range, t, -, h⟩ := Exec.task_bind_inv h
      cases range with
      | none => cases h
      | some range =>
        dsimp only at h
        split at h
        · cases h
        · exact ⟨t, Exec.recast_inv h⟩

/-- The `Location` of a route is that of the Job in its answer, which is the user's. -/
theorem serve_located (hbetween : ∀ s s', between s s' → Since s s') {e : Application.Endpoint}
    {response : HttpResponse} (hctx : ctx.username = some u)
    (hu : RealRuntimeRepository.requestedBy ctx = u) (hfilled : Filled (b.newId "job"))
    (h : Exec (b.amid between) (α := Except Exc HttpResponse) (app.serve ctx request e) s
      (.ok response) s')
    (hlocation : lookup "Location" response.headers = some location) :
    ∃ jobId fields, response.body = .obj (("job_id", .str jobId) :: fields) ∧
      location = Application.location jobId ∧ Filled jobId ∧ Owns u s'.jobs jobId := by
  rcases (yields_serve e).exec h with ⟨-, hnone⟩ | ⟨-, he, jobId, fields, hbody, hplace⟩
  · rw [hnone] at hlocation
    cases hlocation
  · rw [hplace, Option.some.injEq] at hlocation
    refine ⟨jobId, fields, hbody, hlocation.symm, ?_⟩
    rcases he with rfl | rfl
    · obtain ⟨ids, s₁, -, h⟩ := Exec.task_bind_inv h
      obtain ⟨job, s₂, hcreate, h⟩ := Exec.task_bind_inv h
      obtain ⟨t, hcreate⟩ := createJob_inv hcreate
      obtain ⟨hid, howns⟩ := createJob_owns hbetween hu hcreate
      obtain ⟨createdAt, s₃, hutc, h⟩ := Exec.task_bind_inv h
      cases h
      cases hbody
      exact ⟨hid ▸ hfilled, exec_keeps hbetween hutc _ _ howns⟩
    · obtain ⟨id, s₁, hids, h⟩ := Exec.task_bind_inv h
      have hread := (requiredIds_reads request ["job_id"]).exec hids
      have hgiven : Filled (id "job_id") :=
        (Option.filter_eq_some_iff.mp (hread "job_id" (by simp))).2
      obtain ⟨result, s₂, hclose, h⟩ := Exec.task_bind_inv h
      obtain ⟨hid, howns⟩ := closeJob_owns hbetween hctx (Exec.recast_inv hclose)
      obtain ⟨updatedAt, s₃, hutc, h⟩ := Exec.task_bind_inv h
      have hkept := exec_keeps hbetween hutc _ _ howns
      dsimp only at h
      split at h
      · cases h
        cases hbody
        exact ⟨hid ▸ hgiven, hid ▸ hkept⟩
      · cases h
        cases hplace

/-! ### At the place -/

theorem authenticate_user {config : AuthConfig} {headers : List String}
    (hlatin : ∀ header ∈ headers, IsLatin1 header) (huser : PresentsUser config headers u) :
    (BearerAuthenticator.fromConfig config).authenticate headers = .ok (some u) := by
  rcases authenticate_cases config hlatin with ⟨-, answer, h, hanswer⟩ | ⟨-, -, hnobody⟩
  · rw [h, (hanswer u).mpr huser]
  · exact absurd huser (hnobody u)

theorem requestedBy_user {config : AuthConfig} {headers : List String}
    (huser : PresentsUser config headers u) (hctx : ctx.username = some u) :
    RealRuntimeRepository.requestedBy ctx = u := by
  obtain ⟨user, -, rfl, -⟩ := huser
  have hne : user.username ≠ "" := by
    intro hempty
    have hvalid := user.usernameValid
    rw [hempty] at hvalid
    cases hvalid
  rw [RealRuntimeRepository.requestedBy, hctx, Option.filter_some, if_pos (by simpa using hne)]
  rfl

/-- A request of a user comes to what its route does, with its id. -/
theorem respondAs_comesTo {answered : HttpResponse → Prop}
    (hauth : authenticator.authenticate request.authorization = .ok (some u))
    (h : ComesTo b between (app.answered requestId request u) (fun answer _ => answered answer)
      (fun _ _ => False) s) :
    ComesTo b between (app.respondAs authenticator request requestId)
      (fun response _ => ∃ answer, answered answer ∧ response = answer.tagged requestId)
      (fun _ _ => False) s := by
  refine Task.Safe.tryCatch (F := fun _ _ => False) ?_ fun _ _ h => False.elim h
  rw [requestContext_eq hauth]
  exact Task.Safe.bind h (fun answer _ hanswer => .pure ⟨answer, hanswer, rfl⟩) fun _ _ h => h

theorem answered_shows (app : Application) (requestId : String)
    (hbetween : ∀ s s', between s s' → Since s s')
    (h : Follows (Application.location jobId) request) (hfilled : Filled jobId)
    (hread : b.failing .read = none) (howns : Owns u s.jobs jobId)
    (hids : b.data.listSessionIds jobId = .ok sessionIds) :
    ComesTo b between (app.answered requestId request u)
      (fun answer _ => ∃ row, Found between s jobId row ∧ ShowsSessions row sessionIds answer)
      (fun _ _ => False) s := by
  have hshows := getSessions_shows app { username := some u, requestId := some requestId }
    hbetween h hfilled hread howns rfl hids
  rw [← h.routed] at hshows
  exact Task.Safe.tryCatch hshows fun _ _ h => False.elim h

theorem errorResponse_jobNotFound (app : Application) (jobId requestId : String) :
    app.errorResponse requestId 404 .jobNotFound (errorSpecs .jobNotFound).message
      [("job_id", .str jobId)] false = .ok (jobNotFound jobId requestId) := by
  have hdetails : app.dumpRow [("job_id", .str jobId)] = .ok (.obj [("job_id", .str jobId)]) := by
    rw [Application.dumpRow, List.mapM_cons, app.dumpAny_str]
    rfl
  rw [Application.errorResponse, Application.errorBody, hdetails]
  rfl

theorem answered_refuses (app : Application) (requestId : String)
    (hbetween : ∀ s s', between s s' → Since s s')
    (h : Follows (Application.location jobId) request) (hfilled : Filled jobId)
    (hread : b.failing .read = none) (howns : Owns u s.jobs jobId) {v : String} (hne : v ≠ u) :
    ComesTo b between (app.answered requestId request v)
      (fun answer _ => answer = jobNotFound jobId requestId) (fun _ _ => False) s := by
  have hrefuses := getSessions_refuses app { username := some v, requestId := some requestId }
    hbetween h hfilled hread howns hne rfl
  rw [← h.routed] at hrefuses
  refine Task.Safe.tryCatch (hrefuses.mono (fun _ _ h => False.elim h) fun _ _ h => h) ?_
  rintro x t rfl
  show ComesTo b between (lifted (app.errorResponse requestId 404 .jobNotFound
    (errorSpecs .jobNotFound).message [("job_id", .str jobId)] false)) _ _ t
  rw [errorResponse_jobNotFound]
  exact .pure rfl

end

/-- What is at the `Location` of an answer.  The answer names the Job; and whatever the server has
done since, a request for that place shows the user the Sessions of the Job, and tells any other
user that there is no such Job.  Other requests and the orchestrator do not wait for either request
to end: each of its calls finds what they have done by then. -/
theorem location_followed (app : Application) (config : AuthConfig) (b : Backend)
    (request : HttpRequest) (requestId : String) {between : ControlState → ControlState → Prop}
    {u location : String} {e : Application.Endpoint} {response : HttpResponse}
    {s s' s'' : ControlState} (hbetween : ∀ s s', between s s' → Since s s')
    (hlatin : ∀ header ∈ request.authorization, IsLatin1 header)
    (huser : PresentsUser config request.authorization u) (hfilled : Filled (b.newId "job"))
    (he : Application.endpoint request = some e)
    (hexec : Exec (b.amid between) (α := Except Exc HttpResponse)
      (app.respondAs (.fromConfig config) request requestId) s (.ok response) s')
    (hlocation : lookup "Location" response.headers = some location)
    (hsince : ReflTransGen Since s' s'') :
    ∃ jobId fields, response.body = .obj (("job_id", .str jobId) :: fields) ∧
      ∀ (b' : Backend) (v : String) (follow : HttpRequest) (followId : String)
        (result : Except Exc HttpResponse) (t : ControlState),
        Follows location follow → (∀ header ∈ follow.authorization, IsLatin1 header) →
        PresentsUser config follow.authorization v → b'.failing .read = none →
        Exec (b'.amid between) (app.respondAs (.fromConfig config) follow followId) s'' result t →
        (v = u → ∀ sessionIds, b'.data.listSessionIds jobId = .ok sessionIds →
          ∃ row answer, Found between s'' jobId row ∧ ShowsSessions row sessionIds answer ∧
            result = .ok answer) ∧
        (v ≠ u → result = .ok ((jobNotFound jobId followId).tagged followId)) := by
  obtain ⟨answer, rfl, hserve, hplace⟩ :=
    respondAs_inv (authenticate_user hlatin huser) he hexec hlocation
  obtain ⟨jobId, fields, hbody, rfl, hid, howns⟩ :=
    serve_located hbetween rfl (requestedBy_user huser rfl) hfilled hserve hplace
  have howns' := since_keeps hsince jobId u howns
  refine ⟨jobId, fields, hbody,
    fun b' v follow followId result t hfollow hlatin' hv hread hanswered => ?_⟩
  have hauth := authenticate_user hlatin' hv
  constructor
  · rintro rfl sessionIds hids
    have hshown := respondAs_comesTo hauth
      (answered_shows app followId hbetween hfollow hid hread howns' hids)
    obtain ⟨_, rfl, shown, ⟨row, hfound, hshows⟩, rfl⟩ := hshown.returned hanswered
    exact ⟨row, shown.tagged followId, hfound, hshows, rfl⟩
  · intro hne
    have hrefused := respondAs_comesTo hauth
      (answered_refuses app followId hbetween hfollow hid hread howns' hne)
    obtain ⟨_, rfl, _, rfl, rfl⟩ := hrefused.returned hanswered
    rfl

/-- A request for a new Job. -/
def sampleCreate : HttpRequest where
  method := "POST"
  target := "/v1/jobs".toList
  authorization := ["bEARER secret"]
  body := .json (.obj [("model_id", .str "model"), ("range_id", .str "range")])

/-- The new Job is found where the answer says, also after the Job has been closed. -/
theorem location_followed_created :
    let follow : HttpRequest := { method := "GET", target := "/v1/jobs/sessions?job_id=job_1".toList
                                  authorization := ["bEARER secret"] }
    let app := sampleApplication.respondAs (.fromConfig sampleAuth)
    ∃ response s', (app sampleCreate "req_1").run sampleBackend.answer ⟨⟨[], by decide⟩, []⟩ =
        (.ok response, s') ∧
      ∃ row answer, ShowsSessions row [] answer ∧ ((app follow "req_2").run sampleBackend.answer
        (sampleBackend.answer (.requestClose "job_1" 5) s').2).1 = .ok answer := by
  intro follow app
  have hlatin : ∀ header ∈ ["bEARER secret"], IsLatin1 header :=
    List.forall_mem_singleton.mpr (List.all_iff_forall_prop.mp (by decide))
  have halice : PresentsUser sampleAuth ["bEARER secret"] "alice" :=
    ⟨_, List.mem_singleton.mpr rfl, rfl, "bEARER secret", "bEARER", rfl, by decide, by decide⟩
  have hfilled : Filled (sampleBackend.newId "job") := by
    unfold Filled
    decide
  have hlocation : ((app sampleCreate "req_1").run sampleBackend.answer
      ⟨⟨[], by decide⟩, []⟩).1.toOption.bind (fun response => lookup "Location" response.headers) =
        some "/v1/jobs/sessions?job_id=job_1" := by decide +kernel
  have hexec (p : Task ApiOp ApiAns Exc HttpResponse) (s : ControlState) :
      Exec (sampleBackend.amid Since) (α := Except Exc HttpResponse) p s
        (p.run sampleBackend.answer s).1 (p.run sampleBackend.answer s).2 :=
    Exec.ofRun (fun _ _ => rfl) p s
  have hcreated := hexec (app sampleCreate "req_1") ⟨⟨[], by decide⟩, []⟩
  cases hrun : (app sampleCreate "req_1").run sampleBackend.answer ⟨⟨[], by decide⟩, []⟩ with
  | mk result s' =>
    rw [hrun] at hlocation hcreated
    cases result with
    | error x => cases hlocation
    | ok response =>
      refine ⟨response, s', rfl, ?_⟩
      obtain ⟨jobId, fields, -, hfollowed⟩ := location_followed sampleApplication sampleAuth
        sampleBackend sampleCreate "req_1" (fun _ _ h => h) hlatin halice hfilled rfl hcreated
        hlocation (.single (.call sampleBackend (.requestClose "job_1" 5) s'))
      obtain ⟨row, answer, -, hshows, hanswer⟩ := (hfollowed sampleBackend "alice" follow "req_2" _
        _ ⟨rfl, rfl⟩ hlatin halice rfl (hexec _ _)).1 rfl [] rfl
      exact ⟨row, answer, hshows, hanswer⟩

end Api

end SafactoryServer
