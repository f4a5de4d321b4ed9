import SafactoryServer.Backend

/-! The two commands of a client, `create_job` and `close_job`, and what is left in the control
database when one of their transactions fails. -/

namespace SafactoryServer

open Effect

namespace Backend

variable {b : Backend} {α : Type} {s s' : ControlState} {t : Transaction} {x : PyExc}

theorem transact_fails {result : Except PyExc (α × ControlState)} (h : b.failing t = some x) :
    b.transact t s result = (.error x, s) := by
  simp only [transact, h]

theorem transact_ok {a : α} (h : b.failing t = none) :
    b.transact t s (.ok (a, s')) = (.ok a, s') := by
  simp only [transact, h]

theorem transact_error (h : b.failing t = none) :
    b.transact t s (.error x : Except PyExc (α × ControlState)) = (.error x, s) := by
  simp only [transact, h]

end Backend

section

variable {b : Backend} {s s' : ControlState} {jobId : String} {x : PyExc} {row : ControlJob}
  {jobs : JobTable} {event : JobEvent} {now : Int}

theorem getJob_runs (h : b.failing .read = none) :
    Task.Runs b.answer (ApiTask.getJob jobId) s (.ok (s.jobs.find jobId)) s [.getJob jobId] :=
  .bind (.ask (Backend.transact_ok h)) (.pure _)

theorem getJob_fails (h : b.failing .read = some x) :
    Task.Runs b.answer (ApiTask.getJob jobId) s (.error (.python x)) s [.getJob jobId] :=
  .bind (.ask (Backend.transact_fails h)) (.throw _)

theorem addJob_runs (h : b.failing .insertJob = none) (hadd : s.jobs.add row = .ok jobs) :
    Task.Runs b.answer (ApiTask.addJob row) s (.ok ()) { s with jobs := jobs } [.addJob row] := by
  have ha : b.answer (.addJob row) s = (.ok (), { s with jobs := jobs }) := by
    rw [Backend.answer, hadd]
    exact Backend.transact_ok h
  exact .bind (.ask ha) (.pure _)

theorem addJob_fails (h : b.failing .insertJob = some x ∨
      b.failing .insertJob = none ∧ s.jobs.add row = .error x) :
    Task.Runs b.answer (ApiTask.addJob row) s (.error (.python x)) s [.addJob row] := by
  have ha : b.answer (.addJob row) s = (.error x, s) := by
    rcases h with h | ⟨h, hadd⟩
    · exact Backend.transact_fails h
    · rw [Backend.answer, hadd]
      exact Backend.transact_error h
  exact .bind (.ask ha) (.throw _)

theorem requestClose_runs {transitioned : Bool} (h : b.failing .closeJob = none)
    (hclose : s.jobs.requestClose jobId now = .ok (row, transitioned, jobs)) :
    Task.Runs b.answer (ApiTask.requestClose jobId now) s (.ok (row, transitioned))
      { s with jobs := jobs } [.requestClose jobId now] := by
  have ha : b.answer (.requestClose jobId now) s =
      (.ok (row, transitioned), { s with jobs := jobs }) := by
    rw [Backend.answer, hclose]
    exact Backend.transact_ok h
  exact .bind (.ask ha) (.pure _)

theorem requestClose_fails (h : b.failing .closeJob = some x) :
    Task.Runs b.answer (ApiTask.requestClose jobId now) s (.error (.python x)) s
      [.requestClose jobId now] :=
  .bind (.ask (Backend.transact_fails h)) (.throw _)

theorem addEvent_runs (h : b.failing .insertEvent = none)
    (hjob : s.jobs.find event.jobId = some row) :
    Task.Runs b.answer (ApiTask.addEvent event) s (.ok ())
      { s with events := s.events ++ [event] } [.addEvent event] := by
  have ha : b.answer (.addEvent event) s =
      (.ok (), { s with events := s.events ++ [event] }) := by
    rw [Backend.answer, JobTable.insertEvent, hjob]
    exact Backend.transact_ok h
  exact .bind (.ask ha) (.pure _)

theorem addEvent_fails (h : b.failing .insertEvent = some x) :
    Task.Runs b.answer (ApiTask.addEvent event) s (.error (.python x)) s [.addEvent event] :=
  .bind (.ask (Backend.transact_fails h)) (.throw _)

end

/-- The row of a new Job breaks no constraint if its ID is new. -/
theorem JobTable.add_new (t : JobTable) (new : NewJob) (now : Int) :
    JobTable.Valid (t.rows ++ [newControlJob new now]) ↔ t.find new.jobId = none := by
  constructor
  · intro h
    have hadd : t.add (newControlJob new now) = .ok ⟨_, h⟩ := dif_pos h
    exact (add_ok hadd).1
  · intro h
    refine ⟨?_, ?_, ?_⟩
    · rw [List.map_append, List.nodup_append]
      refine ⟨t.valid.primaryKey, by simp, ?_⟩
      intro i hi j hj
      obtain ⟨row, hrow, rfl⟩ := List.mem_map.mp hi
      rw [List.map_singleton, List.mem_singleton] at hj
      rintro rfl
      have := find_of_mem hrow
      rw [hj] at this
      exact absurd (this.symm.trans h) (by simp)
    · rw [List.filterMap_append]
      exact (List.append_nil _).symm ▸ t.valid.gateway
    · rw [List.filterMap_append]
      exact (List.append_nil _).symm ▸ t.valid.safactory

/-- A command of a client. -/
inductive Command
  | create (modelId rangeId : String)
  | close (jobId : String)

/-- What a command returns. -/
inductive Receipt
  | created (job : CreatedJob)
  | closed (result : CloseJobResult)

/-- The method of the repository that runs a command. -/
def RealRuntimeRepository.issue (repo : RealRuntimeRepository) (ctx : RequestContext) :
    Command → ApiTask Receipt
  | .create modelId rangeId => Receipt.created <$> repo.createJob ctx modelId rangeId
  | .close jobId => Receipt.closed <$> repo.closeJob ctx jobId

/-- The control database has a Job in a status, and an event about it. -/
structure Recorded (s : ControlState) (jobId : String) (status : JobStatus) (eventType : String) :
    Prop where
  row : ∃ row, s.jobs.find jobId = some row ∧ row.status = status
  event : ∃ e ∈ s.events, e.jobId = jobId ∧ e.eventType = eventType

/-- A command that raises leaves the rows as they were; one that returns a queued Job or a closing
status has recorded it and has woken the orchestrator. -/
structure Atomic (repo : RealRuntimeRepository) (b : Backend) (ctx : RequestContext)
    (command : Command) (s : ControlState) : Prop where
  raised : ∀ x s', (repo.issue ctx command).run b.answer s = (.error x, s') →
    s'.jobs.rows = s.jobs.rows
  created : ∀ job s', (repo.issue ctx command).run b.answer s = (.ok (.created job), s') →
    job.status = .queued → Recorded s' job.jobId .queued "job_created" ∧
      ApiOp.wakeOrchestrator ∈ (repo.issue ctx command).calls b.answer s
  closing : ∀ result s', (repo.issue ctx command).run b.answer s = (.ok (.closed result), s') →
    result.jobStatus = .closing → Recorded s' result.jobId .closing "job_close_requested" ∧
      ApiOp.wakeOrchestrator ∈ (repo.issue ctx command).calls b.answer s

/-- `create_job` inserts a row: the catalog knows the model and the range, the insert does not
fail, and the new ID is free. -/
structure Inserts (repo : RealRuntimeRepository) (b : Backend) (s : ControlState)
    (modelId rangeId : String) : Prop where
  model : ∃ model, repo.catalog.resolveModel modelId = .ok (some model)
  range : ∃ config, repo.catalog.resolveRange rangeId = .ok (some config)
  insert : b.failing .insertJob = none
  fresh : s.jobs.find (b.newId "job") = none

/-- `close_job` reads a Job that the user may close, and its close transaction does not fail. -/
structure Reads (b : Backend) (ctx : RequestContext) (s : ControlState) (jobId : String)
    (job : ControlJob) : Prop where
  read : b.failing .read = none
  close : b.failing .closeJob = none
  found : s.jobs.find jobId = some job
  owned : ctx.username.any (job.ownerUsername ≠ ·) = false

/-- The insert of the event does not fail once the row has been inserted or moved to closing, and a
Job that is closing already has its event. -/
def KeepsEvent (repo : RealRuntimeRepository) (b : Backend) (ctx : RequestContext)
    (s : ControlState) : Command → Prop
  | .create modelId rangeId => Inserts repo b s modelId rangeId → b.failing .insertEvent = none
  | .close jobId => ∀ job, Reads b ctx s jobId job →
      (job.active = true → b.failing .insertEvent = none) ∧
      (job.status = .closing →
        ∃ e ∈ s.events, e.jobId = jobId ∧ e.eventType = "job_close_requested")

namespace RealRuntimeRepository

variable {repo : RealRuntimeRepository} {b : Backend} {ctx : RequestContext} {s : ControlState}
  {modelId rangeId jobId : String}

/-- A result of the catalog that is no value. -/
theorem trusted_raises {α : Type} (x : PyExc) :
    ∃ y, Task.Runs b.answer (trusted (.error x) : ApiTask α) s (.error y) s [] := by
  unfold trusted
  split
  · exact ⟨_, .throw _⟩
  · exact ⟨_, .throw _⟩

theorem trusted_runs {α : Type} (a : α) :
    Task.Runs b.answer (trusted (.ok a)) s (.ok a) s [] := .pure a

/-- The row of the new Job. -/
def newRow (repo : RealRuntimeRepository) (b : Backend) (ctx : RequestContext)
    (model : ModelConfig) (modelId rangeId : String) : ControlJob :=
  newControlJob
    { jobId := b.newId "job"
      requestId := (ctx.requestId.filter (· ≠ "")).getD "req_internal"
      ownerUsername := requestedBy ctx
      modelId := modelId
      modelChecksum := repo.catalog.modelChecksum
      modelGatewayJson := model.gateway.dump
      rangeId := rangeId
      gatewayImage := repo.gatewayImage
      safactoryImage := repo.safactoryImage } b.clock

/-- `create_job` up to the insert of the row. -/
theorem createJob_raises (repo : RealRuntimeRepository) (ctx : RequestContext)
    (h : ¬ Inserts repo b s modelId rangeId) :
    ∃ x calls, Task.Runs b.answer (repo.createJob ctx modelId rangeId) s (.error x) s calls := by
  cases hm : repo.catalog.resolveModel modelId with
  | error x =>
    obtain ⟨y, hy⟩ := trusted_raises (b := b) (s := s) x
    exact ⟨y, _, .bind_error (hm ▸ hy)⟩
  | ok model =>
    cases hr : repo.catalog.resolveRange rangeId with
    | error x =>
      obtain ⟨y, hy⟩ := trusted_raises (b := b) (s := s) x
      exact ⟨y, _, .bind (hm ▸ trusted_runs model) (.bind_error (hr ▸ hy))⟩
    | ok config =>
      cases model with
      | none =>
        exact ⟨_, _, .bind (a := none) (hm ▸ trusted_runs none)
          (.bind (hr ▸ trusted_runs config) (.throw _))⟩
      | some model =>
        cases config with
        | none =>
          exact ⟨_, _, .bind (a := some model) (hm ▸ trusted_runs (some model))
            (.bind (a := none) (hr ▸ trusted_runs none) (.throw _))⟩
        | some config =>
          have hadd : ∃ x, b.failing .insertJob = some x ∨ b.failing .insertJob = none ∧
              s.jobs.add (newRow repo b ctx model modelId rangeId) = .error x := by
            cases hf : b.failing .insertJob with
            | some x => exact ⟨x, .inl rfl⟩
            | none =>
              refine ⟨.integrityError, .inr ⟨rfl, dif_neg ?_⟩⟩
              rw [newRow, JobTable.add_new]
              exact fun hfresh => h ⟨⟨model, hm⟩, ⟨config, hr⟩, hf, hfresh⟩
          obtain ⟨x, hadd⟩ := hadd
          exact ⟨_, _, .bind (a := some model) (hm ▸ trusted_runs (some model))
            (.bind (a := some config) (hr ▸ trusted_runs (some config))
              (.bind (.ask rfl) (.bind (.ask rfl) (.bind_error (addJob_fails hadd)))))⟩

/-- `create_job` from the insert of the row on: the insert of the event decides. -/
theorem createJob_inserts (repo : RealRuntimeRepository) (ctx : RequestContext)
    (h : Inserts repo b s modelId rangeId) :
    ∃ row jobs, row.jobId = b.newId "job" ∧ row.status = .queued ∧ s.jobs.add row = .ok jobs ∧
      (∀ x, b.failing .insertEvent = some x → ∃ calls,
        Task.Runs b.answer (repo.createJob ctx modelId rangeId) s (.error (.python x))
          { s with jobs := jobs } calls) ∧
      (b.failing .insertEvent = none → ∃ event calls,
        event.jobId = row.jobId ∧ event.eventType = "job_created" ∧
        ApiOp.wakeOrchestrator ∈ calls ∧
        Task.Runs b.answer (repo.createJob ctx modelId rangeId) s
          (.ok { jobId := row.jobId, status := .queued, modelId := modelId, rangeId := rangeId
                 createdAt := b.clock })
          { s with jobs := jobs, events := s.events ++ [event] } calls) := by
  obtain ⟨⟨model, hm⟩, ⟨config, hr⟩, hf, hfresh⟩ := h
  have hvalid : JobTable.Valid (s.jobs.rows ++ [newRow repo b ctx model modelId rangeId]) :=
    (JobTable.add_new s.jobs _ b.clock).mpr hfresh
  have hadd : s.jobs.add (newRow repo b ctx model modelId rangeId) = .ok ⟨_, hvalid⟩ :=
    dif_pos hvalid
  have hresolved : ∀ {r t calls}, Task.Runs b.answer
        (repo.acceptJob ctx model modelId rangeId) s r t calls →
      Task.Runs b.answer (repo.createJob ctx modelId rangeId) s r t ([] ++ ([] ++ calls)) :=
    fun h => .bind (a := some model) (hm ▸ trusted_runs (some model))
      (.bind (a := some config) (hr ▸ trusted_runs (some config)) h)
  refine ⟨_, _, rfl, rfl, hadd, fun x hx => ⟨_, hresolved (.bind (.ask rfl) (.bind (.ask rfl)
    (.bind (addJob_runs hf hadd) (.bind_error (addEvent_fails hx)))))⟩, fun hnone => ?_⟩
  have hfind := ((JobTable.add_ok hadd).2 (b.newId "job")).trans (if_pos rfl)
  refine ⟨_, _, rfl, rfl, ?_, hresolved (.bind (.ask rfl) (.bind (.ask rfl)
    (.bind (addJob_runs hf hadd) (.bind (addEvent_runs hnone hfind)
      (.bind (.ask rfl) (.pure _))))))⟩
  simp

/-- The `except` clauses of `close_job` raise. -/
theorem closeFailed_raises (x : ApiExc) :
    ∃ y, Task.Runs b.answer (closeFailed jobId x) s (.error y) s [] := by
  unfold closeFailed
  split
  · exact ⟨_, .throw _⟩
  · split
    · exact ⟨_, .throw _⟩
    · exact ⟨_, .throw _⟩
  · exact ⟨_, .throw _⟩

/-- `close_job` raises what its `try` clause raises, or another exception. -/
theorem closeJob_raises {x : ApiExc} {s' : ControlState} {calls : List ApiOp}
    (h : Task.Runs b.answer (repo.closeRow ctx jobId b.clock) s (.error x) s' calls) :
    ∃ y calls', Task.Runs b.answer (repo.closeJob ctx jobId) s (.error y) s' calls' := by
  obtain ⟨y, hy⟩ : ∃ y, Task.Runs b.answer (closeFailed jobId x) s' (.error y) s' [] :=
    closeFailed_raises x
  exact ⟨y, _, .bind (.ask rfl) (.bind_error (.tryCatch_error h hy))⟩

/-- `close_job` reports the row of its `try` clause. -/
theorem reportClose_runs (repo : RealRuntimeRepository) (b : Backend) (s : ControlState)
    (job : ControlJob) :
    ∃ result calls, Task.Runs b.answer (repo.reportClose job) s (.ok result) s calls ∧
      result.jobId = job.jobId ∧ result.jobStatus = job.status ∧
      (job.status = .closing → ApiOp.wakeOrchestrator ∈ calls) := by
  unfold reportClose
  by_cases hc : job.status = .closing
  · simp only [if_pos hc]
    exact ⟨_, _, .bind (.ask rfl) (.pure _), rfl, rfl, fun _ => List.mem_cons_self⟩
  · simp only [if_neg hc]
    exact ⟨_, _, .pure _, rfl, rfl, fun h => absurd h hc⟩

theorem closeJob_returns {job : ControlJob} {s' : ControlState} {calls : List ApiOp}
    (h : Task.Runs b.answer (repo.closeRow ctx jobId b.clock) s (.ok job) s' calls) :
    ∃ result calls', Task.Runs b.answer (repo.closeJob ctx jobId) s (.ok result) s' calls' ∧
      result.jobId = job.jobId ∧ result.jobStatus = job.status ∧
      (job.status = .closing → ApiOp.wakeOrchestrator ∈ calls') := by
  obtain ⟨result, calls', hr, hid, hstatus, hwake⟩ :=
    reportClose_runs repo b s' job
  refine ⟨result, _, .bind (.ask rfl) (.bind (.tryCatch h) hr), hid, hstatus, fun hc => ?_⟩
  exact List.mem_append_right _ (List.mem_append_right _ (hwake hc))

/-- `_require_job` in a database that has a readable Job of the user. -/
theorem requireJob_runs {job : ControlJob} (hread : b.failing .read = none)
    (hfound : s.jobs.find jobId = some job)
    (howned : ctx.username.any (job.ownerUsername ≠ ·) = false) :
    Task.Runs b.answer (requireJob ctx jobId) s (.ok job) s [.getJob jobId] := by
  refine .bind (a := some job) (hfound ▸ getJob_runs hread) ?_
  simp only [howned, Bool.false_eq_true, if_false]
  exact .pure job

/-- `_require_job` in a database that has a readable Job of another user. -/
theorem requireJob_refuses {job : ControlJob} (hread : b.failing .read = none)
    (hfound : s.jobs.find jobId = some job)
    (hforeign : ctx.username.any (job.ownerUsername ≠ ·) = true) :
    Task.Runs b.answer (requireJob ctx jobId) s
      (.error (.domain { code := .jobNotFound, details := [("job_id", .str jobId)] })) s
      [.getJob jobId] := by
  refine .bind (a := some job) (hfound ▸ getJob_runs hread) ?_
  simp only [hforeign, if_true]
  exact .throw _

/-- The `try` clause of `close_job` up to the close transaction. -/
theorem closeRow_raises (repo : RealRuntimeRepository) (h : ∀ job, ¬ Reads b ctx s jobId job) :
    ∃ x calls, Task.Runs b.answer (repo.closeRow ctx jobId b.clock) s (.error x) s calls := by
  cases hr : b.failing .read with
  | some x => exact ⟨_, _, .bind_error (.bind_error (getJob_fails hr))⟩
  | none =>
    have hread : Task.Runs b.answer (ApiTask.getJob jobId) s _ s _ := getJob_runs hr
    cases hf : s.jobs.find jobId with
    | none =>
      rw [hf] at hread
      exact ⟨_, _, .bind_error (.bind hread (.throw _))⟩
    | some job =>
      cases hu : ctx.username.any (job.ownerUsername ≠ ·) with
      | true => exact ⟨_, _, .bind_error (requireJob_refuses hr hf hu)⟩
      | false =>
        cases hc : b.failing .closeJob with
        | some x =>
          exact ⟨_, _, .bind (requireJob_runs hr hf hu) (.bind_error (requestClose_fails hc))⟩
        | none => exact absurd ⟨hr, hc, hf, hu⟩ (h job)

/-- The close of an active Job: the insert of the event decides. -/
theorem closeRow_active (repo : RealRuntimeRepository) {job : ControlJob}
    (h : Reads b ctx s jobId job) (ha : job.active = true) :
    ∃ jobs, jobs.find jobId = some (job.close b.clock) ∧
      (∀ x, b.failing .insertEvent = some x → ∃ calls,
        Task.Runs b.answer (repo.closeRow ctx jobId b.clock) s (.error (.python x))
          { s with jobs := jobs } calls) ∧
      (b.failing .insertEvent = none → ∃ event calls,
        event.jobId = jobId ∧ event.eventType = "job_close_requested" ∧
        Task.Runs b.answer (repo.closeRow ctx jobId b.clock) s (.ok (job.close b.clock))
          { s with jobs := jobs, events := s.events ++ [event] } calls) := by
  have hclose : s.jobs.requestClose jobId b.clock = _ :=
    (JobTable.requestClose_eq h.found).trans (if_pos ha)
  have hid : (job.close b.clock).jobId = jobId :=
    (closeChanges.write_jobId job b.clock).trans (JobTable.find_jobId h.found)
  have hfind := (JobTable.find_replaced h.found hid (JobTable.close_valid h.found) jobId).trans
    (if_pos rfl)
  have hrequire := requireJob_runs h.read h.found h.owned
  refine ⟨_, hfind, fun x hx => ⟨_, .bind hrequire (.bind
    (requestClose_runs h.close hclose) (.bind_error (addEvent_fails hx)))⟩, fun hnone => ?_⟩
  exact ⟨_, _, rfl, rfl, .bind hrequire (.bind (requestClose_runs h.close hclose)
    (.bind (addEvent_runs hnone hfind) (.pure _)))⟩

/-- The close of a Job that is not active changes nothing. -/
theorem closeRow_settled (repo : RealRuntimeRepository) {job : ControlJob}
    (h : Reads b ctx s jobId job) (ha : job.active = false) :
    ∃ calls, Task.Runs b.answer (repo.closeRow ctx jobId b.clock) s (.ok job) s calls := by
  have hclose : s.jobs.requestClose jobId b.clock = _ :=
    (JobTable.requestClose_eq h.found).trans (if_neg (Bool.eq_false_iff.mp ha))
  exact ⟨_, .bind (requireJob_runs h.read h.found h.owned)
    (.bind (requestClose_runs h.close hclose) (.pure _))⟩

end RealRuntimeRepository

section

variable {repo : RealRuntimeRepository} {b : Backend} {ctx : RequestContext} {s : ControlState}

/-- A command that raised. -/
theorem Atomic.of_error (command : Command) {x : ApiExc} {s' : ControlState} {calls : List ApiOp}
    (h : Task.Runs b.answer (repo.issue ctx command) s (.error x) s' calls) :
    Atomic repo b ctx command s ↔ s'.jobs.rows = s.jobs.rows := by
  constructor
  · intro hatomic
    exact hatomic.raised x s' h.run
  · intro hrows
    constructor
    · intro x' s'' hrun
      rw [h.run] at hrun
      cases hrun
      exact hrows
    · intro job s'' hrun
      rw [h.run] at hrun
      cases hrun
    · intro result s'' hrun
      rw [h.run] at hrun
      cases hrun

/-- A `create_job` that returned. -/
theorem Atomic.of_created {modelId rangeId : String} {job : CreatedJob} {s' : ControlState}
    {calls : List ApiOp}
    (h : Task.Runs b.answer (repo.createJob ctx modelId rangeId) s (.ok job) s' calls)
    (hrecorded : Recorded s' job.jobId .queued "job_created")
    (hwake : ApiOp.wakeOrchestrator ∈ calls) :
    Atomic repo b ctx (.create modelId rangeId) s := by
  have hissued : Task.Runs b.answer (repo.issue ctx (.create modelId rangeId)) s
    (.ok (.created job)) s' calls := h.map
  constructor
  · intro x s'' hrun
    rw [hissued.run] at hrun
    cases hrun
  · intro job' s'' hrun _
    rw [hissued.run] at hrun
    cases hrun
    exact ⟨hrecorded, hissued.calls ▸ hwake⟩
  · intro result s'' hrun
    rw [hissued.run] at hrun
    cases hrun

/-- A `close_job` that returned. -/
theorem Atomic.of_closed {jobId : String} {result : CloseJobResult} {s' : ControlState}
    {calls : List ApiOp}
    (h : Task.Runs b.answer (repo.closeJob ctx jobId) s (.ok result) s' calls)
    (hwake : result.jobStatus = .closing → ApiOp.wakeOrchestrator ∈ calls) :
    Atomic repo b ctx (.close jobId) s ↔
      (result.jobStatus = .closing → Recorded s' result.jobId .closing "job_close_requested") := by
  have hissued : Task.Runs b.answer (repo.issue ctx (.close jobId)) s
    (.ok (.closed result)) s' calls := h.map
  constructor
  · intro hatomic hc
    exact (hatomic.closing result s' hissued.run hc).1
  · intro hrecorded
    constructor
    · intro x s'' hrun
      rw [hissued.run] at hrun
      cases hrun
    · intro job s'' hrun
      rw [hissued.run] at hrun
      cases hrun
    · intro result' s'' hrun hc
      rw [hissued.run] at hrun
      cases hrun
      exact ⟨hrecorded hc, hissued.calls ▸ hwake hc⟩

theorem create_atomic_iff (modelId rangeId : String) :
    Atomic repo b ctx (.create modelId rangeId) s ↔
      KeepsEvent repo b ctx s (.create modelId rangeId) := by
  by_cases h : Inserts repo b s modelId rangeId
  · obtain ⟨row, jobs, hid, hstatus, hadd, hfails, hruns⟩ :=
      RealRuntimeRepository.createJob_inserts repo ctx h
    have hfind := ((JobTable.add_ok hadd).2 row.jobId).trans (if_pos rfl)
    have hkeeps : KeepsEvent repo b ctx s (.create modelId rangeId) ↔
        b.failing .insertEvent = none := ⟨fun hk => hk h, fun hnone _ => hnone⟩
    rw [hkeeps]
    cases hf : b.failing .insertEvent with
    | some x =>
      obtain ⟨calls, hrun⟩ := hfails x hf
      rw [Atomic.of_error (.create modelId rangeId) hrun.map]
      -- the insert has added one row
      have hrows : jobs.rows = s.jobs.rows ++ [row] := by
        unfold JobTable.add at hadd
        split at hadd
        · cases hadd
          rfl
        · cases hadd
      simp [hrows]
    | none =>
      obtain ⟨event, calls, heid, htype, hwake, hrun⟩ := hruns hf
      refine ⟨fun _ => rfl, fun _ => Atomic.of_created hrun ⟨⟨row, hfind, hstatus⟩, ?_⟩ hwake⟩
      exact ⟨event, List.mem_append_right _ (List.mem_singleton_self _), heid, htype⟩
  · obtain ⟨x, calls, hrun⟩ := RealRuntimeRepository.createJob_raises repo ctx h
    rw [Atomic.of_error (.create modelId rangeId) hrun.map]
    exact ⟨fun _ hi => absurd hi h, fun _ => rfl⟩

theorem close_atomic_iff (jobId : String) :
    Atomic repo b ctx (.close jobId) s ↔ KeepsEvent repo b ctx s (.close jobId) := by
  by_cases h : ∃ job, Reads b ctx s jobId job
  · obtain ⟨job, h⟩ := h
    have honly : ∀ job', Reads b ctx s jobId job' → job' = job := fun job' h' =>
      Option.some.inj (h'.found.symm.trans h.found)
    have hkeeps : KeepsEvent repo b ctx s (.close jobId) ↔
        (job.active = true → b.failing .insertEvent = none) ∧ (job.status = .closing →
          ∃ e ∈ s.events, e.jobId = jobId ∧ e.eventType = "job_close_requested") :=
      ⟨fun hk => hk job h, fun hk job' h' => honly job' h' ▸ hk⟩
    rw [hkeeps]
    cases ha : job.active with
    | false =>
      obtain ⟨calls, hrow⟩ := RealRuntimeRepository.closeRow_settled repo h ha
      obtain ⟨result, calls', hrun, hid, hstatus, hwake⟩ :=
        RealRuntimeRepository.closeJob_returns hrow
      rw [Atomic.of_closed hrun fun hc => hwake (hstatus ▸ hc), hstatus, hid,
        JobTable.find_jobId h.found]
      constructor
      · exact fun hrec => ⟨fun hfalse => absurd hfalse (by simp), fun hc => (hrec hc).event⟩
      · exact fun hk hc => ⟨⟨job, h.found, hc⟩, hk.2 hc⟩
    | true =>
      have hnot : job.status ≠ .closing := by
        rcases (ControlJob.active_iff job).mp ha with hs | hs | hs <;> simp [hs]
      obtain ⟨jobs, hfind, hfails, hruns⟩ :=
        RealRuntimeRepository.closeRow_active repo h ha
      cases hf : b.failing .insertEvent with
      | some x =>
        obtain ⟨calls, hrow⟩ := hfails x hf
        obtain ⟨y, calls', hrun⟩ := RealRuntimeRepository.closeJob_raises hrow
        rw [Atomic.of_error (.close jobId) hrun.map]
        constructor
        · intro hrows
          -- the row that is closing now was active before
          have hsame : jobs.find jobId = s.jobs.find jobId := by
            rw [JobTable.find, JobTable.find, hrows]
          rw [hfind, h.found] at hsame
          exact absurd (congrArg ControlJob.status (Option.some.inj hsame)).symm hnot
        · intro hk
          cases hk.1 rfl
      | none =>
        obtain ⟨event, calls, heid, htype, hrow⟩ := hruns hf
        obtain ⟨result, calls', hrun, hid, hstatus, hwake⟩ :=
          RealRuntimeRepository.closeJob_returns hrow
        rw [Atomic.of_closed hrun fun hc => hwake (hstatus ▸ hc)]
        have hclosed : result.jobId = jobId := hid.trans
          ((closeChanges.write_jobId job b.clock).trans (JobTable.find_jobId h.found))
        rw [hclosed]
        refine ⟨fun _ => ⟨fun _ => rfl, fun hc => absurd hc hnot⟩, fun _ _ => ?_⟩
        exact ⟨⟨job.close b.clock, hfind, rfl⟩, event,
          List.mem_append_right _ (List.mem_singleton_self _), heid, htype⟩
  · have hnone := not_exists.mp h
    obtain ⟨x, calls, hrow⟩ := RealRuntimeRepository.closeRow_raises repo hnone
    obtain ⟨y, calls', hrun⟩ := RealRuntimeRepository.closeJob_raises hrow
    rw [Atomic.of_error (.close jobId) hrun.map]
    exact ⟨fun _ job hr => absurd hr (hnone job), fun _ => rfl⟩

end

/-- A command is atomic if and only if the insert of its event does not fail once the row is
written, and the event of an earlier close is there. -/
theorem commands_atomic_iff (repo : RealRuntimeRepository) (b : Backend) (ctx : RequestContext)
    (command : Command) (s : ControlState) :
    Atomic repo b ctx command s ↔ KeepsEvent repo b ctx s command := by
  cases command with
  | create modelId rangeId => exact create_atomic_iff modelId rangeId
  | close jobId => exact close_atomic_iff jobId

/-- The insert of the close event fails: the client is told that a dependency is unavailable, and
the Job is closing. -/
theorem close_persisted_unavailable :
    let s : ControlState := ⟨⟨[newControlJob sampleJob 0], by decide⟩, []⟩
    let b := { sampleBackend with
      failing := fun t => if t = .insertEvent then some (.other "OperationalError") else none }
    let ctx : RequestContext := { username := some "alice" }
    let ended := (sampleRepository.closeJob ctx "job").run b.answer s
    (∃ error, ended.1 = .error (.domain error) ∧ error.code = .dependencyUnavailable) ∧
      (ended.2.jobs.find "job").map (·.status) = some .closing ∧
      ¬ Atomic sampleRepository b ctx (.close "job") s := by
  intro s b ctx ended
  refine ⟨⟨_, rfl, rfl⟩, rfl, fun h => ?_⟩
  have hrows := h.raised _ _ rfl
  exact absurd (congrArg (List.map (·.status)) hrows) (by decide)

end SafactoryServer
