import SafactoryServer.Backend
import SafactoryServer.Effect.EventLoop
import SafactoryServer.Lifecycle

/-! The loop `_run` of the orchestrator and the event that wakes it, next to the requests of the
API.  A request that creates or closes a Job is over only after the event is set, so the loop does
not sleep on it. -/

namespace SafactoryServer

open Effect
open Relation (ReflTransGen)

variable {P : Type}

/-- The server process: the world, the event `_wake` and the task of `_run`. -/
abbrev ServerState (P : Type) := LoopState Op Ans (World P) (Except PyExc Unit)

namespace Services

variable (sv : Services P) (o : RealJobOrchestrator)

/-- One step of `_run` or of what happens next to it. -/
abbrev RunStep : ServerState P → ServerState P → Prop :=
  LoopStep sv.system (ρ := Except PyExc Unit) o.reconcileOnce (· = .ok ())

/-- A run of the server, which starts again after each crash. -/
abbrev RunReaches : ServerState P → ServerState P → Prop :=
  LoopReaches sv.system (ρ := Except PyExc Unit) o.reconcileOnce (· = .ok ())

/-- What one call of a request does. -/
def Serves : (e : ApiOp) → ServerState P → ApiAns e → ServerState P → Prop
  | .now, c, answer, c' => answer = c.state.clock ∧ c' = c
  | .newId _, c, answer, c' => sv.mints answer ∧ c' = c
  | .getJob jobId, c, answer, c' =>
    (answer = .ok (c.state.jobs.find jobId) ∨ ∃ x, answer = .error x) ∧ c' = c
  | .addJob job, c, answer, c' =>
    (∃ jobs, c.state.jobs.add job = .ok jobs ∧ answer = .ok () ∧
      c' = { c with state := { c.state with jobs := jobs } }) ∨
    (∃ x, answer = .error x) ∧ c' = c
  | .requestClose jobId now, c, answer, c' =>
    (∃ row transitioned jobs,
      c.state.jobs.requestClose jobId now = .ok (row, transitioned, jobs) ∧
      answer = .ok (row, transitioned) ∧ c' = { c with state := { c.state with jobs := jobs } }) ∨
    (∃ x, answer = .error x) ∧ c' = c
  | .addEvent event, c, answer, c' =>
    (∃ events, c.state.jobs.insertEvent c.state.events event = .ok events ∧ answer = .ok () ∧
      c' = { c with state := { c.state with events := events } }) ∨
    (∃ x, answer = .error x) ∧ c' = c
  | .listSessionIds _, c, _, c' | .getResult _ _, c, _, c' | .getSteps _ _, c, _, c'
  | .getTrajectory _ _ _, c, _, c' | .sessionFile _ _ _ _, c, _, c' => c' = c
  | .wakeOrchestrator, c, _, c' => c' = { c with event := true }

/-- The server as one request sees it: the task of `_run` and the other requests go on while it
waits. -/
def requests : System ApiOp ApiAns (ServerState P) where
  performs := sv.Serves
  interferes := sv.RunStep o
  crashes _ _ := False

end Services

/-- The rows of an answer of `list_active`. -/
def TraceEvent.active? : TraceEvent → Option (List ControlJob)
  | .call .listActive rows => some rows
  | _ => none

/-- The rows of an answer of `list_cleanup_pending`. -/
def TraceEvent.pending? : TraceEvent → Option (List ControlJob)
  | .call .listCleanupPending rows => some rows
  | _ => none

/-- The last answer that a pass got to `list_active`, or to `list_cleanup_pending`, has the Job. -/
def Holds (rows? : TraceEvent → Option (List ControlJob)) (jobId : String)
    (trace : List TraceEvent) : Prop :=
  ∃ rows, trace.findSome? rows? = some rows ∧ ∃ row ∈ rows, row.jobId = jobId

/-- The orchestrator has found the Job among the active ones, or it is not active any more. -/
def World.Taken (w : World P) (jobId : String) : Prop :=
  ∃ row, w.jobs.find jobId = some row ∧
    (row.active = true → Holds TraceEvent.active? jobId w.trace)

/-- The Job is closed, or it is closing and the orchestrator has found it among those to clean
up. -/
def World.Dismissed (w : World P) (jobId : String) : Prop :=
  ∃ row, w.jobs.find jobId = some row ∧ (row.status = .closed ∨
    row.status = .closing ∧ Holds TraceEvent.pending? jobId w.trace)

/-! ### What a call changes -/

section

variable {sv : Services P} {o : RealJobOrchestrator} {w w' : World P} {c c' : ServerState P}
  {j : String}

/-- A call with another answer leaves the last answer. -/
theorem Services.Performs.holds {rows? : TraceEvent → Option (List ControlJob)} {e : Op}
    {answer : Ans e} (h : sv.Performs e w answer w') (hNone : rows? (.call e answer) = none)
    (hHolds : Holds rows? j w.trace) : Holds rows? j w'.trace := by
  by_cases hNow : e = .now
  · subst hNow
    obtain ⟨-, rfl⟩ := h
    exact hHolds
  · rw [h.trace hNow, Holds, List.findSome?_cons, hNone]
    exact hHolds

/-- The answer of a query is the last one. -/
theorem Holds.queried {rows? : TraceEvent → Option (List ControlJob)} {event : TraceEvent}
    {rows answer : List ControlJob} {trace : List TraceEvent} {column : ControlJob → Int}
    {row : ControlJob} (hAnswer : rows? event = some answer) (hListed : Listed rows column answer)
    (hRow : row ∈ rows) : Holds rows? row.jobId (event :: trace) :=
  ⟨answer, by rw [List.findSome?_cons, hAnswer], row, hListed.1.mem_iff.mpr hRow, rfl⟩

/-- What no writer of a row undoes. -/
structure ControlJob.Settles (row row' : ControlJob) : Prop where
  inactive : row.active = false → row'.active = false
  closing : row.status = .closing → row'.status = .closing ∨ row'.status = .closed
  closed : row.status = .closed → row'.status = .closed

theorem ControlJob.Settles.refl (row : ControlJob) : row.Settles row := ⟨id, .inl, id⟩

theorem ControlJob.Settles.active {row row' : ControlJob} (h : row.Settles row')
    (ha : row'.active = true) : row.active = true := by
  by_contra hNot
  rw [h.inactive (Bool.not_eq_true _ ▸ hNot)] at ha
  cases ha

theorem ControlJob.guard_settles {row : ControlJob} {changes allowed : Changes} (now : Int)
    (h : row.guard changes = .ok allowed) : row.Settles (allowed.write row now) := by
  obtain ⟨hAllowed, hTerminal, hClosing⟩ := ControlJob.guard_ok h
  have hStatus : (allowed.write row now).status = changes.status.getD row.status := by
    rcases hAllowed with rfl | ⟨rfl, -⟩ <;> rfl
  generalize allowed.write row now = row' at hStatus
  rw [← hStatus] at hTerminal hClosing
  refine ⟨fun hInactive => ?_, hClosing, fun hClosed => ?_⟩
  · rw [← Bool.not_eq_true, ControlJob.active_iff] at hInactive ⊢
    by_cases ht : row.terminal = true
    · rwa [hTerminal ht]
    · rw [ControlJob.terminal_iff] at ht
      have hc : row.status = .closing := by
        cases hRow : row.status <;> simp_all
      rcases hClosing hc with h | h <;> simp [h]
  · rw [hTerminal (row.terminal_iff.mpr (.inr (.inr hClosed))), hClosed]

theorem Services.Performs.settles {e : Op} {answer : Ans e} (h : sv.Performs e w answer w')
    {row : ControlJob} (hf : w.jobs.find j = some row) :
    ∃ row', w'.jobs.find j = some row' ∧ row.Settles row' := by
  by_cases he : ∀ j now changes, e ≠ .update j now changes
  · exact ⟨row, by rw [h.jobs he, hf], .refl row⟩
  simp only [not_forall, not_not] at he
  obtain ⟨j', now, changes, rfl⟩ := he
  cases answer with
  | error x => exact ⟨row, by rw [h.update_error.2, hf], .refl row⟩
  | ok last =>
    obtain ⟨current, allowed, hCurrent, hGuard, rfl, hfind⟩ := h.update_ok
    by_cases hj : j = j'
    · subst hj
      obtain rfl : row = current := Option.some.inj (hf.symm.trans hCurrent)
      exact ⟨_, by rw [hfind, if_pos rfl], ControlJob.guard_settles now hGuard⟩
    · exact ⟨row, by rw [hfind, if_neg hj, hf], .refl row⟩

theorem Services.Interferes.settles (h : sv.Interferes w w') {row : ControlJob}
    (hf : w.jobs.find j = some row) :
    ∃ row', w'.jobs.find j = some row' ∧ row.Settles row' := by
  obtain ⟨row', hf', rfl | ⟨hActive, now, rfl⟩⟩ := (Later.of_interferes h).rows hf
  · exact ⟨_, hf', .refl _⟩
  · refine ⟨_, hf', fun _ => rfl, fun _ => .inl rfl, fun hClosed => ?_⟩
    rw [ControlJob.active_iff, hClosed] at hActive
    simp at hActive

/-- What one step of the server leaves of a row, and of the last answer of a query that the step is
not. -/
theorem Services.RunStep.settles (rows? : TraceEvent → Option (List ControlJob))
    (h : sv.RunStep o c c') {row : ControlJob} (hf : c.state.jobs.find j = some row) :
    (∃ row', c'.state.jobs.find j = some row' ∧ row.Settles row') ∧
      ((∃ e answer, sv.Performs e c.state answer c'.state ∧ (rows? (.call e answer)).isSome) ∨
        (Holds rows? j c.state.trace → Holds rows? j c'.state.trace)) := by
  cases h with
  | start | clear | sleep | stop | wake | timeout | set => exact ⟨⟨row, hf, .refl row⟩, .inr id⟩
  | @answer e k s s' r event hPerforms =>
    refine ⟨hPerforms.settles hf, ?_⟩
    cases hAnswer : rows? (.call e r) with
    | none => exact .inr (hPerforms.holds hAnswer)
    | some rows => exact .inl ⟨e, r, hPerforms, by rw [hAnswer]; rfl⟩
  | interference hInterferes =>
    refine ⟨hInterferes.settles hf, .inr fun hHolds => ?_⟩
    rwa [(Later.of_interferes hInterferes).trace]

/-- A step of the server keeps the row of a Job, and what it has of "not active" and "closing". -/
theorem Services.RunReaches.row_kept (h : sv.RunReaches o c c') {row : ControlJob}
    (hf : c.state.jobs.find j = some row) : ∃ row', c'.state.jobs.find j = some row' :=
  Services.Reaches.row_kept h.config hf

/-- The rows of a run are consistent. -/
theorem Services.RunReaches.consistent {w₀ : World P} (h₀ : sv.Initial w₀)
    (h : sv.RunReaches o ⟨w₀, false, .absent⟩ c) {row : ControlJob}
    (hf : c.state.jobs.find j = some row) : row.Consistent := by
  obtain ⟨⟨hInv, -⟩, -⟩ := Services.Reaches.holds (J := fun _ => True) h.config h₀ trivial
    (preserves_true _ _)
  exact hInv.consistent hf

/-- The clock moves by its ticks. -/
theorem Services.RunReaches.clock (h : sv.RunReaches o c c') :
    ReflTransGen sv.tick c.state.clock c'.state.clock := by
  induction h with
  | refl => exact .refl
  | tail _ hStep ih =>
    refine ih.trans ?_
    rcases hStep with hStep | hCrash
    · cases hStep with
      | start | clear | sleep | stop | wake | timeout | set => exact .refl
      | answer hPerforms =>
        have hClock := hPerforms.clock
        exact hClock ▸ .refl
      | interference hInterferes => exact (Later.of_interferes hInterferes).clock
    · cases hCrash with
      | crash hCrash =>
        cases hCrash
        exact .refl
      | lost hPerforms hCrash =>
        cases hCrash
        have hClock := hPerforms.clock
        exact hClock ▸ .refl

/-- A pass lists the active Jobs. -/
theorem reconcileOnce_lists : Program.Must (· = .ok ()) .listActive o.reconcileOnce :=
  Program.Must.mono (Task.Must.left (Task.Must.left Task.Must.ask)) fun _ h => ⟨(), h⟩

/-- A pass that returns has listed the Jobs to clean up. -/
theorem reconcileOnce_cleans : Program.Must (· = .ok ()) .listCleanupPending o.reconcileOnce :=
  Program.Must.mono (Task.Must.right fun _ => Task.Must.left Task.Must.ask) fun _ h => ⟨(), h⟩

/-- A query that lists the Job is the last one that does. -/
theorem taken_of_listed {answer : List ControlJob} (h : sv.Performs .listActive w answer w')
    {row : ControlJob} (hf : w'.jobs.find j = some row) : w'.Taken j := by
  obtain ⟨hListed, rfl⟩ := h
  refine ⟨row, hf, fun ha => ?_⟩
  rw [← JobTable.find_jobId hf]
  exact .queried rfl hListed (List.mem_filter.mpr ⟨JobTable.find_mem hf, ha⟩)

theorem dismissed_of_listed {answer : List ControlJob}
    (h : sv.Performs .listCleanupPending w answer w') {row : ControlJob}
    (hf : w'.jobs.find j = some row) (hConsistent : row.Consistent)
    (hClosing : row.status = .closing ∨ row.status = .closed) : w'.Dismissed j := by
  obtain ⟨hListed, rfl⟩ := h
  refine ⟨row, hf, hClosing.symm.imp_right fun hc => ⟨hc, ?_⟩⟩
  rw [← JobTable.find_jobId hf]
  exact .queried rfl hListed
    (List.mem_filter.mpr ⟨JobTable.find_mem hf, decide_eq_true (hConsistent.closing hc)⟩)

/-- What `list_active` makes of a Job that is in the table. -/
theorem taken_marks : Marks sv.system (ρ := Except PyExc Unit) o.reconcileOnce (· = .ok ())
    .listActive (fun _ => True) (fun w => ∃ row, w.jobs.find j = some row) (World.Taken · j) where
  known _ h hQ := Services.RunReaches.row_kept (o := o) (.single (.inl h)) hQ.choose_spec
  crash _ h hQ := Services.RunReaches.row_kept (o := o) (.single (.inr h)) hQ.choose_spec
  kept _ h hQ hR := by
    obtain ⟨row, hf, hTaken⟩ := hR
    obtain ⟨⟨row', hf', hSettles⟩, hAnswer | hKept⟩ :=
      Services.RunStep.settles TraceEvent.active? h hf
    · obtain ⟨e, answer, hPerforms, hActive⟩ := hAnswer
      cases e <;> first | exact taken_of_listed hPerforms hf' | cases hActive
    · exact ⟨row', hf', fun ha => hKept (hTaken (hSettles.active ha))⟩
  marked _ hPerforms hQ := by
    obtain ⟨row, hf⟩ := hQ
    replace hPerforms : sv.Performs .listActive _ _ _ := hPerforms
    obtain ⟨row', hf', -⟩ := hPerforms.settles hf
    exact taken_of_listed hPerforms hf'

/-- The Job closes or is closed. -/
def World.Closing (w : World P) (jobId : String) : Prop :=
  ∃ row, w.jobs.find jobId = some row ∧ (row.status = .closing ∨ row.status = .closed)

theorem ControlJob.Settles.closes {row row' : ControlJob} (h : row.Settles row')
    (hClosing : row.status = .closing ∨ row.status = .closed) :
    row'.status = .closing ∨ row'.status = .closed :=
  hClosing.elim h.closing fun hc => .inr (h.closed hc)

/-- A Job that closes goes on to do so. -/
theorem Services.RunReaches.closing (h : sv.RunReaches o c c') (hClosing : c.state.Closing j) :
    c'.state.Closing j := by
  induction h with
  | refl => exact hClosing
  | tail _ hStep ih =>
    obtain ⟨row, hf, hClosing⟩ := ih
    rcases hStep with hStep | hCrash
    · obtain ⟨⟨row', hf', hSettles⟩, -⟩ :=
        Services.RunStep.settles TraceEvent.pending? hStep hf
      exact ⟨row', hf', hSettles.closes hClosing⟩
    · cases hCrash with
      | crash hCrash =>
        cases hCrash
        exact ⟨row, hf, hClosing⟩
      | lost hPerforms hCrash =>
        cases hCrash
        obtain ⟨row', hf', hSettles⟩ := Services.Performs.settles hPerforms hf
        exact ⟨row', hf', hSettles.closes hClosing⟩

/-- What `list_cleanup_pending` makes of a Job that closes. -/
theorem dismissed_marks {w₀ : World P} (h₀ : sv.Initial w₀) :
    Marks sv.system (ρ := Except PyExc Unit) o.reconcileOnce (· = .ok ()) .listCleanupPending
      (sv.RunReaches o ⟨w₀, false, .absent⟩)
      (World.Closing · j) (World.Dismissed · j) where
  known _ h hQ := Services.RunReaches.closing (o := o) (.single (.inl h)) hQ
  crash _ h hQ := Services.RunReaches.closing (o := o) (.single (.inr h)) hQ
  kept hReaches h hQ hR := by
    obtain ⟨row, hf, hDismissed⟩ := hR
    obtain ⟨⟨row', hf', hSettles⟩, hAnswer | hKept⟩ :=
      Services.RunStep.settles TraceEvent.pending? h hf
    · obtain ⟨e, answer, hPerforms, hPending⟩ := hAnswer
      have hConsistent := Services.RunReaches.consistent h₀ (hReaches.tail (.inl h)) hf'
      have hClosing := hSettles.closes (hDismissed.symm.imp_left fun hc => hc.1)
      cases e <;> first
        | exact dismissed_of_listed hPerforms hf' hConsistent hClosing
        | cases hPending
    · refine ⟨row', hf', ?_⟩
      rcases hDismissed with hc | ⟨hc, hHolds⟩
      · exact .inl (hSettles.closed hc)
      · exact (hSettles.closing hc).symm.imp_right fun hc => ⟨hc, hKept hHolds⟩
  marked hReaches hPerforms hQ := by
    obtain ⟨row, hf, hClosing⟩ := hQ
    replace hPerforms : sv.Performs .listCleanupPending _ _ _ := hPerforms
    have hJobs := hPerforms.jobs (by simp)
    exact dismissed_of_listed hPerforms (hJobs ▸ hf)
      (Services.RunReaches.consistent h₀ hReaches hf) hClosing

/-! ### The requests -/

/-- Whatever the server goes on to do, its loop does not sleep with the event cleared before `R`. -/
def Services.Heeds (sv : Services P) (o : RealJobOrchestrator) (c : ServerState P)
    (R : World P → Prop) : Prop :=
  ∀ c', sv.RunReaches o c c' → c'.stage = .sleeping → c'.event = false → R c'.state

/-- A request that returned, call by call. -/
theorem exec_ask {e : ApiOp} {α : Type} {f : ApiAns e → ApiTask α} {r : Except ApiExc α}
    (h : Exec (sv.requests o) (Task.ask e >>= f : ApiTask α) c r c') :
    ∃ answer c₁ c₂, sv.RunReaches o c c₁ ∧ sv.Serves e c₁ answer c₂ ∧
      Exec (sv.requests o) (f answer) c₂ r c' := by
  obtain ⟨answer, c₁, c₂, hw, hServes, h⟩ := Exec.ask_bind_inv h
  exact ⟨answer, c₁, c₂, ReflTransGen.mono (fun _ _ hStep => .inl hStep) _ _ hw, hServes, h⟩

/-- A call whose answer may be an exception. -/
theorem exec_call {α β : Type} {e : ApiOp} (answer : ApiAns e → Except PyExc α) {r : β}
    {f : α → ApiTask β}
    (h : Exec (sv.requests o) (α := Except ApiExc β)
      ((Task.ask e >>= fun a => ApiTask.lift (answer a) : ApiTask α) >>= f : ApiTask β) c (.ok r)
      c') :
    ∃ a b c₁ c₂, sv.RunReaches o c c₁ ∧ sv.Serves e c₁ a c₂ ∧ answer a = .ok b ∧
      Exec (sv.requests o) (f b) c₂ (.ok r) c' := by
  obtain ⟨a, b, c₁, c₂, hw, hServes, hAnswer, hRest⟩ := ApiTask.exec_call answer h
  exact ⟨a, b, c₁, c₂, ReflTransGen.mono (fun _ _ hStep => .inl hStep) _ _ hw, hServes, hAnswer,
    hRest⟩

/-- An event that a request records. -/
theorem addEvent_reaches {event : JobEvent} {answer : Except PyExc Unit} {u : Unit}
    (h : sv.Serves (.addEvent event) c answer c') (hAnswer : answer = .ok u) :
    sv.RunReaches o c c' := by
  rcases h with ⟨events, hEvents, -, rfl⟩ | ⟨⟨x, rfl⟩, -⟩
  · exact .single (.inl (.interference (.event hEvents)))
  · cases hAnswer

/-- The steps of `create_job` from its new ID on. -/
theorem acceptJob_exec {repo : RealRuntimeRepository} {ctx : RequestContext} {model : ModelConfig}
    {modelId rangeId : String} {created : CreatedJob}
    (h : Exec (sv.requests o) (α := Except ApiExc CreatedJob)
      (repo.acceptJob ctx model modelId rangeId) c (.ok created) c') :
    (∃ row, c'.state.jobs.find created.jobId = some row) ∧ c'.event = true ∧
      sv.RunReaches o c c' := by
  unfold RealRuntimeRepository.acceptJob at h
  obtain ⟨jobId, c₁, c₂, hw₁, ⟨hMints, rfl⟩, h₁⟩ := exec_ask h
  obtain ⟨createdAt, c₃, c₄, hw₂, ⟨rfl, rfl⟩, h₂⟩ := exec_ask h₁
  obtain ⟨answer, b, c₅, c₆, hw₃, hAdd, hAnswer, h₃⟩ := exec_call (e := .addJob _) id h₂
  obtain ⟨answer', b', c₇, c₈, hw₄, hEvent, hAnswer', h₄⟩ := exec_call (e := .addEvent _) id h₃
  obtain ⟨-, c₉, c₁₀, hw₅, rfl, h₅⟩ := exec_ask h₄
  cases h₅
  have hAccept : sv.RunReaches o c₅ c₆ ∧ ∃ row, c₆.state.jobs.find jobId = some row := by
    rcases hAdd with ⟨jobs, hJobs, -, rfl⟩ | ⟨⟨x, rfl⟩, -⟩
    · refine ⟨.single (.inl (.interference (.accept hMints ?_ hJobs))), ?_⟩
      · exact Services.RunReaches.clock hw₃
      · exact ⟨_, ((JobTable.add_ok hJobs).2 jobId).trans (if_pos rfl)⟩
    · cases hAnswer
  have hRecord : sv.RunReaches o c₇ c₈ := addEvent_reaches hEvent hAnswer'
  have hBefore : sv.RunReaches o c c₆ :=
    ReflTransGen.trans hw₁ (.trans hw₂ (.trans hw₃ hAccept.1))
  have hAfter : sv.RunReaches o c₆ { c₉ with event := true } :=
    ReflTransGen.trans hw₄ (.trans hRecord (.trans hw₅ (.single (.inl .set))))
  obtain ⟨row, hf⟩ := hAccept.2
  exact ⟨Services.RunReaches.row_kept hAfter hf, rfl, hBefore.trans hAfter⟩

/-- `create_job` returned: its row is in the table, and then the event was set. -/
theorem createJob_exec {repo : RealRuntimeRepository} {ctx : RequestContext}
    {modelId rangeId : String} {created : CreatedJob}
    (h : Exec (sv.requests o) (α := Except ApiExc CreatedJob)
      (repo.createJob ctx modelId rangeId) c (.ok created) c') :
    (∃ row, c'.state.jobs.find created.jobId = some row) ∧ c'.event = true ∧
      sv.RunReaches o c c' := by
  obtain ⟨model, c₁, hModel, h₁⟩ := Exec.task_bind_inv h
  obtain ⟨rangeConfig, c₂, hRange, h₂⟩ := Exec.task_bind_inv h₁
  have hNoCall : ∀ {α : Type} {result : Except PyExc α} {a : α} {c c' : ServerState P},
      Exec (sv.requests o) (α := Except ApiExc α) (RealRuntimeRepository.trusted result) c (.ok a)
        c' → c' = c := by
    intro α result a c c' h
    unfold RealRuntimeRepository.trusted at h
    split at h
    · cases h
    · exact (ApiTask.exec_lift h).2
  obtain rfl := hNoCall hModel
  obtain rfl := hNoCall hRange
  clear h h₁ hModel hRange
  cases model with
  | none => cases h₂
  | some model =>
    cases rangeConfig with
    | none => cases h₂
    | some rangeConfig => exact acceptJob_exec h₂

/-- `_require_job` returned. -/
theorem requireJob_exec {ctx : RequestContext} {jobId : String} {job : ControlJob}
    (h : Exec (sv.requests o) (α := Except ApiExc ControlJob)
      (RealRuntimeRepository.requireJob ctx jobId) c (.ok job) c') : sv.RunReaches o c c' := by
  obtain ⟨answer, found, c₁, c₂, hw, ⟨-, rfl⟩, -, h₁⟩ := exec_call (e := .getJob _) id h
  cases found with
  | none => cases h₁
  | some row =>
    simp only at h₁
    split at h₁
    · cases h₁
    · cases h₁
      exact hw

/-- A request to close a Job leaves it closing, or as it was. -/
theorem requestClose_closing {t t' : JobTable} {now : Int} {row : ControlJob} {transitioned : Bool}
    (h : t.requestClose j now = .ok (row, transitioned, t')) (hClosing : row.status = .closing) :
    t'.find j = some row := by
  cases hf : t.find j with
  | none =>
    rw [JobTable.requestClose, hf] at h
    cases h
  | some current =>
    rw [JobTable.requestClose_eq hf] at h
    split at h
    · cases h
      have hId : (current.close now).jobId = j :=
        (closeChanges.write_jobId current now).trans (JobTable.find_jobId hf)
      exact (JobTable.find_replaced hf hId _ j).trans (if_pos rfl)
    · cases h
      exact hf

/-- The `try` clause of `close_job` returned the row that it left in the table. -/
theorem closeRow_exec {repo : RealRuntimeRepository} {ctx : RequestContext} {jobId : String}
    {now : Int} {job : ControlJob}
    (h : Exec (sv.requests o) (α := Except ApiExc ControlJob) (repo.closeRow ctx jobId now) c
      (.ok job) c') (hClosing : job.status = .closing) :
    job.jobId = jobId ∧ sv.RunReaches o c c' ∧ c'.state.Closing jobId := by
  obtain ⟨row, c₁, hRequire, h₁⟩ := Exec.task_bind_inv h
  obtain ⟨answer, ⟨closed, transitioned⟩, c₂, c₃, hw, hServes, hAnswer, h₂⟩ :=
    exec_call (e := .requestClose _ _) id h₁
  have hEvent : closed = job ∧ sv.RunReaches o c₃ c' := by
    cases transitioned with
    | false =>
      cases h₂
      exact ⟨rfl, .refl⟩
    | true =>
      obtain ⟨answer', u, c₄, c₅, hw', hServes', hAnswer', h₃⟩ :=
        exec_call (e := .addEvent _) id h₂
      cases h₃
      exact ⟨rfl, hw'.trans (addEvent_reaches hServes' hAnswer')⟩
  obtain ⟨rfl, hEvent⟩ := hEvent
  rcases hServes with ⟨row', transitioned', jobs, hClose, rfl, rfl⟩ | ⟨⟨x, rfl⟩, -⟩
  · cases hAnswer
    have hf := requestClose_closing hClose hClosing
    have hStep : sv.RunReaches o c₂ { c₂ with state := { c₂.state with jobs := jobs } } :=
      .single (.inl (.interference (.close hClose)))
    exact ⟨JobTable.find_jobId hf,
      (requireJob_exec hRequire).trans (.trans hw (.trans hStep hEvent)),
      hEvent.closing ⟨_, hf, .inl hClosing⟩⟩
  · cases hAnswer

/-- What `close_job` reports of a row, and that it wakes the orchestrator for one that closes. -/
theorem reportClose_exec {repo : RealRuntimeRepository} {job : ControlJob} {result : CloseJobResult}
    (h : Exec (sv.requests o) (α := Except ApiExc CloseJobResult) (repo.reportClose job) c
      (.ok result) c') : result.jobId = job.jobId ∧ result.jobStatus = job.status ∧
        (job.status = .closing → sv.RunReaches o c c' ∧ c'.event = true) := by
  unfold RealRuntimeRepository.reportClose at h
  by_cases hClosing : job.status = .closing
  · simp only [if_pos hClosing] at h
    obtain ⟨-, c₁, c₂, hw, rfl, h₁⟩ := exec_ask h
    cases h₁
    exact ⟨rfl, rfl, fun _ => ⟨hw.tail (.inl .set), rfl⟩⟩
  · simp only [if_neg hClosing] at h
    cases h
    exact ⟨rfl, rfl, fun hc => absurd hc hClosing⟩

/-- `close_job` returned: a Job that closes is in the table so, and then the event was set. -/
theorem closeJob_exec {repo : RealRuntimeRepository} {ctx : RequestContext} {jobId : String}
    {result : CloseJobResult}
    (h : Exec (sv.requests o) (α := Except ApiExc CloseJobResult) (repo.closeJob ctx jobId) c
      (.ok result) c') (hClosing : result.jobStatus = .closing) :
    result.jobId = jobId ∧ c'.state.Closing jobId ∧ c'.event = true ∧ sv.RunReaches o c c' := by
  obtain ⟨now, c₁, c₂, hw₁, ⟨-, rfl⟩, h₁⟩ := exec_ask h
  obtain ⟨job, c₃, hTry, h₂⟩ := Exec.task_bind_inv h₁
  obtain ⟨hResult, hStatus, hWake⟩ := reportClose_exec h₂
  rw [hStatus] at hClosing
  rcases Exec.tryCatch_inv hTry with ⟨job', heq, hRow⟩ | ⟨x, c₄, -, hFailed⟩
  · cases heq
    obtain ⟨hId, hRow, hCloses⟩ := closeRow_exec hRow hClosing
    obtain ⟨hWake, hEvent⟩ := hWake hClosing
    exact ⟨hResult.trans hId, hWake.closing hCloses, hEvent, hw₁.trans (hRow.trans hWake)⟩
  · exact (RealRuntimeRepository.closeFailed_exec hFailed).elim

end

/-- No request is left to the timeout of the loop: once `create_job` has returned a Job, or
`close_job` a Job that closes, the loop does not sleep with its event cleared before a pass has
found the Job, whatever passes, requests and crashes came in between. -/
theorem requests_heeded {sv : Services P} {o : RealJobOrchestrator} {w₀ : World P}
    {c c₁ : ServerState P} {repo : RealRuntimeRepository} {ctx : RequestContext}
    (h₀ : sv.Initial w₀) (h : sv.RunReaches o ⟨w₀, false, .absent⟩ c) :
    (∀ modelId rangeId created, Exec (sv.requests o) (α := Except ApiExc CreatedJob)
        (repo.createJob ctx modelId rangeId) c (.ok created) c₁ →
      sv.Heeds o c₁ (World.Taken · created.jobId)) ∧
    ∀ jobId result, Exec (sv.requests o) (α := Except ApiExc CloseJobResult)
        (repo.closeJob ctx jobId) c (.ok result) c₁ → result.jobStatus = .closing →
      sv.Heeds o c₁ (World.Dismissed · jobId) := by
  constructor
  · intro modelId rangeId created hExec c₂ hLater hStage hEvent
    obtain ⟨hRow, hSet, -⟩ := createJob_exec hExec
    have hHeeds := LoopReaches.heeds taken_marks reconcileOnce_lists (fun _ _ => trivial) hRow hSet
      hLater
    exact hHeeds.2.sleeping hStage hEvent
  · intro jobId result hExec hClosing c₂ hLater hStage hEvent
    obtain ⟨-, hCloses, hSet, hReaches⟩ := closeJob_exec hExec hClosing
    have hHeeds := LoopReaches.heeds (dismissed_marks h₀) reconcileOnce_cleans
      (fun _ hNext => h.trans (hReaches.trans hNext)) hCloses hSet hLater
    exact hHeeds.2.sleeping hStage hEvent

/-- A server that has no Jobs yet. -/
def freshWorld : World Unit where
  jobs := ⟨[], by decide⟩
  events := []
  clock := 0
  platform := ()
  trace := []

/-- The loop runs a pass and goes to sleep. -/
theorem Script.sleeps (sc : Script P) (o : RealJobOrchestrator) {w : World P}
    (h : (sc.pass o w).1 = .ok ()) :
    sc.services.RunReaches o ⟨w, true, .absent⟩ ⟨(sc.pass o w).2, false, .sleeping⟩ :=
  have hPass := (sc.exec_pass o w).loopReaches o.reconcileOnce (· = .ok ()) false
  (((ReflTransGen.single (.inl .start)).tail (.inl .clear)).trans hPass).tail (.inl (.sleep h))

/-- A Job that is created before the first pass, which finds it. -/
theorem requests_heeded_created : ∃ created c₁ c₂,
    Exec (sampleScript.services.requests sampleOrchestrator) (α := Except ApiExc CreatedJob)
      (sampleRepository.createJob { username := none } "model" "range")
      ⟨freshWorld, false, .absent⟩ (.ok created) c₁ ∧
    sampleScript.services.RunReaches sampleOrchestrator c₁ c₂ ∧ c₂.stage = .sleeping ∧
    c₂.state.Taken created.jobId := by
  have hInitial : sampleScript.services.Initial freshWorld :=
    ⟨fun row hRow => absurd hRow List.not_mem_nil, rfl⟩
  obtain ⟨created, w, hExec, hPass⟩ : ∃ created w,
      Exec (sampleScript.services.requests sampleOrchestrator) (α := Except ApiExc CreatedJob)
        (sampleRepository.createJob { username := none } "model" "range")
        ⟨freshWorld, false, .absent⟩ (.ok created) ⟨w, true, .absent⟩ ∧
      (sampleScript.pass sampleOrchestrator w).1 = .ok () := by
    refine ⟨_, _, .call (r := "job_1") .refl ⟨trivial, rfl⟩ (.call .refl ⟨rfl, rfl⟩
      (.call .refl (.inl ⟨_, rfl, rfl, rfl⟩) (.call .refl (.inl ⟨_, rfl, rfl, rfl⟩)
        (.call (r := ()) .refl rfl (.done _ _))))), ?_⟩
    decide +kernel
  have hSleeps := sampleScript.sleeps sampleOrchestrator hPass
  exact ⟨created, _, _, hExec, hSleeps, rfl,
    (requests_heeded hInitial .refl).1 _ _ _ hExec _ hSleeps rfl rfl⟩

end SafactoryServer
