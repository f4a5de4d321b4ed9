import SafactoryServer.Cleanup

/-! The turn of one Job: one specification for each coroutine of `_reconcile` and its handlers.  A
turn leaves the Job ended, closing, or active with its deadlines met and its Gateway healthy. -/

namespace SafactoryServer

open Effect
open Relation (ReflTransGen)

variable {P : Type} {o : RealJobOrchestrator} {sv : Services P} {w : World P}

/-! ### What a turn leaves -/

/-- The calls did not find the Gateway of a running controller lost. -/
def Watched (o : RealJobOrchestrator) (job : ControlJob) (calls : List TraceEvent) : Prop :=
  job.safactoryRjobId.isSome → ∀ url, job.gatewayUrl = some url → ¬ Unhealthy o url calls

/-- What a turn that knew the row `job` in `w` and ended in `w'` may have made of it. -/
inductive Settled (o : RealJobOrchestrator) (sv : Services P) (job : ControlJob) (w w' : World P)
    (row : ControlJob) : Prop
  | failed : row.status = .failed → Settled o sv job w w' row
  | closing : row.status = .closing → Settled o sv job w w' row
  | succeeded : row.status = .succeeded → Watched o job (turnCalls w'.trace) →
      Settled o sv job w w' row
  | active (t : Int) : row.active = true → Watched o job (turnCalls w'.trace) →
      ReflTransGen sv.tick w.clock t → o.expired row t = false → Settled o sv job w w' row
  | conflicted : row.active = true → Watched o job (turnCalls w'.trace) →
      (∃ event ∈ w'.trace, event.Conflicts) → Settled o sv job w w' row

/-- A turn that returned. -/
structure Ends (o : RealJobOrchestrator) (sv : Services P) (job : ControlJob) (w w' : World P) :
    Prop where
  follows : Follows sv job.jobId w w'
  recorded : unrecorded w'.trace = none
  row : ∃ row, w'.jobs.find job.jobId = some row ∧ Settled o sv job w w' row

/-- A turn whose Job has failed or is closing. -/
structure Over (sv : Services P) (j : String) (w w' : World P) : Prop where
  follows : Follows sv j w w'
  recorded : unrecorded w'.trace = none
  row : ∃ row, w'.jobs.find j = some row ∧ (row.status = .failed ∨ row.status = .closing)

/-- A turn that raised `x` to its handlers. -/
structure Raises (o : RealJobOrchestrator) (sv : Services P) (job : ControlJob) (x : PyExc)
    (w w' : World P) : Prop where
  follows : Follows sv job.jobId w w'
  recorded : unrecorded w'.trace = none
  row : ∃ row, w'.jobs.find job.jobId = some row ∧
    (row.status = .failed ∨ row.status = .closing ∨ row.active = true ∧
      Watched o job (turnCalls w'.trace) ∧
      (x = .jobStateConflict → ∃ event ∈ w'.trace, event.Conflicts))

/-- A row that a turn goes on with. -/
def ControlJob.Open (job : ControlJob) : Prop := job.active = true ∨ job.status = .closing

theorem ControlJob.Open.active {job : ControlJob} (h : job.Open) (hc : ¬ job.status = .closing) :
    job.active = true := h.resolve_right hc

theorem ControlJob.Open.closeOnly {job row : ControlJob} (h : job.Open) (hc : job.CloseOnly row) :
    row.Open := hc.opened h

theorem Over.ends {job : ControlJob} {w₀ w' : World P} (h : Over sv job.jobId w₀ w') :
    Ends o sv job w₀ w' := by
  obtain ⟨row, hf, hs⟩ := h.row
  exact ⟨h.follows, h.recorded, row, hf, hs.elim .failed .closing⟩

theorem Over.raises {job : ControlJob} {x : PyExc} {w₀ w' : World P}
    (h : Over sv job.jobId w₀ w') : Raises o sv job x w₀ w' := by
  obtain ⟨row, hf, hs⟩ := h.row
  exact ⟨h.follows, h.recorded, row, hf, hs.imp_right .inl⟩

theorem Over.after {j : String} {w₀ w' : World P} (h : Over sv j w w') (hq : Follows sv j w₀ w) :
    Over sv j w₀ w' := ⟨hq.trans h.follows, h.recorded, h.row⟩

/-! ### The end of a Job -/

theorem Cleaned.over {job : ControlJob} {w₀ w' : World P} (h : Cleaned o sv job w w')
    (hs : job.status = .failed) (hq : Follows sv job.jobId w₀ w) : Over sv job.jobId w₀ w' := by
  obtain ⟨row, hf, heq | ⟨hcl, -⟩⟩ := h.row
  · exact ⟨hq.trans h.follows, h.recorded, row, hf, .inl (heq.trans hs)⟩
  · rw [hs] at hcl
    cases hcl

theorem CleanupRaised.over {job : ControlJob} {x : PyExc} {w₀ w' : World P}
    (h : CleanupRaised sv job x w w') (hs : job.status = .failed)
    (hq : Follows sv job.jobId w₀ w) : Over sv job.jobId w₀ w' :=
  ⟨hq.trans (h.quiet.follows _), h.recorded, job, h.found, .inl hs⟩

/-- `_cleanup` of a failed row. -/
theorem cleanup_failed_safe {job row : ControlJob} {w₀ : World P}
    (hf : w.jobs.find job.jobId = some row) (hs : row.status = .failed)
    (hr : unrecorded w.trace = none) (hq : Follows sv row.jobId w₀ w) :
    (o.cleanup job).Safe sv.system (protocol o sv) (fun _ w' => Over sv row.jobId w₀ w')
      (fun x w' => Over sv row.jobId w₀ w' ∧ ForeignStop x w'.trace) w := by
  have ha : row.active = false := by simp [ControlJob.active, hs]
  exact (cleanup_safe hf hr ha).mono (fun _ _ h => h.over hs hq)
    fun _ _ h => ⟨h.over hs hq, h.foreign⟩

/-- What the write of `_fail` leaves: the failed row, or the row that a close request made closing
before. -/
def FailRecorded (sv : Services P) (j : String) (w : World P) : Option ControlJob → World P → Prop
  | none, w' => Over sv j w w'
  | some row, w' => Follows sv j w w' ∧ unrecorded w'.trace = none ∧ row.jobId = j ∧
      w'.jobs.find j = some row ∧ row.status = .failed

/-- `_fail` of a Job that its turn goes on with, or that has failed before. -/
theorem fail_safe {j reason : String} {row : ControlJob} (hf : w.jobs.find j = some row)
    (hs : row.Open ∨ row.status = .failed) (hr : unrecorded w.trace = none) :
    (o.fail j reason).Safe sv.system (protocol o sv) (fun _ w' => Over sv j w w')
      (fun x w' => Over sv j w w' ∧ ForeignStop x w'.trace) w := by
  simp only [RealJobOrchestrator.fail]
  refine Task.Safe.bind (get_safe hr) (fun answer w₁ h₁ => ?_) fun x w' h => h
  obtain ⟨hq, ht, hfound, hInv⟩ := h₁
  obtain ⟨job, hf₁, hc⟩ := hq.rows hf
  obtain rfl : answer = some job := hfound.symm.trans hf₁
  obtain rfl : job.jobId = j := JobTable.find_jobId hf₁
  have hFollows : Follows sv job.jobId w w₁ := hq.follows _
  have hr₁ : unrecorded w₁.trace = none := by rw [ht]; rfl
  have hs₁ : job.Open ∨ job.status = .failed := by
    rcases hs with hs | hs
    · exact .inl (hs.closeOnly hc)
    · obtain rfl := hc.eq (by simp [ControlJob.active, hs])
      exact .inr hs
  simp only
  split
  · next hstatus =>
    -- only a close request can have won
    refine Task.Safe.pure ⟨hFollows, hr₁, job, hf₁, .inr ?_⟩
    rcases hs₁ with (ha | hcl) | hfailed
    · rw [ControlJob.active_iff] at ha
      rcases hstatus with h | h | h <;> simp [h] at ha ⊢
    · exact hcl
    · rcases hstatus with h | h | h <;> simp [h] at hfailed
  · next hstatus =>
    have hOpen : job.status ≠ .failed → job.active = true := fun hne =>
      (hs₁.resolve_right hne).active fun hcl => hstatus (.inr (.inl hcl))
    split
    · next hfailed =>
      exact cleanup_failed_safe (hf₁) hfailed hr₁ hFollows
    · next hne =>
      have hopen : job.Open := .inl (hOpen hne)
      have hsees : w₁.Sees job := ⟨job, hf₁, .refl job⟩
      refine Task.Safe.bind (now_safe (E := fun _ _ => False)) (fun now w₂ h₂ => ?_)
        fun x w' h => h.elim
      obtain ⟨hq₂, ht₂, rfl, hInv₂⟩ := h₂
      refine Task.Safe.bind (R := FailRecorded sv job.jobId w) (F := fun _ _ => False)
        (Task.Safe.tryCatch (Task.Safe.map ((update_shown_safe hsees
          ((hq₂.sees hsees).clocked hInv₂) hq₂ ht₂ fun row hc' =>
            .failed reason _ (hopen.closeOnly hc') hr₁).mono (fun row w₃ h₃ => ?_) fun _ _ h => h))
          fun x w₃ h₃ => ?_) (fun failed w₃ h₃ => ?_) fun x w' h => h.elim
      · obtain ⟨_, -, hstatus', -⟩ := h₃.status
        refine ⟨hFollows.trans (h₃.follows rfl), by rw [h₃.trace]; rfl,
          h₃.jobId, h₃.found, hstatus'⟩
      · obtain ⟨current, hc', hf₃, ⟨rfl, hcl, -⟩ | ⟨-, hids⟩⟩ := h₃.source
        · exact Task.Safe.pure ⟨hFollows.trans (h₃.follows rfl), by
            rw [h₃.trace]
            exact hr₁, current, hf₃, .inr hcl⟩
        · simp at hids
      · cases failed with
        | none => exact Task.Safe.pure h₃
        | some row =>
          obtain ⟨hFollows₃, hr₃, hid, hf₃, hs₃⟩ := h₃
          rw [← hid] at hf₃ hFollows₃ ⊢
          refine Task.Safe.bind (event_safe ⟨row, hf₃⟩ hr₃) (fun _ w₄ h₄ => ?_) fun x w' h => h
          obtain ⟨hq₄, event, ht₄⟩ := h₄
          have ha : row.active = false := by simp [ControlJob.active, hs₃]
          exact cleanup_failed_safe (hq₄.find hf₃ ha) hs₃ (by rw [ht₄]; rfl)
            (hFollows₃.trans (hq₄.follows _))

/-! ### What a turn has asked about the Gateway of its controller -/

/-- What the calls have asked so far, if the Job has a controller. -/
def Asked (job : ControlJob) (w : World P) (gateway : Option (Except PyExc RJobSnapshot))
    (health : Option (Except PyExc Bool)) : Prop :=
  job.safactoryRjobId.isSome →
    gatewayAnswer (turnCalls w.trace) = gateway ∧ healthAnswer (turnCalls w.trace) = health

section

variable {job : ControlJob} {w' : World P} {gateway : Option (Except PyExc RJobSnapshot)}
  {health : Option (Except PyExc Bool)}

/-- A call about neither an RJob nor the health of the Gateway. -/
theorem Asked.other {e : Op} {answer : Ans e} (h : Asked job w gateway health)
    (ht : w'.trace = .call e answer :: w.trace)
    (he : TraceEvent.InTurn (.call e answer)) (hg : ∀ rjobId, e ≠ .getRJob rjobId)
    (hh : ∀ url path, e ≠ .ready url path) : Asked job w' gateway health := by
  intro hs
  obtain ⟨hgateway, hhealth⟩ := h hs
  rw [ht, show TraceEvent.call e answer :: w.trace = [.call e answer] ++ w.trace from rfl,
    turnCalls_append (by simpa using he)]
  cases e with
  | getRJob rjobId => exact absurd rfl (hg rjobId)
  | ready url path => exact absurd rfl (hh url path)
  | now | listActive | listCleanupPending | get | update | addEvent | createRJob | stopRJob
  | bind => exact ⟨hgateway, hhealth⟩

theorem Asked.gateway_answered {rjobId : String} {answer : Except PyExc RJobSnapshot}
    (h : Asked job w none health) (ht : w'.trace = .call (.getRJob rjobId) answer :: w.trace) :
    Asked job w' (some answer) health := by
  intro hs
  obtain ⟨hgateway, hhealth⟩ := h hs
  rw [ht]
  simp only [turnCalls, gatewayAnswer, healthAnswer, hgateway, hhealth, Option.none_or, and_self]

theorem Asked.health_answered {url path : String} {answer : Except PyExc Bool}
    (h : Asked job w gateway none) (ht : w'.trace = .call (.ready url path) answer :: w.trace) :
    Asked job w' gateway (some answer) := by
  intro hs
  obtain ⟨hgateway, hhealth⟩ := h hs
  rw [ht]
  simp only [turnCalls, gatewayAnswer, healthAnswer, hgateway, hhealth, Option.none_or, and_self]

/-- The first answers stay the first. -/
theorem Asked.cons {first : Except PyExc RJobSnapshot} {healthy : Except PyExc Bool}
    {event : TraceEvent} (h : Asked job w (some first) (some healthy))
    (ht : w'.trace = event :: w.trace) (he : event.InTurn) :
    Asked job w' (some first) (some healthy) := by
  intro hs
  obtain ⟨hgateway, hhealth⟩ := h hs
  rw [ht, show event :: w.trace = [event] ++ w.trace from rfl,
    turnCalls_append (by simpa using he)]
  exact ⟨gatewayAnswer_append hgateway _, healthAnswer_append hhealth _⟩

theorem Asked.watched (h : Asked job w gateway health)
    (hRoute : ∀ snapshot, gateway = some (.ok snapshot) → o.gatewayHasRoute snapshot = true)
    (hHealth : ∀ snapshot healthy, gateway = some (.ok snapshot) → health = some (.ok healthy) →
      healthy = true ∧ ∀ url, job.gatewayUrl = some url → url = o.gatewayUrlOf snapshot) :
    Watched o job (turnCalls w.trace) := by
  intro hs url hurl hUnhealthy
  obtain ⟨hgateway, hhealth⟩ := h hs
  obtain ⟨snapshot, heq, hnone | ⟨healthy, heq', hdiff⟩⟩ := hUnhealthy
  · rw [hRoute snapshot (hgateway.symm.trans heq)] at hnone
    cases hnone
  · obtain ⟨hTrue, hSame⟩ := hHealth snapshot healthy (hgateway.symm.trans heq)
      (hhealth.symm.trans heq')
    exact hdiff hTrue (hSame url hurl).symm

theorem Watched.of_none {calls : List TraceEvent} (h : job.safactoryRjobId = none) :
    Watched o job calls := by
  intro hs
  rw [h] at hs
  cases hs

end

/-! ### The exits of a turn -/

section

variable {job₀ job : ControlJob} {w₀ : World P}

/-- No close request has changed a row that is not active. -/
theorem At.found (h : At sv job₀ w₀ w job) (ha : job.active = false) :
    w.jobs.find job₀.jobId = some job := by
  obtain ⟨row, hf, hclose⟩ := h.sees
  rw [← h.grows.jobId, hf, hclose.eq ha]

theorem At.closing (h : At sv job₀ w₀ w job) (hc : job.status = .closing) :
    Over sv job₀.jobId w₀ w :=
  ⟨h.follows, h.recorded, job, h.found (by simp [ControlJob.active, hc]), .inr hc⟩

/-- The turn raises `x` with its Job still open. -/
theorem At.raises {x : PyExc} (h : At sv job₀ w₀ w job) (hOpen : job.Open)
    (hw : Watched o job₀ (turnCalls w.trace))
    (hx : x = .jobStateConflict → ∃ event ∈ w.trace, event.Conflicts) :
    Raises o sv job₀ x w₀ w := by
  obtain ⟨row, hf, hclose⟩ := h.sees
  refine ⟨h.follows, h.recorded, row, h.grows.jobId ▸ hf, ?_⟩
  rcases hOpen.closeOnly hclose with ha | hcl
  · exact .inr (.inr ⟨ha, hw, hx⟩)
  · exact .inr (.inl hcl)

/-- The turn returns with its Job within its deadline at `t`. -/
theorem At.settled (h : At sv job₀ w₀ w job) (hOpen : job.Open)
    (hw : Watched o job₀ (turnCalls w.trace)) {t : Int} (ht : ReflTransGen sv.tick w₀.clock t)
    (hWithin : o.expired job t = false) : Ends o sv job₀ w₀ w := by
  obtain ⟨row, hf, hclose⟩ := h.sees
  refine ⟨h.follows, h.recorded, row, h.grows.jobId ▸ hf, ?_⟩
  rcases hclose with rfl | ⟨-, now, rfl⟩
  · rcases hOpen with ha | hcl
    · exact .active t ha hw ht hWithin
    · exact .closing hcl
  · exact .closing rfl

/-- A refused write that records no RJob found a closing row. -/
theorem At.refused {now : Int} {changes : Changes} {x : PyExc} {w' : World P}
    (h : At sv job₀ w₀ w job) (hu : Refused sv job now changes w x w')
    (hn : changes.orchestratorAttempt = none)
    (hids : changes.gatewayRjobId = none ∧ changes.safactoryRjobId = none) :
    Over sv job₀.jobId w₀ w' := by
  have hFollows : Follows sv job₀.jobId w₀ w' := h.follows.trans (h.grows.jobId ▸ hu.follows hn)
  obtain ⟨current, -, hf, ⟨rfl, hcl, -⟩ | ⟨-, hsome⟩⟩ := hu.source
  · refine ⟨hFollows, ?_, current, h.grows.jobId ▸ hf, .inr hcl⟩
    rw [hu.trace]
    exact h.recorded
  · simp [hids.1, hids.2] at hsome

theorem At.fail_safe {reason : String} (h : At sv job₀ w₀ w job) (hOpen : job.Open) :
    (o.fail job.jobId reason).Safe sv.system (protocol o sv)
      (fun _ w' => Over sv job₀.jobId w₀ w') (fun _ w' => Over sv job₀.jobId w₀ w') w := by
  obtain ⟨row, hf, hc⟩ := h.sees
  refine (SafactoryServer.fail_safe hf (.inl (hOpen.closeOnly hc)) h.recorded).mono
    (fun _ w' h' => ?_) fun x w' h' => ?_
  · rw [h.grows.jobId] at h'
    exact h'.after h.follows
  · rw [h.grows.jobId] at h'
    exact h'.1.after h.follows

end

/-! ### Binding the files -/

theorem lift_safe {α : Type} {result : Except PyExc α} {Q : α → World P → Prop}
    {E : PyExc → World P → Prop} (hok : ∀ a, result = .ok a → Q a w)
    (herr : ∀ x, result = .error x → E x w) :
    (Coroutine.lift result).Safe sv.system (protocol o sv) Q E w := by
  cases result with
  | ok a => exact hok a rfl
  | error x => exact herr x rfl

theorem conflicted_of_head {w' : World P} {event : TraceEvent} {rest : List TraceEvent}
    (ht : w'.trace = event :: rest) (h : event.Conflicts) :
    ∃ event ∈ w'.trace, event.Conflicts := by
  rw [ht]
  exact ⟨event, List.mem_cons_self, h⟩

section

variable {job₀ job : ControlJob} {w₀ : World P}

/-- A write that requests no status leaves the row open. -/
theorem Updated.open {row : ControlJob} {now : Int} {changes : Changes} {w' : World P}
    (h : Updated sv job now changes w row w') (hs : changes.status = none) (hOpen : job.Open) :
    row.Open := by
  obtain ⟨current, hc, hstatus, -⟩ := h.status
  rw [hs, Option.getD_none] at hstatus
  have := hOpen.closeOnly hc
  simpa [ControlJob.Open, ControlJob.active, hstatus] using this

/-- The row that a write leaves, up to the phase. -/
theorem Updated.wrote {row : ControlJob} {now : Int} {changes : Changes} {w' : World P}
    (h : Updated sv job now changes w row w') :
    ∃ current phase, job.CloseOnly current ∧
      row = { changes with phase := phase }.write current now := by
  obtain ⟨current, allowed, hc, hg, rfl⟩ := h.source
  rcases (ControlJob.guard_ok hg).1 with rfl | ⟨rfl, -⟩
  · exact ⟨current, allowed.phase, hc, rfl⟩
  · exact ⟨current, none, hc, rfl⟩

theorem recordBinding_safe {binding : JobFileBinding} (h : At sv job₀ w₀ w job)
    (hOpen : job.Open) (hb : job.bindingJson = none)
    (hBound : w.trace.head? = some (.call (.bind job.jobId job.rangeId) (.ok binding))) :
    (o.recordBinding job binding).Safe sv.system (protocol o sv)
      (fun row w' => At sv job₀ w₀ w' row ∧ row.Open ∧ row.bindingJson.isSome)
      (fun _ _ => False) w := by
  simp only [RealJobOrchestrator.recordBinding]
  refine update_now_bind h.sees (fun now row hc => ?_) (fun now row w₁ h₁ => ?_)
    fun now x w₁ h₁ => h₁.inactive (.inl rfl) ⟨rfl, rfl⟩
  · refine .bound binding (hOpen.closeOnly hc) (hc.keeps.1.trans hb) h.recorded ?_
    rw [hc.jobId, show row.rangeId = job.rangeId from congrArg Identity.rangeId hc.grows.identity]
    exact hBound
  · obtain ⟨current, phase, hc, hrow⟩ := h₁.wrote
    refine Task.Safe.bind (h.updated h₁ rfl).event_safe (fun _ w₂ h₂ => ?_) fun x w' h => h
    exact Task.Safe.pure ⟨h₂.1, h₁.open rfl hOpen, by rw [hrow]; rfl⟩

/-- What `_bind_files` returns: the bound row, or the row of a Job that failed or is closing. -/
def Bound (sv : Services P) (job₀ : ControlJob) (w₀ : World P) (row : ControlJob) (w' : World P) :
    Prop :=
  At sv job₀ w₀ w' row ∧ row.Open ∧ row.bindingJson.isSome ∨
    Over sv job₀.jobId w₀ w' ∧ (row.terminal = true ∨ row.status = .closing)

/-- The end of `_bind_files` after `FileBindingError`. -/
theorem bindFiles_failed_safe (h : At sv job₀ w₀ w job) (hOpen : job.Open) :
    Task.Safe sv.system (protocol o sv)
      (do
        o.fail job.jobId "FILE_BINDING_FAILED"
        match ← Coroutine.get job.jobId with
        | none => throw .runtimeError
        | some failed => return failed)
      (Bound sv job₀ w₀) (fun x w' => Raises o sv job₀ x w₀ w') w := by
  refine Task.Safe.bind (h.fail_safe hOpen) (fun _ w₁ h₁ => ?_) fun x w' h => h.raises
  refine Task.Safe.bind (get_safe h₁.recorded) (fun answer w₂ h₂ => ?_) fun x w' h => h
  obtain ⟨hq, ht, hfound, -⟩ := h₂
  obtain ⟨row, hf, hs⟩ := h₁.row
  rw [← h.grows.jobId] at hf
  have ha : row.active = false := by rcases hs with hs | hs <;> simp [ControlJob.active, hs]
  obtain rfl : answer = some row := hfound.symm.trans (hq.find hf ha)
  refine Task.Safe.pure (.inr ⟨⟨h₁.follows.trans (hq.follows _), by rw [ht]; rfl, row, ?_, hs⟩, ?_⟩)
  · rw [← h.grows.jobId]
    exact hfound
  · rcases hs with hs | hs
    · exact .inl (by simp [ControlJob.terminal, hs])
    · exact .inr hs

theorem bindFiles_safe (h : At sv job₀ w₀ w job) (hOpen : job.Open)
    (hb : job.bindingJson = none) (hFree : job₀.safactoryRjobId = none) :
    (o.bindFiles job).Safe sv.system (protocol o sv) (Bound sv job₀ w₀)
      (fun x w' => Raises o sv job₀ x w₀ w') w := by
  simp only [RealJobOrchestrator.bindFiles]
  refine update_now_bind h.sees (fun now row hc => .preparing (hOpen.closeOnly hc)
    (hc.keeps.1.trans hb) h.recorded) (fun now row w₁ h₁ => ?_)
    fun now x w₁ h₁ => (h.refused h₁ rfl ⟨rfl, rfl⟩).raises
  have hAt := h.updated h₁ rfl
  obtain ⟨current, phase, hc, hrow⟩ := h₁.wrote
  have hOpen₁ : row.Open := .inl (by rw [hrow]; rfl)
  have hb₁ : row.bindingJson = none := by
    rw [hrow]
    exact hc.keeps.1.trans hb
  refine Task.Safe.bind
    (R := fun bound w' => At sv job₀ w₀ w' row ∧ ∀ binding, bound = some binding →
      w'.trace.head? = some (.call (.bind row.jobId row.rangeId) (.ok binding)))
    (F := fun x w' => Raises o sv job₀ x w₀ w')
    (Task.Safe.tryCatch (Task.Safe.map ((bind_safe hAt.recorded).mono
      (fun binding w₂ h₂ => ?_) fun x w₂ h₂ => h₂)) fun x w₂ h₂ => ?_)
    (fun bound w₂ h₂ => ?_) fun x w' h => h
  · obtain ⟨hq, ht⟩ := h₂
    refine ⟨hAt.quiet hq (by rw [ht]; rfl), fun b hb => ?_⟩
    cases hb
    rw [ht]
    rfl
  · obtain ⟨hq, ht⟩ := h₂
    have hAt₂ := hAt.quiet hq (by rw [ht]; rfl)
    split
    · exact Task.Safe.pure ⟨hAt₂, by simp⟩
    · next x hne =>
      refine Task.Safe.throw (hAt₂.raises hOpen₁ (.of_none hFree) ?_)
      rintro rfl
      exact conflicted_of_head ht rfl
  · obtain ⟨hAt₂, hBound⟩ := h₂
    cases bound with
    | none => exact bindFiles_failed_safe hAt₂ hOpen₁
    | some binding =>
      exact (recordBinding_safe hAt₂ hOpen₁ hb₁ (hBound binding rfl)).mono
        (fun _ _ h => .inl h) fun _ _ h => h.elim

/-! ### The Gateway -/

theorem submitGateway_safe {binding : JobFileBinding} (h : At sv job₀ w₀ w job)
    (hf : w.jobs.find job.jobId = some job) (ha : job.active = true)
    (hnone : job.gatewayRjobId = none) (hb : job.bindingJson.isSome)
    (hFree : job₀.safactoryRjobId = none) :
    (o.submitGateway job binding).Safe sv.system (protocol o sv)
      (fun row w' => At sv job₀ w₀ w' row ∧ row.Open ∧ row.bindingJson = job.bindingJson ∧
        row.gatewayRjobId.isSome)
      (fun x w' => Raises o sv job₀ x w₀ w') w := by
  have hOpen : job.Open := .inl ha
  unfold RealJobOrchestrator.submitGateway
  refine Task.Safe.bind (R := fun spec w' => o.gatewaySpec job binding = .ok spec ∧ w' = w)
    (F := fun x w' => Raises o sv job₀ x w₀ w')
    (lift_safe (fun spec hs => ⟨hs, rfl⟩) fun x hx => ?_) (fun spec w₁ h₁ => ?_) fun _ _ h => h
  · refine h.raises hOpen (.of_none hFree) fun heq => ?_
    exact absurd (heq ▸ hx) (RealJobOrchestrator.gatewaySpec_noConflict job binding)
  obtain ⟨hSpec, rfl⟩ := h₁
  obtain ⟨-, hKey, -⟩ := RealJobOrchestrator.gatewaySpec_ok hSpec
  refine Task.Safe.bind (createRJob_safe
    ⟨h.recorded, job, binding, hf, ha, .inl ⟨hnone, hb, hSpec⟩⟩) (fun rjobId w₂ h₂ => ?_)
    fun x w₂ h₂ => ?_
  · obtain ⟨hq, ht⟩ := h₂
    have hFollows := h.follows.trans (hq.follows _)
    refine update_now_bind (hq.sees h.sees) (fun now row hc => ?_) (fun now row w₃ h₃ => ?_)
      fun now x w₃ h₃ => ?_
    · refine .gatewaySubmitted spec rjobId (hOpen.closeOnly hc) (hc.keeps.1 ▸ hb)
        (hc.keeps.2.1.trans hnone) (by rw [ht]; rfl) ?_
      rw [hKey, hc.jobId]
    · have hAt := h₃.at hFollows h.grows rfl
      obtain ⟨current, phase, hc, hrow⟩ := h₃.wrote
      refine Task.Safe.bind hAt.event_safe (fun _ w₄ h₄ => ?_) fun x w' h => h
      refine Task.Safe.pure ⟨h₄.1, h₃.open rfl hOpen, ?_, by rw [hrow]; rfl⟩
      rw [hrow]
      exact hc.keeps.1
    · obtain ⟨-, -, -, ⟨-, -, hne, -⟩ | ⟨rfl, -⟩⟩ := h₃.source
      · exact absurd rfl hne
      · exact (h₃.at hFollows h.grows rfl).raises hOpen (.of_none hFree) (by simp)
  · obtain ⟨hq, ht⟩ := h₂
    refine (h.quiet hq (by rw [ht]; rfl)).raises hOpen (.of_none hFree) fun heq => ?_
    exact conflicted_of_head ht (by rw [heq]; rfl)

/-- A write of what the platform said about an RJob. -/
structure Noted (sv : Services P) (job₀ : ControlJob) (w₀ : World P) (job : ControlJob)
    (w : World P) (row : ControlJob) (w' : World P) : Prop where
  known : At sv job₀ w₀ w' row
  opened : row.Open
  grows : job.Grows row
  rjobs : row.gatewayRjobId = job.gatewayRjobId ∧ row.safactoryRjobId = job.safactoryRjobId
  trace : ∃ now changes, changes.orchestratorAttempt = none ∧
    w'.trace = .call (.update job.jobId now changes) (.ok row) :: w.trace

theorem Updated.noted {row : ControlJob} {now : Int} {changes : Changes} {w' : World P}
    (hu : Updated sv job now changes w row w') (h : At sv job₀ w₀ w job) (hOpen : job.Open)
    (hs : changes.status = none)
    (hids : changes.gatewayRjobId = none ∧ changes.safactoryRjobId = none)
    (hn : changes.orchestratorAttempt = none) : Noted sv job₀ w₀ job w row w' := by
  obtain ⟨current, phase, hc, hrow⟩ := hu.wrote
  refine ⟨h.updated hu hn, hu.open hs hOpen, hu.grows, ?_, now, changes, hn, hu.trace⟩
  obtain ⟨-, hGateway, -, hController, -⟩ := hc.keeps
  rw [hrow, ← hGateway, ← hController]
  simp only [Changes.write, hids, Option.getD_none, and_self]

/-- A write that requests no status and records no RJob is never refused. -/
theorem note_safe {changes : Changes} (h : At sv job₀ w₀ w job) (hOpen : job.Open)
    (hWrite : ∀ row, job.CloseOnly row → Write o w.trace row changes)
    (hs : changes.status = none)
    (hids : changes.gatewayRjobId = none ∧ changes.safactoryRjobId = none)
    (hn : changes.orchestratorAttempt = none) {E : PyExc → World P → Prop} :
    (Coroutine.now >>= fun now => Coroutine.update job.jobId now changes).Safe
      sv.system (protocol o sv) (Noted sv job₀ w₀ job w) E w := by
  refine (update_now_safe h.sees fun _ => hWrite).mono (fun row w' h' => ?_) fun x w' h' => ?_
  · obtain ⟨now, hu⟩ := h'
    exact hu.noted h hOpen hs hids hn
  · obtain ⟨now, hu⟩ := h'
    exact (hu.inactive (.inl hs) hids).elim

theorem recordGatewayStatus_safe {snapshot : RJobSnapshot} (h : At sv job₀ w₀ w job)
    (hOpen : job.Open) {E : PyExc → World P → Prop} :
    (RealJobOrchestrator.recordGatewayStatus job snapshot).Safe sv.system (protocol o sv)
      (Noted sv job₀ w₀ job w) E w :=
  note_safe h hOpen (fun _ hc => .gatewayStatus snapshot (hOpen.closeOnly hc) h.recorded)
    rfl ⟨rfl, rfl⟩ rfl

theorem recordControllerStatus_safe {snapshot : RJobSnapshot} (h : At sv job₀ w₀ w job)
    (hOpen : job.Open) {E : PyExc → World P → Prop} :
    (RealJobOrchestrator.recordControllerStatus job snapshot).Safe sv.system (protocol o sv)
      (Noted sv job₀ w₀ job w) E w :=
  note_safe h hOpen (fun _ hc => .controllerStatus snapshot job (hOpen.closeOnly hc) h.recorded)
    rfl ⟨rfl, rfl⟩ rfl

/-! ### The controller -/

theorem GateOpen.grows {row row' : ControlJob} {calls : List TraceEvent}
    (h : GateOpen o row calls) (hg : row.Grows row') : GateOpen o row' calls := by
  obtain ⟨rjobId, snapshot, hid, hRoute, hurl, hsub⟩ := h
  refine ⟨rjobId, snapshot, ?_, hRoute, ?_, hsub⟩
  · rw [hg.gateway (by rw [hid]; rfl), hid]
  · rw [hg.url (by rw [hurl]; rfl), hurl]

/-- The turn has bound files and a healthy Gateway for the controller of `job`. -/
structure Serving (o : RealJobOrchestrator) (job₀ : ControlJob) (binding : JobFileBinding)
    (gateway : RJobSnapshot) (job : ControlJob) (w : World P) : Prop where
  bound : ∃ document, job.bindingJson = some document ∧
    JobFileBinding.fromJson document = .ok binding
  gate : GateOpen o job (passCalls w.trace)
  asked : Asked job₀ w (some (.ok gateway)) (some (.ok true))
  route : o.gatewayHasRoute gateway = true
  url : ∀ url, job₀.gatewayUrl = some url → url = o.gatewayUrlOf gateway

section

variable {binding : JobFileBinding} {gateway : RJobSnapshot}

theorem Serving.watched (h : Serving o job₀ binding gateway job w) :
    Watched o job₀ (turnCalls w.trace) := by
  refine h.asked.watched (fun snapshot heq => ?_) fun snapshot healthy heq heq' => ?_
  · cases heq
    exact h.route
  · cases heq
    cases heq'
    exact ⟨rfl, h.url⟩

theorem Serving.cons {row : ControlJob} {w' : World P} {event : TraceEvent}
    (h : Serving o job₀ binding gateway job w) (hg : job.Grows row)
    (ht : w'.trace = event :: w.trace) (he : event.InTurn) :
    Serving o job₀ binding gateway row w' := by
  obtain ⟨document, hdoc, hb⟩ := h.bound
  refine ⟨⟨document, ?_, hb⟩, ?_, h.asked.cons ht he, h.route, h.url⟩
  · rw [hg.binding (by rw [hdoc]; rfl), hdoc]
  · obtain ⟨rjobId, snapshot, hid, hRoute, hurl, hsub⟩ := h.gate.grows hg
    refine ⟨rjobId, snapshot, hid, hRoute, hurl, hsub.trans ?_⟩
    rw [ht, show event :: w.trace = [event] ++ w.trace from rfl,
      passCalls_append (by simpa using he)]
    exact List.sublist_append_right _ _

theorem Serving.follows {row : ControlJob} {w' : World P} {j : String}
    (h : Serving o job₀ binding gateway job w) (hg : job.Grows row) (hf : Follows sv j w w') :
    Serving o job₀ binding gateway row w' := by
  obtain ⟨document, hdoc, hb⟩ := h.bound
  refine ⟨⟨document, ?_, hb⟩, (h.gate.grows hg).follows hf, fun hs => ?_, h.route, h.url⟩
  · rw [hg.binding (by rw [hdoc]; rfl), hdoc]
  · obtain ⟨hgateway, hhealth⟩ := h.asked hs
    exact ⟨hf.gatewayAnswer hgateway, hf.healthAnswer hhealth⟩

theorem Serving.of_trace {w' : World P} (h : Serving o job₀ binding gateway job w)
    (ht : w'.trace = w.trace) : Serving o job₀ binding gateway job w' := by
  obtain ⟨hb, hg, ha, hr, hu⟩ := h
  refine ⟨hb, ht.symm ▸ hg, fun hs => ?_, hr, hu⟩
  rw [ht]
  exact ha hs

/-- The turn after the status of the controller is recorded. -/
theorem reconcileOutcome_safe {rjobId : String} {controller : RJobSnapshot}
    (h : At sv job₀ w₀ w job) (hOpen : job.Open)
    (hServing : Serving o job₀ binding gateway job w) (hid : job.safactoryRjobId = some rjobId)
    (hAsked : .call (.getRJob rjobId) (.ok controller) ∈ passCalls w.trace) :
    (o.reconcileOutcome job binding controller).Safe sv.system (protocol o sv)
      (fun _ w' => Ends o sv job₀ w₀ w') (fun x w' => Raises o sv job₀ x w₀ w') w := by
  unfold RealJobOrchestrator.reconcileOutcome
  have hFail : ∀ reason, Task.Safe sv.system (protocol o sv)
      (do o.fail job.jobId reason; return ())
      (fun _ w' => Ends o sv job₀ w₀ w') (fun x w' => Raises o sv job₀ x w₀ w') w := fun reason =>
    Task.Safe.bind (h.fail_safe hOpen) (fun _ w₁ h₁ => Task.Safe.pure h₁.ends)
      fun x w' h => h.raises
  split
  · next hcl => exact Task.Safe.pure (h.closing hcl).ends
  split
  · next hState =>
    split
    · exact hFail _
    · next hComplete =>
      refine update_now_bind h.sees (fun now row hc => ?_) (fun now row w₁ h₁ => ?_)
        fun now x w₁ h₁ => (h.refused h₁ rfl ⟨rfl, rfl⟩).raises
      · obtain ⟨hb, -, -, hs, -⟩ := hc.keeps
        obtain ⟨document, hdoc, hfrom⟩ := hServing.bound
        exact .succeeded binding document rjobId controller now (hOpen.closeOnly hc)
          (hs.trans hid) (hb.trans hdoc) hfrom hAsked hState (by simpa using hComplete)
          (hServing.gate.grows hc.grows) h.recorded
      · have hs : row.status = .succeeded := by
          obtain ⟨_, -, hs, -⟩ := h₁.status
          exact hs
        refine Task.Safe.bind (h.updated h₁ rfl).event_safe (fun _ w₂ h₂ => ?_) fun x w' h => h
        obtain ⟨hAt, event, ht⟩ := h₂
        have hServing₂ := (hServing.cons h₁.grows h₁.trace rfl).cons (.refl row) ht trivial
        exact Task.Safe.pure ⟨hAt.follows, hAt.recorded, row,
          hAt.found (by simp [ControlJob.active, hs]), .succeeded hs hServing₂.watched⟩
  split
  · exact hFail _
  refine Task.Safe.bind (now_safe (E := fun _ _ => False)) (fun now w₁ h₁ => ?_)
    fun x w' h => h.elim
  obtain ⟨hq, ht, rfl, -⟩ := h₁
  have hAt := h.quiet hq (by rw [ht, h.recorded])
  split
  · exact Task.Safe.bind (hAt.fail_safe hOpen) (fun _ w₂ h₂ => Task.Safe.pure h₂.ends)
      fun x w' h => h.raises
  next hTime =>
  refine hAt.event_safe.mono (fun _ w₂ h₂ => ?_) fun _ _ h => h
  obtain ⟨hAt₂, event, ht₂⟩ := h₂
  refine hAt₂.settled hOpen ((hServing.of_trace ht).cons (.refl job) ht₂ trivial).watched
    hAt.follows.clock ?_
  simpa only [RealJobOrchestrator.expired, hid, Option.isSome_some, if_true,
    Bool.not_eq_true] using hTime

/-- The turn from the status query of the controller on. -/
theorem reconcileController_safe (h : At sv job₀ w₀ w job) (hOpen : job.Open)
    (hServing : Serving o job₀ binding gateway job w) :
    (o.reconcileController job binding gateway).Safe sv.system (protocol o sv)
      (fun _ w' => Ends o sv job₀ w₀ w') (fun x w' => Raises o sv job₀ x w₀ w') w := by
  unfold RealJobOrchestrator.reconcileController
  split
  · refine Task.Safe.bind (h.fail_safe hOpen) (fun _ w₁ h₁ => ?_) fun x w' h => h.raises
    exact Task.Safe.pure h₁.ends
  split
  · next rjobId hid =>
    refine Task.Safe.bind (getRJob_safe h.recorded) (fun controller w₁ h₁ => ?_)
      fun x w₁ h₁ => ?_
    · obtain ⟨hq, ht⟩ := h₁
      have hAt := h.quiet hq (by rw [ht]; rfl)
      refine Task.Safe.bind (recordControllerStatus_safe hAt hOpen) (fun row w₂ h₂ => ?_)
        fun x w' h => h
      obtain ⟨now, changes, hn, ht₂⟩ := h₂.trace
      have hid₂ : row.safactoryRjobId = some rjobId := h₂.rjobs.2.trans hid
      refine reconcileOutcome_safe h₂.known h₂.opened
        ((hServing.cons (.refl job) ht trivial).cons h₂.grows ht₂ hn) hid₂ ?_
      rw [ht₂, ht]
      simp [passCalls]
    · obtain ⟨hq, ht⟩ := h₁
      have hAt := h.quiet hq (by rw [ht]; rfl)
      refine hAt.raises hOpen (hServing.cons (.refl job) ht trivial).watched fun heq => ?_
      exact conflicted_of_head ht (by rw [heq]; rfl)
  · exact Task.Safe.throw (h.raises hOpen hServing.watched (by simp))

/-- The row that a created controller is recorded in. -/
structure Submitted (sv : Services P) (job₀ : ControlJob) (w₀ : World P) (job : ControlJob)
    (w : World P) (row : ControlJob) (w' : World P) : Prop where
  known : At sv job₀ w₀ w' row
  opened : row.Open
  grows : job.Grows row
  follows : Follows sv job.jobId w w'

/-- The fallback of `_submit_safactory` for a close request that won against the create call. -/
theorem recordClosing_safe {spec : RJobSpec} {rjobId : String} {now : Int}
    (hFollows : Follows sv job₀.jobId w₀ w) (hGrows : job₀.Grows job)
    (hf : w.jobs.find job.jobId = some job) (hcl : job.status = .closing)
    (hClocked : Clocked sv job now) (hurl : job.gatewayUrl.isSome)
    (hnone : job.safactoryRjobId = none) (hu : unrecorded w.trace = some (spec, rjobId))
    (hKey : spec.idempotencyKey = job.jobId ++ ":controller") :
    (Coroutine.update job.jobId now (RealJobOrchestrator.controllerChanges job rjobId now)).Safe
      sv.system (protocol o sv) (Submitted sv job₀ w₀ job w)
      (fun x w' => At sv job₀ w₀ w' job ∧ x = .integrityError) w := by
  have ha : job.active = false := by simp [ControlJob.active, hcl]
  refine (update_safe ⟨job, hf, .refl job⟩ hClocked fun row hc => ?_).mono
    (fun row w' h' => ?_) fun x w' h' => ?_
  · obtain rfl := hc.eq ha
    exact .recorded spec rjobId now hcl hurl hnone hu hKey
  · exact ⟨h'.at hFollows hGrows rfl, h'.open rfl (.inr hcl), h'.grows, h'.follows rfl⟩
  · obtain ⟨-, -, -, ⟨-, -, hne, -⟩ | ⟨rfl, -⟩⟩ := h'.source
    · exact absurd rfl hne
    · exact ⟨h'.at hFollows hGrows rfl, rfl⟩

/-- The write of `_submit_safactory` with its fallback: a created controller is recorded also when
a close request has won. -/
theorem recordController_safe {spec : RJobSpec} {rjobId : String}
    (hFollows : Follows sv job₀.jobId w₀ w) (hGrows : job₀.Grows job) (hs : w.Sees job)
    (ha : job.active = true) (hurl : job.gatewayUrl.isSome) (hnone : job.safactoryRjobId = none)
    (hu : unrecorded w.trace = some (spec, rjobId))
    (hKey : spec.idempotencyKey = job.jobId ++ ":controller") {w₁ : World P}
    (hq : Quiet sv w w₁) (ht : w₁.trace = w.trace) (hInv : Inv sv w₁) :
    Task.Safe sv.system (protocol o sv)
      (tryCatch
        (Coroutine.update job.jobId w₁.clock
          { RealJobOrchestrator.controllerChanges job rjobId w₁.clock with
            status := some .running, phase := some "running_safactory" })
        fun
          | .jobStateConflict => Coroutine.update job.jobId w₁.clock
              (RealJobOrchestrator.controllerChanges job rjobId w₁.clock)
          | x => throw x)
      (Submitted sv job₀ w₀ job w)
      (fun x w' => x = .integrityError ∧ ∃ row, At sv job₀ w₀ w' row ∧ row.Open) w₁ := by
  have hOpen : job.Open := .inl ha
  have hChanges : ∀ row, job.CloseOnly row →
      RealJobOrchestrator.controllerChanges row rjobId w₁.clock =
        RealJobOrchestrator.controllerChanges job rjobId w₁.clock := by
    intro row hc
    rw [RealJobOrchestrator.controllerChanges, RealJobOrchestrator.controllerChanges,
      hc.keeps.2.2.2.2]
  refine Task.Safe.tryCatch ((update_shown_safe hs ((hq.sees hs).clocked hInv) hq ht
    fun row hc => ?_).mono (fun row w₂ h₂ => ?_) fun _ _ h => h) fun x w₂ h₂ => ?_
  · rw [← hChanges row hc]
    refine .running spec rjobId _ (hOpen.closeOnly hc) ?_ (hc.keeps.2.2.2.1.trans hnone) hu ?_
    · rw [hc.keeps.2.2.1]
      exact hurl
    · rw [hKey, hc.jobId]
  · obtain ⟨current, phase, -, hrow⟩ := h₂.wrote
    exact ⟨h₂.at hFollows hGrows rfl, .inl (by rw [hrow]; rfl), h₂.grows, h₂.follows rfl⟩
  · obtain ⟨current, hc, hf, ⟨rfl, hcl, -⟩ | ⟨rfl, -⟩⟩ := h₂.source
    · have hFollows₂ := h₂.follows rfl
      have hClocked := (Clocked.closeOnly hc).mpr ((hq.sees hs).clocked hInv)
      have hid : current.jobId = job.jobId := hc.jobId
      rw [← hChanges current hc, ← hid]
      refine (recordClosing_safe (hFollows.trans (hGrows.jobId ▸ hFollows₂))
        (hGrows.trans hc.grows) (hid ▸ hf) hcl hClocked (hc.keeps.2.2.1 ▸ hurl)
        (hc.keeps.2.2.2.1.trans hnone) (by rw [h₂.trace]; exact hu) (hid ▸ hKey)).mono
        (fun row w' h => ?_) fun x w' h => ⟨h.2, current, h.1, .inr hcl⟩
      exact ⟨h.known, h.opened, hc.grows.trans h.grows, hFollows₂.trans (hid ▸ h.follows)⟩
    · exact Task.Safe.throw ⟨rfl, job, h₂.at hFollows hGrows rfl, hOpen⟩

theorem submitSafactory_safe (h : At sv job₀ w₀ w job)
    (hf : w.jobs.find job.jobId = some job) (ha : job.active = true)
    (hnone : job.safactoryRjobId = none) (hServing : Serving o job₀ binding gateway job w) :
    (o.submitSafactory job binding).Safe sv.system (protocol o sv)
      (fun row w' => At sv job₀ w₀ w' row ∧ row.Open ∧ Serving o job₀ binding gateway row w')
      (fun x w' => Raises o sv job₀ x w₀ w') w := by
  have hOpen : job.Open := .inl ha
  have hFree : job₀.safactoryRjobId = none := by
    by_contra hsome
    have := (h.grows.controller (Option.isSome_iff_ne_none.mpr hsome)).1
    exact hsome (this.symm.trans hnone)
  have hurl : job.gatewayUrl.isSome := by
    obtain ⟨_, _, -, -, hurl, -⟩ := hServing.gate
    rw [hurl]
    rfl
  unfold RealJobOrchestrator.submitSafactory
  refine Task.Safe.bind (R := fun spec w' => o.safactorySpec job binding = .ok spec ∧ w' = w)
    (F := fun x w' => Raises o sv job₀ x w₀ w')
    (lift_safe (fun spec hs => ⟨hs, rfl⟩) fun x hx => ?_) (fun spec w₁ h₁ => ?_) fun _ _ h => h
  · refine h.raises hOpen (.of_none hFree) fun heq => ?_
    exact absurd (heq ▸ hx) (RealJobOrchestrator.safactorySpec_noConflict job binding)
  obtain ⟨hSpec, rfl⟩ := h₁
  obtain ⟨-, hKey, -⟩ := RealJobOrchestrator.safactorySpec_ok hSpec
  refine Task.Safe.bind (createRJob_safe
    ⟨h.recorded, job, binding, hf, ha, .inr ⟨hnone, hServing.gate, hSpec⟩⟩)
    (fun rjobId w₂ h₂ => ?_) fun x w₂ h₂ => ?_
  · obtain ⟨hq, ht⟩ := h₂
    have hServing₂ := hServing.follows (.refl job) (hq.follows job.jobId)
    refine Task.Safe.bind (now_safe (E := fun _ _ => False)) (fun now w₃ h₃ => ?_)
      fun x w' h => h.elim
    obtain ⟨hq₃, ht₃, rfl, hInv⟩ := h₃
    refine Task.Safe.bind (recordController_safe (h.follows.trans (hq.follows _)) h.grows
      (hq.sees h.sees) ha hurl hnone (by rw [ht]; rfl) hKey hq₃ ht₃ hInv) (fun row w₄ h₄ => ?_)
      fun x w₄ h₄ => ?_
    · refine Task.Safe.bind h₄.known.event_safe (fun _ w₅ h₅ => ?_) fun x w' h => h
      obtain ⟨hAt, event, ht₅⟩ := h₅
      refine Task.Safe.pure ⟨hAt, h₄.opened, ?_⟩
      exact (hServing₂.follows h₄.grows h₄.follows).cons (.refl row) ht₅ trivial
    · obtain ⟨rfl, row, hAt, hOpen'⟩ := h₄
      exact hAt.raises hOpen' (.of_none hFree) (by simp)
  · obtain ⟨hq, ht⟩ := h₂
    refine (h.quiet hq (by rw [ht]; rfl)).raises hOpen (.of_none hFree) fun heq => ?_
    exact conflicted_of_head ht (by rw [heq]; rfl)

/-- The turn from the last reading of the row before the controller on. -/
theorem reconcileHealthy_safe (h : At sv job₀ w₀ w job) (hOpen : job.Open)
    (hServing : Serving o job₀ binding gateway job w) :
    (o.reconcileHealthy job binding gateway).Safe sv.system (protocol o sv)
      (fun _ w' => Ends o sv job₀ w₀ w') (fun x w' => Raises o sv job₀ x w₀ w') w := by
  unfold RealJobOrchestrator.reconcileHealthy
  refine Task.Safe.bind h.get_safe (fun answer w₁ h₁ => ?_) fun x w' h => h
  obtain ⟨row, rfl, hc, hAt, hf, -, ht⟩ := h₁
  have hOpen₁ := hOpen.closeOnly hc
  have hServing₁ := hServing.cons hc.grows ht trivial
  simp only
  split
  · next hcl => exact Task.Safe.pure (hAt.closing hcl).ends
  next hcl =>
  split
  · exact reconcileController_safe hAt hOpen₁ hServing₁
  · next hnone =>
    refine Task.Safe.bind (submitSafactory_safe hAt hf (hOpen₁.active hcl) (by simpa using hnone)
      hServing₁) (fun row' w₂ h₂ => ?_) fun x w' h => h
    obtain ⟨hAt₂, hOpen₂, hServing₂⟩ := h₂
    split
    · next hcl₂ => exact Task.Safe.pure (hAt₂.closing hcl₂).ends
    · exact reconcileController_safe hAt₂ hOpen₂ hServing₂

/-- The check of the deadline of a Job without a controller. -/
theorem expire_safe {reason : String} (h : At sv job₀ w₀ w job) (hOpen : job.Open)
    (hnone : job.safactoryRjobId = none) (hFree : job₀.safactoryRjobId = none) :
    Task.Safe sv.system (protocol o sv)
      (do
        if RealJobOrchestrator.timedOut job o.settings.gatewayReadyTimeoutSeconds
            (← Coroutine.now) then
          o.fail job.jobId reason
        return)
      (fun _ w' => Ends o sv job₀ w₀ w') (fun x w' => Raises o sv job₀ x w₀ w') w := by
  refine Task.Safe.bind (now_safe (E := fun _ _ => False)) (fun now w₁ h₁ => ?_)
    fun x w' h => h.elim
  obtain ⟨hq, ht, rfl, -⟩ := h₁
  have hAt := h.quiet hq (by rw [ht, h.recorded])
  split
  · exact Task.Safe.bind (hAt.fail_safe hOpen) (fun _ w₂ h₂ => Task.Safe.pure h₂.ends)
      fun x w' h => h.raises
  · next hTime =>
    refine Task.Safe.pure (hAt.settled hOpen (.of_none hFree) hAt.follows.clock ?_)
    simpa only [RealJobOrchestrator.expired, hnone, Option.isSome_none, Bool.false_eq_true,
      if_false, Bool.not_eq_true] using hTime

end

theorem ControlJob.Grows.no_controller {row row' : ControlJob} (h : row.Grows row')
    (hnone : row'.safactoryRjobId = none) : row.safactoryRjobId = none := by
  by_contra hsome
  have heq := (h.controller (Option.isSome_iff_ne_none.mpr hsome)).1
  exact hsome (heq.symm.trans hnone)

/-- The turn has asked about the recorded Gateway, whose files are bound, and about its health. -/
structure Routed (o : RealJobOrchestrator) (job₀ : ControlJob) (binding : JobFileBinding)
    (gateway : RJobSnapshot) (healthy : Bool) (job : ControlJob) (w : World P) : Prop where
  bound : ∃ document, job.bindingJson = some document ∧
    JobFileBinding.fromJson document = .ok binding
  calls : ∃ rjobId, job.gatewayRjobId = some rjobId ∧
    [.call (.ready (o.gatewayUrlOf gateway) o.settings.gatewayHealthPath) (.ok healthy),
      .call (.getRJob rjobId) (.ok gateway)].Sublist (passCalls w.trace)
  asked : Asked job₀ w (some (.ok gateway)) (some (.ok healthy))
  route : o.gatewayHasRoute gateway = true

section

variable {binding : JobFileBinding} {gateway : RJobSnapshot} {healthy : Bool}

theorem Routed.cons {row : ControlJob} {w' : World P} {event : TraceEvent}
    (h : Routed o job₀ binding gateway healthy job w) (hg : job.Grows row)
    (ht : w'.trace = event :: w.trace) (he : event.InTurn) :
    Routed o job₀ binding gateway healthy row w' := by
  obtain ⟨document, hdoc, hb⟩ := h.bound
  obtain ⟨rjobId, hid, hsub⟩ := h.calls
  refine ⟨⟨document, ?_, hb⟩, ⟨rjobId, ?_, hsub.trans ?_⟩, h.asked.cons ht he, h.route⟩
  · rw [hg.binding (by rw [hdoc]; rfl), hdoc]
  · rw [hg.gateway (by rw [hid]; rfl), hid]
  · rw [ht, show event :: w.trace = [event] ++ w.trace from rfl,
      passCalls_append (by simpa using he)]
    exact List.sublist_append_right _ _

theorem Routed.serving (h : Routed o job₀ binding gateway true job w)
    (hurl : job.gatewayUrl = some (o.gatewayUrlOf gateway)) (hg : job₀.Grows job) :
    Serving o job₀ binding gateway job w := by
  obtain ⟨rjobId, hid, hsub⟩ := h.calls
  refine ⟨h.bound, ⟨rjobId, gateway, hid, h.route, hurl, hsub⟩, h.asked, h.route, ?_⟩
  intro url hurl₀
  have heq := hg.url (by rw [hurl₀]; rfl)
  rw [hurl, hurl₀] at heq
  exact (Option.some.inj heq).symm

/-- The turn from the reading of the row that follows the health check on. -/
theorem reconcileRoute_safe (h : At sv job₀ w₀ w job) (hOpen : job.Open)
    (hRouted : Routed o job₀ binding gateway healthy job w) :
    (o.reconcileRoute job binding gateway healthy).Safe sv.system (protocol o sv)
      (fun _ w' => Ends o sv job₀ w₀ w') (fun x w' => Raises o sv job₀ x w₀ w') w := by
  simp only [RealJobOrchestrator.reconcileRoute]
  refine Task.Safe.bind h.get_safe (fun answer w₁ h₁ => ?_) fun x w' h => h
  obtain ⟨row, rfl, hc, hAt, hf, hCons, ht⟩ := h₁
  have hOpen₁ := hOpen.closeOnly hc
  have hRouted₁ := hRouted.cons hc.grows ht trivial
  simp only
  split
  · next hcl => exact Task.Safe.pure (hAt.closing hcl).ends
  have hFail : ∀ reason, Task.Safe sv.system (protocol o sv)
      (do o.fail row.jobId reason; return ())
      (fun _ w' => Ends o sv job₀ w₀ w') (fun x w' => Raises o sv job₀ x w₀ w') w₁ := fun reason =>
    Task.Safe.bind (hAt.fail_safe hOpen₁) (fun _ w₂ h₂ => Task.Safe.pure h₂.ends)
      fun x w' h => h.raises
  split
  · split
    · exact hFail _
    · next hnone =>
      have hnone : row.safactoryRjobId = none := by simpa using hnone
      have hFree := hAt.grows.no_controller hnone
      refine update_now_bind hAt.sees (fun now row' hc' => .unhealthy (hOpen₁.closeOnly hc')
        hAt.recorded) (fun now row' w₂ h₂ => ?_)
        fun now x w₂ h₂ => (h₂.inactive (.inl rfl) ⟨rfl, rfl⟩).elim
      have hNoted := h₂.noted hAt hOpen₁ rfl ⟨rfl, rfl⟩ rfl
      exact expire_safe hNoted.known hNoted.opened (hNoted.rjobs.2.trans hnone) hFree
  next hReady =>
  obtain rfl : healthy = true := by simpa using hReady
  split
  · next url hurl =>
    split
    · exact hFail _
    · next heq =>
      exact reconcileHealthy_safe hAt hOpen₁ (hRouted₁.serving (not_not.mp heq ▸ hurl) hAt.grows)
  · next hurl =>
    refine Task.Safe.bind (now_safe (E := fun _ _ => False)) (fun now w₂ h₂ => ?_)
      fun x w' h => h.elim
    obtain ⟨hq₂, ht₂, rfl, hInv₂⟩ := h₂
    refine Task.Safe.bind (now_safe (E := fun _ _ => False)) (fun readyAt w₃ h₃ => ?_)
      fun x w' h => h.elim
    obtain ⟨hq₃, ht₃, -, -⟩ := h₃
    refine Task.Safe.bind (update_shown_safe hAt.sees ((hq₂.sees hAt.sees).clocked hInv₂)
      (hq₂.trans hq₃) (ht₃.trans ht₂) fun row' hc' => ?_) (fun row' w₄ h₄ => ?_)
      fun x w₄ h₄ => (h₄.inactive (.inl rfl) ⟨rfl, rfl⟩).elim
    · refine .gatewayReady gateway readyAt (hOpen₁.closeOnly hc') ?_ (hc'.keeps.2.2.1.trans hurl)
        hRouted.route hAt.recorded
      obtain ⟨rjobId, hid, -⟩ := hRouted₁.calls
      rw [hc'.keeps.2.1, hid]
      rfl
    · have hNoted := h₄.noted hAt hOpen₁ rfl ⟨rfl, rfl⟩ rfl
      split
      · next hcl => exact Task.Safe.pure (hNoted.known.closing hcl).ends
      refine Task.Safe.bind hNoted.known.event_safe (fun _ w₅ h₅ => ?_) fun x w' h => h
      obtain ⟨hAt₅, event, ht₅⟩ := h₅
      refine reconcileHealthy_safe hAt₅ hNoted.opened (Routed.serving ?_ ?_ hAt₅.grows)
      · exact (hRouted₁.cons h₄.grows h₄.trace rfl).cons (.refl row') ht₅ trivial
      · obtain ⟨current, phase, -, hrow⟩ := h₄.wrote
        rw [hrow]
        rfl

/-- The turn after the status of the Gateway is recorded. -/
theorem reconcileNoted_safe {rjobId : String} (h : At sv job₀ w₀ w job) (hOpen : job.Open)
    (hBound : ∃ document, job.bindingJson = some document ∧
      JobFileBinding.fromJson document = .ok binding)
    (hid : job.gatewayRjobId = some rjobId)
    (hCall : .call (.getRJob rjobId) (.ok gateway) ∈ passCalls w.trace)
    (hAsked : Asked job₀ w (some (.ok gateway)) none) :
    (o.reconcileNoted job binding gateway).Safe sv.system (protocol o sv)
      (fun _ w' => Ends o sv job₀ w₀ w') (fun x w' => Raises o sv job₀ x w₀ w') w := by
  unfold RealJobOrchestrator.reconcileNoted
  have hFail : ∀ reason, Task.Safe sv.system (protocol o sv)
      (do o.fail job.jobId reason; return ())
      (fun _ w' => Ends o sv job₀ w₀ w') (fun x w' => Raises o sv job₀ x w₀ w') w := fun reason =>
    Task.Safe.bind (h.fail_safe hOpen) (fun _ w₁ h₁ => Task.Safe.pure h₁.ends)
      fun x w' h => h.raises
  split
  · next hcl => exact Task.Safe.pure (h.closing hcl).ends
  split
  · exact hFail _
  split
  · split
    · exact hFail _
    · next hnone =>
      have hnone : job.safactoryRjobId = none := by simpa using hnone
      exact expire_safe h hOpen hnone (h.grows.no_controller hnone)
  next hRoute =>
  have hRoute : o.gatewayHasRoute gateway = true := by simpa using hRoute
  refine Task.Safe.bind (ready_safe h.recorded) (fun healthy w₁ h₁ => ?_) fun x w₁ h₁ => ?_
  · obtain ⟨hq, ht⟩ := h₁
    refine reconcileRoute_safe (h.quiet hq (by rw [ht]; rfl)) hOpen
      ⟨hBound, ⟨rjobId, hid, ?_⟩, hAsked.health_answered ht, hRoute⟩
    rw [ht]
    exact (List.singleton_sublist.mpr hCall).cons_cons _
  · obtain ⟨hq, ht⟩ := h₁
    refine (h.quiet hq (by rw [ht]; rfl)).raises hOpen
      ((hAsked.health_answered ht).watched (fun snapshot heq => ?_)
        fun snapshot healthy _ heq => ?_)
      fun heq => conflicted_of_head ht (by rw [heq]; rfl)
    · cases heq
      exact hRoute
    · cases heq

/-- The turn from the status query of the Gateway on. -/
theorem reconcileGateway_safe {rjobId : String} (h : At sv job₀ w₀ w job) (hOpen : job.Open)
    (hBound : ∃ document, job.bindingJson = some document ∧
      JobFileBinding.fromJson document = .ok binding)
    (hid : job.gatewayRjobId = some rjobId) (hAsked : Asked job₀ w none none) :
    (o.reconcileGateway job binding rjobId).Safe sv.system (protocol o sv)
      (fun _ w' => Ends o sv job₀ w₀ w') (fun x w' => Raises o sv job₀ x w₀ w') w := by
  unfold RealJobOrchestrator.reconcileGateway
  refine Task.Safe.bind (getRJob_safe h.recorded) (fun gateway w₁ h₁ => ?_) fun x w₁ h₁ => ?_
  · obtain ⟨hq, ht⟩ := h₁
    have hAt := h.quiet hq (by rw [ht]; rfl)
    refine Task.Safe.bind (recordGatewayStatus_safe hAt hOpen) (fun row w₂ h₂ => ?_) fun x w' h => h
    obtain ⟨document, hdoc, hb⟩ := hBound
    obtain ⟨now, changes, hn, ht₂⟩ := h₂.trace
    refine reconcileNoted_safe h₂.known h₂.opened ⟨document, ?_, hb⟩ (h₂.rjobs.1.trans hid) ?_
      ((hAsked.gateway_answered ht).other ht₂ hn (by simp) (by simp))
    · rw [h₂.grows.binding (by rw [hdoc]; rfl), hdoc]
    · rw [ht₂, ht]
      simp [passCalls]
  · obtain ⟨hq, ht⟩ := h₁
    refine (h.quiet hq (by rw [ht]; rfl)).raises hOpen
      ((hAsked.gateway_answered ht).watched (fun snapshot heq => ?_) fun snapshot _ heq _ => ?_)
      fun heq => conflicted_of_head ht (by rw [heq]; rfl)
    · cases heq
    · cases heq

theorem Asked.of_none {gateway : Option (Except PyExc RJobSnapshot)}
    {health : Option (Except PyExc Bool)} (h : job₀.safactoryRjobId = none) :
    Asked job₀ w gateway health := by
  intro hs
  rw [h] at hs
  cases hs

theorem Asked.watched_none {health : Option (Except PyExc Bool)} (h : Asked job₀ w none health) :
    Watched o job₀ (turnCalls w.trace) :=
  h.watched (fun _ heq => by cases heq) fun _ _ heq _ => by cases heq

theorem ControlJob.Open.not_terminal (h : job.Open) (ht : job.terminal = true) : False := by
  rw [ControlJob.terminal_iff] at ht
  rcases h with h | h
  · rw [ControlJob.active_iff] at h
    rcases ht with ht | ht | ht <;> simp [ht] at h
  · rcases ht with ht | ht | ht <;> simp [ht] at h

/-- The turn of a Job whose files are bound. -/
theorem reconcileBound_safe (h : At sv job₀ w₀ w job) (hOpen : job.Open)
    (hAsked : Asked job₀ w none none) :
    (o.reconcileBound job).Safe sv.system (protocol o sv)
      (fun _ w' => Ends o sv job₀ w₀ w') (fun x w' => Raises o sv job₀ x w₀ w') w := by
  unfold RealJobOrchestrator.reconcileBound
  split
  case h_2 => exact Task.Safe.throw (h.raises hOpen hAsked.watched_none (by simp))
  next document hdoc =>
  refine Task.Safe.bind (R := fun binding w' => JobFileBinding.fromJson document = .ok binding ∧
      w' = w) (F := fun x w' => Raises o sv job₀ x w₀ w')
    (lift_safe (fun binding hb => ⟨hb, rfl⟩) fun x hx => ?_) (fun binding w₁ h₁ => ?_)
    fun _ _ h => h
  · refine h.raises hOpen hAsked.watched_none fun heq => ?_
    exact absurd (heq ▸ hx) (JobFileBinding.fromJson_noConflict document)
  obtain ⟨hb, rfl⟩ := h₁
  refine Task.Safe.bind h.get_safe (fun answer w₂ h₂ => ?_) fun x w' h => h
  obtain ⟨row, rfl, hc, hAt, hf, hCons, ht⟩ := h₂
  have hOpen₂ := hOpen.closeOnly hc
  have hdoc₂ : row.bindingJson = some document := hc.keeps.1.trans hdoc
  have hAsked₂ := hAsked.other ht trivial (by simp) (by simp)
  simp only
  split
  · next hcl => exact Task.Safe.pure (hAt.closing hcl).ends
  next hcl =>
  split
  · next rjobId hid => exact reconcileGateway_safe hAt hOpen₂ ⟨document, hdoc₂, hb⟩ hid hAsked₂
  · next hnone =>
    have hFree : job₀.safactoryRjobId = none := by
      refine hAt.grows.no_controller (Option.not_isSome_iff_eq_none.mp fun hsome => ?_)
      have := (hCons.url (hCons.controller hsome)).1
      rw [hnone] at this
      cases this
    refine Task.Safe.bind (submitGateway_safe hAt hf (hOpen₂.active hcl) hnone
      (by rw [hdoc₂]; rfl) hFree) (fun row' w₃ h₃ => ?_) fun x w' h => h
    obtain ⟨hAt₃, hOpen₃, hdoc₃, hsome⟩ := h₃
    split
    · next hEnd =>
      exact Task.Safe.pure (hAt₃.closing (hEnd.resolve_left hOpen₃.not_terminal)).ends
    split
    · next hnone' =>
      rw [hnone'] at hsome
      cases hsome
    · next rjobId hid =>
      exact reconcileGateway_safe hAt₃ hOpen₃ ⟨document, hdoc₃.trans hdoc₂, hb⟩ hid
        (.of_none hFree)

end

/-! ### The whole turn -/

/-- The turn after its attempt is counted, in `w`. -/
theorem reconcileCounted_safe {job : ControlJob} (hf : w.jobs.find job.jobId = some job)
    (hOpen : job.Open) (hCons : job.Consistent) (hr : unrecorded w.trace = none)
    (hStart : turnCalls w.trace = []) :
    (o.reconcileCounted job).Safe sv.system (protocol o sv)
      (fun _ w' => Ends o sv job w w') (fun x w' => Raises o sv job x w w') w := by
  have hAt : At sv job w w job := ⟨.refl sv _ w, .refl job, ⟨job, hf, .refl job⟩, hr⟩
  unfold RealJobOrchestrator.reconcileCounted
  split
  · next hcl => exact Task.Safe.pure (hAt.closing hcl).ends
  refine Task.Safe.bind hAt.event_safe (fun _ w₁ h₁ => ?_) fun x w' h => h
  obtain ⟨hAt₁, event, ht⟩ := h₁
  split
  · refine reconcileBound_safe hAt₁ hOpen (Asked.other (w := w) ?_ ht trivial (by simp) (by simp))
    intro _
    rw [hStart]
    exact ⟨rfl, rfl⟩
  · next hnone =>
    have hnone : job.bindingJson = none := by simpa using hnone
    have hFree : job.safactoryRjobId = none := by
      refine Option.not_isSome_iff_eq_none.mp fun hsome => ?_
      have := hCons.binding (hCons.url (hCons.controller hsome)).1
      rw [hnone] at this
      cases this
    refine Task.Safe.bind (bindFiles_safe hAt₁ hOpen hnone hFree) (fun row w₂ h₂ => ?_)
      fun x w' h => h
    rcases h₂ with ⟨hAt₂, hOpen₂, -⟩ | ⟨hOver, hEnd⟩
    · split
      · next hEnd =>
        exact Task.Safe.pure (hAt₂.closing (hEnd.resolve_left hOpen₂.not_terminal)).ends
      · exact reconcileBound_safe hAt₂ hOpen₂ (.of_none hFree)
    · rw [if_pos hEnd]
      exact Task.Safe.pure hOver.ends

end

/-- The attempt that a turn counts: it found `job` in `w` and left `row` in `w'`. -/
structure Counted (sv : Services P) (job row : ControlJob) (w w' : World P) : Prop where
  grows : job.Grows row
  frame : Frame sv job.jobId w w'
  turn : turns w'.trace = (some job.jobId, []) :: turns w.trace
  start : turnCalls w'.trace = []

theorem reconcile_safe {job : ControlJob} (hs : w.Sees job) (hOpen : job.Open)
    (hr : unrecorded w.trace = none) :
    (o.reconcile job).Safe sv.system (protocol o sv)
      (fun _ w' => ∃ row w₁, Counted sv job row w w₁ ∧ Ends o sv row w₁ w')
      (fun x w' => ∃ row w₁, Counted sv job row w w₁ ∧ Raises o sv row x w₁ w') w := by
  unfold RealJobOrchestrator.reconcile
  refine update_now_bind hs (fun now row hc => .attempt _ (hOpen.closeOnly hc) hr)
    (fun now row w₁ h₁ => ?_) fun now x w₁ h₁ => (h₁.inactive (.inl rfl) ⟨rfl, rfl⟩).elim
  have hCounted : Counted sv job row w w₁ := by
    refine ⟨h₁.grows, h₁.frame, ?_, ?_⟩
    · rw [h₁.trace]
      rfl
    · rw [h₁.trace]
      rfl
  refine (reconcileCounted_safe (h₁.jobId.symm ▸ h₁.found) (h₁.open rfl hOpen) h₁.consistent
    ?_ hCounted.start).mono (fun _ w' h => ⟨row, w₁, hCounted, h⟩)
    fun x w' h => ⟨row, w₁, hCounted, h⟩
  rw [h₁.trace]
  rfl

section

variable {job : ControlJob} {w₀ : World P} {x : PyExc}

theorem Raises.found (h : Raises o sv job x w₀ w) :
    ∃ row, w.jobs.find job.jobId = some row ∧ (row.Open ∨ row.status = .failed) := by
  obtain ⟨row, hf, hs | hs | ⟨ha, -⟩⟩ := h.row
  · exact ⟨row, hf, .inr hs⟩
  · exact ⟨row, hf, .inl (.inr hs)⟩
  · exact ⟨row, hf, .inl (.inl ha)⟩

/-- A handler that fails the Job. -/
theorem fail_raised_safe {reason : String} (hFollows : Follows sv job.jobId w₀ w)
    (hr : unrecorded w.trace = none)
    (hs : ∃ row, w.jobs.find job.jobId = some row ∧ (row.Open ∨ row.status = .failed)) :
    (o.fail job.jobId reason).Safe sv.system (protocol o sv) (fun _ w' => Ends o sv job w₀ w')
      (fun y w' => Ends o sv job w₀ w' ∧ ForeignStop y w'.trace) w := by
  obtain ⟨row, hf, hs⟩ := hs
  exact (fail_safe hf hs hr).mono (fun _ w' h => (h.after hFollows).ends) fun y w' h =>
    ⟨(h.1.after hFollows).ends, h.2⟩

theorem dependencyError_safe {job' : ControlJob} (h : Raises o sv job x w₀ w)
    (hid : job'.jobId = job.jobId) :
    (o.dependencyError job').Safe sv.system (protocol o sv) (fun _ w' => Ends o sv job w₀ w')
      (fun y w' => Ends o sv job w₀ w' ∧ ForeignStop y w'.trace) w := by
  simp only [RealJobOrchestrator.dependencyError, hid]
  obtain ⟨row, hf, hs⟩ := h.row
  refine Task.Safe.bind (get_safe h.recorded) (fun answer w₁ h₁ => ?_) fun x w' h => h
  obtain ⟨hq₁, ht₁, hfound, -⟩ := h₁
  obtain ⟨latest, hf₁, hc₁⟩ := hq₁.rows hf
  obtain rfl : answer = some latest := hfound.symm.trans hf₁
  refine Task.Safe.bind (now_safe (E := fun _ _ => False)) (fun now w₂ h₂ => ?_)
    fun x w' h => h.elim
  obtain ⟨hq₂, ht₂, rfl, -⟩ := h₂
  obtain ⟨last, hf₂, hc₂⟩ := hq₂.rows hf₁
  have hFollows : Follows sv job.jobId w₀ w₂ := h.follows.trans ((hq₁.trans hq₂).follows job.jobId)
  have hr : unrecorded w₂.trace = none := by rw [ht₂, ht₁]; rfl
  have hc := hc₁.trans hc₂
  split
  · refine fail_raised_safe hFollows hr ⟨last, hf₂, ?_⟩
    rcases hs with hs | hs | ⟨ha, -⟩
    · exact .inr (hc.eq (by simp [ControlJob.active, hs]) ▸ hs)
    · exact .inl (hc.opened (.inr hs))
    · exact .inl (hc.opened (.inl ha))
  · next hTime =>
    refine Task.Safe.pure ⟨hFollows, hr, last, hf₂, ?_⟩
    rcases hs with hs | hs | ⟨ha, hw, -⟩
    · exact .failed (hc.eq (by simp [ControlJob.active, hs]) ▸ hs)
    · exact .closing (hc.eq (by simp [ControlJob.active, hs]) ▸ hs)
    rcases hc₂ with rfl | ⟨-, now, rfl⟩
    · rcases hc₁ with rfl | ⟨-, now, rfl⟩
      · refine .active w₂.clock ha ?_ hFollows.clock (by simpa using hTime)
        rw [ht₂, ht₁]
        exact hw
      · exact .closing rfl
    · exact .closing rfl

theorem handle_safe {job' : ControlJob} (h : Raises o sv job x w₀ w)
    (hid : job'.jobId = job.jobId) :
    (o.handle job' x).Safe sv.system (protocol o sv) (fun _ w' => Ends o sv job w₀ w')
      (fun y w' => Ends o sv job w₀ w' ∧ ForeignStop y w'.trace) w := by
  unfold RealJobOrchestrator.handle
  split
  · exact dependencyError_safe h hid
  · exact dependencyError_safe h hid
  · obtain ⟨row, hf, hs⟩ := h.row
    refine Task.Safe.pure ⟨h.follows, h.recorded, row, hf, ?_⟩
    rcases hs with hs | hs | ⟨ha, hw, hx⟩
    · exact .failed hs
    · exact .closing hs
    · exact .conflicted ha hw (hx rfl)
  · rw [hid]
    exact fail_raised_safe h.follows h.recorded h.found

end

/-- A turn of `job` that began in `w` and returned, or ended with an exception, in `w'`. -/
structure Turned (o : RealJobOrchestrator) (sv : Services P) (job : ControlJob) (w w' : World P) :
    Prop where
  frame : Frame sv job.jobId w w'
  recorded : unrecorded w'.trace = none
  turn : turns w'.trace = (some job.jobId, turnCalls w'.trace) :: turns w.trace
  row : ∃ row, w'.jobs.find job.jobId = some row ∧ Settled o sv job w w' row

theorem Watched.of_grows {job row : ControlJob} {calls : List TraceEvent}
    (h : Watched o row calls) (hg : job.Grows row) : Watched o job calls := by
  intro hs url hurl
  refine h ?_ url ?_
  · rw [(hg.controller hs).1, hs]
  · rw [hg.url (by rw [hurl]; rfl), hurl]

theorem Settled.of_grows {job row last : ControlJob} {w₁ w' : World P}
    (h : Settled o sv row w₁ w' last) (hg : job.Grows row)
    (ht : ReflTransGen sv.tick w.clock w₁.clock) : Settled o sv job w w' last := by
  cases h with
  | failed hs => exact .failed hs
  | closing hs => exact .closing hs
  | succeeded hs hw => exact .succeeded hs (hw.of_grows hg)
  | active t ha hw ht' hWithin => exact .active t ha (hw.of_grows hg) (ht.trans ht') hWithin
  | conflicted ha hw hc => exact .conflicted ha (hw.of_grows hg) hc

theorem Counted.turned {job row : ControlJob} {w₁ w' : World P} (h : Counted sv job row w w₁)
    (hEnds : Ends o sv row w₁ w') : Turned o sv job w w' := by
  have hid : row.jobId = job.jobId := h.grows.jobId
  obtain ⟨last, hf, hSettled⟩ := hEnds.row
  obtain ⟨new, heq, hnew⟩ := hEnds.follows.trace
  refine ⟨h.frame.trans (hid ▸ hEnds.follows.toFrame), hEnds.recorded, ?_, last, hid ▸ hf,
    hSettled.of_grows h.grows h.frame.clock⟩
  rw [heq, turns_append hnew h.turn, turnCalls_append hnew, h.start]

/-- One round of the first loop of `reconcile_once`. -/
theorem turn_safe {job : ControlJob} (hs : w.Sees job) (hOpen : job.Open)
    (hr : unrecorded w.trace = none) :
    (o.turn job).Safe sv.system (protocol o sv) (fun _ w' => Turned o sv job w w')
      (fun x w' => Turned o sv job w w' ∧ ForeignStop x w'.trace) w := by
  refine Task.Safe.tryCatch ((reconcile_safe hs hOpen hr).mono (fun _ w' h => ?_)
    fun _ _ h => h) fun x w' h => ?_
  · obtain ⟨row, w₁, hCounted, hEnds⟩ := h
    exact hCounted.turned hEnds
  · obtain ⟨row, w₁, hCounted, hRaises⟩ := h
    exact (handle_safe hRaises hCounted.grows.jobId.symm).mono
      (fun _ _ hEnds => hCounted.turned hEnds) fun _ _ h => ⟨hCounted.turned h.1, h.2⟩

end SafactoryServer
