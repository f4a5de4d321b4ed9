import SafactoryServer.Calls

/-! What a cleanup attempt does: the stops in their order, and the row that it leaves. -/

namespace SafactoryServer

open Effect
open Relation (ReflTransGen)

variable {P : Type} {o : RealJobOrchestrator} {sv : Services P} {w : World P}

/-- The calls of a cleanup attempt that has made `stops`. -/
structure CleanupCalls (stops : List (String × Except PyExc Unit)) (calls : List TraceEvent) :
    Prop where
  stops : stopsOf calls = stops
  creates : ∀ spec answer, .call (.createRJob spec) answer ∉ calls

theorem CleanupCalls.cons {stops : List (String × Except PyExc Unit)} {event : TraceEvent}
    {calls : List TraceEvent} (h : CleanupCalls stops calls)
    (hStop : stopsOf (event :: calls) = stopsOf calls)
    (hCreate : ∀ spec answer, event ≠ .call (.createRJob spec) answer) :
    CleanupCalls stops (event :: calls) := by
  refine ⟨hStop.trans h.stops, fun spec answer hMem => ?_⟩
  rcases List.mem_cons.mp hMem with heq | hMem
  · exact hCreate spec answer heq.symm
  · exact h.creates spec answer hMem

theorem CleanupCalls.stop {stops : List (String × Except PyExc Unit)} {calls : List TraceEvent}
    {rjobId : String} {answer : Except PyExc Unit} (h : CleanupCalls stops calls) :
    CleanupCalls ((rjobId, answer) :: stops) (.call (.stopRJob rjobId) answer :: calls) := by
  refine ⟨by rw [stopsOf, h.stops], fun spec created hMem => ?_⟩
  rcases List.mem_cons.mp hMem with heq | hMem
  · cases heq
  · exact h.creates spec created hMem

/-- The cleanup attempt that read the row `job` in `w` has made `stops`, and the row is as it was
read. -/
structure Cleaning (sv : Services P) (job : ControlJob)
    (stops : List (String × Except PyExc Unit)) (w w' : World P) : Prop where
  quiet : Quiet sv w w'
  found : w'.jobs.find job.jobId = some job
  recorded : unrecorded w'.trace = none
  attempt : attempt w'.trace = some (job, stops)
  calls : ∃ new, w'.trace = new ++ w.trace ∧ CleanupCalls stops new

/-- A stop of the attempt raised `x`. -/
structure StopRaised (sv : Services P) (job : ControlJob) (x : PyExc) (w w' : World P) : Prop where
  quiet : Quiet sv w w'
  found : w'.jobs.find job.jobId = some job
  recorded : unrecorded w'.trace = none
  raised : ∃ rjobId stops new, w'.trace = .call (.stopRJob rjobId) (.error x) :: (new ++ w.trace) ∧
    StopOrder job rjobId stops ∧ CleanupCalls stops new

theorem Cleaning.event_safe {job : ControlJob} {stops : List (String × Except PyExc Unit)}
    {w₀ : World P} {eventType : String} {E : PyExc → World P → Prop}
    (h : Cleaning sv job stops w₀ w) (ha : job.active = false) :
    (o.event job eventType).Safe sv.system (protocol o sv)
      (fun _ w' => Cleaning sv job stops w₀ w') E w := by
  refine (SafactoryServer.event_safe ⟨job, h.found⟩ h.recorded).mono ?_ fun _ _ h => h
  rintro - w' ⟨hq, event, ht⟩
  obtain ⟨new, hnew, hCalls⟩ := h.calls
  refine ⟨h.quiet.trans hq, hq.find h.found ha, ?_, ?_, _ :: new, by rw [ht, hnew]; rfl,
    hCalls.cons rfl fun _ _ heq => by cases heq⟩
  · rw [ht]
    rfl
  · rw [ht]
    exact h.attempt

theorem Cleaning.stop_safe {job : ControlJob} {stops : List (String × Except PyExc Unit)}
    {w₀ : World P} {rjobId : String} (h : Cleaning sv job stops w₀ w) (ha : job.active = false)
    (hk : o.settings.keepRjobs = true → job.status = .closing)
    (hOrder : StopOrder job rjobId stops) :
    (Coroutine.stopRJob rjobId).Safe sv.system (protocol o sv)
      (fun _ w' => Cleaning sv job ((rjobId, .ok ()) :: stops) w₀ w')
      (fun x w' => StopRaised sv job x w₀ w') w := by
  obtain ⟨new, hnew, hCalls⟩ := h.calls
  refine (stopRJob_safe ⟨h.recorded, job, stops, h.attempt, h.found, ha, hk, hOrder⟩).mono ?_ ?_
  · rintro - w' ⟨hq, ht⟩
    refine ⟨h.quiet.trans hq, hq.find h.found ha, by rw [ht]; rfl, ?_, _ :: new,
      by rw [ht, hnew]; rfl, hCalls.stop⟩
    rw [ht]
    simp only [SafactoryServer.attempt, h.attempt, Option.map_some]
  · rintro x w' ⟨hq, ht⟩
    exact ⟨h.quiet.trans hq, hq.find h.found ha, by rw [ht]; rfl, _, stops, new, by rw [ht, hnew],
      hOrder, hCalls⟩

/-- The stops of an attempt at the row that did not fail, newest first. -/
def ControlJob.allStops (row : ControlJob) : List (String × Except PyExc Unit) :=
  (if row.gatewayRjobId.getD "" = "" then [] else [(row.gatewayRjobId.getD "", .ok ())]) ++
    if row.safactoryRjobId.getD "" = "" then [] else [(row.safactoryRjobId.getD "", .ok ())]

theorem allStops_stopped (row : ControlJob) : AllStopped row row.allStops := by
  refine ⟨fun stop hMem => ?_, fun hne => ?_, fun hne => ?_⟩
  · rcases List.mem_append.mp hMem with hMem | hMem <;> split at hMem
    · cases hMem
    · rw [List.mem_singleton.mp hMem]
    · cases hMem
    · rw [List.mem_singleton.mp hMem]
  · refine List.mem_append_right _ ?_
    rw [if_neg hne]
    exact List.mem_singleton_self _
  · refine List.mem_append_left _ ?_
    rw [if_neg hne]
    exact List.mem_singleton_self _

theorem stopController_safe {job : ControlJob} {w₀ : World P} (h : Cleaning sv job [] w₀ w)
    (ha : job.active = false) (hk : o.settings.keepRjobs = true → job.status = .closing) :
    (o.stopController job).Safe sv.system (protocol o sv)
      (fun _ w' => (job.safactoryRjobId.getD "" = "" ∧ Cleaning sv job [] w₀ w') ∨
        job.safactoryRjobId.getD "" ≠ "" ∧
          Cleaning sv job [(job.safactoryRjobId.getD "", .ok ())] w₀ w')
      (fun x w' => StopRaised sv job x w₀ w') w := by
  simp only [RealJobOrchestrator.stopController]
  split
  · next hne =>
    refine Task.Safe.bind (h.event_safe ha) (fun _ w₁ h₁ => ?_) fun _ _ h => h
    refine Task.Safe.bind (h₁.stop_safe ha hk (.controller hne)) (fun _ w₂ h₂ => ?_)
      fun _ _ h => h
    exact (h₂.event_safe ha).mono (fun _ _ h => .inr ⟨hne, h⟩) fun _ _ h => h
  · next he => exact Task.Safe.pure (.inl ⟨not_not.mp he, h⟩)

theorem stopRecorded_safe {job : ControlJob} {w₀ : World P} (h : Cleaning sv job [] w₀ w)
    (ha : job.active = false) (hk : o.settings.keepRjobs = true → job.status = .closing) :
    (o.stopRecorded job).Safe sv.system (protocol o sv)
      (fun _ w' => Cleaning sv job job.allStops w₀ w') (fun x w' => StopRaised sv job x w₀ w')
      w := by
  unfold RealJobOrchestrator.stopRecorded
  refine Task.Safe.bind (stopController_safe h ha hk) (fun _ w₁ h₁ => ?_) fun _ _ h => h
  simp only [RealJobOrchestrator.stopGateway]
  split
  · next hg =>
    rcases h₁ with ⟨hnone, h₁⟩ | ⟨hne, h₁⟩
    · refine Task.Safe.bind (h₁.stop_safe ha hk (.gateway hg hnone)) (fun _ w₂ h₂ => ?_)
        fun _ _ h => h
      refine (h₂.event_safe ha).mono (fun _ _ h => ?_) fun _ _ h => h
      rwa [ControlJob.allStops, if_neg hg, if_pos hnone]
    · refine Task.Safe.bind (h₁.stop_safe ha hk (.gatewayLast hg hne)) (fun _ w₂ h₂ => ?_)
        fun _ _ h => h
      refine (h₂.event_safe ha).mono (fun _ _ h => ?_) fun _ _ h => h
      rwa [ControlJob.allStops, if_neg hg, if_neg hne]
  · next hg =>
    refine Task.Safe.pure ?_
    rcases h₁ with ⟨hnone, h₁⟩ | ⟨hne, h₁⟩
    · rwa [ControlJob.allStops, if_pos (not_not.mp hg), if_pos hnone]
    · rwa [ControlJob.allStops, if_pos (not_not.mp hg), if_neg hne]

/-- What a cleanup attempt at the row `job` made of it, with these stops: without `keep_rjobs`, or
at a closing row, it finishes only when every recorded RJob was stopped. -/
inductive Outcome (o : RealJobOrchestrator) (job row : ControlJob) :
    List (String × Except PyExc Unit) → Prop
  | finished (stops : List (String × Except PyExc Unit)) : (∀ stop ∈ stops, stop.2 = .ok ()) →
      (o.settings.keepRjobs = false ∨ job.status = .closing → stops = job.allStops) →
      row.cleanupRequested = 0 →
      row.status = (if job.status = .closing then .closed else job.status) → Outcome o job row stops
  | postponed (rjobId : String) (stops : List (String × Except PyExc Unit)) : row = job →
      StopOrder job rjobId stops →
      Outcome o job row ((rjobId, .error .rjobDependencyError) :: stops)

/-- The state after a cleanup attempt at the row `job`, which was not active. -/
structure Cleaned (o : RealJobOrchestrator) (sv : Services P) (job : ControlJob) (w w' : World P) :
    Prop where
  follows : Follows sv job.jobId w w'
  recorded : unrecorded w'.trace = none
  outcome : ∃ row new stops, w'.jobs.find job.jobId = some row ∧ w'.trace = new ++ w.trace ∧
    CleanupCalls stops new ∧ Outcome o job row stops
  ended : ∀ x, ¬ ForeignStop x w'.trace

theorem Cleaned.row {job : ControlJob} {w' : World P} (h : Cleaned o sv job w w') :
    ∃ row, w'.jobs.find job.jobId = some row ∧
      (row.status = job.status ∨ job.status = .closing ∧ row.status = .closed) := by
  obtain ⟨row, _, _, hf, -, -, hOutcome⟩ := h.outcome
  refine ⟨row, hf, ?_⟩
  cases hOutcome with
  | finished _ _ _ _ hs =>
    split at hs
    · next hcl => exact .inr ⟨hcl, hs⟩
    · exact .inl hs
  | postponed _ _ heq => exact .inl (by rw [heq])

/-- The state after a cleanup attempt that a stop ended with an exception. -/
structure CleanupRaised (sv : Services P) (job : ControlJob) (x : PyExc) (w w' : World P) : Prop
    extends StopRaised sv job x w w' where
  unhandled : x ≠ .rjobDependencyError

theorem CleanupRaised.foreign {job : ControlJob} {x : PyExc} {w' : World P}
    (h : CleanupRaised sv job x w w') : ForeignStop x w'.trace := by
  obtain ⟨rjobId, -, new, ht, -⟩ := h.raised
  exact ⟨h.unhandled, rjobId, _, ht⟩

theorem not_foreignStop_event {x : PyExc} {trace rest : List TraceEvent} {event : JobEvent}
    (h : trace = .call (.addEvent event) (.ok ()) :: rest) : ¬ ForeignStop x trace := by
  rintro ⟨-, rjobId, rest', heq⟩
  rw [h] at heq
  cases heq

/-- A write that requests no status, or `closed` for a closing row, at a row that is not active. -/
theorem Refused.inactive {job : ControlJob} {now : Int} {changes : Changes} {x : PyExc}
    {w w' : World P} (h : Refused sv job now changes w x w')
    (hs : changes.status = none ∨ changes.status = some .closed)
    (hids : changes.gatewayRjobId = none ∧ changes.safactoryRjobId = none) : False := by
  obtain ⟨current, -, -, ⟨-, -, h1, h2⟩ | ⟨-, h1⟩⟩ := h.source
  · rcases hs with hs | hs <;> simp [hs] at h1 h2
  · simp [hids.1, hids.2] at h1

/-- The attempt made `stops` and wrote `row`, and events since. -/
structure Closed (o : RealJobOrchestrator) (sv : Services P) (job row : ControlJob)
    (stops : List (String × Except PyExc Unit)) (w w' : World P) : Prop where
  follows : Follows sv job.jobId w w'
  recorded : unrecorded w'.trace = none
  found : w'.jobs.find job.jobId = some row
  inactive : row.active = false
  calls : ∃ new, w'.trace = new ++ w.trace ∧ CleanupCalls stops new
  outcome : Outcome o job row stops

theorem Closed.event_safe {job row named : ControlJob}
    {stops : List (String × Except PyExc Unit)} {w₀ : World P} {eventType : String}
    {payload : List (String × Json)} {E : PyExc → World P → Prop}
    (h : Closed o sv job row stops w₀ w) (hid : named.jobId = job.jobId) :
    (o.event named eventType payload).Safe sv.system (protocol o sv)
      (fun _ w' => Closed o sv job row stops w₀ w' ∧ ∀ x, ¬ ForeignStop x w'.trace) E w := by
  refine (SafactoryServer.event_safe ⟨row, hid ▸ h.found⟩ h.recorded).mono ?_ fun _ _ h => h
  rintro - w' ⟨hq, event, ht⟩
  obtain ⟨new, hnew, hCalls⟩ := h.calls
  exact ⟨⟨h.follows.trans (hq.follows _), by rw [ht]; rfl, hq.find h.found h.inactive, h.inactive,
    ⟨_ :: new, by rw [ht, hnew]; rfl, hCalls.cons rfl fun _ _ heq => by cases heq⟩, h.outcome⟩,
    fun _ => not_foreignStop_event ht⟩

theorem Closed.cleaned {job row : ControlJob} {stops : List (String × Except PyExc Unit)}
    {w₀ : World P} (h : Closed o sv job row stops w₀ w) (hEnded : ∀ x, ¬ ForeignStop x w.trace) :
    Cleaned o sv job w₀ w := by
  obtain ⟨new, hnew, hCalls⟩ := h.calls
  exact ⟨h.follows, h.recorded, ⟨row, new, stops, h.found, hnew, hCalls, h.outcome⟩, hEnded⟩

/-- The write that ends an attempt whose stops did not fail. -/
theorem Updated.closed {job row : ControlJob} {now : Int} {changes : Changes} {w₀ w' : World P}
    {stops : List (String × Except PyExc Unit)}
    (h : Updated sv job now changes w row w') (hFollows : Follows sv job.jobId w₀ w)
    (ha : job.active = false) (hn : changes.orchestratorAttempt = none)
    (hs : changes.status = if job.status = .closing then some .closed else none)
    (hc : changes.cleanupRequested = some 0)
    (hCalls : ∃ new, w.trace = new ++ w₀.trace ∧ CleanupCalls stops new)
    (hOk : ∀ stop ∈ stops, stop.2 = .ok ())
    (hAll : o.settings.keepRjobs = false ∨ job.status = .closing → stops = job.allStops) :
    Closed o sv job row stops w₀ w' := by
  obtain ⟨current, hclose, hstatus, -⟩ := h.status
  obtain rfl := hclose.eq ha
  obtain ⟨new, hnew, hCalls⟩ := hCalls
  have hRow : row.status = if current.status = .closing then .closed else current.status := by
    rw [hstatus, hs]
    split <;> rfl
  have hCleanup : row.cleanupRequested = 0 := by
    obtain ⟨last, allowed, -, hg, rfl⟩ := h.source
    rcases (ControlJob.guard_ok hg).1 with rfl | ⟨rfl, -⟩ <;> simp [Changes.write, hc]
  refine ⟨hFollows.trans (h.follows hn), by rw [h.trace]; rfl, h.found, ?_,
    ⟨_ :: new, by rw [h.trace, hnew]; rfl, hCalls.cons rfl fun _ _ heq => by cases heq⟩,
    .finished _ hOk hAll hCleanup hRow⟩
  rw [ControlJob.active, hRow]
  split
  · rfl
  · exact ha

theorem finishCleanup_safe {job : ControlJob} {w₀ : World P}
    (h : Cleaning sv job job.allStops w₀ w) (ha : job.active = false)
    (hk : o.settings.keepRjobs = true → job.status = .closing)
    {E : PyExc → World P → Prop} :
    (o.finishCleanup job).Safe sv.system (protocol o sv) (fun _ w' => Cleaned o sv job w₀ w')
      E w := by
  have hs := allStops_stopped job
  simp only [RealJobOrchestrator.finishCleanup]
  refine update_now_bind ⟨job, h.found, .refl job⟩ (fun now row hc => ?_)
    (fun now row w₁ h₁ => ?_) fun now x w₁ h₁ => ?_
  · obtain rfl := hc.eq ha
    split
    · next hcl => exact .closed _ now hcl h.attempt hs h.recorded
    · next hcl => exact .cleaned _ (by simpa using mt hk hcl) ha hcl h.attempt hs h.recorded
  · have hClosed : Closed o sv job row job.allStops w₀ w₁ := by
      refine h₁.closed (h.quiet.follows _) ha ?_ ?_ ?_ h.calls hs.ok fun _ => rfl <;> split <;> rfl
    refine Task.Safe.bind (hClosed.event_safe h₁.jobId) (fun _ w₂ h₂ => ?_) fun x w' h => h
    split
    · exact (h₂.1.event_safe h₁.jobId).mono (fun _ _ h₃ => h₃.1.cleaned h₃.2) fun x w' h => h
    · exact Task.Safe.pure (h₂.1.cleaned h₂.2)
  · refine (h₁.inactive ?_ ?_).elim
    · split <;> simp
    · split <;> simp

theorem skipCleanup_safe {job : ControlJob} {w₀ : World P} (h : Cleaning sv job [] w₀ w)
    (ha : job.active = false) (hcl : job.status ≠ .closing) (hk : o.settings.keepRjobs = true)
    {E : PyExc → World P → Prop} :
    (o.skipCleanup job).Safe sv.system (protocol o sv) (fun _ w' => Cleaned o sv job w₀ w')
      E w := by
  simp only [RealJobOrchestrator.skipCleanup]
  refine update_now_bind ⟨job, h.found, .refl job⟩ (fun now row hc => ?_) (fun now row w₁ h₁ => ?_)
    fun now x w₁ h₁ => (h₁.inactive (.inl rfl) ⟨rfl, rfl⟩).elim
  · obtain rfl := hc.eq ha
    exact .skipped hk ha hcl h.recorded
  · have hClosed : Closed o sv job row [] w₀ w₁ := by
      refine h₁.closed (h.quiet.follows _) ha rfl (by rw [if_neg hcl]) rfl h.calls (by simp) ?_
      rintro (hoff | hclosing)
      · rw [hk] at hoff
        cases hoff
      · exact absurd hclosing hcl
    exact (hClosed.event_safe rfl).mono (fun _ _ h₂ => h₂.1.cleaned h₂.2) fun x w' h => h

theorem cleanupRow_safe {job : ControlJob} {w₀ : World P} (h : Cleaning sv job [] w₀ w)
    (ha : job.active = false) :
    (o.cleanupRow job).Safe sv.system (protocol o sv) (fun _ w' => Cleaned o sv job w₀ w')
      (fun x w' => CleanupRaised sv job x w₀ w') w := by
  simp only [RealJobOrchestrator.cleanupRow]
  split
  · next hk => exact skipCleanup_safe h ha hk.2 hk.1
  · next hk =>
    have hk : o.settings.keepRjobs = true → job.status = .closing := by tauto
    refine Task.Safe.bind (R := fun stopped w' =>
        (stopped = true ∧ Cleaning sv job job.allStops w₀ w') ∨
        stopped = false ∧ Cleaned o sv job w₀ w') (F := fun x w' => CleanupRaised sv job x w₀ w')
      (Task.Safe.tryCatch (F := fun x w' => StopRaised sv job x w₀ w') ?_ fun x w₁ h₁ => ?_)
      (fun stopped w₁ h₁ => ?_) fun x w' h => h
    · exact Task.Safe.bind (stopRecorded_safe h ha hk) (fun _ w₁ h₁ => .inl ⟨rfl, h₁⟩)
        fun _ _ h => h
    · obtain ⟨rjobId, stops, new, ht, hOrder, hCalls⟩ := h₁.raised
      split
      · refine Task.Safe.pure (.inr ⟨rfl, h₁.quiet.follows _, h₁.recorded,
          ⟨job, _ :: new, _, h₁.found, ht, hCalls.stop, .postponed rjobId stops rfl hOrder⟩,
          fun x => ?_⟩)
        rintro ⟨hne, rjobId', rest', heq⟩
        rw [ht] at heq
        cases heq
        exact hne rfl
      · next x hne =>
        exact Task.Safe.throw ⟨h₁, hne⟩
    · rcases h₁ with ⟨rfl, h₁⟩ | ⟨rfl, h₁⟩
      · exact finishCleanup_safe h₁ ha hk
      · exact Task.Safe.pure h₁

/-- `_cleanup` of a row that is not active. -/
theorem cleanup_safe {job row : ControlJob} (hf : w.jobs.find job.jobId = some row)
    (hr : unrecorded w.trace = none) (ha : row.active = false) :
    (o.cleanup job).Safe sv.system (protocol o sv) (fun _ w' => Cleaned o sv row w w')
      (fun x w' => CleanupRaised sv row x w w') w := by
  unfold RealJobOrchestrator.cleanup
  refine Task.Safe.bind (get_safe hr) (fun answer w₁ h₁ => ?_) fun x w' h => h
  obtain ⟨hq, ht, hfound, -⟩ := h₁
  have hrow := hq.find hf ha
  obtain rfl : answer = some row := hfound.symm.trans hrow
  refine cleanupRow_safe ⟨hq, ?_, by rw [ht]; rfl, by rw [ht]; rfl, [_], ht, rfl, ?_⟩ ha
  · rw [JobTable.find_jobId hrow]
    exact hrow
  · intro spec created hMem
    cases List.mem_singleton.mp hMem

end SafactoryServer
