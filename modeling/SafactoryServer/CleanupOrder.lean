import SafactoryServer.Isolation
import SafactoryServer.Ledger

/-! The order of the cleanup: what a write does to the status of a row, which calls come before the
write that ends a cleanup, and what a failed stop leaves. -/

namespace SafactoryServer

open Effect
open Relation (ReflTransGen)

variable {P : Type} {o : RealJobOrchestrator} {sv : Services P} {ownerOf : String → Option String}
  {w w' w₀ : World P} {c c' : Config Op Ans (World P) (Except PyExc Unit)}

/-- What a write of a pass does to the status and to the cleanup request of a row. -/
inductive Move (o : RealJobOrchestrator) (trace : List TraceEvent) (row row' : ControlJob) : Prop
  | kept : row'.status = row.status → row'.cleanupRequested = row.cleanupRequested →
      Move o trace row row'
  | started : row'.active = true → row'.cleanupRequested = row.cleanupRequested →
      Move o trace row row'
  | ended : row'.status = .succeeded ∨ row'.status = .failed → row'.cleanupRequested = 1 →
      Move o trace row row'
  | skipped : o.settings.keepRjobs = true → row.active = false → row'.status = row.status →
      row'.cleanupRequested = 0 → Move o trace row row'
  | finished (stops : List (String × Except PyExc Unit)) :
      o.settings.keepRjobs = false ∨ row.status = .closing → row.active = false →
      attempt trace = some (row, stops) → AllStopped row stops →
      row'.status = (if row.status = .closing then .closed else row.status) →
      row'.cleanupRequested = 0 → Move o trace row row'

theorem Written.move {trace : List TraceEvent} {source row row' : ControlJob} {changes : Changes}
    (h : Written o trace source row row' changes) : Move o trace row row' := by
  obtain ⟨phase, now, rfl⟩ := h.eq
  have hSame : source.active = false → row = source := h.closeOnly.eq
  cases h.write with
  | attempt | bound | gatewaySubmitted | gatewayStatus | unhealthy | gatewayReady | recorded
  | controllerStatus => exact .kept rfl rfl
  | preparing | running => exact .started rfl rfl
  | succeeded => exact .ended (.inl rfl) rfl
  | failed => exact .ended (.inr rfl) rfl
  | skipped hk ha =>
    obtain rfl := hSame ha
    exact .skipped hk ha rfl rfl
  | cleaned stops hk ha hcl hAttempt hStops =>
    obtain rfl := hSame ha
    exact .finished stops (.inl hk) ha hAttempt hStops (by rw [if_neg hcl]; rfl) rfl
  | closed stops now hcl hAttempt hStops =>
    have ha : source.active = false := by simp [ControlJob.active, hcl]
    obtain rfl := hSame ha
    exact .finished stops (.inr hcl) ha hAttempt hStops (by rw [if_pos hcl]; rfl) rfl

/-- A write that closes a row, or that takes its cleanup request back without `keep_rjobs`, ends an
attempt in which every recorded RJob was stopped. -/
theorem Move.cleaned {trace : List TraceEvent} {row row' : ControlJob} (h : Move o trace row row')
    (hDone : row.status ≠ .closed ∧ row'.status = .closed ∨
      o.settings.keepRjobs = false ∧ row.cleanupRequested ≠ 0 ∧ row'.cleanupRequested = 0) :
    ∃ stops, attempt trace = some (row, stops) ∧ AllStopped row stops := by
  cases h with
  | kept hs hc =>
    rw [hs, hc] at hDone
    rcases hDone with ⟨hne, heq⟩ | ⟨-, hne, heq⟩ <;> exact absurd heq hne
  | started ha hc =>
    rw [hc] at hDone
    rcases hDone with ⟨-, heq⟩ | ⟨-, hne, heq⟩
    · simp [ControlJob.active, heq] at ha
    · exact absurd heq hne
  | ended hs hc =>
    rcases hDone with ⟨-, heq⟩ | ⟨-, -, heq⟩
    · rw [heq] at hs
      rcases hs with hs | hs <;> cases hs
    · rw [hc] at heq
      cases heq
  | skipped hk _ hs =>
    rw [hs, hk] at hDone
    rcases hDone with ⟨hne, heq⟩ | ⟨hoff, -⟩
    · exact absurd heq hne
    · cases hoff
  | finished stops _ _ hAttempt hStops => exact ⟨stops, hAttempt, hStops⟩

/-- No write makes a row closing. -/
theorem Move.not_closing {trace : List TraceEvent} {row row' : ControlJob}
    (h : Move o trace row row') (hs : row'.status = .closing) : row.status = .closing := by
  cases h with
  | kept h | skipped _ _ h => exact h ▸ hs
  | started h => simp [ControlJob.active, hs] at h
  | ended h =>
    rw [hs] at h
    rcases h with h | h <;> cases h
  | finished _ _ _ _ _ h =>
    rw [hs] at h
    split at h
    · next hcl => exact hcl
    · exact h.symm

/-- Every recorded RJob of an attempt was stopped. -/
theorem AllStopped.recorded {row : ControlJob} {stops : List (String × Except PyExc Unit)}
    (h : AllStopped row stops) {rjobId : String} (hne : rjobId ≠ "")
    (hid : row.gatewayRjobId = some rjobId ∨ row.safactoryRjobId = some rjobId) :
    (rjobId, .ok ()) ∈ stops := by
  rcases hid with hid | hid
  · have hStop := h.gateway (by rw [hid]; exact hne)
    rwa [hid] at hStop
  · have hStop := h.controller (by rw [hid]; exact hne)
    rwa [hid] at hStop

theorem eq_some_getD {id : Option String} (h : id.getD "" ≠ "") : id = some (id.getD "") := by
  cases id with
  | none => exact absurd rfl h
  | some => rfl

/-- An attempt stops only RJobs that the row records. -/
theorem StopOrder.recorded {row : ControlJob} {rjobId : String}
    {stops : List (String × Except PyExc Unit)} (h : StopOrder row rjobId stops) :
    row.gatewayRjobId = some rjobId ∨ row.safactoryRjobId = some rjobId := by
  cases h with
  | controller hid => exact .inr (eq_some_getD hid)
  | gateway hid | gatewayLast hid => exact .inl (eq_some_getD hid)

/-- The stop of an RJob that an attempt issues is the stop of the controller, or the stop of the
Gateway after that of the controller. -/
theorem StopOrder.ordered {row : ControlJob} {rjobId : String}
    {stops : List (String × Except PyExc Unit)} (h : StopOrder row rjobId stops)
    (hne : row.safactoryRjobId ≠ some "") :
    row.safactoryRjobId = some rjobId ∧ stops = [] ∨
      row.gatewayRjobId = some rjobId ∧
        ∀ controller, row.safactoryRjobId = some controller → stops = [(controller, .ok ())] := by
  cases h with
  | controller hid => exact .inl ⟨eq_some_getD hid, rfl⟩
  | gateway hid hNone =>
    refine .inr ⟨eq_some_getD hid, fun controller heq => absurd ?_ hne⟩
    rw [heq] at hNone ⊢
    exact congrArg some hNone
  | gatewayLast hid hSomeId =>
    refine .inr ⟨eq_some_getD hid, fun controller heq => ?_⟩
    rw [heq]
    rfl

/-- The server at the start of a cleanup attempt, with the rest of its pass. -/
def Attempts (o : RealJobOrchestrator) (c : Config Op Ans (World P) (Except PyExc Unit))
    (job : ControlJob) : Prop :=
  ∃ k, c.program = some (Program.bind (α := Except PyExc Unit) (o.cleanup job) k)

/-- A pass that gives `row` a cleanup attempt at its end. -/
def Retries (o : RealJobOrchestrator) (sv : Services P) (w : World P) (row : ControlJob)
    (w' : World P) : Prop :=
  ∃ jobs s₁ s₂ pending s₃,
    Exec sv.system (α := Except PyExc (List ControlJob)) Coroutine.listActive w (.ok jobs) s₁ ∧
    Each sv.system o.turn jobs s₁ s₂ ∧
    Exec sv.system (α := Except PyExc (List ControlJob)) Coroutine.listCleanupPending s₂
      (.ok pending) s₃ ∧
    Each sv.system o.cleanup pending s₃ w' ∧ row ∈ pending

/-- The orchestrator with `keep_rjobs` off. -/
def RealJobOrchestrator.keepOff (o : RealJobOrchestrator) : RealJobOrchestrator :=
  { o with settings := { o.settings with keepRjobs := false } }

theorem Careful.of_uninterrupted {l : Label Op Ans} (h : Services.Uninterrupted w l w') :
    Careful w l w' := by
  cases l with
  | crash | lost => exact h.elim
  | interference | start | answer | finish => trivial

/-- The server at the start of an attempt has recorded every RJob that it created. -/
theorem Attempts.recorded {job : ControlJob} {J : World P → Prop} (h : Attempts o c job)
    (hAttends : ((protocol o sv).also J).Attends sv.system PassEnds c.state c.program) :
    unrecorded c.state.trace = none := by
  obtain ⟨k, hk⟩ := h
  rw [hk] at hAttends
  obtain ⟨s₀, -, hAllowed, hw, -⟩ := hAttends
  have hr : unrecorded s₀.trace = none := hAllowed
  rw [(Later.of_waits hw).trace, hr]

/-- What a cleanup attempt with a failed stop leaves. -/
theorem cleanup_postponed {job row : ControlJob} {result : Except PyExc Unit} {rjobId : String}
    {new : List TraceEvent} (hInv : Inv sv w) (hr : unrecorded w.trace = none)
    (hf : w.jobs.find job.jobId = some row) (ha : row.active = false)
    (hExec : Exec sv.system (α := Except PyExc Unit) (o.cleanup job) w result w')
    (hNew : w'.trace = new ++ w.trace)
    (hMem : .call (.stopRJob rjobId) (.error .rjobDependencyError) ∈ new) :
    result = .ok () ∧ w'.jobs.find job.jobId = some row := by
  have hid : row.jobId = job.jobId := JobTable.find_jobId hf
  obtain ⟨hEnds, -⟩ := Contract.ofExec (protocol_kept o sv fun _ _ _ => True)
    (fun _ _ _ => trivial) (fun _ _ _ _ _ => trivial) (cleanup_safe hf hr ha) hInv hExec
  have hStops : ∀ {calls stops}, CleanupCalls stops calls → w'.trace = calls ++ w.trace →
      (rjobId, .error .rjobDependencyError) ∈ stops := by
    intro calls stops hCalls hTrace
    obtain rfl := List.append_cancel_right (hNew.symm.trans hTrace)
    exact hCalls.stops ▸ mem_stopsOf hMem
  have hOrdered : ∀ {id stops}, StopOrder row id stops →
      (rjobId, .error .rjobDependencyError) ∉ stops := by
    intro id stops hOrder hMem
    cases hOrder with
    | controller | gateway => cases hMem
    | gatewayLast =>
      cases List.mem_singleton.mp hMem
  cases result with
  | ok =>
    obtain ⟨last, calls, stops, hLast, hTrace, hCalls, hOutcome⟩ := Cleaned.outcome hEnds
    refine ⟨rfl, ?_⟩
    cases hOutcome with
    | finished _ hOk =>
      cases hOk _ (hStops hCalls hTrace)
    | postponed _ _ heq => rw [← hid, hLast, heq]
  | error x =>
    obtain ⟨id, stops, calls, hTrace, hOrder, hCalls⟩ := (CleanupRaised.toStopRaised hEnds).raised
    rcases List.mem_cons.mp (hStops hCalls.stop hTrace) with heq | hMem
    · cases heq
      exact absurd rfl (CleanupRaised.unhandled hEnds)
    · exact absurd hMem (hOrdered hOrder)

/-- A pass gives every row that waits for its cleanup another attempt. -/
theorem pass_retries {j : String} {row : ControlJob} (hInv : Inv sv w)
    (hr : unrecorded w.trace = none) (hf : w.jobs.find j = some row)
    (hc : row.cleanupRequested = 1)
    (hExec : Exec sv.system (α := Except PyExc Unit) o.reconcileOnce w (.ok ()) w') :
    Retries o sv w row w' := by
  obtain ⟨-, jobs, s₁, s₂, pending, s₃, hList, hTurns, hPending, hCleanups⟩ :=
    isolated_of_ok hExec
  refine ⟨jobs, s₁, s₂, pending, s₃, hList, hTurns, hPending, hCleanups, ?_⟩
  have ha : row.active = false := by
    by_contra ha
    have hZero := ((hInv.consistent hf).active (by simpa using ha)).1
    rw [hc] at hZero
    cases hZero
  have hActive : Exec sv.system (α := Except PyExc Unit) o.reconcileActive w (.ok ()) s₂ :=
    Exec.task_ok hList hTurns.exec
  obtain ⟨hTurning, -⟩ := Contract.ofExec (protocol_kept o sv fun _ _ _ => True)
    (fun _ _ _ => trivial) (fun _ _ _ _ _ => trivial) (reconcileActive_safe hr) hInv hActive
  obtain ⟨-, hf₂⟩ := Turning.kept hTurning hf ha
  cases hPending with
  | call hw hp hRest =>
    cases hRest
    obtain ⟨row', hf', hClose⟩ := (Later.of_waits hw).rows hf₂
    obtain rfl := hClose.eq ha
    obtain ⟨⟨hPerm, -⟩, -⟩ := hp
    rw [hPerm.mem_iff, JobTable.cleanupPendingRows, List.mem_filter]
    exact ⟨JobTable.find_mem hf', by simpa using hc⟩

/-- The guarantees of the cleanup in the runs from `w₀` without a crash. -/
structure OrderedCleanup (o : RealJobOrchestrator) (sv : Services P) (w₀ : World P) : Prop where
  /-- A returned ID is in the row of its Job before the row is closed or needs no cleanup. -/
  persisted {c : Config Op Ans (World P) (Except PyExc Unit)} {spec : RJobSpec} {rjobId : String} :
    sv.Reaches o Services.Uninterrupted ⟨w₀, none⟩ c →
    .call (.createRJob spec) (.ok rjobId) ∈ c.state.trace →
    ∃ j row, spec.ownerJob = some j ∧ c.state.jobs.find j = some row ∧
      (row.Records spec rjobId ∨ row.active = true ∨
        row.status = .closing ∧ row.cleanupRequested = 1)
  /-- An attempt stops the Gateway only after the controller. -/
  ordered {w : World P} {rjobId : String} :
    sv.Issues o Services.Uninterrupted ⟨w₀, none⟩ w (.stopRJob rjobId) →
    ∃ row stops, attempt w.trace = some (row, stops) ∧ w.jobs.find row.jobId = some row ∧
      (row.safactoryRjobId = some rjobId ∧ stops = [] ∨
        row.gatewayRjobId = some rjobId ∧
          ∀ controller, row.safactoryRjobId = some controller → stops = [(controller, .ok ())])
  /-- The step that ends the cleanup of a row follows the stop of every recorded RJob. -/
  complete {c c' : Config Op Ans (World P) (Except PyExc Unit)} {l : Label Op Ans} {j : String}
    {row row' : ControlJob} :
    sv.Reaches o Services.Uninterrupted ⟨w₀, none⟩ c → sv.Steps o c l c' →
    c.state.jobs.find j = some row → c'.state.jobs.find j = some row' →
    (row.status ≠ .closed ∧ row'.status = .closed ∨
      o.settings.keepRjobs = false ∧ row.cleanupRequested ≠ 0 ∧ row'.cleanupRequested = 0) →
    ∃ stops, attempt c.state.trace = some (row, stops) ∧ (∀ stop ∈ stops, stop.2 = .ok ()) ∧
      ∀ rjobId, row.gatewayRjobId = some rjobId ∨ row.safactoryRjobId = some rjobId →
        (rjobId, .ok ()) ∈ stops
  /-- An attempt with a failed stop leaves the row as it was. -/
  postponed {c : Config Op Ans (World P) (Except PyExc Unit)} {job row : ControlJob}
    {result : Except PyExc Unit} {w' : World P} {rjobId : String} {new : List TraceEvent} :
    sv.Reaches o Services.Uninterrupted ⟨w₀, none⟩ c → Attempts o c job →
    c.state.jobs.find job.jobId = some row → row.active = false →
    Exec sv.system (α := Except PyExc Unit) (o.cleanup job) c.state result w' →
    w'.trace = new ++ c.state.trace →
    .call (.stopRJob rjobId) (.error .rjobDependencyError) ∈ new →
    result = .ok () ∧ w'.jobs.find job.jobId = some row
  /-- The next pass makes another attempt. -/
  retried {w w' : World P} {j : String} {row : ControlJob} :
    sv.Reaches o Services.Uninterrupted ⟨w₀, none⟩ ⟨w, none⟩ → w.jobs.find j = some row →
    row.cleanupRequested = 1 →
    Exec sv.system (α := Except PyExc Unit) o.reconcileOnce w (.ok ()) w' → Retries o sv w row w'
  /-- With `keep_rjobs` only a closing Job loses its RJobs, and only a close request makes a Job
  closing. -/
  kept {w : World P} {rjobId : String} : o.settings.keepRjobs = true →
    sv.Issues o Services.Uninterrupted ⟨w₀, none⟩ w (.stopRJob rjobId) →
    ∃ row stops, attempt w.trace = some (row, stops) ∧ w.jobs.find row.jobId = some row ∧
      row.status = .closing
  requested {c c' : Config Op Ans (World P) (Except PyExc Unit)} {l : Label Op Ans} {j : String}
    {row row' : ControlJob} :
    sv.Reaches o Services.Uninterrupted ⟨w₀, none⟩ c → sv.Steps o c l c' →
    c.state.jobs.find j = some row → c'.state.jobs.find j = some row' →
    row.status ≠ .closing → row'.status = .closing →
    row.active = true ∧ ∃ now, row' = row.close now
  /-- The cleanup of a closing Job takes no notice of `keep_rjobs`. -/
  closing (job : ControlJob) : job.status = .closing → o.cleanupRow job = o.keepOff.cleanupRow job

theorem cleanupRow_closing {job : ControlJob} (h : job.status = .closing) :
    o.cleanupRow job = o.keepOff.cleanupRow job := by
  unfold RealJobOrchestrator.cleanupRow
  rw [if_neg (by simp [h]), if_neg (by simp [h])]
  rfl

/-- In the runs without a crash the cleanup of the recorded RJobs is ordered and complete, on every
platform whose IDs identify the RJobs of one Job. -/
theorem cleanup_ordered (h₀ : sv.Initial w₀) (hIds : sv.Identifies o ownerOf) :
    OrderedCleanup o sv w₀ where
  persisted h hMem := by
    obtain ⟨⟨hInv, hLedger⟩, -⟩ := Services.Reaches.holds
      (h.mono fun _ _ _ => Careful.of_uninterrupted) h₀ h₀.ledger (ledger_preserved hIds)
    obtain ⟨j, row, hOwner, hf, hRecords | hu⟩ := hLedger.created hMem
    · exact ⟨j, row, hOwner, hf, .inl hRecords⟩
    · obtain ⟨i, last, hNames, hLast, hOpen, -⟩ := hLedger.pending hu
      obtain rfl : i = j := Option.some.inj (hNames.1.symm.trans hOwner)
      obtain rfl : last = row := Option.some.inj (hLast.symm.trans hf)
      refine ⟨i, last, hOwner, hf, .inr (hOpen.imp_right fun hcl => ⟨hcl, ?_⟩)⟩
      exact (hInv.consistent hf).closing hcl
  ordered h := by
    obtain ⟨⟨-, hOwned⟩, -, row, stops, hAttempt, hf, -, -, hOrder⟩ :=
      h.allowed h₀ h₀.owned (owned_preserved hIds _)
    refine ⟨row, stops, hAttempt, hf, hOrder.ordered fun hEmpty => ?_⟩
    exact (hOwned.owned hf (.inr hEmpty)).1 rfl
  complete h hStep hf hf' hDone := by
    obtain ⟨⟨-, hOwned⟩, -⟩ := h.holds h₀ h₀.owned (owned_preserved hIds _)
    rcases h.row_step h₀ hStep hf hf' with hClose | ⟨source, changes, hWritten⟩
    · rcases hClose with rfl | ⟨-, now, rfl⟩
      · rcases hDone with ⟨hne, heq⟩ | ⟨-, hne, heq⟩ <;> exact absurd heq hne
      · rcases hDone with ⟨-, heq⟩ | ⟨-, -, heq⟩ <;> cases heq
    · obtain ⟨stops, hAttempt, hStops⟩ := hWritten.move.cleaned hDone
      exact ⟨stops, hAttempt, hStops.ok, fun rjobId hid =>
        hStops.recorded (hOwned.owned hf hid).1 hid⟩
  postponed h hAttempts hf ha hExec hNew hMem := by
    obtain ⟨⟨hInv, -⟩, hAttends⟩ := h.holds h₀ (J := fun _ => True) trivial (preserves_true _ _)
    exact cleanup_postponed hInv (hAttempts.recorded hAttends) hf ha hExec hNew hMem
  retried h hf hc hExec := by
    obtain ⟨⟨hInv, -⟩, hIdle⟩ := h.holds h₀ (J := fun _ => True) trivial (preserves_true _ _)
    exact pass_retries hInv hIdle hf hc hExec
  kept hk h := by
    obtain ⟨-, -, row, stops, hAttempt, hf, -, hClosing, -⟩ :=
      h.allowed h₀ (J := fun _ => True) trivial (preserves_true _ _)
    exact ⟨row, stops, hAttempt, hf, hClosing hk⟩
  requested h hStep hf hf' hne hs := by
    rcases h.row_step h₀ hStep hf hf' with (rfl | ⟨ha, hNow⟩) | ⟨source, changes, hWritten⟩
    · exact absurd hs hne
    · exact ⟨ha, hNow⟩
    · exact absurd (hWritten.move.not_closing hs) hne
  closing _ := cleanupRow_closing

/-! ### A run that closes its Job -/

/-- The sample platform with the idempotency keys for IDs. -/
def keyedScript : Script Unit :=
  { sampleScript with create := fun _ spec => (.ok spec.idempotencyKey, ()) }

theorem keyedScript_identifies :
    ∃ ownerOf, keyedScript.services.Identifies sampleOrchestrator ownerOf := by
  have hKeys : ∀ {rjobId i j : String},
      rjobId = i ++ ":gateway" ∨ rjobId = i ++ ":controller" →
      rjobId = j ++ ":gateway" ∨ rjobId = j ++ ":controller" → i = j := by
    rintro rjobId i j (rfl | rfl) (h | h)
    · exact (String.append_left_inj _).mp h
    · exact absurd h key_ne
    · exact absurd h.symm key_ne
    · exact (String.append_left_inj _).mp h
  obtain ⟨ownerOf, hOwner⟩ := @exists_owner
    (fun rjobId j => rjobId = j ++ ":gateway" ∨ rjobId = j ++ ":controller") hKeys
  refine ⟨ownerOf, fun p spec j rjobId p' _ hNames hCreate => ?_⟩
  obtain rfl : spec.idempotencyKey = rjobId := Except.ok.inj (Prod.mk.inj hCreate).1
  rcases hNames.2 with ⟨-, hKey, -⟩ | ⟨-, hKey, -⟩
  · refine ⟨fun hEmpty => ?_, hOwner (.inl hKey)⟩
    rw [hKey] at hEmpty
    exact absurd (congrArg String.length hEmpty) (by simp)
  · refine ⟨fun hEmpty => ?_, hOwner (.inr hKey)⟩
    rw [hKey] at hEmpty
    exact absurd (congrArg String.length hEmpty) (by simp)

/-- The stop of the sample Gateway. -/
def stopsGateway : TraceEvent → Bool
  | .call (.stopRJob rjobId) _ => rjobId = "job:gateway"
  | _ => false

theorem stopsGateway_eq {event : TraceEvent} (h : stopsGateway event = true) :
    ∃ answer, event = .call (.stopRJob "job:gateway") answer := by
  unfold stopsGateway at h
  split at h
  · next rjobId answer =>
    obtain rfl : rjobId = "job:gateway" := by simpa using h
    exact ⟨answer, rfl⟩
  · cases h

/-- The run of a pass, a close request and another pass stops the Gateway after the controller and
closes the Job. -/
theorem cleanup_ordered_closed :
    ∃ w c row, OrderedCleanup sampleOrchestrator keyedScript.services (sampleWorld ()) ∧
      keyedScript.services.Issues sampleOrchestrator Services.Uninterrupted
        ⟨sampleWorld (), none⟩ w (.stopRJob "job:gateway") ∧
      (∃ row stops, attempt w.trace = some (row, stops) ∧
        w.jobs.find row.jobId = some row ∧
        (row.safactoryRjobId = some "job:gateway" ∧ stops = [] ∨
          row.gatewayRjobId = some "job:gateway" ∧
            ∀ controller, row.safactoryRjobId = some controller →
              stops = [(controller, .ok ())])) ∧
      keyedScript.services.Reaches sampleOrchestrator Services.Uninterrupted
        ⟨sampleWorld (), none⟩ c ∧ c.state.jobs.find "job" = some row ∧ row.status = .closed := by
  obtain ⟨ownerOf, hIds⟩ := keyedScript_identifies
  have hOrdered := cleanup_ordered (o := sampleOrchestrator)
    (sampleWorld_initial keyedScript ()) hIds
  have hFirst := keyedScript.reaches_idle sampleOrchestrator (sampleWorld ()) (by decide +kernel)
  have hClosing := hFirst.trans (keyedScript.reaches_closed "job")
  have hLast := hClosing.trans (keyedScript.reaches_pass sampleOrchestrator _)
  have hAny : (keyedScript.pass sampleOrchestrator (Script.closed
      (keyedScript.pass sampleOrchestrator (sampleWorld ())).2 "job")).2.trace.any
        stopsGateway = true := by decide +kernel
  have hRow : ∃ row, (keyedScript.pass sampleOrchestrator (Script.closed
      (keyedScript.pass sampleOrchestrator (sampleWorld ())).2 "job")).2.jobs.find "job" =
        some row ∧ row.status = .closed := by decide +kernel
  obtain ⟨event, hMem, hEvent⟩ := List.any_eq_true.mp hAny
  obtain ⟨answer, rfl⟩ := stopsGateway_eq hEvent
  obtain ⟨w, hIssues⟩ := Services.Reaches.issued hLast rfl List.not_mem_nil hMem
  obtain ⟨row, hf, hs⟩ := hRow
  exact ⟨w, _, row, hOrdered, hIssues, hOrdered.ordered hIssues, hLast, hf, hs⟩

end SafactoryServer
