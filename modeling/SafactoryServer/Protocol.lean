import SafactoryServer.World

/-! The protocol of the orchestrator: what a row may look like, what each write may do to it, and
what must have happened before each call.  It is the contract under which a pass is verified. -/

namespace SafactoryServer

open Effect
open Relation (ReflTransGen)

variable {P : Type}

namespace ControlJob

/-- What a row always satisfies. -/
structure Consistent (row : ControlJob) : Prop where
  binding : row.gatewayRjobId.isSome → row.bindingJson.isSome
  url : row.gatewayUrl.isSome → row.gatewayRjobId.isSome ∧ row.gatewayAddress.isSome ∧
    row.gatewayPort.isSome ∧ row.gatewayReadyAt.isSome
  started : row.safactoryRjobId.isSome ↔ row.startedAt.isSome
  controller : row.safactoryRjobId.isSome → row.gatewayUrl.isSome
  running : row.status = .running → row.safactoryRjobId.isSome
  waiting : row.status = .queued ∨ row.status = .preparing → row.safactoryRjobId = none
  active : row.active = true →
    row.cleanupRequested = 0 ∧ row.completedAt = none ∧ row.statusReason = none
  closing : row.status = .closing → row.cleanupRequested = 1
  failed : row.status = .failed → row.statusReason.isSome ∧ row.completedAt.isSome
  ended : row.status = .succeeded ∨ row.status = .closed →
    row.completedAt.isSome ∧ row.statusReason = none
  closed : row.status = .closed → row.cleanupRequested = 0

/-- The columns that `Consistent` is about. -/
def lifecycle (row : ControlJob) :=
  (row.status, row.bindingJson.isSome, row.gatewayRjobId.isSome, row.gatewayAddress.isSome,
    row.gatewayPort.isSome, row.gatewayUrl.isSome, row.gatewayReadyAt.isSome,
    row.safactoryRjobId, row.startedAt.isSome, row.cleanupRequested, row.completedAt,
    row.statusReason)

theorem Consistent.of_lifecycle {row row' : ControlJob} (h : row.Consistent)
    (heq : row'.lifecycle = row.lifecycle) : row'.Consistent := by
  simp only [lifecycle, Prod.mk.injEq] at heq
  obtain ⟨h1, h2, h3, h4, h5, h6, h7, h8, h9, h10, h11, h12⟩ := heq
  constructor <;> simp only [ControlJob.active, h1, h2, h3, h4, h5, h6, h7, h8, h9, h10, h11, h12]
  exacts [h.binding, h.url, h.started, h.controller, h.running, h.waiting, h.active, h.closing,
    h.failed, h.ended, h.closed]

theorem consistent_new (new : NewJob) (now : Int) : (newControlJob new now).Consistent := by
  constructor <;> simp [newControlJob]

/-- What close requests may make of a row. -/
def CloseOnly (row row' : ControlJob) : Prop :=
  row' = row ∨ row.active = true ∧ ∃ now, row' = row.close now

theorem CloseOnly.refl (row : ControlJob) : row.CloseOnly row := .inl rfl

@[simp] theorem close_status (row : ControlJob) (now : Int) : (row.close now).status = .closing :=
  rfl

@[simp] theorem close_jobId (row : ControlJob) (now : Int) : (row.close now).jobId = row.jobId :=
  rfl

theorem CloseOnly.jobId {row row' : ControlJob} (h : row.CloseOnly row') :
    row'.jobId = row.jobId := by
  rcases h with rfl | ⟨-, now, rfl⟩ <;> rfl

theorem CloseOnly.trans {row row' row'' : ControlJob} (h : row.CloseOnly row')
    (h' : row'.CloseOnly row'') : row.CloseOnly row'' := by
  rcases h with rfl | ⟨hactive, now, rfl⟩
  · exact h'
  · rcases h' with rfl | ⟨hactive', -⟩
    · exact .inr ⟨hactive, now, rfl⟩
    · simp [active] at hactive'

/-- A close request leaves the binding, the RJobs and the URL of a row alone. -/
theorem CloseOnly.keeps {row row' : ControlJob} (h : row.CloseOnly row') :
    row'.bindingJson = row.bindingJson ∧ row'.gatewayRjobId = row.gatewayRjobId ∧
      row'.gatewayUrl = row.gatewayUrl ∧ row'.safactoryRjobId = row.safactoryRjobId ∧
      row'.startedAt = row.startedAt := by
  rcases h with rfl | ⟨-, now, rfl⟩
  · exact ⟨rfl, rfl, rfl, rfl, rfl⟩
  · exact ⟨rfl, rfl, rfl, rfl, rfl⟩

theorem CloseOnly.opened {row row' : ControlJob} (h : row.CloseOnly row')
    (ha : row.active = true ∨ row.status = .closing) :
    row'.active = true ∨ row'.status = .closing := by
  rcases h with rfl | ⟨-, now, rfl⟩
  · exact ha
  · exact .inr rfl

/-- No close request changes a row that is not active. -/
theorem CloseOnly.eq {row row' : ControlJob} (h : row.CloseOnly row') (hrow : row.active = false) :
    row' = row := by
  rcases h with rfl | ⟨hactive, -⟩
  · rfl
  · rw [hrow] at hactive
    cases hactive

/-- What a row keeps from one state of a run to a later one. -/
structure Grows (row row' : ControlJob) : Prop where
  identity : row'.identity = row.identity
  binding : row.bindingJson.isSome → row'.bindingJson = row.bindingJson
  gateway : row.gatewayRjobId.isSome → row'.gatewayRjobId = row.gatewayRjobId
  url : row.gatewayUrl.isSome → row'.gatewayUrl = row.gatewayUrl
  controller : row.safactoryRjobId.isSome →
    row'.safactoryRjobId = row.safactoryRjobId ∧ row'.startedAt = row.startedAt
  inactive : row.active = false → row'.active = false

theorem Grows.refl (row : ControlJob) : row.Grows row :=
  ⟨rfl, fun _ => rfl, fun _ => rfl, fun _ => rfl, fun _ => ⟨rfl, rfl⟩, id⟩

theorem Grows.trans {row row' row'' : ControlJob} (h : row.Grows row') (h' : row'.Grows row'') :
    row.Grows row'' where
  identity := h'.identity.trans h.identity
  binding hs := by rw [h'.binding (by rwa [h.binding hs]), h.binding hs]
  gateway hs := by rw [h'.gateway (by rwa [h.gateway hs]), h.gateway hs]
  url hs := by rw [h'.url (by rwa [h.url hs]), h.url hs]
  controller hs := by
    obtain ⟨hid, hstart⟩ := h.controller hs
    obtain ⟨hid', hstart'⟩ := h'.controller (by rwa [hid])
    exact ⟨hid'.trans hid, hstart'.trans hstart⟩
  inactive ha := h'.inactive (h.inactive ha)

theorem CloseOnly.grows {row row' : ControlJob} (h : row.CloseOnly row') : row.Grows row' := by
  rcases h with rfl | ⟨hactive, now, rfl⟩
  · exact .refl _
  · exact ⟨rfl, fun _ => rfl, fun _ => rfl, fun _ => rfl, fun _ => ⟨rfl, rfl⟩, fun _ => rfl⟩

theorem Consistent.closeOnly {row row' : ControlJob} (hrow : row.Consistent)
    (h : row.CloseOnly row') : row'.Consistent := by
  rcases h with rfl | ⟨hactive, now, rfl⟩
  · exact hrow
  · exact ⟨hrow.binding, hrow.url, hrow.started, hrow.controller, by simp, by simp,
      by simp [ControlJob.active], fun _ => rfl, by simp, by simp, by simp⟩

end ControlJob

/-- The Gateway of the row was seen with a route and found healthy, at the URL that the row has. -/
def GateOpen (o : RealJobOrchestrator) (row : ControlJob) (calls : List TraceEvent) : Prop :=
  ∃ gatewayRjobId snapshot, row.gatewayRjobId = some gatewayRjobId ∧
    o.gatewayHasRoute snapshot = true ∧ row.gatewayUrl = some (o.gatewayUrlOf snapshot) ∧
    [.call (.ready (o.gatewayUrlOf snapshot) o.settings.gatewayHealthPath) (.ok true),
      .call (.getRJob gatewayRjobId) (.ok snapshot)].Sublist calls

/-- Every RJob that the row records was stopped.  Python takes an empty ID for none. -/
structure AllStopped (row : ControlJob) (stops : List (String × Except PyExc Unit)) : Prop where
  ok : ∀ stop ∈ stops, stop.2 = .ok ()
  controller : row.safactoryRjobId.getD "" ≠ "" → (row.safactoryRjobId.getD "", .ok ()) ∈ stops
  gateway : row.gatewayRjobId.getD "" ≠ "" → (row.gatewayRjobId.getD "", .ok ()) ∈ stops

/-- The order of the stops of one cleanup attempt. -/
inductive StopOrder (row : ControlJob) : String → List (String × Except PyExc Unit) → Prop
  | controller : row.safactoryRjobId.getD "" ≠ "" →
      StopOrder row (row.safactoryRjobId.getD "") []
  | gateway : row.gatewayRjobId.getD "" ≠ "" → row.safactoryRjobId.getD "" = "" →
      StopOrder row (row.gatewayRjobId.getD "") []
  | gatewayLast : row.gatewayRjobId.getD "" ≠ "" → row.safactoryRjobId.getD "" ≠ "" →
      StopOrder row (row.gatewayRjobId.getD "") [(row.safactoryRjobId.getD "", .ok ())]

/-- The writes of a pass: `Write o trace row changes` says that after the calls of `trace` the pass
may write `changes` to `row`. -/
inductive Write (o : RealJobOrchestrator) (trace : List TraceEvent) (row : ControlJob) :
    Changes → Prop
  | attempt (n : Int) : row.active = true ∨ row.status = .closing → unrecorded trace = none →
      Write o trace row { orchestratorAttempt := some n }
  | preparing : row.active = true ∨ row.status = .closing → row.bindingJson = none →
      unrecorded trace = none →
      Write o trace row { status := some .preparing, phase := some "resolving_job_files" }
  | bound (binding : JobFileBinding) : row.active = true ∨ row.status = .closing →
      row.bindingJson = none → unrecorded trace = none →
      trace.head? = some (.call (.bind row.jobId row.rangeId) (.ok binding)) →
      Write o trace row
        { bindingJson := some (some binding.toJson), episodeTotal := some binding.totalEpisodes
          phase := some "submitting_gateway_rjob" }
  | gatewaySubmitted (spec : RJobSpec) (rjobId : String) :
      row.active = true ∨ row.status = .closing → row.bindingJson.isSome →
      row.gatewayRjobId = none → unrecorded trace = some (spec, rjobId) →
      spec.idempotencyKey = row.jobId ++ ":gateway" →
      Write o trace row
        { gatewayRjobId := some (some rjobId), gatewayStatus := some (some .pending)
          phase := some "waiting_gateway_address" }
  | gatewayStatus (snapshot : RJobSnapshot) : row.active = true ∨ row.status = .closing →
      unrecorded trace = none →
      Write o trace row
        { gatewayStatus := some (some snapshot.state), gatewayExitCode := some snapshot.exitCode
          gatewayFailureSummary := some snapshot.failureSummary }
  | unhealthy : row.active = true ∨ row.status = .closing → unrecorded trace = none →
      Write o trace row { phase := some "checking_gateway_health" }
  | gatewayReady (snapshot : RJobSnapshot) (readyAt : Int) :
      row.active = true ∨ row.status = .closing → row.gatewayRjobId.isSome →
      row.gatewayUrl = none → o.gatewayHasRoute snapshot = true → unrecorded trace = none →
      Write o trace row
        { gatewayAddress := some snapshot.address, gatewayPort := some snapshot.port
          gatewayUrl := some (some (o.gatewayUrlOf snapshot))
          gatewayReadyAt := some (some (timestamp readyAt))
          phase := some "submitting_safactory_rjob" }
  | running (spec : RJobSpec) (rjobId : String) (now : Int) :
      row.active = true ∨ row.status = .closing → row.gatewayUrl.isSome →
      row.safactoryRjobId = none → unrecorded trace = some (spec, rjobId) →
      spec.idempotencyKey = row.jobId ++ ":controller" →
      Write o trace row
        { RealJobOrchestrator.controllerChanges row rjobId now with
          status := some .running, phase := some "running_safactory" }
  | recorded (spec : RJobSpec) (rjobId : String) (now : Int) : row.status = .closing →
      row.gatewayUrl.isSome → row.safactoryRjobId = none →
      unrecorded trace = some (spec, rjobId) →
      spec.idempotencyKey = row.jobId ++ ":controller" →
      Write o trace row (RealJobOrchestrator.controllerChanges row rjobId now)
  | controllerStatus (snapshot : RJobSnapshot) (job : ControlJob) :
      row.active = true ∨ row.status = .closing → unrecorded trace = none →
      Write o trace row
        { safactoryStatus := some (some snapshot.state)
          safactoryExitCode := some snapshot.exitCode
          safactoryFailureSummary := some snapshot.failureSummary
          episodeTotal := some ((lookup "total" snapshot.workloadSummary).getD job.episodeTotal)
          episodeRunning :=
            some ((lookup "running" snapshot.workloadSummary).getD job.episodeRunning)
          episodeSucceeded :=
            some ((lookup "succeeded" snapshot.workloadSummary).getD job.episodeSucceeded)
          episodeFailed := some ((lookup "failed" snapshot.workloadSummary).getD job.episodeFailed)
          episodeCollected :=
            some ((lookup "collected" snapshot.workloadSummary).getD job.episodeCollected) }
  | succeeded (binding : JobFileBinding) (document : Json) (rjobId : String)
      (controller : RJobSnapshot) (now : Int) :
      row.active = true ∨ row.status = .closing → row.safactoryRjobId = some rjobId →
      row.bindingJson = some document → JobFileBinding.fromJson document = .ok binding →
      .call (.getRJob rjobId) (.ok controller) ∈ passCalls trace →
      controller.state = .succeeded → resultsComplete binding controller = true →
      GateOpen o row (passCalls trace) → unrecorded trace = none →
      Write o trace row
        { status := some .succeeded, phase := some "completed"
          completedAt := some (some (timestamp now)), cleanupRequested := some 1 }
  | failed (reason : String) (now : Int) : row.active = true ∨ row.status = .closing →
      unrecorded trace = none →
      Write o trace row
        { status := some .failed, phase := some "cleaning_rjobs"
          statusReason := some (some reason), completedAt := some (some (timestamp now))
          cleanupRequested := some 1 }
  | skipped : o.settings.keepRjobs = true → row.active = false → row.status ≠ .closing →
      unrecorded trace = none → Write o trace row { cleanupRequested := some 0 }
  | cleaned (stops : List (String × Except PyExc Unit)) :
      o.settings.keepRjobs = false → row.active = false → row.status ≠ .closing →
      attempt trace = some (row, stops) → AllStopped row stops → unrecorded trace = none →
      Write o trace row { cleanupRequested := some 0 }
  | closed (stops : List (String × Except PyExc Unit)) (now : Int) : row.status = .closing →
      attempt trace = some (row, stops) → AllStopped row stops → unrecorded trace = none →
      Write o trace row
        { cleanupRequested := some 0, status := some .closed, phase := some "completed"
          completedAt := some (some (timestamp now)), statusReason := some none }

theorem Write.unknown {o : RealJobOrchestrator} {trace : List TraceEvent} {row : ControlJob}
    {changes : Changes} (h : Write o trace row changes) : changes.unknown = [] := by
  cases h <;> rfl

/-- The row that an accepted write leaves, up to the phase, which a closing row keeps. -/
theorem ControlJob.Consistent.guarded {row : ControlJob} {changes allowed : Changes} {now : Int}
    (hg : row.guard changes = .ok allowed) (h : (changes.write row now).Consistent) :
    (allowed.write row now).Consistent := by
  rcases (ControlJob.guard_ok hg).1 with rfl | ⟨rfl, -⟩
  · exact h
  · exact h.of_lifecycle rfl

/-! Each kind of write keeps a row consistent. -/

section

variable {row : ControlJob} {now : Int}

theorem ControlJob.Consistent.unbound (h : row.Consistent) (hb : row.bindingJson = none) :
    row.safactoryRjobId = none := by
  by_contra hne
  have hController : row.safactoryRjobId.isSome := Option.isSome_iff_ne_none.mpr hne
  have hBinding := h.binding (h.url (h.controller hController)).1
  rw [hb] at hBinding
  cases hBinding

theorem ControlJob.Consistent.preparing (h : row.Consistent) (ha : row.active = true)
    (hb : row.bindingJson = none) (phase : Option String) :
    (Changes.write { status := some .preparing, phase := phase } row now).Consistent where
  binding := h.binding
  url := h.url
  started := h.started
  controller := h.controller
  running hs := by cases hs
  waiting _ := h.unbound hb
  active _ := h.active ha
  closing hs := by cases hs
  failed hs := by cases hs
  ended hs := by rcases hs with hs | hs <;> cases hs
  closed hs := by cases hs

theorem ControlJob.Consistent.bound (h : row.Consistent) (document : Json) (total : Int)
    (phase : Option String) :
    (Changes.write { bindingJson := some (some document), episodeTotal := some total
                     phase := phase } row now).Consistent :=
  { h with binding := fun _ => rfl }

theorem ControlJob.Consistent.gatewaySubmitted (h : row.Consistent) (hb : row.bindingJson.isSome)
    (rjobId : String) (phase : Option String) :
    (Changes.write { gatewayRjobId := some (some rjobId), gatewayStatus := some (some .pending)
                     phase := phase } row now).Consistent :=
  { h with binding := fun _ => hb, url := fun hs => ⟨rfl, (h.url hs).2⟩ }

theorem ControlJob.Consistent.gatewayReady (h : row.Consistent) (hg : row.gatewayRjobId.isSome)
    {address : Option String} {port : Option Int} (ha : address.isSome) (hp : port.isSome)
    (url readyAt : _) (phase : Option String) :
    (Changes.write { gatewayAddress := some address, gatewayPort := some port
                     gatewayUrl := some (some url), gatewayReadyAt := some (some readyAt)
                     phase := phase } row now).Consistent :=
  { h with url := fun _ => ⟨hg, ha, hp, rfl⟩, controller := fun _ => rfl }

theorem ControlJob.Consistent.recorded (h : row.Consistent) (hu : row.gatewayUrl.isSome)
    (hs : row.status = .closing) (job : ControlJob) (rjobId : String) (at_ : Int) :
    (Changes.write (RealJobOrchestrator.controllerChanges job rjobId at_) row now).Consistent :=
  { h with
    started := ⟨fun _ => rfl, fun _ => rfl⟩
    controller := fun _ => hu
    running := fun _ => rfl
    waiting := fun hw => by rcases hw with hw | hw <;> cases hs.symm.trans hw }

theorem ControlJob.Consistent.ran (h : row.Consistent) (hu : row.gatewayUrl.isSome)
    (ha : row.active = true) (job : ControlJob) (rjobId : String) (at_ : Int)
    (phase : Option String) :
    (Changes.write { RealJobOrchestrator.controllerChanges job rjobId at_ with
                     status := some .running, phase := phase } row now).Consistent where
  binding := h.binding
  url := h.url
  started := ⟨fun _ => rfl, fun _ => rfl⟩
  controller _ := hu
  running _ := rfl
  waiting hs := by rcases hs with hs | hs <;> cases hs
  active _ := h.active ha
  closing hs := by cases hs
  failed hs := by cases hs
  ended hs := by rcases hs with hs | hs <;> cases hs
  closed hs := by cases hs

theorem ControlJob.Consistent.succeeded (h : row.Consistent) (ha : row.active = true)
    (completedAt : Int) (phase : Option String) :
    (Changes.write { status := some .succeeded, phase := phase
                     completedAt := some (some completedAt)
                     cleanupRequested := some 1 } row now).Consistent where
  binding := h.binding
  url := h.url
  started := h.started
  controller := h.controller
  running hs := by cases hs
  waiting hs := by rcases hs with hs | hs <;> cases hs
  active hs := by cases hs
  closing _ := rfl
  failed hs := by cases hs
  ended _ := ⟨rfl, (h.active ha).2.2⟩
  closed hs := by cases hs

theorem ControlJob.Consistent.failing (h : row.Consistent) (reason : String) (completedAt : Int)
    (phase : Option String) :
    (Changes.write { status := some .failed, phase := phase, statusReason := some (some reason)
                     completedAt := some (some completedAt)
                     cleanupRequested := some 1 } row now).Consistent where
  binding := h.binding
  url := h.url
  started := h.started
  controller := h.controller
  running hs := by cases hs
  waiting hs := by rcases hs with hs | hs <;> cases hs
  active hs := by cases hs
  closing _ := rfl
  failed _ := ⟨rfl, rfl⟩
  ended hs := by rcases hs with hs | hs <;> cases hs
  closed hs := by cases hs

theorem ControlJob.Consistent.cleaned (h : row.Consistent) (ha : row.active = false)
    (hs : row.status ≠ .closing) :
    (Changes.write { cleanupRequested := some 0 } row now).Consistent :=
  { h with
    active := fun hActive => by
      have hSame : row.active = true := hActive
      rw [ha] at hSame
      cases hSame
    closing := fun hClosing => absurd hClosing hs
    closed := fun _ => rfl }

theorem ControlJob.Consistent.ending (h : row.Consistent) (completedAt : Int)
    (phase : Option String) :
    (Changes.write { cleanupRequested := some 0, status := some .closed, phase := phase
                     completedAt := some (some completedAt), statusReason := some none }
      row now).Consistent where
  binding := h.binding
  url := h.url
  started := h.started
  controller := h.controller
  running hs := by cases hs
  waiting hs := by rcases hs with hs | hs <;> cases hs
  active hs := by cases hs
  closing hs := by cases hs
  failed hs := by cases hs
  ended _ := ⟨rfl, rfl⟩
  closed _ := rfl

end

theorem Write.consistent {o : RealJobOrchestrator} {trace : List TraceEvent}
    {row row' : ControlJob} {changes allowed : Changes} {now : Int}
    (h : Write o trace row changes) (hc : row.CloseOnly row') (hrow : row'.Consistent)
    (hg : row'.guard changes = .ok allowed) : (allowed.write row' now).Consistent := by
  refine ControlJob.Consistent.guarded hg ?_
  obtain ⟨-, -, hClosing⟩ := ControlJob.guard_ok hg
  obtain ⟨hBinding, hGateway, hUrl, -, -⟩ := hc.keeps
  -- a closing row accepts no other status than `closed`
  have hActive : row.active = true ∨ row.status = .closing →
      (∀ s, changes.status.getD s ≠ .closing ∧ changes.status.getD s ≠ .closed) →
      row'.active = true := by
    intro ha hs
    refine (hc.opened ha).resolve_right fun hcl => ?_
    rcases hClosing hcl with heq | heq
    · exact (hs _).1 heq
    · exact (hs _).2 heq
  have hSame : row.active = false → row' = row := hc.eq
  cases h with
  | attempt | gatewayStatus | unhealthy | controllerStatus => exact hrow.of_lifecycle rfl
  | preparing ha hb =>
    exact hrow.preparing (hActive ha fun _ => ⟨by simp, by simp⟩) (hBinding.trans hb) _
  | bound => exact hrow.bound _ _ _
  | gatewaySubmitted spec rjobId ha hb =>
    exact hrow.gatewaySubmitted (by rwa [hBinding]) rjobId _
  | gatewayReady snapshot readyAt ha hb hu hr =>
    obtain ⟨haddress, hport⟩ := RealJobOrchestrator.gatewayHasRoute_some hr
    exact hrow.gatewayReady (by rwa [hGateway]) haddress hport _ _ _
  | running spec rjobId at_ ha hu =>
    exact hrow.ran (by rwa [hUrl]) (hActive ha fun _ => ⟨by simp, by simp⟩) _ _ _ _
  | recorded spec rjobId at_ hs hu =>
    have ha : row.active = false := by simp [ControlJob.active, hs]
    exact hrow.recorded (by rwa [hUrl]) (by rwa [hSame ha]) _ _ _
  | succeeded _ _ _ _ at_ ha =>
    exact hrow.succeeded (hActive ha fun _ => ⟨by simp, by simp⟩) _ _
  | failed reason at_ => exact hrow.failing reason _ _
  | skipped hk ha hs | cleaned stops hk ha hs =>
    exact hrow.cleaned (by rwa [hSame ha]) (by rwa [hSame ha])
  | closed => exact hrow.ending _ _

/-- The guard refuses a write of a pass only where it would reopen a closing row. -/
theorem Write.refused {o : RealJobOrchestrator} {trace : List TraceEvent} {row row' : ControlJob}
    {changes : Changes} {x : PyExc} (h : Write o trace row changes) (hc : row.CloseOnly row')
    (hg : row'.guard changes = .error x) :
    x = .jobStateConflict ∧ row'.status = .closing ∧ changes.status.getD .closing ≠ .closing ∧
      changes.status.getD .closing ≠ .closed := by
  have hopen := hc.opened
  have hsame : row.active = false → row' = row := hc.eq
  clear hc
  unfold ControlJob.guard at hg
  simp only at hg
  split at hg
  · next ht =>
    exfalso
    cases h <;> simp only [RealJobOrchestrator.controllerChanges] at ht <;> grind
  · grind

/-- What a write adds to a row: no ID, URL or binding that the row has is replaced. -/
theorem Write.grows {o : RealJobOrchestrator} {trace : List TraceEvent}
    {row row' : ControlJob} {changes allowed : Changes} {now : Int}
    (h : Write o trace row changes) (hc : row.CloseOnly row')
    (hg : row'.guard changes = .ok allowed) : row'.Grows (allowed.write row' now) := by
  obtain ⟨hallowed, hterminal, hclosing⟩ := ControlJob.guard_ok hg
  obtain ⟨h1, h2, h3, h4, h5⟩ := hc.keeps
  have hopen := hc.opened
  clear hc hg
  have hgrows : row'.Grows (changes.write row' now) := by
    cases h <;> constructor <;>
      simp [Changes.write, ControlJob.identity, ControlJob.active,
        RealJobOrchestrator.controllerChanges] <;> grind
  rcases hallowed with rfl | ⟨rfl, -⟩
  · exact hgrows
  · exact ⟨hgrows.identity, hgrows.binding, hgrows.gateway, hgrows.url, hgrows.controller,
      hgrows.inactive⟩

/-! ### The rest of the world -/

/-- What the rest of the world leaves of a state: it closes active rows and adds new ones. -/
structure Later (sv : Services P) (w w' : World P) : Prop where
  rows {j : String} {row : ControlJob} : w.jobs.find j = some row →
    ∃ row', w'.jobs.find j = some row' ∧ row.CloseOnly row'
  trace : w'.trace = w.trace
  clock : ReflTransGen sv.tick w.clock w'.clock
  platform : ReflTransGen sv.drift w.platform w'.platform

theorem Later.refl (sv : Services P) (w : World P) : Later sv w w :=
  ⟨fun h => ⟨_, h, .refl _⟩, rfl, .refl, .refl⟩

theorem Later.trans {sv : Services P} {w w' w'' : World P} (h : Later sv w w')
    (h' : Later sv w' w'') : Later sv w w'' where
  rows hf := by
    obtain ⟨row', hf', hc⟩ := h.rows hf
    obtain ⟨row'', hf'', hc'⟩ := h'.rows hf'
    exact ⟨row'', hf'', hc.trans hc'⟩
  trace := h'.trace.trans h.trace
  clock := h.clock.trans h'.clock
  platform := h.platform.trans h'.platform

/-- Where a row comes from after one step of the rest of the world. -/
theorem Services.Interferes.row_cases {sv : Services P} {w w' : World P} (h : sv.Interferes w w')
    {j : String} {row' : ControlJob} (hf : w'.jobs.find j = some row') :
    (∃ row, w.jobs.find j = some row ∧ row.CloseOnly row') ∨
      ∃ new now, sv.mints new.jobId ∧ ReflTransGen sv.tick now w.clock ∧
        row' = newControlJob new now ∧ w.jobs.find j = none := by
  cases h with
  | event | tick | drift => exact .inl ⟨row', hf, .refl _⟩
  | @close j' now row transitioned jobs hc =>
    obtain ⟨current, hcur, rfl | ⟨ha, hfind⟩⟩ := JobTable.requestClose_ok hc
    · exact .inl ⟨row', hf, .refl _⟩
    · simp only [hfind] at hf
      split at hf
      · next hj =>
        cases hf
        exact .inl ⟨current, by rw [hj, hcur], .inr ⟨ha, now, rfl⟩⟩
      · exact .inl ⟨row', hf, .refl _⟩
  | @accept new now jobs hm ht ha =>
    obtain ⟨hnone, hfind⟩ := JobTable.add_ok ha
    simp only [hfind] at hf
    split at hf
    · next hj =>
      cases hf
      exact .inr ⟨new, now, hm, ht, rfl, by rw [hj, hnone]⟩
    · exact .inl ⟨row', hf, .refl _⟩

theorem Later.of_interferes {sv : Services P} {w w' : World P} (h : sv.Interferes w w') :
    Later sv w w' := by
  cases h with
  | event => exact ⟨fun h => ⟨_, h, .refl _⟩, rfl, .refl, .refl⟩
  | tick ht => exact ⟨fun h => ⟨_, h, .refl _⟩, rfl, .single ht, .refl⟩
  | drift hd => exact ⟨fun h => ⟨_, h, .refl _⟩, rfl, .refl, .single hd⟩
  | @close j' now row transitioned jobs hc =>
    refine ⟨fun {j r} hf => ?_, rfl, .refl, .refl⟩
    obtain ⟨current, hcur, rfl | ⟨ha, hfind⟩⟩ := JobTable.requestClose_ok hc
    · exact ⟨_, hf, .refl _⟩
    · by_cases hj : j = j'
      · subst hj
        obtain rfl : r = current := Option.some.inj (hf.symm.trans hcur)
        exact ⟨r.close now, by simp [hfind], .inr ⟨ha, now, rfl⟩⟩
      · exact ⟨r, by simp [hfind, hj, hf], .refl _⟩
  | @accept new now jobs hm ht ha =>
    refine ⟨fun {j r} hf => ?_, rfl, .refl, .refl⟩
    obtain ⟨hnone, hfind⟩ := JobTable.add_ok ha
    refine ⟨r, ?_, .refl _⟩
    simp only [hfind]
    split
    · next hj => rw [← hj, hf] at hnone; cases hnone
    · exact hf

theorem Later.of_waits {sv : Services P} {w w' : World P} (h : sv.system.Waits w w') :
    Later sv w w' := by
  induction h with
  | refl => exact .refl sv w
  | tail _ hStep ih => exact ih.trans (.of_interferes hStep)

/-! ### The contract of a pass -/

/-- The row was made at a time that the clock has shown before `now`. -/
def Clocked (sv : Services P) (row : ControlJob) (now : Int) : Prop :=
  ∃ made, row.createdAt = timestamp made ∧ ReflTransGen sv.tick made now

/-- What holds of the rows around every call. -/
structure Inv (sv : Services P) (w : World P) : Prop where
  consistent {j : String} {row : ControlJob} : w.jobs.find j = some row → row.Consistent
  clocked {j : String} {row : ControlJob} : w.jobs.find j = some row → Clocked sv row w.clock

/-- What must hold when a pass issues a call. -/
def Allowed (o : RealJobOrchestrator) (sv : Services P) (w : World P) : Op → Prop
  | .now => True
  | .update j now changes => ∃ row, w.jobs.find j = some row ∧ Clocked sv row now ∧
      Write o w.trace row changes
  | .createRJob spec => unrecorded w.trace = none ∧ ∃ row binding,
      w.jobs.find row.jobId = some row ∧ row.active = true ∧
      (row.gatewayRjobId = none ∧ row.bindingJson.isSome ∧ o.gatewaySpec row binding = .ok spec ∨
        row.safactoryRjobId = none ∧ GateOpen o row (passCalls w.trace) ∧
        o.safactorySpec row binding = .ok spec)
  | .stopRJob rjobId => unrecorded w.trace = none ∧ ∃ row stops,
      attempt w.trace = some (row, stops) ∧ w.jobs.find row.jobId = some row ∧
      row.active = false ∧ (o.settings.keepRjobs = true → row.status = .closing) ∧
      StopOrder row rjobId stops
  | _ => unrecorded w.trace = none

/-- The contract of a pass. -/
def protocol (o : RealJobOrchestrator) (sv : Services P) : Contract Op (World P) where
  inv := Inv sv
  idle w := unrecorded w.trace = none
  allowed := Allowed o sv

theorem Services.Initial.inv {sv : Services P} {w : World P} (h : sv.Initial w) : Inv sv w where
  consistent hf := by
    obtain ⟨new, now, -, -, rfl⟩ := h.rows _ (JobTable.find_mem hf)
    exact ControlJob.consistent_new new now
  clocked hf := by
    obtain ⟨new, now, -, ht, rfl⟩ := h.rows _ (JobTable.find_mem hf)
    exact ⟨now, rfl, ht⟩

theorem Inv.interferes {sv : Services P} {w w' : World P} (hInv : Inv sv w)
    (h : sv.Interferes w w') : Inv sv w' where
  consistent hf := by
    rcases h.row_cases hf with ⟨row, hf', hc⟩ | ⟨new, now, -, -, rfl, -⟩
    · exact (hInv.consistent hf').closeOnly hc
    · exact ControlJob.consistent_new new now
  clocked hf := by
    have hclock := (Later.of_interferes h).clock
    rcases h.row_cases hf with ⟨row, hf', hc⟩ | ⟨new, now, -, ht, rfl, -⟩
    · obtain ⟨made, hmade, ht⟩ := hInv.clocked hf'
      refine ⟨made, ?_, ht.trans hclock⟩
      rw [← hmade]
      exact congrArg Identity.createdAt hc.grows.identity
    · exact ⟨now, rfl, ht.trans hclock⟩

theorem Inv.waits {sv : Services P} {w w' : World P} (hInv : Inv sv w)
    (h : sv.system.Waits w w') : Inv sv w' := by
  induction h with
  | refl => exact hInv
  | tail _ hStep ih => exact ih.interferes hStep

/-- The row that an update finds when it runs, and the one that it leaves. -/
theorem Allowed.update_ok {o : RealJobOrchestrator} {sv : Services P} {w₀ w w' : World P}
    {j : String} {now : Int} {changes : Changes} {row : ControlJob}
    (ha : Allowed o sv w₀ (.update j now changes)) (hw : Later sv w₀ w)
    (hp : sv.Performs (.update j now changes) w (.ok row) w') :
    ∃ row₀ current allowed, w₀.jobs.find j = some row₀ ∧ Write o w₀.trace row₀ changes ∧
      row₀.CloseOnly current ∧ w.jobs.find j = some current ∧
      current.guard changes = .ok allowed ∧ row = allowed.write current now ∧
      ∀ i, w'.jobs.find i = if i = j then some row else w.jobs.find i := by
  obtain ⟨row₀, hf₀, -, hWrite⟩ := ha
  obtain ⟨current, allowed, hf, hg, hrow, hfind⟩ := hp.update_ok
  obtain ⟨current', hf', hc⟩ := hw.rows hf₀
  obtain rfl : current' = current := Option.some.inj (hf'.symm.trans hf)
  exact ⟨row₀, current', allowed, hf₀, hWrite, hc, hf, hg, hrow, hfind⟩

theorem Inv.performs {o : RealJobOrchestrator} {sv : Services P} {w₀ w w' : World P} {e : Op}
    {answer : Ans e} (hInv : Inv sv w) (ha : Allowed o sv w₀ e) (hw : Later sv w₀ w)
    (hp : sv.Performs e w answer w') : Inv sv w' := by
  have hsame : w'.jobs = w.jobs → Inv sv w' := fun hjobs =>
    ⟨fun hf => hInv.consistent (hjobs ▸ hf), fun hf => hp.clock ▸ hInv.clocked (hjobs ▸ hf)⟩
  cases e with
  | update j now changes =>
    cases answer with
    | error x => exact hsame hp.update_error.2
    | ok row =>
      obtain ⟨row₀, current, allowed, -, hWrite, hc, hf, hg, rfl, hfind⟩ := ha.update_ok hw hp
      constructor
      · intro i r hr
        rw [hfind] at hr
        split at hr
        · cases hr
          exact hWrite.consistent hc (hInv.consistent hf) hg
        · exact hInv.consistent hr
      · intro i r hr
        rw [hfind] at hr
        split at hr
        · cases hr
          obtain ⟨made, hmade, ht⟩ := hInv.clocked hf
          exact ⟨made, hmade, hp.clock ▸ ht⟩
        · rw [hp.clock]
          exact hInv.clocked hr
  | now | listActive | listCleanupPending | get | addEvent | createRJob | getRJob | stopRJob
  | ready | bind => exact hsame (hp.jobs (by simp))

/-- Every step of the server keeps the contract. -/
theorem protocol_kept (o : RealJobOrchestrator) (sv : Services P)
    (permitted : World P → Label Op Ans → World P → Prop) :
    (protocol o sv).Kept sv.system permitted where
  interference hInv h _ := hInv.interferes h
  idle hIdle h _ := by
    show unrecorded _ = none
    rw [(Later.of_interferes h).trace]
    exact hIdle
  answer _ ha hw hInv hp _ := hInv.performs ha (.of_waits hw) hp
  crash hInv h _ := by
    cases h
    exact ⟨⟨hInv.consistent, hInv.clocked⟩, rfl⟩
  lost _ ha hw hInv hp h _ := by
    cases h
    have hInv' := hInv.performs ha (.of_waits hw) hp
    exact ⟨⟨hInv'.consistent, hInv'.clocked⟩, rfl⟩

end SafactoryServer
