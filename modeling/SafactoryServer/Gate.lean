import SafactoryServer.Pass
import SafactoryServer.Script

/-! The Gateway before the controller: what a pass has seen before it creates a controller, what it
tells the controller, and what it does with a Job whose Gateway is lost later. -/

namespace SafactoryServer

open Effect

variable {P : Type} {o : RealJobOrchestrator} {sv : Services P} {w₀ : World P}

/-- The pass that creates `spec` in `w` has seen the recorded Gateway of the Job with a route and
healthy, at the URL that is persisted and that `spec` carries. -/
structure Gated (o : RealJobOrchestrator) (spec : RJobSpec) (row : ControlJob)
    (gateway : RJobSnapshot) (url : String) (w : World P) : Prop where
  found : w.jobs.find row.jobId = some row ∧ row.active = true ∧ row.safactoryRjobId = none
  owner : spec.ownerJob = some row.jobId
  ready : gateway.state = .running ∧ gateway.ready = true ∧ o.gatewayHasRoute gateway = true
  built : url = gatewayUrl o.settings.gatewayScheme (gateway.address.getD "") (gateway.port.getD 0)
  persisted : row.gatewayUrl = some url
  seen : ∃ rjobId, row.gatewayRjobId = some rjobId ∧
    [.call (.ready url o.settings.gatewayHealthPath) (.ok true),
      .call (.getRJob rjobId) (.ok gateway)].Sublist (passCalls w.trace)
  carries : spec.Carries (url ++ "/" ++ lstrip ['/'] o.settings.gatewaySessionsPath)

theorem GateOpen.gated {spec : RJobSpec} {row : ControlJob} {binding : JobFileBinding}
    {w : World P} (hGate : GateOpen o row (passCalls w.trace))
    (hf : w.jobs.find row.jobId = some row) (ha : row.active = true)
    (hnone : row.safactoryRjobId = none) (hSpec : o.safactorySpec row binding = .ok spec) :
    ∃ row gateway url, Gated o spec row gateway url w := by
  obtain ⟨rjobId, gateway, hid, hRoute, hurl, hSeen⟩ := hGate
  obtain ⟨hRunning, hReady⟩ := RealJobOrchestrator.gatewayHasRoute_running hRoute
  refine ⟨row, gateway, o.gatewayUrlOf gateway, ⟨hf, ha, hnone⟩,
    (RealJobOrchestrator.safactorySpec_ok hSpec).2.2.2, ⟨hRunning, hReady, hRoute⟩, rfl, hurl,
    ⟨rjobId, hid, hSeen⟩, ?_⟩
  have hCarries := RealJobOrchestrator.safactorySpec_carries hSpec hurl
  rwa [RealJobOrchestrator.gatewayUrlOf, appendUrlPath_gatewayUrl] at hCarries

/-- A turn that found the Gateway of a controller lost ends in one of the statuses. -/
theorem Halts.of_unhealthy {j url : String} {row : ControlJob} {trace calls : List TraceEvent}
    {stopped : Prop} (h : Halts o j row trace stopped) (hCalls : (some j, calls) ∈ turns trace)
    (hController : row.safactoryRjobId.isSome) (hurl : row.gatewayUrl = some url)
    (hLost : Unhealthy o url calls) : stopped :=
  (h calls hCalls).resolve_left fun hWatched => hWatched hController url hurl hLost

/-- A controller is created only behind its Gateway gate, and a pass that finds the Gateway of a
recorded controller lost leaves the Job failed or closing; the cleanup at the end of that pass may
close it. -/
theorem controller_gated (h₀ : sv.Initial w₀) :
    (∀ {w : World P} {spec : RJobSpec},
      sv.Issues o (fun _ _ _ => True) ⟨w₀, none⟩ w (.createRJob spec) →
      spec.role = "safactory-controller" → ∃ row gateway url, Gated o spec row gateway url w) ∧
    ∀ {w w' : World P} {j url : String} {row : ControlJob} {calls : List TraceEvent}
      {result : Except PyExc Unit}, sv.Reaches o (fun _ _ _ => True) ⟨w₀, none⟩ ⟨w, none⟩ →
      w.jobs.find j = some row → row.safactoryRjobId.isSome → row.gatewayUrl = some url →
      (some j, calls) ∈ turns w'.trace → Unhealthy o url calls →
      (Exec sv.system (α := Except PyExc Unit) o.reconcileActive w result w' →
        ∃ row', w'.jobs.find j = some row' ∧ (row'.status = .failed ∨ row'.status = .closing)) ∧
      (Exec sv.system (α := Except PyExc Unit) o.reconcileOnce w result w' →
        ∃ row', w'.jobs.find j = some row' ∧
          (row'.status = .failed ∨ row'.status = .closing ∨ row'.status = .closed)) := by
  refine ⟨fun {w spec} hIssues hRole => ?_, ?_⟩
  · obtain ⟨-, -, row, binding, hf, ha, hSubmits⟩ :=
      hIssues.allowed h₀ (J := fun _ => True) trivial (preserves_true _ _)
    rcases hSubmits with ⟨-, -, hSpec⟩ | ⟨hnone, hGate, hSpec⟩
    · rw [(RealJobOrchestrator.gatewaySpec_ok hSpec).1] at hRole
      exact absurd hRole (by decide)
    · exact hGate.gated hf ha hnone hSpec
  intro w w' j url row calls result hReaches hf hController hurl hCalls hLost
  refine ⟨fun hExec => ?_, fun hExec => ?_⟩
  · obtain ⟨hEnds, -⟩ := hReaches.exec h₀ (J := fun _ => True) trivial (preserves_true _ _)
      reconcileActive_safe hExec
    have hTurning : ∃ rest, Turning o sv w rest w' := by
      cases result with
      | ok => exact ⟨[], hEnds⟩
      | error x => exact hEnds.2
    obtain ⟨rest, hTurning⟩ := hTurning
    obtain ⟨row', hf', -, -, hHalts⟩ := hTurning.rows hf
    exact ⟨row', hf', hHalts.of_unhealthy hCalls hController hurl hLost⟩
  · obtain ⟨hEnds, -⟩ := hReaches.exec h₀ (J := fun _ => True) trivial (preserves_true _ _)
      reconcileOnce_safe hExec
    cases result with
    | ok =>
      obtain ⟨row', hf', -, -, hHalts⟩ := Sweeping.rows hEnds hf
      exact ⟨row', hf', hHalts.of_unhealthy hCalls hController hurl hLost⟩
    | error x =>
      obtain ⟨row', hf', hHalts⟩ := Broken.rows hEnds hf
      exact ⟨row', hf', hHalts.of_unhealthy hCalls hController hurl hLost⟩

/-! ### A run that loses its Gateway -/

/-- A platform whose Gateway is healthy at the first check only. -/
def flakyScript : Script Bool where
  create p spec := (.ok (spec.role ++ "-1"), p)
  get p rjobId :=
    (.ok { rjobId := rjobId, state := .running, ready := true, address := some "10.0.0.1"
           port := some 8000 }, p)
  stop p _ := (.ok (), p)
  ready p _ _ := (.ok p, false)
  bind p _ _ := (.ok sampleBinding, p)

/-- The calls of a turn of the sample Job that ended at a failed health check. -/
def lostCalls : Option String × List TraceEvent → Bool
  | (turn, calls) => turn = some "job" && (match gatewayAnswer calls with
    | some (.ok _) => true
    | _ => false) && healthAnswer calls = some (.ok false)

theorem lostCalls_unhealthy {url : String} {turn : Option String × List TraceEvent}
    (h : lostCalls turn = true) : turn.1 = some "job" ∧ Unhealthy o url turn.2 := by
  simp only [lostCalls, Bool.and_eq_true, decide_eq_true_eq] at h
  obtain ⟨⟨hJob, hGateway⟩, hHealth⟩ := h
  refine ⟨hJob, ?_⟩
  split at hGateway
  · next snapshot heq => exact ⟨snapshot, heq, .inr ⟨false, hHealth, by simp⟩⟩
  · cases hGateway

/-- The creation of a controller. -/
def createsController : TraceEvent → Bool
  | .call (.createRJob spec) _ => spec.role = "safactory-controller"
  | _ => false

theorem createsController_eq {event : TraceEvent} (h : createsController event = true) :
    ∃ spec answer, event = .call (.createRJob spec) answer ∧
      spec.role = "safactory-controller" := by
  unfold createsController at h
  split at h
  · next spec answer => exact ⟨spec, answer, rfl, by simpa using h⟩
  · cases h

/-- The first pass of the server creates a controller behind the gate, and the second fails the Job
whose Gateway is not healthy any more. -/
theorem controller_gated_lost :
    (∃ w spec row gateway url, flakyScript.services.Issues sampleOrchestrator (fun _ _ _ => True)
        ⟨sampleWorld true, none⟩ w (.createRJob spec) ∧ spec.role = "safactory-controller" ∧
      Gated sampleOrchestrator spec row gateway url w) ∧
    ∃ w w' row row', flakyScript.services.Reaches sampleOrchestrator (fun _ _ _ => True)
        ⟨sampleWorld true, none⟩ ⟨w, none⟩ ∧ w.jobs.find "job" = some row ∧
      row.status = .running ∧ Exec flakyScript.services.system (α := Except PyExc Unit)
        sampleOrchestrator.reconcileOnce w (.ok ()) w' ∧ w'.jobs.find "job" = some row' ∧
      (row'.status = .failed ∨ row'.status = .closing ∨ row'.status = .closed) := by
  have hGated := controller_gated (o := sampleOrchestrator) (sampleWorld_initial flakyScript true)
  obtain ⟨hCreates, hLost⟩ := hGated
  constructor
  · have hReaches := (flakyScript.reaches_pass sampleOrchestrator (sampleWorld true)).always
    have hAny : (flakyScript.pass sampleOrchestrator (sampleWorld true)).2.trace.any
        createsController = true := by decide +kernel
    obtain ⟨event, hMem, hEvent⟩ := List.any_eq_true.mp hAny
    obtain ⟨spec, answer, rfl, hRole⟩ := createsController_eq hEvent
    obtain ⟨w, hIssues⟩ := Services.Reaches.issued hReaches rfl List.not_mem_nil hMem
    obtain ⟨row, gateway, url, h⟩ := hCreates hIssues hRole
    exact ⟨w, spec, row, gateway, url, hIssues, hRole, h⟩
  · have hReaches := (flakyScript.reaches_idle sampleOrchestrator (sampleWorld true)
      (by decide +kernel)).always
    have hExec := flakyScript.exec_pass sampleOrchestrator
      (flakyScript.pass sampleOrchestrator (sampleWorld true)).2
    have hOk : (flakyScript.pass sampleOrchestrator
        (flakyScript.pass sampleOrchestrator (sampleWorld true)).2).1 = .ok () := by decide +kernel
    rw [hOk] at hExec
    have hAny : (turns (flakyScript.pass sampleOrchestrator
        (flakyScript.pass sampleOrchestrator (sampleWorld true)).2).2.trace).any lostCalls =
        true := by
      decide +kernel
    have hRow : ∃ row, (flakyScript.pass sampleOrchestrator (sampleWorld true)).2.jobs.find "job" =
        some row ∧ row.status = .running ∧ row.safactoryRjobId.isSome ∧
          row.gatewayUrl = some "http://10.0.0.1:8000" := by
      decide +kernel
    obtain ⟨⟨turn, calls⟩, hMem, hTurn⟩ := List.any_eq_true.mp hAny
    obtain ⟨rfl, hUnhealthy⟩ := lostCalls_unhealthy hTurn
    obtain ⟨row, hf, hs, hController, hurl⟩ := hRow
    obtain ⟨row', hf', hs'⟩ := (hLost hReaches hf hController hurl hMem hUnhealthy).2 hExec
    exact ⟨_, _, row, row', hReaches, hf, hs, hExec, hf', hs'⟩

end SafactoryServer
