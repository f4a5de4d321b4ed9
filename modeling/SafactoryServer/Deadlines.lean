import SafactoryServer.Isolation
import SafactoryServer.Lifecycle

/-! The deadlines of a Job: every pass ends a Job whose controller, Gateway or submission has taken
too long, whatever the services answer. -/

namespace SafactoryServer

open Effect
open Relation (ReflTransGen)

variable {P : Type} {o : RealJobOrchestrator} {sv : Services P} {w₀ w w' : World P}

/-- The clock never goes back, `JobStateConflict` is an exception of the control store alone, and a
stop raises at most `RJobDependencyError`. -/
structure Services.Steady (sv : Services P) : Prop where
  tick {now later : Int} : sv.tick now later → now ≤ later
  create {p p' : P} {spec : RJobSpec} : ¬ sv.create p spec (.error .jobStateConflict) p'
  get {p p' : P} {rjobId : String} : ¬ sv.get p rjobId (.error .jobStateConflict) p'
  ready {p p' : P} {url path : String} : ¬ sv.ready p url path (.error .jobStateConflict) p'
  bind {p p' : P} {jobId rangeId : String} : ¬ sv.bind p jobId rangeId (.error .jobStateConflict) p'
  stop : sv.StopsCleanly

theorem Services.clock_le (hTick : ∀ now later, sv.tick now later → now ≤ later) {now later : Int}
    (h : ReflTransGen sv.tick now later) : now ≤ later := by
  induction h with
  | refl => exact le_refl now
  | tail _ hStep ih => exact le_trans ih (hTick _ _ hStep)

theorem Services.Steady.clock (hSteady : sv.Steady) {now later : Int}
    (h : ReflTransGen sv.tick now later) : now ≤ later :=
  Services.clock_le (fun _ _ => hSteady.tick) h

/-- What steady services have answered, and when the rows were written. -/
structure Punctual (sv : Services P) (w : World P) : Prop where
  calm : ∀ event ∈ w.trace, ¬ event.Conflicts
  updates {j : String} {now : Int} {changes : Changes} {last : ControlJob} :
    .call (.update j now changes) (.ok last) ∈ w.trace →
    ∃ row, w.jobs.find j = some row ∧ Clocked sv row now

theorem Services.Steady.calm (hSteady : sv.Steady) {w₁ : World P} {e : Op} {answer : Ans e}
    (ha : Allowed o sv w₁ e) (hp : sv.Performs e w answer w') :
    ¬ TraceEvent.Conflicts (.call e answer) := by
  cases e with
  | now | listActive | listCleanupPending | get | update | addEvent => exact id
  | createRJob =>
    rintro rfl
    obtain ⟨p, hp, -⟩ := hp
    exact hSteady.create hp
  | getRJob =>
    rintro rfl
    obtain ⟨p, hp, -⟩ := hp
    exact hSteady.get hp
  | stopRJob =>
    rintro rfl
    obtain ⟨-, row, stops, -, -, -, -, hOrder⟩ := ha
    obtain ⟨p, hp, -⟩ := hp
    cases hSteady.stop _ _ _ _ hOrder.ne_empty hp
  | ready =>
    rintro rfl
    obtain ⟨p, hp, -⟩ := hp
    exact hSteady.ready hp
  | bind =>
    rintro rfl
    obtain ⟨p, hp, -⟩ := hp
    exact hSteady.bind hp

theorem Punctual.later (h : Punctual sv w) (hLater : Later sv w w') : Punctual sv w' := by
  refine ⟨hLater.trace ▸ h.calm, fun hMem => ?_⟩
  obtain ⟨row, hf, hClocked⟩ := h.updates (hLater.trace ▸ hMem)
  obtain ⟨row', hf', hc⟩ := hLater.rows hf
  exact ⟨row', hf', (Clocked.closeOnly hc).mpr hClocked⟩

theorem Clocked.grows {row row' : ControlJob} {now : Int} (h : Clocked sv row now)
    (hg : row.Grows row') : Clocked sv row' now := by
  obtain ⟨made, hMade, hTick⟩ := h
  exact ⟨made, (congrArg Identity.createdAt hg.identity).trans hMade, hTick⟩

theorem Punctual.performs (hSteady : sv.Steady) {w₁ : World P} (h : Punctual sv w) {e : Op}
    {answer : Ans e} (ha : Allowed o sv w₁ e) (hw : Later sv w₁ w)
    (hp : sv.Performs e w answer w') : Punctual sv w' := by
  by_cases hNow : e = .now
  · subst hNow
    obtain ⟨-, rfl⟩ := hp
    exact h
  have hTrace := hp.trace hNow
  have hRows : ∀ {j : String} {now : Int}, (∃ row, w.jobs.find j = some row ∧ Clocked sv row now) →
      ∃ row, w'.jobs.find j = some row ∧ Clocked sv row now := by
    rintro j now ⟨row, hf, hClocked⟩
    obtain ⟨row', hf'⟩ := hp.row_kept hf
    refine ⟨row', hf', ?_⟩
    obtain ⟨row₀, hf₀, hCase⟩ := hp.row_cases ha hw hf'
    obtain rfl : row₀ = row := Option.some.inj (hf₀.symm.trans hf)
    rcases hCase with rfl | ⟨source, changes, -, hWritten⟩
    · exact hClocked
    · exact ((Clocked.closeOnly hWritten.closeOnly).mp hClocked).grows hWritten.grows
  refine ⟨fun event hMem => ?_, fun {j now changes last} hMem => ?_⟩
  · rw [hTrace] at hMem
    rcases List.mem_cons.mp hMem with rfl | hMem
    · exact hSteady.calm ha hp
    · exact h.calm event hMem
  · rw [hTrace] at hMem
    rcases List.mem_cons.mp hMem with heq | hMem
    · cases heq
      obtain ⟨source, hSource, hClocked, -⟩ := ha
      obtain ⟨row, hf, hc⟩ := hw.rows hSource
      exact hRows ⟨row, hf, (Clocked.closeOnly hc).mpr hClocked⟩
    · exact hRows (h.updates hMem)

theorem Punctual.restart (h : Punctual sv w) : Punctual sv w.restart := by
  refine ⟨fun event hMem => ?_, fun hMem => h.updates (World.mem_restart.mp hMem)⟩
  rcases List.mem_cons.mp hMem with rfl | hMem
  · exact id
  · exact h.calm event hMem

theorem punctual_preserved (hSteady : sv.Steady)
    (permitted : World P → Label Op Ans → World P → Prop) :
    (protocol o sv).Preserves sv.system (Punctual sv) permitted where
  interference _ hJ h _ := hJ.later (.of_interferes h)
  answer _ _ ha hw _ hJ hp _ := hJ.performs hSteady ha (.of_waits hw) hp
  crash _ hJ h _ := by
    cases h
    exact hJ.restart
  lost _ _ ha hw _ hJ hp h _ := by
    cases h
    exact (hJ.performs hSteady ha (.of_waits hw) hp).restart

/-- The Gateway RJob of the Job was recorded at the time `s`. -/
def GatewayRecorded (trace : List TraceEvent) (j : String) (s : Int) : Prop :=
  ∃ changes last, .call (.update j s changes) (.ok last) ∈ trace ∧ changes.gatewayRjobId.isSome

/-- A row that is still active after a pass had time left at some moment of the pass. -/
theorem Sweeping.time_left (hSteady : sv.Steady) (h : Sweeping o sv w [] w')
    (hCalm : ∀ event ∈ w'.trace, ¬ event.Conflicts) {j : String} {row : ControlJob}
    (hf : w.jobs.find j = some row) :
    ∃ row', w'.jobs.find j = some row' ∧ row.Grows row' ∧
      (row'.active = true → ∃ t, w.clock ≤ t ∧ o.expired row' t = false) := by
  obtain ⟨row', hf', hg, hEnforced, -⟩ := h.rows hf
  refine ⟨row', hf', hg, fun ha => ?_⟩
  rcases hEnforced ha with ⟨event, hMem, hConflict⟩ | ⟨t, hTick, hTime⟩
  · exact absurd hConflict (hCalm event hMem)
  · exact ⟨t, hSteady.clock hTick, hTime⟩

theorem RealJobOrchestrator.expired_gateway {row : ControlJob} {t : Int}
    (h : o.expired row t = false) (hNone : row.safactoryRjobId = none) :
    t - parseTimestamp row.createdAt ≤ o.settings.gatewayReadyTimeoutSeconds * 1000000 := by
  unfold expired at h
  rw [hNone, Option.isSome_none, if_neg Bool.false_ne_true, timedOut, decide_eq_false_iff_not] at h
  exact not_lt.mp h

theorem RealJobOrchestrator.expired_controller {row : ControlJob} {t startedAt : Int}
    (h : o.expired row t = false) (hController : row.safactoryRjobId.isSome)
    (hStart : row.startedAt = some startedAt) :
    t - parseTimestamp startedAt ≤ o.settings.safactoryTimeoutSeconds * 1000000 := by
  unfold expired at h
  rw [hController, if_pos rfl, controllerTimedOut, hStart, decide_eq_false_iff_not] at h
  exact not_lt.mp h

/-- A Job was made before its Gateway RJob was recorded. -/
theorem Punctual.gateway_recorded (hSteady : sv.Steady) (h : Punctual sv w) {j : String}
    {row : ControlJob} {s : Int} (hf : w.jobs.find j = some row)
    (hRecorded : GatewayRecorded w.trace j s) : parseTimestamp row.createdAt ≤ s := by
  obtain ⟨changes, last, hMem, -⟩ := hRecorded
  obtain ⟨row', hf', made, hMade, hTick⟩ := h.updates hMem
  obtain rfl : row' = row := Option.some.inj (hf'.symm.trans hf)
  rw [hMade]
  exact le_trans (parse_timestamp_le made) (hSteady.clock hTick)

/-- Every pass of a run returns, and enforces the three deadlines of every Job that it found. -/
theorem deadlines_enforced {j : String} {row : ControlJob} {result : Except PyExc Unit}
    (hSteady : sv.Steady) (h₀ : sv.Initial w₀)
    (hReaches : sv.Reaches o (fun _ _ _ => True) ⟨w₀, none⟩ ⟨w, none⟩)
    (hPass : Exec sv.system (α := Except PyExc Unit) o.reconcileOnce w result w')
    (hf : w.jobs.find j = some row) :
    result = .ok () ∧ ∃ row', w'.jobs.find j = some row' ∧
      (∀ startedAt, row.safactoryRjobId.isSome → row.startedAt = some startedAt →
        o.settings.safactoryTimeoutSeconds * 1000000 < w.clock - parseTimestamp startedAt →
        row'.active = false) ∧
      (∀ s, row.safactoryRjobId = none → row.gatewayRjobId.isSome →
        GatewayRecorded w.trace j s →
        o.settings.gatewayReadyTimeoutSeconds * 1000000 < w.clock - s →
        row'.active = false ∨ row'.safactoryRjobId.isSome) ∧
      (row.gatewayRjobId = none →
        o.settings.gatewayReadyTimeoutSeconds * 1000000 <
          w.clock - parseTimestamp row.createdAt →
        row'.active = false ∨ row'.gatewayRjobId.isSome) := by
  have hStart : Punctual sv w₀ := by
    constructor <;> simp [h₀.trace]
  obtain ⟨⟨hInv₀, hBefore⟩, hIdle⟩ := hReaches.holds h₀ hStart (punctual_preserved hSteady _)
  obtain ⟨hEnds, hInv, hAfter⟩ := hReaches.exec h₀ hStart (punctual_preserved hSteady _)
    reconcileOnce_safe hPass
  have hReturns := (hSteady.stop.isolated hInv₀ hIdle hPass).returns
  subst hReturns
  obtain ⟨row', hf', hg, hLeft⟩ := Sweeping.time_left hSteady hEnds hAfter.calm hf
  have hCreated : row'.createdAt = row.createdAt := congrArg Identity.createdAt hg.identity
  refine ⟨rfl, row', hf', fun startedAt hController hStarted hTime => ?_,
    fun s hNone hGateway hRecorded hTime => ?_, fun hNone hTime => ?_⟩
  · by_contra ha
    obtain ⟨t, hClock, hExpired⟩ := hLeft (by simpa using ha)
    obtain ⟨hid, hstart⟩ := hg.controller hController
    have := RealJobOrchestrator.expired_controller hExpired (hid ▸ hController)
      (hstart.trans hStarted)
    omega
  · have hMade := hBefore.gateway_recorded hSteady hf hRecorded
    by_contra hStill
    rw [not_or, Bool.not_eq_false, Option.not_isSome_iff_eq_none] at hStill
    obtain ⟨t, hClock, hExpired⟩ := hLeft hStill.1
    have := RealJobOrchestrator.expired_gateway hExpired hStill.2
    rw [hCreated] at this
    omega
  · by_contra hStill
    rw [not_or, Bool.not_eq_false, Option.not_isSome_iff_eq_none] at hStill
    obtain ⟨t, hClock, hExpired⟩ := hLeft hStill.1
    have hCons := hInv.consistent hf'
    have hFree : row'.safactoryRjobId = none := by
      by_contra hsome
      have := (hCons.url (hCons.controller (Option.isSome_iff_ne_none.mpr hsome))).1
      rw [hStill.2] at this
      cases this
    have := RealJobOrchestrator.expired_gateway hExpired hFree
    rw [hCreated] at this
    omega

/-! ### A Gateway that never starts -/

/-- A platform that creates RJobs and never starts them. -/
def pendingScript : Script Unit where
  create _ spec := (.ok (spec.role ++ "-1"), ())
  get _ rjobId := (.ok { rjobId := rjobId, state := .pending }, ())
  stop _ _ := (.ok (), ())
  ready _ _ _ := (.ok true, ())
  bind _ _ _ := (.ok sampleBinding, ())

theorem pendingScript_steady : pendingScript.services.Steady where
  tick h := h
  create h := by cases h
  get h := by cases h
  ready h := by cases h
  bind h := by cases h
  stop := by
    intro p rjobId x p' hne h
    cases h

/-- The recording of the Gateway of the sample Job when the server started. -/
def recordsGateway : TraceEvent → Bool
  | .call (.update j s changes) (.ok _) => j = "job" ∧ s = 0 ∧ changes.gatewayRjobId.isSome
  | _ => false

theorem recordsGateway_recorded {trace : List TraceEvent}
    (h : trace.any recordsGateway = true) : GatewayRecorded trace "job" 0 := by
  obtain ⟨event, hMem, hEvent⟩ := List.any_eq_true.mp h
  unfold recordsGateway at hEvent
  split at hEvent
  · next j s changes last =>
    obtain ⟨rfl, rfl, hChanges⟩ : j = "job" ∧ s = 0 ∧ changes.gatewayRjobId.isSome := by
      simpa using hEvent
    exact ⟨changes, last, hMem, hChanges⟩
  · cases hEvent

/-- The pass that begins 301 seconds after the Gateway was recorded ends the Job. -/
theorem deadlines_enforced_pending :
    ∃ w w' row result row', pendingScript.services.Reaches sampleOrchestrator (fun _ _ _ => True)
        ⟨sampleWorld (), none⟩ ⟨w, none⟩ ∧ w.clock = 301000000 ∧
      w.jobs.find "job" = some row ∧ row.active = true ∧
      Exec pendingScript.services.system (α := Except PyExc Unit) sampleOrchestrator.reconcileOnce
        w result w' ∧ result = .ok () ∧ w'.jobs.find "job" = some row' ∧
      (row'.active = false ∨ row'.safactoryRjobId.isSome) := by
  have hIdle := (pendingScript.reaches_idle sampleOrchestrator (sampleWorld ())
    (by decide +kernel)).always
  have hRow : ∃ row, (pendingScript.pass sampleOrchestrator (sampleWorld ())).2.jobs.find "job" =
      some row ∧ row.active = true ∧ row.safactoryRjobId = none ∧ row.gatewayRjobId.isSome := by
    decide +kernel
  have hAny : (pendingScript.pass sampleOrchestrator (sampleWorld ())).2.trace.any
      recordsGateway = true := by decide +kernel
  have hRecorded := recordsGateway_recorded hAny
  have hClock : (pendingScript.pass sampleOrchestrator (sampleWorld ())).2.clock = 0 := by
    decide +kernel
  obtain ⟨row, hf, ha, hNone, hGateway⟩ := hRow
  generalize (pendingScript.pass sampleOrchestrator (sampleWorld ())).2 = first at *
  have hTick : pendingScript.services.Interferes first { first with clock := 301000000 } :=
    .tick (show first.clock ≤ 301000000 by rw [hClock]; decide)
  have hReaches := Reaches.tail hIdle (.interference hTick) trivial
  have hExec := pendingScript.exec_pass sampleOrchestrator { first with clock := 301000000 }
  have hLate : (300 : Int) * 1000000 < 301000000 - 0 := by decide
  obtain ⟨hOk, row', hf', -, hDeadline, -⟩ :=
    deadlines_enforced pendingScript_steady (sampleWorld_initial _ ()) hReaches hExec hf
  exact ⟨_, _, row, _, row', hReaches, rfl, hf, ha, hExec, hOk, hf',
    hDeadline 0 hNone hGateway hRecorded hLate⟩

end SafactoryServer
