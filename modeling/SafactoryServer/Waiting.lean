import SafactoryServer.Deadlines
import SafactoryServer.Effect.Coupled
import SafactoryServer.Effect.Log

/-! How long a Job that failed for its Gateway has waited for it.  The deadlines of a Gateway are
tested against the creation of the Job, so that what passes before the Gateway is recorded counts
too: a Job that failed had its Gateway for the whole timeout if no test came between the two
deadlines. -/

namespace SafactoryServer

open Effect
open Relation (ReflTransGen)

variable {P : Type}

/-- The reasons for which `_reconcile` fails a Job whose Gateway is not ready in time. -/
def Changes.gatewayTimeout (changes : Changes) : Bool :=
  changes.statusReason = some (some "GATEWAY_READY_TIMEOUT") ||
    changes.statusReason = some (some "GATEWAY_HEALTH_TIMEOUT")

/-- The times at which a Gateway RJob of the Job was recorded. -/
def gatewayRecordings (j : String) : List TraceEvent → List Int
  | [] => []
  | .call (.update i s changes) (.ok _) :: earlier =>
    if i = j ∧ changes.gatewayRjobId.isSome then s :: gatewayRecordings j earlier
    else gatewayRecordings j earlier
  | _ :: earlier => gatewayRecordings j earlier

namespace RealJobOrchestrator

variable (o : RealJobOrchestrator)

/-- The Gateway of the Job was recorded, and the timeout has elapsed since. -/
def Elapsed (j : String) (trace : List TraceEvent) (now : Int) : Prop :=
  gatewayRecordings j trace ≠ [] ∧ ∀ s ∈ gatewayRecordings j trace,
    o.settings.gatewayReadyTimeoutSeconds * 1000000 ≤ now - s

/-- Every Job that failed for its Gateway had it for the timeout. -/
def Earned : List TraceEvent → Prop
  | [] => True
  | .call (.update j now changes) (.ok _) :: earlier =>
    (changes.gatewayTimeout = true → o.Elapsed j earlier now) ∧ Earned earlier
  | _ :: earlier => Earned earlier

/-- The deadline has passed since the Job was made, and not since its Gateway was recorded. -/
def Charged (job : ControlJob) (recorded now : Int) : Prop :=
  timedOut job o.settings.gatewayReadyTimeoutSeconds now = true ∧
    now - recorded < o.settings.gatewayReadyTimeoutSeconds * 1000000

end RealJobOrchestrator

/-- A write that a test of the Gateway's deadline may follow: of the status of a Gateway, or of a
failed health check. -/
def Changes.beforeTest (changes : Changes) : Bool :=
  changes.gatewayStatus.isSome && changes.gatewayRjobId.isNone ||
    changes.phase = some "checking_gateway_health"

/-- The Job whose Gateway's deadline the next reading of the clock tests, if the clock is read
next. -/
def testedNext : List (Answered Op Ans) → Option ControlJob
  | ⟨.update _ _ changes, .ok row⟩ :: _ =>
    if changes.beforeTest ∧ row.status ≠ .closing then some row else none
  | _ => none

/-- A reading of the clock at `t` does not fail a Job for the time before its Gateway was
recorded. -/
def Patient (o : RealJobOrchestrator) (w : World P) (log : List (Answered Op Ans)) (t : Int) :
    Prop :=
  ∀ job ∈ testedNext log, ∀ s ∈ gatewayRecordings job.jobId w.trace, ¬ o.Charged job s t

/-- The steps in which no deadline of a Gateway is tested between the one and the other. -/
def Patiently (o : RealJobOrchestrator) :
    World P × List (Answered Op Ans) → Label Op Ans → World P × List (Answered Op Ans) → Prop
  | (w, log), .answer .now t, _ => Patient o w log t
  | _, _, _ => True

/-! ### What a run keeps -/

/-- The Gateway of each row that has one was recorded. -/
def Backed (w : World P) : Prop :=
  ∀ j row, w.jobs.find j = some row → row.gatewayRjobId.isSome → gatewayRecordings j w.trace ≠ []

/-- If the clock was read last, the reading was patient. -/
def ReadPatiently (o : RealJobOrchestrator) (w : World P) : List (Answered Op Ans) → Prop
  | ⟨.now, t⟩ :: log => Patient o w log t
  | _ => True

/-- What a patient run keeps, and which writes it makes. -/
def patience (o : RealJobOrchestrator) : Contract Op (World P × List (Answered Op Ans)) where
  inv x := Backed x.1 ∧ o.Earned x.1.trace ∧ ReadPatiently o x.1 x.2
  idle _ := True
  allowed
    | x, .update j now changes => changes.gatewayTimeout = true → o.Elapsed j x.1.trace now
    | _, _ => True

variable {o : RealJobOrchestrator} {sv : Services P} {w w' : World P} {j : String}

theorem RealJobOrchestrator.earned_call {e : Op} {answer : Ans e}
    (he : ∀ i s changes, e ≠ .update i s changes) (earlier : List TraceEvent) :
    o.Earned (.call e answer :: earlier) ↔ o.Earned earlier := by
  cases e with
  | update i s changes => exact absurd rfl (he i s changes)
  | now | listActive | listCleanupPending | get | addEvent | createRJob | getRJob | stopRJob
  | ready | bind => exact Iff.rfl

/-- A recording stays. -/
theorem gatewayRecordings_subset (event : TraceEvent) (earlier : List TraceEvent) :
    gatewayRecordings j earlier ⊆ gatewayRecordings j (event :: earlier) := by
  intro s hs
  match event with
  | .restart => exact hs
  | .call (.update i s' changes) (.ok row) =>
    rw [gatewayRecordings]
    split
    · exact List.mem_cons_of_mem _ hs
    · exact hs
  | .call (.update i s' changes) (.error x) => exact hs
  | .call .now _ | .call .listActive _ | .call .listCleanupPending _ | .call (.get _) _
  | .call (.addEvent _) _ | .call (.createRJob _) _ | .call (.getRJob _) _ | .call (.stopRJob _) _
  | .call (.ready _ _) _ | .call (.bind _ _) _ => exact hs

theorem Backed.interferes (h : Backed w) (hi : sv.Interferes w w') : Backed w' := by
  intro j row hf hg
  rw [(Later.of_interferes hi).trace]
  rcases hi.row_cases hf with ⟨row', hf', hc⟩ | ⟨new, now, -, -, rfl, -⟩
  · exact h j row' hf' (hc.keeps.2.1 ▸ hg)
  · cases hg

theorem Backed.performs (h : Backed w) {e : Op} {answer : Ans e}
    (hp : sv.Performs e w answer w') : Backed w' := by
  intro i row hf hg
  have hsame : w'.jobs = w.jobs → gatewayRecordings i w.trace ≠ [] := by
    intro hjobs
    rw [hjobs] at hf
    exact h i row hf hg
  have hkept : gatewayRecordings i w.trace ≠ [] → gatewayRecordings i w'.trace ≠ [] := by
    intro hne
    by_cases hNow : e = .now
    · subst hNow
      obtain ⟨-, rfl⟩ := hp
      exact hne
    · rw [hp.trace hNow]
      obtain ⟨s, hs⟩ := List.exists_mem_of_ne_nil _ hne
      exact List.ne_nil_of_mem (gatewayRecordings_subset _ _ hs)
  by_cases he : ∀ j now changes, e ≠ .update j now changes
  · exact hkept (hsame (hp.jobs he))
  simp only [not_forall, ne_eq, not_not] at he
  obtain ⟨j, now, changes, rfl⟩ := he
  cases answer with
  | error x => exact hkept (hsame hp.update_error.2)
  | ok last =>
    obtain ⟨current, allowed, hcurrent, hguard, rfl, hfind⟩ := hp.update_ok
    rw [hfind] at hf
    split at hf
    · next hij =>
      subst hij
      cases hf
      by_cases hrecorded : changes.gatewayRjobId.isSome
      · rw [hp.trace (by simp), gatewayRecordings, if_pos ⟨rfl, hrecorded⟩]
        exact List.cons_ne_nil _ _
      · -- the row had its Gateway before
        refine hkept (h _ current hcurrent ?_)
        have hnone : changes.gatewayRjobId = none := by simpa using hrecorded
        rcases (ControlJob.guard_ok hguard).1 with rfl | ⟨rfl, -⟩
        · simpa [Changes.write, hnone] using hg
        · simpa [Changes.write, hnone] using hg
    · exact hkept (h i row hf hg)

theorem ReadPatiently.of_trace {log : List (Answered Op Ans)} (h : ReadPatiently o w log)
    (ht : w'.trace = w.trace) : ReadPatiently o w' log := by
  unfold ReadPatiently at h ⊢
  split
  · intro job hjob s hs
    exact h job hjob s (ht ▸ hs)
  · trivial

/-- A write that is allowed is earned. -/
theorem RealJobOrchestrator.Earned.performs {x : World P × List (Answered Op Ans)} {e : Op}
    {answer : Ans e} (h : o.Earned w.trace) (ht : w.trace = x.1.trace)
    (ha : (patience o).allowed x e) (hp : sv.Performs e w answer w') : o.Earned w'.trace := by
  by_cases hNow : e = .now
  · subst hNow
    obtain ⟨-, rfl⟩ := hp
    exact h
  rw [hp.trace hNow]
  by_cases he : ∀ j now changes, e ≠ .update j now changes
  · exact (o.earned_call he _).mpr h
  simp only [not_forall, ne_eq, not_not] at he
  obtain ⟨j, now, changes, rfl⟩ := he
  cases answer with
  | error x => exact h
  | ok last => exact ⟨fun htimeout => ht ▸ ha htimeout, h⟩

theorem patience_crash {x x' : World P × List (Answered Op Ans)} (hBacked : Backed x.1)
    (hEarned : o.Earned x.1.trace) (h : sv.system.logged.crashes x x') : (patience o).inv x' := by
  refine ⟨?_, ?_, ?_⟩
  · rw [h.1]
    exact hBacked
  · rw [h.1]
    exact hEarned
  · rw [h.2]
    trivial

/-- Every patient step keeps the contract. -/
theorem patience_kept : (patience o).Kept sv.system.logged (Patiently o) where
  interference hInv h _ := by
    obtain ⟨hBacked, hEarned, hRead⟩ := hInv
    have ht := (Later.of_interferes h.1).trace
    exact ⟨hBacked.interferes h.1, ht ▸ hEarned, h.2 ▸ hRead.of_trace ht⟩
  idle _ _ _ := trivial
  answer {x₀ x x' e answer} _ ha hw hInv hp hPatient := by
    obtain ⟨hBacked, hEarned, hRead⟩ := hInv
    have ht := (Later.of_waits (System.logged_waits hw).1).trace
    refine ⟨hBacked.performs hp.1, hEarned.performs ht ha hp.1, ?_⟩
    rw [hp.2]
    by_cases hNow : e = .now
    · subst hNow
      obtain ⟨-, hsame⟩ := hp.1
      rw [hsame]
      exact hPatient
    · unfold ReadPatiently
      split
      · next heq =>
        cases heq
        exact absurd rfl hNow
      · trivial
  crash hInv h _ := ⟨patience_crash hInv.1 hInv.2.1 h, trivial⟩
  lost _ ha hw hInv hp h _ := by
    obtain ⟨hBacked, hEarned, -⟩ := hInv
    have ht := (Later.of_waits (System.logged_waits hw).1).trace
    exact ⟨patience_crash (hBacked.performs hp.1) (hEarned.performs ht ha hp.1) h, trivial⟩

/-! ### The calls that fail no Job for its Gateway -/

/-- A call that fails no Job for its Gateway. -/
def Op.Harmless : Op → Prop
  | .update _ _ changes => changes.gatewayTimeout = false
  | _ => True

theorem Op.Harmless.allowed {e : Op} (h : e.Harmless) (x : World P × List (Answered Op Ans)) :
    (patience o).allowed x e := by
  cases e with
  | update j now changes =>
    intro htimeout
    rw [show changes.gatewayTimeout = false from h] at htimeout
    cases htimeout
  | now | listActive | listCleanupPending | get | addEvent | createRJob | getRJob | stopRJob
  | ready | bind => trivial

/-- A coroutine of harmless calls. -/
abbrev Coroutine.Harmless {α : Type} (p : Coroutine α) : Prop := Task.Asks Op.Harmless p

namespace Harmless

open Coroutine

theorem now : Coroutine.now.Harmless := .ask trivial

theorem get (j : String) : (Coroutine.get j).Harmless := .ask trivial

theorem update {j : String} {now : Int} {changes : Changes}
    (h : changes.gatewayTimeout = false) : (Coroutine.update j now changes).Harmless :=
  ⟨h, fun _ => trivial⟩

theorem addEvent (event : JobEvent) : (Coroutine.addEvent event).Harmless :=
  ⟨trivial, fun _ => trivial⟩

theorem createRJob (spec : RJobSpec) : (Coroutine.createRJob spec).Harmless :=
  ⟨trivial, fun _ => trivial⟩

theorem getRJob (rjobId : String) : (Coroutine.getRJob rjobId).Harmless :=
  ⟨trivial, fun _ => trivial⟩

theorem stopRJob (rjobId : String) : (Coroutine.stopRJob rjobId).Harmless :=
  ⟨trivial, fun _ => trivial⟩

theorem ready (url path : String) : (Coroutine.ready url path).Harmless :=
  ⟨trivial, fun _ => trivial⟩

theorem bindCall (j rangeId : String) : (Coroutine.bindFiles j rangeId).Harmless :=
  ⟨trivial, fun _ => trivial⟩

theorem lift {α : Type} (result : Except PyExc α) : (Coroutine.lift result).Harmless := trivial

theorem event (job : ControlJob) (eventType : String) (payload : List (String × Json)) :
    (o.event job eventType payload).Harmless :=
  .bind now fun _ => addEvent _

theorem stopRecorded (job : ControlJob) : (o.stopRecorded job).Harmless := by
  refine .bind ?_ fun _ => ?_
  · unfold RealJobOrchestrator.stopController
    dsimp only
    split
    · exact .bind (event _ _ _) fun _ => .bind (stopRJob _) fun _ => event _ _ _
    · exact .pure _
  · unfold RealJobOrchestrator.stopGateway
    dsimp only
    split
    · exact .bind (stopRJob _) fun _ => event _ _ _
    · exact .pure _

theorem finishCleanup (job : ControlJob) : (o.finishCleanup job).Harmless := by
  refine .bind now fun now => .bind (update ?_) fun row => .bind (event _ _ _) fun _ => ?_
  · split <;> rfl
  · split
    · exact event _ _ _
    · exact .pure _

theorem cleanup (job : ControlJob) : (o.cleanup job).Harmless := by
  refine .bind (get _) fun row => ?_
  split
  · exact .pure _
  · unfold RealJobOrchestrator.cleanupRow
    split
    · exact .bind now fun _ => .bind (update rfl) fun _ => event _ _ _
    · refine .bind (.tryCatch (.bind (stopRecorded _) fun _ => .pure _) fun x => ?_)
        fun stopped => ?_
      · split
        · exact .pure _
        · exact .throw _
      · split
        · exact finishCleanup _
        · exact .pure _

/-- `_fail` with another reason. -/
theorem fail {j reason : String}
    (h : Changes.gatewayTimeout { statusReason := some (some reason) } = false) :
    (o.fail j reason).Harmless := by
  refine .bind (get _) fun row => ?_
  split
  · exact .pure _
  · split
    · exact .pure _
    · split
      · exact cleanup _
      · refine .bind now fun _ => .bind (.tryCatch (.map (update h)) fun x => ?_) fun failed => ?_
        · split
          · exact .pure _
          · exact .throw _
        · split
          · exact .pure _
          · exact .bind (event _ _ _) fun _ => cleanup _

theorem bindFiles (job : ControlJob) : (o.bindFiles job).Harmless := by
  refine .bind now fun _ => .bind (update rfl) fun job => ?_
  refine .bind (.tryCatch (.map (bindCall _ _)) fun x => ?_) fun bound => ?_
  · split
    · exact .pure _
    · exact .throw _
  · split
    · exact .bind now fun _ => .bind (update rfl) fun _ => .bind (event _ _ _) fun _ => .pure _
    · refine .bind (fail (by decide)) fun _ => .bind (get _) fun row => ?_
      split
      · exact .throw _
      · exact .pure _

theorem submitSafactory (job : ControlJob) (binding : JobFileBinding) :
    (o.submitSafactory job binding).Harmless := by
  refine .bind (lift _) fun spec => .bind (createRJob _) fun rjobId => .bind now fun now => ?_
  refine .bind (.tryCatch (update rfl) fun x => ?_) fun row => .bind (event _ _ _) fun _ => .pure _
  split
  · exact update rfl
  · exact .throw _

theorem reconcileOutcome (job : ControlJob) (binding : JobFileBinding)
    (controller : RJobSnapshot) : (o.reconcileOutcome job binding controller).Harmless := by
  unfold RealJobOrchestrator.reconcileOutcome
  split
  · exact .pure _
  · split
    · split
      · exact .bind (fail (by decide)) fun _ => .pure _
      · exact .bind now fun _ => .bind (update rfl) fun _ => .bind (event _ _ _) fun _ => .pure _
    · split
      · exact .bind (fail (by decide)) fun _ => .pure _
      · refine .bind now fun now => ?_
        split
        · exact .bind (fail (by decide)) fun _ => .pure _
        · exact event _ _ _

theorem reconcileController (job : ControlJob) (binding : JobFileBinding)
    (gateway : RJobSnapshot) : (o.reconcileController job binding gateway).Harmless := by
  unfold RealJobOrchestrator.reconcileController
  split
  · exact .bind (fail (by decide)) fun _ => .pure _
  · split
    · refine .bind (getRJob _) fun controller => ?_
      exact .bind (.bind now fun _ => update rfl) fun row => reconcileOutcome _ _ _
    · exact .throw _

theorem reconcileHealthy (job : ControlJob) (binding : JobFileBinding)
    (gateway : RJobSnapshot) : (o.reconcileHealthy job binding gateway).Harmless := by
  refine .bind (get _) fun row => ?_
  split
  · exact .pure _
  · split
    · exact .pure _
    · split
      · exact reconcileController _ _ _
      · refine .bind (submitSafactory _ _) fun row => ?_
        split
        · exact .pure _
        · exact reconcileController _ _ _

theorem handle (job : ControlJob) (x : PyExc) : (o.handle job x).Harmless := by
  have hDependency : (o.dependencyError job).Harmless := by
    refine .bind (get _) fun row => ?_
    split
    · exact .pure _
    · refine .bind now fun now => ?_
      split
      · exact fail (by decide)
      · exact .pure _
  unfold RealJobOrchestrator.handle
  split
  · exact hDependency
  · exact hDependency
  · exact .pure _
  · exact fail (by decide)

end Harmless

/-! ### The tests of the deadline -/

section

variable {x x' : World P × List (Answered Op Ans)}

/-- A Gateway RJob of the Job was recorded. -/
def HasGateway (j : String) (x : World P × List (Answered Op Ans)) : Prop :=
  gatewayRecordings j x.1.trace ≠ []

theorem HasGateway.waits (h : HasGateway j x) (hw : sv.system.logged.Waits x x') :
    HasGateway j x' := by
  unfold HasGateway
  rw [(Later.of_waits (System.logged_waits hw).1).trace]
  exact h

theorem HasGateway.performs {e : Op} {answer : Ans e} (h : HasGateway j x)
    (hp : sv.system.logged.performs e x answer x') : HasGateway j x' := by
  by_cases hNow : e = .now
  · subst hNow
    obtain ⟨-, hsame⟩ := hp.1
    rw [HasGateway, hsame]
    exact h
  · rw [HasGateway, hp.1.trace hNow]
    obtain ⟨s, hs⟩ := List.exists_mem_of_ne_nil _ h
    exact List.ne_nil_of_mem (gatewayRecordings_subset _ _ hs)

theorem HasGateway.exec {α : Type} {p : Program Op Ans α} {a : α} (h : HasGateway j x)
    (hexec : Exec sv.system.logged p x a x') : HasGateway j x' := by
  induction hexec with
  | done a s => exact h
  | call hw hp _ ih => exact ih ((h.waits hw).performs hp)

/-- A coroutine that keeps the contract from `x` on and leaves `Q` if it returns. -/
abbrev Coroutine.Leaves {α : Type} (o : RealJobOrchestrator) (sv : Services P) (p : Coroutine α)
    (Q : α → World P × List (Answered Op Ans) → Prop) (x : World P × List (Answered Op Ans)) :
    Prop :=
  Task.Safe sv.system.logged (patience o) p Q (fun _ _ => True) x

/-- A sequence, whatever it leaves where it raises. -/
theorem leaves_bind {α β : Type} {p : Coroutine α} {f : α → Coroutine β}
    {R : α → World P × List (Answered Op Ans) → Prop}
    {Q : β → World P × List (Answered Op Ans) → Prop} (hp : p.Leaves o sv R x)
    (hf : ∀ a x', R a x' → (f a).Leaves o sv Q x') : Coroutine.Leaves o sv (p >>= f) Q x :=
  Task.Safe.bind hp hf fun _ _ _ => trivial

theorem Coroutine.Harmless.patient {α : Type} {p : Coroutine α} (h : p.Harmless)
    (x : World P × List (Answered Op Ans)) : p.Leaves o sv (fun _ _ => True) x :=
  (h.safe (fun x _ he => he.allowed x) x).mono (fun _ _ _ => trivial) fun _ _ _ => trivial

/-- A recording stays while harmless calls are made. -/
theorem Coroutine.Harmless.recorded {α : Type} {p : Coroutine α} (h : p.Harmless)
    (hrec : HasGateway j x) : p.Leaves o sv (fun _ => HasGateway j) x :=
  (h.safe (fun x _ he => he.allowed x) x).mono (fun _ _ hexec => hrec.exec hexec)
    fun _ _ _ => trivial

theorem now_leaves : Coroutine.now.Leaves o sv (fun t x' => Later sv x.1 x'.1 ∧ t = x'.1.clock ∧
    Patient o x'.1 x.2 t) x := by
  refine Task.Safe.ask (e := Op.now) trivial fun mid hw _ t x' hp hInv => ?_
  obtain ⟨hWaits, hLog⟩ := System.logged_waits hw
  obtain ⟨⟨rfl, hsame⟩, hlog⟩ := hp
  have hRead := hInv.2.2
  rw [hlog, hLog] at hRead
  rw [hsame] at hRead ⊢
  exact ⟨Later.of_waits hWaits, rfl, hRead⟩

theorem get_leaves (j : String) : (Coroutine.get j).Leaves o sv (fun row x' =>
    Quiet sv x.1 x'.1 ∧ x'.1.trace = .call (.get j) row :: x.1.trace ∧ x'.1.jobs.find j = row ∧
      Backed x'.1) x := by
  refine Task.Safe.ask (e := Op.get j) trivial fun mid hw _ row x' hp hInv => ?_
  obtain ⟨hq, ht⟩ := quiet_of_performs (e := Op.get j) rfl
    (Later.of_waits (System.logged_waits hw).1) hp.1
  obtain ⟨hrow, hsame⟩ := hp.1
  refine ⟨hq, ht, ?_, hInv.1⟩
  rw [hsame, hrow]
  rfl

theorem update_leaves {now : Int} {changes : Changes}
    (ha : (patience o).allowed x (.update j now changes)) :
    (Coroutine.update j now changes).Leaves o sv (fun row x' =>
      x'.1.trace = .call (.update j now changes) (.ok row) :: x.1.trace ∧
        x'.2 = ⟨.update j now changes, .ok row⟩ :: x.2 ∧ x'.1.jobs.find j = some row) x := by
  refine ⟨ha, fun mid hw _ answer x' hp _ => ?_⟩
  obtain ⟨hWaits, hLog⟩ := System.logged_waits hw
  obtain ⟨hPerforms, hlog⟩ := hp
  replace hPerforms : sv.Performs (.update j now changes) mid.1 answer x'.1 := hPerforms
  cases answer with
  | error x => trivial
  | ok row =>
    refine ⟨?_, by rw [hlog, hLog], ?_⟩
    · rw [hPerforms.trace (by simp), (Later.of_waits hWaits).trace]
    · obtain ⟨current, allowed, -, -, -, hfind⟩ := hPerforms.update_ok
      rw [hfind, if_pos rfl]

/-- The timeout has elapsed since the Gateway of the Job was recorded. -/
def Due (o : RealJobOrchestrator) (j : String) (x : World P × List (Answered Op Ans)) : Prop :=
  o.Elapsed j x.1.trace x.1.clock

theorem Due.later (hTick : ∀ now later, sv.tick now later → now ≤ later) (h : Due o j x)
    (ht : gatewayRecordings j x'.1.trace = gatewayRecordings j x.1.trace)
    (hclock : ReflTransGen sv.tick x.1.clock x'.1.clock) : Due o j x' := by
  obtain ⟨hrec, hall⟩ := h
  refine ⟨ht ▸ hrec, fun s hs => ?_⟩
  rw [ht] at hs
  have hle := Services.clock_le hTick hclock
  have := hall s hs
  omega

/-- `_fail` of a Job that had its Gateway for the timeout. -/
theorem fail_due (hTick : ∀ now later, sv.tick now later → now ≤ later) (h : Due o j x)
    (reason : String) : (o.fail j reason).Leaves o sv (fun _ _ => True) x := by
  refine leaves_bind (get_leaves j) fun row x₁ h₁ => ?_
  obtain ⟨hq, ht, -, -⟩ := h₁
  have hDue : Due o j x₁ := h.later hTick (by rw [ht]; rfl) hq.clock
  split
  · exact Task.Safe.pure trivial
  · split
    · exact Task.Safe.pure trivial
    · split
      · exact (Harmless.cleanup _).patient _
      · refine leaves_bind now_leaves fun t x₂ h₂ => ?_
        obtain ⟨hLater, rfl, -⟩ := h₂
        have hDue₂ : Due o j x₂ := hDue.later hTick (by rw [hLater.trace]) hLater.clock
        refine leaves_bind (R := fun _ _ => True) (Task.Safe.tryCatch (F := fun _ _ => True)
          (Task.Safe.map ((update_leaves fun _ => hDue₂).mono (fun _ _ _ => trivial)
            fun _ _ _ => trivial)) fun x x₃ _ => ?_) fun failed x₃ _ => ?_
        · split
          · exact Task.Safe.pure trivial
          · exact Task.Safe.throw trivial
        · split
          · exact Task.Safe.pure trivial
          · refine leaves_bind ((Harmless.event _ _ _).patient x₃) fun _ x₄ _ => ?_
            exact (Harmless.cleanup _).patient x₄

/-- `_fail` of a Job that is closing writes nothing. -/
theorem fail_closing {row : ControlJob} (hf : x.1.jobs.find j = some row)
    (hs : row.status = .closing) (reason : String) :
    (o.fail j reason).Leaves o sv (fun _ _ => True) x := by
  refine leaves_bind (get_leaves j) fun answer x₁ h₁ => ?_
  obtain ⟨hq, -, hfound, -⟩ := h₁
  rw [hq.find hf (by simp [ControlJob.active, hs])] at hfound
  subst hfound
  dsimp only
  rw [if_pos (by simp [hs])]
  exact Task.Safe.pure trivial

/-- The row that an update has just written, before a test of the deadline. -/
structure BeforeTest (row : ControlJob) (x : World P × List (Answered Op Ans)) : Prop where
  found : x.1.jobs.find row.jobId = some row
  recorded : HasGateway row.jobId x
  next : row.status ≠ .closing → testedNext x.2 = some row

/-- An update after a reading of the clock. -/
theorem note_leaves {changes : Changes} (hrec : HasGateway j x) (hnext : changes.beforeTest = true)
    (hreason : changes.statusReason = none) :
    Coroutine.Leaves o sv (do Coroutine.update j (← Coroutine.now) changes)
      (fun row x' => row.jobId = j ∧ BeforeTest row x') x := by
  refine leaves_bind now_leaves fun t x₁ h₁ => ?_
  obtain ⟨hLater, rfl, -⟩ := h₁
  have hrec₁ : HasGateway j x₁ := by
    unfold HasGateway
    rw [hLater.trace]
    exact hrec
  refine (update_leaves fun h => ?_).mono (fun row x₂ h₂ => ?_) fun _ _ _ => trivial
  · simp [Changes.gatewayTimeout, hreason] at h
  · obtain ⟨ht, hlog, hf⟩ := h₂
    obtain rfl := JobTable.find_jobId hf
    refine ⟨rfl, hf, ?_, fun hs => ?_⟩
    · obtain ⟨s, hs⟩ := List.exists_mem_of_ne_nil _ hrec₁
      rw [HasGateway, ht]
      exact List.ne_nil_of_mem (gatewayRecordings_subset _ _ hs)
    · rw [hlog, testedNext, if_pos ⟨hnext, hs⟩]

theorem note_bind {changes : Changes} {f : ControlJob → Coroutine Unit} (hrec : HasGateway j x)
    (hnext : changes.beforeTest = true) (hreason : changes.statusReason = none)
    (hf : ∀ row x', row.jobId = j → BeforeTest row x' →
      (f row).Leaves o sv (fun _ _ => True) x') :
    Coroutine.Leaves o sv (do f (← Coroutine.update j (← Coroutine.now) changes))
      (fun _ _ => True) x :=
  leaves_bind (p := do Coroutine.update j (← Coroutine.now) changes)
    (note_leaves hrec hnext hreason) fun row x' h => hf row x' h.1 h.2

variable {job : ControlJob} {binding : JobFileBinding} {gateway : RJobSnapshot}

/-- A test of the deadline fails the Job only if the timeout has elapsed. -/
theorem test_leaves (hTick : ∀ now later, sv.tick now later → now ≤ later)
    (h : BeforeTest job x) (reason : String) :
    Coroutine.Leaves o sv
      (do
        if RealJobOrchestrator.timedOut job o.settings.gatewayReadyTimeoutSeconds
            (← Coroutine.now) then
          o.fail job.jobId reason
        return) (fun _ _ => True) x := by
  refine leaves_bind now_leaves fun t x₁ h₁ => ?_
  obtain ⟨hLater, rfl, hPatient⟩ := h₁
  split
  · next hTime =>
    refine leaves_bind (R := fun _ _ => True) ?_ fun _ _ _ => Task.Safe.pure trivial
    by_cases hs : job.status = .closing
    · obtain ⟨row, hf, hc⟩ := hLater.rows h.found
      obtain rfl := hc.eq (by simp [ControlJob.active, hs])
      exact fail_closing hf hs reason
    · refine fail_due hTick ⟨?_, fun s hmem => ?_⟩ reason
      · rw [hLater.trace]
        exact h.recorded
      · have hCharged := hPatient job (h.next hs) s hmem
        by_contra hlt
        exact hCharged ⟨hTime, not_le.mp hlt⟩
  · exact Task.Safe.pure trivial

theorem failed_leaves {reason : String}
    (h : Changes.gatewayTimeout { statusReason := some (some reason) } = false) :
    Coroutine.Leaves o sv (do o.fail j reason; return ()) (fun _ _ => True) x :=
  leaves_bind ((Harmless.fail h).patient x) fun _ _ _ => Task.Safe.pure trivial

theorem reconcileRoute_leaves (hTick : ∀ now later, sv.tick now later → now ≤ later)
    (hrec : HasGateway job.jobId x) (healthy : Bool) :
    (o.reconcileRoute job binding gateway healthy).Leaves o sv (fun _ _ => True) x := by
  refine leaves_bind (get_leaves _) fun answer x₁ h₁ => ?_
  obtain ⟨hq, ht, hf, -⟩ := h₁
  cases answer with
  | none => exact Task.Safe.pure trivial
  | some row =>
    have hid := JobTable.find_jobId hf
    have hrec₁ : HasGateway row.jobId x₁ := by
      rw [HasGateway, ht, hid]
      exact hrec
    dsimp only
    split
    · exact Task.Safe.pure trivial
    split
    · split
      · exact failed_leaves (by decide)
      · exact note_bind hrec₁ rfl rfl fun row' x₂ _ h₂ => test_leaves hTick h₂ _
    split
    · split
      · exact failed_leaves (by decide)
      · exact (Harmless.reconcileHealthy _ _ _).patient x₁
    · refine Coroutine.Harmless.patient ?_ x₁
      refine .bind Harmless.now fun _ => .bind Harmless.now fun _ => .bind (Harmless.update rfl) ?_
      intro row
      split
      · exact .pure _
      · exact .bind (Harmless.event _ _ _) fun _ => Harmless.reconcileHealthy _ _ _

theorem reconcileNoted_leaves (hTick : ∀ now later, sv.tick now later → now ≤ later)
    (h : BeforeTest job x) : (o.reconcileNoted job binding gateway).Leaves o sv
      (fun _ _ => True) x := by
  unfold RealJobOrchestrator.reconcileNoted
  split
  · exact Task.Safe.pure trivial
  split
  · exact failed_leaves (by decide)
  split
  · split
    · exact failed_leaves (by decide)
    · exact test_leaves hTick h _
  · exact leaves_bind ((Harmless.ready _ _).recorded h.recorded)
      fun healthy x₁ h₁ => reconcileRoute_leaves hTick h₁ healthy

theorem reconcileGateway_leaves (hTick : ∀ now later, sv.tick now later → now ≤ later)
    (hrec : HasGateway job.jobId x) (rjobId : String) :
    (o.reconcileGateway job binding rjobId).Leaves o sv (fun _ _ => True) x := by
  refine leaves_bind ((Harmless.getRJob rjobId).recorded hrec) fun gateway x₁ h₁ => ?_
  refine leaves_bind (p := RealJobOrchestrator.recordGatewayStatus job gateway)
    (note_leaves h₁ rfl rfl) fun row x₂ h₂ => ?_
  exact reconcileNoted_leaves hTick h₂.2

/-- `_submit_gateway` records the Gateway. -/
theorem submitGateway_leaves : (o.submitGateway job binding).Leaves o sv
    (fun row x' => HasGateway row.jobId x') x := by
  refine leaves_bind ((Harmless.lift _).patient x) fun spec x₁ _ => ?_
  refine leaves_bind ((Harmless.createRJob spec).patient x₁) fun rjobId x₂ _ => ?_
  refine leaves_bind (Harmless.now.patient x₂) fun t x₃ _ => ?_
  refine leaves_bind (update_leaves fun h => by cases h) fun row x₄ h₄ => ?_
  obtain ⟨ht, -, hf⟩ := h₄
  have hrec : HasGateway row.jobId x₄ := by
    rw [HasGateway, ht, JobTable.find_jobId hf, gatewayRecordings, if_pos ⟨rfl, rfl⟩]
    exact List.cons_ne_nil _ _
  exact leaves_bind ((Harmless.event _ _ _).recorded hrec) fun _ x₅ h₅ => Task.Safe.pure h₅

theorem reconcileBound_leaves (hTick : ∀ now later, sv.tick now later → now ≤ later) :
    (o.reconcileBound job).Leaves o sv (fun _ _ => True) x := by
  unfold RealJobOrchestrator.reconcileBound
  split
  · refine leaves_bind ((Harmless.lift _).patient x) fun binding x₁ _ => ?_
    refine leaves_bind (get_leaves _) fun answer x₂ h₂ => ?_
    obtain ⟨-, -, hf, hBacked⟩ := h₂
    cases answer with
    | none => exact Task.Safe.pure trivial
    | some row =>
      dsimp only
      split
      · exact Task.Safe.pure trivial
      split
      · next rjobId hid =>
        obtain hrow := JobTable.find_jobId hf
        exact reconcileGateway_leaves hTick
          (hBacked row.jobId row (hrow ▸ hf) (by rw [hid]; rfl)) rjobId
      · refine leaves_bind submitGateway_leaves fun row' x₃ h₃ => ?_
        split
        · exact Task.Safe.pure trivial
        split
        · exact Task.Safe.pure trivial
        · next rjobId _ => exact reconcileGateway_leaves hTick h₃ rjobId
  · exact Task.Safe.throw trivial

theorem reconcileCounted_leaves (hTick : ∀ now later, sv.tick now later → now ≤ later) :
    (o.reconcileCounted job).Leaves o sv (fun _ _ => True) x := by
  unfold RealJobOrchestrator.reconcileCounted
  split
  · exact Task.Safe.pure trivial
  refine leaves_bind ((Harmless.event _ _ _).patient x) fun _ x₁ _ => ?_
  split
  · exact reconcileBound_leaves hTick
  refine leaves_bind ((Harmless.bindFiles _).patient x₁) fun row' x₂ _ => ?_
  split
  · exact Task.Safe.pure trivial
  · exact reconcileBound_leaves hTick

theorem turn_leaves (hTick : ∀ now later, sv.tick now later → now ≤ later) :
    (o.turn job).Leaves o sv (fun _ _ => True) x := by
  refine Task.Safe.tryCatch (F := fun _ _ => True) ?_ fun error x₁ _ =>
    (Harmless.handle job error).patient x₁
  refine leaves_bind (Harmless.now.patient x) fun t x₁ _ => ?_
  exact leaves_bind ((Harmless.update rfl).patient x₁) fun row x₂ _ =>
    reconcileCounted_leaves hTick

theorem reconcileOnce_leaves (hTick : ∀ now later, sv.tick now later → now ≤ later) :
    o.reconcileOnce.Leaves o sv (fun _ _ => True) x := by
  refine leaves_bind (R := fun _ _ => True) ?_ fun _ x₁ _ => ?_
  · refine leaves_bind (R := fun _ _ => True)
      (Task.Safe.ask trivial fun _ _ _ _ _ _ _ => trivial) fun jobs x₁ _ => ?_
    exact Task.Safe.forM (I := fun _ _ => True) (fun job _ x _ => turn_leaves hTick) trivial
  · refine Coroutine.Harmless.patient ?_ x₁
    exact .bind (.ask trivial) fun jobs => .forM fun job _ => Harmless.cleanup job

end

/-- The orchestrator keeps the contract in every patient run. -/
theorem earned_of_reaches (hTick : ∀ now later, sv.tick now later → now ≤ later) {w₀ : World P}
    (h₀ : sv.Initial w₀) {c : Config Op Ans (World P × List (Answered Op Ans)) (Except PyExc Unit)}
    (hReaches : Reaches sv.system.logged (ρ := Except PyExc Unit) o.reconcileOnce (· = .ok ())
      (Patiently o) ⟨(w₀, []), none⟩ c) : o.Earned c.state.1.trace := by
  have hInv : (patience o).inv (w₀, []) := by
    refine ⟨fun j row hf hg => ?_, ?_, trivial⟩
    · obtain ⟨new, now, -, -, rfl⟩ := h₀.rows _ (JobTable.find_mem hf)
      cases hg
    · show o.Earned w₀.trace
      rw [h₀.trace]
      trivial
  have hIdle : (patience o).Attends sv.system.logged (ρ := Except PyExc Unit) (fun _ _ => True)
      (w₀, []) none := by
    unfold Contract.Attends
    trivial
  have hHolds := Contract.Attends.ofReaches patience_kept
    (fun x _ _ => Program.Safe.mono (reconcileOnce_leaves hTick) fun _ _ _ => trivial)
    (fun _ _ _ _ _ _ => trivial) hInv hIdle hReaches
  exact hHolds.1.2.1

/-- In a run that tests no deadline of a Gateway between the two deadlines, every Job that failed
for its Gateway had it for the whole timeout. -/
theorem waiting_not_charged (o : RealJobOrchestrator) (sv : Services P)
    (hTick : ∀ now later, sv.tick now later → now ≤ later) {w₀ : World P} (h₀ : sv.Initial w₀)
    {c : Config Op Ans (World P × List (Answered Op Ans)) (Except PyExc Unit)}
    (hReaches : Reaches sv.system.logged (ρ := Except PyExc Unit) o.reconcileOnce (· = .ok ())
      (Patiently o) ⟨(w₀, []), none⟩ c) : o.Earned c.state.1.trace :=
  earned_of_reaches hTick h₀ hReaches

/-- Where a Job failed for its Gateway too early, the deadline of a Gateway was tested between the
two deadlines, for the first time after a patient run. -/
theorem tested_of_not_earned (o : RealJobOrchestrator) (sv : Services P)
    (hTick : ∀ now later, sv.tick now later → now ≤ later) {w₀ : World P} (h₀ : sv.Initial w₀)
    {permitted : World P → Label Op Ans → World P → Prop}
    {c : Config Op Ans (World P) (Except PyExc Unit)}
    (hReaches : sv.Reaches o permitted ⟨w₀, none⟩ c) (hc : ¬ o.Earned c.state.trace) :
    ∃ c₁ c₂ t, Reaches sv.system.logged (ρ := Except PyExc Unit) o.reconcileOnce (· = .ok ())
        (Patiently o) ⟨(w₀, []), none⟩ c₁ ∧
      Step sv.system.logged (ρ := Except PyExc Unit) o.reconcileOnce (· = .ok ()) c₁
        (.answer .now t) c₂ ∧
      ∃ job ∈ testedNext c₁.state.2, ∃ s ∈ gatewayRecordings job.jobId c₁.state.1.trace,
        o.Charged job s t := by
  obtain ⟨log, hLogged⟩ := Reaches.logged hReaches []
  rcases hLogged.permitted_or (Q := Patiently o) with hPatient | ⟨c₁, l, c₂, h₁, hStep, hl⟩
  · exact absurd (earned_of_reaches hTick h₀ hPatient) hc
  cases l with
  | answer e t =>
    cases e with
    | now =>
      refine ⟨c₁, c₂, t, h₁, hStep, ?_⟩
      by_contra hNone
      exact hl fun job hjob s hs hCharged => hNone ⟨job, hjob, s, hs, hCharged⟩
    | listActive | listCleanupPending | get | update | addEvent | createRJob | getRJob | stopRJob
    | ready | bind => exact absurd trivial hl
  | interference | start | finish | crash | lost => exact absurd trivial hl

/-! ### A Gateway that never starts -/

instance (o : RealJobOrchestrator) (j : String) (trace : List TraceEvent) (now : Int) :
    Decidable (o.Elapsed j trace now) :=
  inferInstanceAs (Decidable (_ ∧ _))

instance (o : RealJobOrchestrator) (job : ControlJob) (recorded now : Int) :
    Decidable (o.Charged job recorded now) :=
  inferInstanceAs (Decidable (_ ∧ _))

instance earnedDecidable (o : RealJobOrchestrator) :
    (trace : List TraceEvent) → Decidable (o.Earned trace)
  | [] => .isTrue trivial
  | .restart :: earlier => earnedDecidable o earlier
  | .call (.update j now changes) (.ok _) :: earlier =>
    let _ := earnedDecidable o earlier
    inferInstanceAs (Decidable
      ((changes.gatewayTimeout = true → o.Elapsed j earlier now) ∧ o.Earned earlier))
  | .call (.update _ _ _) (.error _) :: earlier => earnedDecidable o earlier
  | .call .now _ :: earlier | .call .listActive _ :: earlier
  | .call .listCleanupPending _ :: earlier | .call (.get _) _ :: earlier
  | .call (.addEvent _) _ :: earlier | .call (.createRJob _) _ :: earlier
  | .call (.getRJob _) _ :: earlier | .call (.stopRJob _) _ :: earlier
  | .call (.ready _ _) _ :: earlier | .call (.bind _ _) _ :: earlier => earnedDecidable o earlier

/-- A write that fails a Job for its Gateway. -/
def failsForGateway : TraceEvent → Bool
  | .call (.update _ _ changes) (.ok _) => changes.gatewayTimeout
  | _ => false

/-- The test of `Patiently`. -/
def patientAnswer (o : RealJobOrchestrator) (x : World P × List (Answered Op Ans)) (e : Op)
    (answer : Ans e) : Bool :=
  match e, answer with
  | .now, t => (testedNext x.2).all fun job =>
      (gatewayRecordings job.jobId x.1.trace).all fun s => decide (¬ o.Charged job s t)
  | _, _ => true

theorem patientAnswer_patiently {o : RealJobOrchestrator} {x x' : World P × List (Answered Op Ans)}
    {e : Op} {answer : Ans e} (h : patientAnswer o x e answer = true) :
    Patiently o x (.answer e answer) x' := by
  cases e with
  | now =>
    intro job hjob s hs
    have hRecordings := (Option.all_eq_true _ _).mp h job hjob
    exact of_decide_eq_true (List.all_eq_true.mp hRecordings s hs)
  | listActive | listCleanupPending | get | update | addEvent | createRJob | getRJob | stopRJob
  | ready | bind => trivial

/-- The world at a later time. -/
def World.at (w : World P) (now : Int) : World P := { w with clock := now }

/-- A Job whose turn came 301 seconds after it was made is failed at the first test of its new
Gateway. -/
theorem waiting_charged : ¬ ∀ w, pendingScript.services.Reaches sampleOrchestrator
    (fun _ _ _ => True) ⟨sampleWorld (), none⟩ ⟨w, none⟩ → sampleOrchestrator.Earned w.trace := by
  intro h
  have hTick : pendingScript.services.Interferes (sampleWorld ())
      ((sampleWorld ()).at 301000000) := .tick (show (0 : Int) ≤ 301000000 by decide)
  have hPass := (pendingScript.reaches_idle sampleOrchestrator ((sampleWorld ()).at 301000000)
    (by decide +kernel)).always
  have hReaches := Reaches.trans (.tail .refl (.interference hTick) trivial) hPass
  have hCharged : ¬ sampleOrchestrator.Earned (pendingScript.pass sampleOrchestrator
      ((sampleWorld ()).at 301000000)).2.trace := by decide +kernel
  exact hCharged (h _ hReaches)

/-- A pass with a log of its answers. -/
def Script.loggedPass (sc : Script P) (o : RealJobOrchestrator)
    (x : World P × List (Answered Op Ans)) :
    Except PyExc Unit × World P × List (Answered Op Ans) :=
  Program.run (α := Except PyExc Unit) (loggedAnswer sc.answer) o.reconcileOnce x

/-- A pass that tests no deadline between the two deadlines. -/
theorem Script.reaches_patiently (sc : Script P) {o : RealJobOrchestrator}
    {x : World P × List (Answered Op Ans)}
    (h : Program.passes (α := Except PyExc Unit) (loggedAnswer sc.answer) (patientAnswer o)
      o.reconcileOnce x = true) :
    Reaches sc.services.system.logged (ρ := Except PyExc Unit) o.reconcileOnce (· = .ok ())
      (Patiently o) ⟨x, none⟩ ⟨(sc.loggedPass o x).2, some (.done (sc.loggedPass o x).1)⟩ :=
  .trans (.tail .refl (.start x) trivial)
    (Reaches.ofPasses (loggedAnswer_performs sc.performs)
      (fun _ _ _ _ hTest => patientAnswer_patiently hTest) h)

theorem Script.logged_tick (sc : Script P) {x : World P × List (Answered Op Ans)} {later : Int}
    (h : x.1.clock ≤ later) : sc.services.system.logged.interferes x (x.1.at later, x.2) :=
  ⟨.tick h, rfl⟩

/-- The Gateway of the sample Job is recorded when the server starts, and the pass that begins 301
seconds later fails the Job. -/
theorem waiting_not_charged_pending : ∃ c : Config Op Ans (World Unit × List (Answered Op Ans))
      (Except PyExc Unit),
    Reaches pendingScript.services.system.logged (ρ := Except PyExc Unit)
        sampleOrchestrator.reconcileOnce (· = .ok ()) (Patiently sampleOrchestrator)
        ⟨(sampleWorld (), []), none⟩ c ∧
      c.state.1.trace.any failsForGateway = true ∧ sampleOrchestrator.Earned c.state.1.trace := by
  have hFirst := pendingScript.reaches_patiently (o := sampleOrchestrator)
    (x := (sampleWorld (), [])) (by decide +kernel)
  have hOk : (pendingScript.loggedPass sampleOrchestrator (sampleWorld (), [])).1 = .ok () := by
    decide +kernel
  have hClock : (pendingScript.loggedPass sampleOrchestrator (sampleWorld (), [])).2.1.clock ≤
      301000000 := by decide +kernel
  have hIdle := Reaches.tail hFirst (.finish _ hOk) trivial
  have hReaches := Reaches.trans
    (Reaches.tail hIdle (.interference (pendingScript.logged_tick hClock)) trivial)
    (pendingScript.reaches_patiently (by decide +kernel))
  exact ⟨_, hReaches, by decide +kernel, waiting_not_charged sampleOrchestrator
    pendingScript.services (fun _ _ h => h) (sampleWorld_initial _ ()) hReaches⟩

end SafactoryServer
