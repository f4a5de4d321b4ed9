import SafactoryServer.Backend
import SafactoryServer.Effect.Monitor
import SafactoryServer.Lifecycle

/-! The table `job_events`: what the events of the orchestrator tell about a Job is so in its row,
and each of them is recorded once. -/

namespace SafactoryServer

open Effect

variable {P : Type}

/-- What an event of a pass tells about the row of its Job. -/
inductive Fact
  | filesBound
  | gatewaySubmitted
  | gatewayReady
  | controllerSubmitted
  | succeeded
  | failed
  | closed
deriving DecidableEq

namespace Fact

/-- The type of the event that tells it. -/
def event : Fact → String
  | filesBound => "job_files_bound"
  | gatewaySubmitted => "gateway_rjob_submitted"
  | gatewayReady => "gateway_rjob_ready"
  | controllerSubmitted => "safactory_rjob_submitted"
  | succeeded => "job_succeeded"
  | failed => "job_failed"
  | closed => "job_closed"

def all : List Fact :=
  [filesBound, gatewaySubmitted, gatewayReady, controllerSubmitted, succeeded, failed, closed]

/-- The fact that an event of this type tells, if any. -/
def ofEvent? (eventType : String) : Option Fact := all.find? (·.event = eventType)

variable (u : Unicode)

/-- The fact, with the details that the event of this payload gives, is so in the row. -/
def Holds (row : ControlJob) (payload : List (String × Json)) : Fact → Prop
  | filesBound => ∃ binding : JobFileBinding, row.bindingJson = some binding.toJson ∧
      payload = sanitizeEventPayload u [("environment_groups", .int binding.groups.length),
        ("episodes", .int binding.totalEpisodes)]
  | gatewaySubmitted => ∃ rjobId, row.gatewayRjobId = some rjobId ∧
      payload = sanitizeEventPayload u [("rjob_id", .str rjobId)]
  | gatewayReady => row.gatewayUrl.isSome = true
  | controllerSubmitted => ∃ rjobId, row.safactoryRjobId = some rjobId ∧
      payload = sanitizeEventPayload u [("rjob_id", .str rjobId)]
  | succeeded => row.status = .succeeded
  | failed => row.status = .failed ∧ ∃ reason, row.statusReason = some reason ∧
      payload = sanitizeEventPayload u [("reason", .str reason)]
  | closed => row.status = .closed

/-- The write of `changes` makes it so. -/
def Made (changes : Changes) (payload : List (String × Json)) : Fact → Prop
  | filesBound => ∃ binding : JobFileBinding,
      changes.bindingJson = some (some binding.toJson) ∧
      payload = sanitizeEventPayload u [("environment_groups", .int binding.groups.length),
        ("episodes", .int binding.totalEpisodes)]
  | gatewaySubmitted => ∃ rjobId, changes.gatewayRjobId = some (some rjobId) ∧
      payload = sanitizeEventPayload u [("rjob_id", .str rjobId)]
  | gatewayReady => ∃ url, changes.gatewayUrl = some (some url)
  | controllerSubmitted => ∃ rjobId, changes.safactoryRjobId = some (some rjobId) ∧
      payload = sanitizeEventPayload u [("rjob_id", .str rjobId)]
  | succeeded => changes.status = some .succeeded
  | failed => changes.status = some .failed ∧
      ∃ reason, changes.statusReason = some (some reason) ∧
        payload = sanitizeEventPayload u [("reason", .str reason)]
  | closed => changes.status = some .closed

end Fact

/-- The last write of a pass that succeeded, with its Job, until an event has told it. -/
abbrev Untold := Option (Changes × String)

/-- An event that tells a fact comes after the write that made it so, once. -/
def herald (u : Unicode) : Monitor Op Ans Untold where
  init := none
  permits last e := match e with
    | .addEvent event => ∀ fact, Fact.ofEvent? event.eventType = some fact →
        ∃ changes, last = some (changes, event.jobId) ∧ fact.Made u changes event.payload
    | _ => True
  note last e answer := match e, answer with
    | .update _ _ changes, .ok row => some (changes, row.jobId)
    | .update _ _ _, .error _ => none
    | .addEvent event, _ => if (Fact.ofEvent? event.eventType).isSome then none else last
    | _, _ => last

/-! ### The orchestrator obeys -/

namespace RealJobOrchestrator

variable {o : RealJobOrchestrator}

/-- An event that tells no fact leaves what is noted. -/
theorem event_keeps (t : Untold) (job : ControlJob) {eventType : String}
    (payload : List (String × Json)) (h : Fact.ofEvent? eventType = none) :
    Task.Notes (herald o.unicode) t (o.event job eventType payload) fun _ t' => t' = t := by
  refine ⟨trivial, fun now => ⟨fun fact hFact => ?_, fun answer => ?_⟩⟩
  · rw [show Fact.ofEvent? eventType = some fact from hFact] at h
    cases h
  · cases answer with
    | ok =>
      show (if (Fact.ofEvent? eventType).isSome = true then none else t) = t
      rw [h]
      rfl
    | error x => trivial

theorem event_obeys (job : ControlJob) {eventType : String} (payload : List (String × Json))
    (h : Fact.ofEvent? eventType = none) :
    Task.Obeys (herald o.unicode) (o.event job eventType payload) :=
  Task.Notes.obeys fun t => event_keeps t job payload h

/-- An event that tells what the last write made so. -/
theorem event_tells (job : ControlJob) (fact : Fact) {eventType : String}
    {payload : List (String × Json)} {changes : Changes} (h : Fact.ofEvent? eventType = some fact)
    (hMade : fact.Made o.unicode changes (sanitizeEventPayload o.unicode payload)) :
    Task.Notes (herald o.unicode) (some (changes, job.jobId)) (o.event job eventType payload)
      fun _ _ => True := by
  refine ⟨trivial, fun now => ⟨fun fact' hFact' => ?_, fun answer => ?_⟩⟩
  · obtain rfl := Option.some.inj (h.symm.trans hFact')
    exact ⟨changes, rfl, hMade⟩
  · cases answer <;> trivial

/-- A write is noted. -/
theorem update_notes (u : Unicode) (t : Untold) (j : String) (now : Int) (changes : Changes) :
    Task.Notes (herald u) t (Coroutine.update j now changes)
      fun row last => last = some (changes, row.jobId) := by
  refine ⟨trivial, fun answer => ?_⟩
  cases answer with
  | ok row => rfl
  | error x => trivial

theorem update_obeys (u : Unicode) (j : String) (now : Int) (changes : Changes) :
    Task.Obeys (herald u) (Coroutine.update j now changes) :=
  Task.Notes.obeys fun t => update_notes u t j now changes

theorem now_obeys (u : Unicode) : Task.Obeys (herald u) Coroutine.now := .perform fun _ => trivial

theorem get_obeys (u : Unicode) (j : String) : Task.Obeys (herald u) (Coroutine.get j) :=
  .perform fun _ => trivial

theorem stopRJob_obeys (u : Unicode) (rjobId : String) :
    Task.Obeys (herald u) (Coroutine.stopRJob rjobId) := .perform fun _ => trivial

theorem lift_obeys {α : Type} (u : Unicode) (result : Except PyExc α) :
    Task.Obeys (herald u) (Coroutine.lift result) := by
  intro t
  cases result <;> trivial

/-- A write and the event that tells it. -/
theorem tells_obeys (fact : Fact) {j : String} {now : Int} {changes : Changes}
    {eventType : String} {payload : List (String × Json)} {α : Type} {f : ControlJob → Coroutine α}
    (h : Fact.ofEvent? eventType = some fact)
    (hMade : fact.Made o.unicode changes (sanitizeEventPayload o.unicode payload))
    (hf : ∀ job, Task.Obeys (herald o.unicode) (f job)) :
    Task.Obeys (herald o.unicode) (do
      let job ← Coroutine.update j now changes
      o.event job eventType payload
      f job) := by
  refine fun t => (update_notes o.unicode t j now changes).bind fun job last hLast => ?_
  subst hLast
  exact (event_tells job fact h hMade).bind fun _ t _ => hf job t

theorem stopRecorded_obeys (job : ControlJob) :
    Task.Obeys (herald o.unicode) (o.stopRecorded job) := by
  refine .bind ?_ fun _ => ?_
  · unfold stopController
    simp only
    split
    · exact .bind (event_obeys job _ rfl) fun _ =>
        .bind (stopRJob_obeys _ _) fun _ => event_obeys job _ rfl
    · exact .pure _
  · unfold stopGateway
    simp only
    split
    · exact .bind (stopRJob_obeys _ _) fun _ => event_obeys job _ rfl
    · exact .pure _

theorem finishCleanup_obeys (job : ControlJob) :
    Task.Obeys (herald o.unicode) (o.finishCleanup job) := by
  unfold finishCleanup
  refine .bind (now_obeys _) fun now t => ?_
  refine (update_notes o.unicode t _ _ _).bind fun row last hLast => ?_
  refine (event_keeps last row _ rfl).bind fun _ last' hKept => ?_
  subst hKept hLast
  by_cases hClosing : job.status = .closing
  · simp only [hClosing, if_true]
    exact event_tells row .closed rfl rfl
  · simp only [hClosing, if_false]
    trivial

theorem cleanup_obeys (job : ControlJob) : Task.Obeys (herald o.unicode) (o.cleanup job) := by
  unfold cleanup
  refine .bind (get_obeys _ _) fun found => ?_
  cases found with
  | none => exact .pure _
  | some job =>
    simp only
    unfold cleanupRow
    split
    · exact .bind (now_obeys _) fun now =>
        .bind (update_obeys _ _ _ _) fun _ => event_obeys job _ rfl
    · refine .bind (.tryCatch (.bind (stopRecorded_obeys job) fun _ => .pure _) fun x => ?_)
        fun stopped => ?_
      · split
        · exact .pure _
        · exact .throw _
      · split
        · exact finishCleanup_obeys job
        · exact .pure _

theorem fail_obeys (jobId reason : String) :
    Task.Obeys (herald o.unicode) (o.fail jobId reason) := by
  unfold fail
  refine .bind (get_obeys _ _) fun found => ?_
  cases found with
  | none => exact .pure _
  | some job =>
    simp only
    split
    · exact .pure _
    · split
      · exact cleanup_obeys job
      · refine .bind (now_obeys _) fun now t => ?_
        refine Task.Notes.bind (Q := fun failed last => ∀ row, failed = some row →
          ∃ changes, last = some (changes, row.jobId) ∧ Fact.failed.Made o.unicode changes
            (sanitizeEventPayload o.unicode [("reason", .str reason)])) ?_ fun failed last h => ?_
        · refine .tryCatch (.map ?_) fun x t => ?_
          · refine (update_notes o.unicode t jobId now _).mono fun r last hr => ?_
            cases r with
            | ok row =>
              intro row' h
              cases h
              exact ⟨_, hr, rfl, reason, rfl, rfl⟩
            | error x => trivial
          · split
            · intro row h
              cases h
            · trivial
        · cases failed with
          | none => trivial
          | some row =>
            obtain ⟨changes, rfl, hMade⟩ := h row rfl
            exact (event_tells row .failed rfl hMade).bind fun _ t _ =>
              cleanup_obeys row t

theorem bindFiles_obeys (job : ControlJob) : Task.Obeys (herald o.unicode) (o.bindFiles job) := by
  unfold bindFiles
  refine .bind (now_obeys _) fun now => .bind (update_obeys _ _ _ _) fun job => ?_
  refine .bind (.tryCatch (.map (.perform fun _ => trivial)) fun x => ?_) fun bound => ?_
  · split
    · exact .pure _
    · exact .throw _
  · cases bound with
    | some binding =>
      refine .bind (now_obeys _) fun now => ?_
      exact tells_obeys .filesBound rfl ⟨binding, rfl, rfl⟩ fun job => .pure job
    | none =>
      refine .bind (fail_obeys _ _) fun _ => .bind (get_obeys _ _) fun found => ?_
      cases found with
      | none => exact .throw _
      | some failed => exact .pure _

theorem submitGateway_obeys (job : ControlJob) (binding : JobFileBinding) :
    Task.Obeys (herald o.unicode) (o.submitGateway job binding) := by
  unfold submitGateway
  refine .bind (lift_obeys _ _) fun spec => .bind (.perform fun _ => trivial) fun rjobId => ?_
  refine .bind (now_obeys _) fun now => ?_
  exact tells_obeys .gatewaySubmitted rfl ⟨rjobId, rfl, rfl⟩ fun job => .pure job

theorem submitSafactory_obeys (job : ControlJob) (binding : JobFileBinding) :
    Task.Obeys (herald o.unicode) (o.submitSafactory job binding) := by
  unfold submitSafactory
  refine .bind (lift_obeys _ _) fun spec => .bind (.perform fun _ => trivial) fun rjobId => ?_
  refine .bind (now_obeys _) fun now t => ?_
  have hHeld : ∀ (changes : Changes) (last : Untold),
      changes.safactoryRjobId = some (some rjobId) → Task.Notes (herald o.unicode) last
        (Coroutine.update job.jobId now changes) fun row last => ∃ changes,
          last = some (changes, row.jobId) ∧ changes.safactoryRjobId = some (some rjobId) :=
    fun changes last h => Program.Obeys.mono (update_notes o.unicode last job.jobId now changes)
      fun r last hr => by
        cases r with
        | ok row => exact ⟨changes, hr, h⟩
        | error x => trivial
  refine Task.Notes.bind (.tryCatch (hHeld _ t rfl) fun x last => ?_) fun job last hLast => ?_
  · split
    · exact hHeld _ last rfl
    · trivial
  · obtain ⟨changes, rfl, hRecorded⟩ := hLast
    exact (event_tells job .controllerSubmitted rfl ⟨rjobId, hRecorded, rfl⟩).bind
      fun _ _ _ => trivial

theorem recordGatewayStatus_obeys (u : Unicode) (job : ControlJob) (snapshot : RJobSnapshot) :
    Task.Obeys (herald u) (recordGatewayStatus job snapshot) :=
  .bind (now_obeys _) fun _ => update_obeys _ _ _ _

theorem recordControllerStatus_obeys (u : Unicode) (job : ControlJob) (snapshot : RJobSnapshot) :
    Task.Obeys (herald u) (recordControllerStatus job snapshot) :=
  .bind (now_obeys _) fun _ => update_obeys _ _ _ _

theorem reconcileOutcome_obeys (job : ControlJob) (binding : JobFileBinding)
    (controller : RJobSnapshot) :
    Task.Obeys (herald o.unicode) (o.reconcileOutcome job binding controller) := by
  unfold reconcileOutcome
  split
  · exact .pure _
  · split
    · split
      · exact .bind (fail_obeys _ _) fun _ => .pure _
      · refine .bind (now_obeys _) fun now => ?_
        exact tells_obeys .succeeded rfl rfl fun _ => .pure _
    · split
      · exact .bind (fail_obeys _ _) fun _ => .pure _
      · refine .bind (now_obeys _) fun now => ?_
        split
        · exact .bind (fail_obeys _ _) fun _ => .pure _
        · exact event_obeys _ _ rfl

theorem reconcileController_obeys (job : ControlJob) (binding : JobFileBinding)
    (gateway : RJobSnapshot) :
    Task.Obeys (herald o.unicode) (o.reconcileController job binding gateway) := by
  unfold reconcileController
  split
  · exact .bind (fail_obeys _ _) fun _ => .pure _
  · split
    · refine .bind (.perform fun _ => trivial) fun controller => ?_
      exact .bind (recordControllerStatus_obeys _ _ _) fun job => reconcileOutcome_obeys _ _ _
    · exact .throw _

theorem reconcileHealthy_obeys (job : ControlJob) (binding : JobFileBinding)
    (gateway : RJobSnapshot) :
    Task.Obeys (herald o.unicode) (o.reconcileHealthy job binding gateway) := by
  unfold reconcileHealthy
  refine .bind (get_obeys _ _) fun found => ?_
  cases found with
  | none => exact .pure _
  | some job =>
    simp only
    split
    · exact .pure _
    · split
      · exact reconcileController_obeys _ _ _
      · refine .bind (submitSafactory_obeys _ _) fun job => ?_
        split
        · exact .pure _
        · exact reconcileController_obeys _ _ _

theorem reconcileRoute_obeys (job : ControlJob) (binding : JobFileBinding)
    (gateway : RJobSnapshot) (gatewayReady : Bool) :
    Task.Obeys (herald o.unicode) (o.reconcileRoute job binding gateway gatewayReady) := by
  unfold reconcileRoute
  refine .bind (get_obeys _ _) fun found => ?_
  cases found with
  | none => exact .pure _
  | some job =>
    simp only
    split
    · exact .pure _
    · split
      · split
        · exact .bind (fail_obeys _ _) fun _ => .pure _
        · refine .bind (now_obeys _) fun _ => .bind (update_obeys _ _ _ _) fun job => ?_
          refine .bind (now_obeys _) fun _ => ?_
          split
          · exact .bind (fail_obeys _ _) fun _ => .pure _
          · exact .pure _
      · split
        · split
          · exact .bind (fail_obeys _ _) fun _ => .pure _
          · exact reconcileHealthy_obeys _ _ _
        · refine .bind (now_obeys _) fun now => .bind (now_obeys _) fun readyAt t => ?_
          refine (update_notes o.unicode t _ _ _).bind fun job last hLast => ?_
          subst hLast
          split
          · trivial
          · exact (event_tells job .gatewayReady rfl ⟨_, rfl⟩).bind fun _ t _ =>
              reconcileHealthy_obeys _ _ _ t

theorem reconcileGateway_obeys (job : ControlJob) (binding : JobFileBinding)
    (gatewayRjobId : String) :
    Task.Obeys (herald o.unicode) (o.reconcileGateway job binding gatewayRjobId) := by
  unfold reconcileGateway
  refine .bind (.perform fun _ => trivial) fun gateway => ?_
  refine .bind (recordGatewayStatus_obeys _ _ _) fun job => ?_
  unfold reconcileNoted
  split
  · exact .pure _
  · split
    · exact .bind (fail_obeys _ _) fun _ => .pure _
    · split
      · split
        · exact .bind (fail_obeys _ _) fun _ => .pure _
        · refine .bind (now_obeys _) fun now => ?_
          split
          · exact .bind (fail_obeys _ _) fun _ => .pure _
          · exact .pure _
      · exact .bind (.perform fun _ => trivial) fun ready => reconcileRoute_obeys _ _ _ _

theorem reconcileBound_obeys (job : ControlJob) :
    Task.Obeys (herald o.unicode) (o.reconcileBound job) := by
  unfold reconcileBound
  split
  · refine .bind (lift_obeys _ _) fun binding => .bind (get_obeys _ _) fun found => ?_
    cases found with
    | none => exact .pure _
    | some job =>
      simp only
      split
      · exact .pure _
      · split
        · exact reconcileGateway_obeys _ _ _
        · refine .bind (submitGateway_obeys _ _) fun job => ?_
          split
          · exact .pure _
          · split
            · exact .pure _
            · exact reconcileGateway_obeys _ _ _
  · exact .throw _

theorem reconcile_obeys (job : ControlJob) : Task.Obeys (herald o.unicode) (o.reconcile job) := by
  unfold reconcile
  refine .bind (now_obeys _) fun now => .bind (update_obeys _ _ _ _) fun job => ?_
  unfold reconcileCounted
  split
  · exact .pure _
  · refine .bind (event_obeys _ _ rfl) fun _ => ?_
    split
    · exact reconcileBound_obeys _
    · refine .bind (bindFiles_obeys _) fun job => ?_
      split
      · exact .pure _
      · exact reconcileBound_obeys _

theorem turn_obeys (job : ControlJob) : Task.Obeys (herald o.unicode) (o.turn job) := by
  have hDependency : Task.Obeys (herald o.unicode) (o.dependencyError job) := by
    unfold dependencyError
    refine .bind (get_obeys _ _) fun found => ?_
    cases found with
    | none => exact .pure _
    | some latest =>
      refine .bind (now_obeys _) fun now => ?_
      split
      · exact fail_obeys _ _
      · exact .pure _
  refine .tryCatch (reconcile_obeys job) fun x => ?_
  cases x <;> first
    | exact hDependency
    | exact .pure _
    | exact fail_obeys _ _

/-- A pass obeys. -/
theorem reconcileOnce_obeys : Task.Obeys (herald o.unicode) o.reconcileOnce := by
  refine .bind ?_ fun _ => ?_
  · exact .bind (.perform fun _ => trivial) fun jobs => .forM (fun job => turn_obeys job) jobs
  · exact .bind (.perform fun _ => trivial) fun jobs => .forM (fun job => cleanup_obeys job) jobs

end RealJobOrchestrator

/-! ### What a fact survives -/

section

variable {o : RealJobOrchestrator} {u : Unicode} {trace : List TraceEvent}
  {source row row' : ControlJob} {changes : Changes} {payload payload' : List (String × Json)}
  {fact : Fact}

/-- What the write of a pass makes of a row. -/
theorem Written.made (h : Written o trace source row row' changes)
    (hMade : fact.Made u changes payload) : fact.Holds u row' payload := by
  obtain ⟨phase, now, rfl⟩ := h.eq
  cases fact <;> simp only [Fact.Made, Fact.Holds, Changes.write] at hMade ⊢
  case filesBound | gatewaySubmitted | controllerSubmitted =>
    obtain ⟨x, hx, rfl⟩ := hMade
    exact ⟨x, by rw [hx]; rfl, rfl⟩
  case gatewayReady =>
    obtain ⟨url, hUrl⟩ := hMade
    rw [hUrl]
    rfl
  case succeeded | closed =>
    rw [hMade]
    rfl
  case failed =>
    obtain ⟨hStatus, reason, hReason, rfl⟩ := hMade
    exact ⟨by rw [hStatus]; rfl, reason, by rw [hReason]; rfl, rfl⟩

/-- A row that a write finds active or closing has no outcome yet. -/
theorem ControlJob.CloseOnly.undecided (h : source.CloseOnly row)
    (hOpen : source.active = true ∨ source.status = .closing) :
    row.status ≠ .succeeded ∧ row.status ≠ .failed ∧ row.status ≠ .closed := by
  rcases h with rfl | ⟨-, now, rfl⟩
  · rw [ControlJob.active_iff] at hOpen
    grind
  · simp

/-- Before the write that makes a fact so, it is not. -/
theorem Written.unmade (h : Written o trace source row row' changes)
    (hMade : fact.Made u changes payload) : ¬ fact.Holds u row payload' := by
  intro hHolds
  obtain ⟨hb, hg, hu, hs, -⟩ := h.closeOnly.keeps
  have hOpen := h.closeOnly.undecided
  have hWrite := h.write
  cases fact <;> simp only [Fact.Made, Fact.Holds] at hMade hHolds <;> cases hWrite <;>
    simp_all [RealJobOrchestrator.controllerChanges]

/-- A close request leaves what is told, since it leaves every outcome. -/
theorem Fact.Holds.closeOnly (h : fact.Holds u row payload) (hClose : row.CloseOnly row') :
    fact.Holds u row' payload := by
  rcases hClose with rfl | ⟨hActive, now, rfl⟩
  · exact h
  · rw [ControlJob.active_iff] at hActive
    cases fact
    case filesBound | gatewaySubmitted | gatewayReady | controllerSubmitted => exact h
    case succeeded | closed =>
      rw [show row.status = _ from h] at hActive
      simp at hActive
    case failed =>
      rw [h.1] at hActive
      simp at hActive

/-- A write of a pass keeps an outcome. -/
theorem Written.terminal (h : Written o trace source row row' changes)
    (hTerminal : row.terminal = true) : row'.status = row.status := by
  obtain ⟨allowed, now, hGuard, rfl⟩ := h.result
  obtain ⟨hAllowed, hKept, -⟩ := ControlJob.guard_ok hGuard
  refine Eq.trans ?_ (hKept hTerminal)
  rcases hAllowed with rfl | ⟨rfl, -⟩ <;> rfl

/-- A write of a pass keeps the reason of a failed row. -/
theorem Written.reason (h : Written o trace source row row' changes)
    (hFailed : row.status = .failed) : row'.statusReason = row.statusReason := by
  have hUndecided := h.closeOnly.undecided
  obtain ⟨phase, now, rfl⟩ := h.eq
  have hWrite := h.write
  cases hWrite <;> first | rfl | simp_all

theorem Fact.Holds.written (h : fact.Holds u row payload)
    (hWritten : Written o trace source row row' changes) : fact.Holds u row' payload := by
  obtain ⟨allowed, now, hGuard, heq⟩ := hWritten.result
  have hGrows : row.Grows row' := heq ▸ hWritten.write.grows hWritten.closeOnly hGuard
  have hTerminal := hWritten.terminal
  rw [ControlJob.terminal_iff] at hTerminal
  cases fact
  case filesBound =>
    obtain ⟨binding, hBinding, rfl⟩ := h
    exact ⟨binding, (hGrows.binding (by rw [hBinding]; rfl)).trans hBinding, rfl⟩
  case gatewaySubmitted =>
    obtain ⟨rjobId, hRjob, rfl⟩ := h
    exact ⟨rjobId, (hGrows.gateway (by rw [hRjob]; rfl)).trans hRjob, rfl⟩
  case gatewayReady =>
    show row'.gatewayUrl.isSome = true
    rw [hGrows.url h]
    exact h
  case controllerSubmitted =>
    obtain ⟨rjobId, hRjob, rfl⟩ := h
    exact ⟨rjobId, (hGrows.controller (by rw [hRjob]; rfl)).1.trans hRjob, rfl⟩
  case succeeded => exact (hTerminal (.inl h)).trans h
  case closed => exact (hTerminal (.inr (.inr h))).trans h
  case failed =>
    obtain ⟨hFailed, reason, hReason, rfl⟩ := h
    exact ⟨(hTerminal (.inr (.inl hFailed))).trans hFailed, reason,
      (hWritten.reason hFailed).trans hReason, rfl⟩

end

/-! ### The log -/

/-- The events of a Job that tell a fact. -/
def told (events : List JobEvent) (jobId : String) (fact : Fact) : List JobEvent :=
  events.filter fun event => event.jobId = jobId ∧ Fact.ofEvent? event.eventType = some fact

/-- What the log tells is so, and told once. -/
structure Truthful (u : Unicode) (w : World P) : Prop where
  so {event : JobEvent} {fact : Fact} : event ∈ w.events →
    Fact.ofEvent? event.eventType = some fact →
    ∃ row, w.jobs.find event.jobId = some row ∧ fact.Holds u row event.payload
  once (jobId : String) (fact : Fact) : (told w.events jobId fact).length ≤ 1

/-- What the last write made so is still so, and not told yet. -/
def Pending (u : Unicode) (last : Untold) (w : World P) : Prop :=
  ∀ changes jobId, last = some (changes, jobId) → ∀ fact payload, fact.Made u changes payload →
    (∃ row, w.jobs.find jobId = some row ∧ fact.Holds u row payload) ∧
      told w.events jobId fact = []

/-- The types of the events that the API records. -/
def apiEvents : List String := ["job_created", "job_close_requested", "data_platform_query_failed"]

/-- The requests of the API record events of their own types only. -/
def ApiEvents (w : World P) (l : Label Op Ans) (w' : World P) : Prop :=
  l = .interference →
    ∃ new, w'.events = w.events ++ new ∧ ∀ event ∈ new, event.eventType ∈ apiEvents

/-- The rows of the second world still have the facts of the first. -/
def RowsKeep (u : Unicode) (w w' : World P) : Prop :=
  ∀ (j : String) (row : ControlJob), w.jobs.find j = some row →
    ∃ row', w'.jobs.find j = some row' ∧
      ∀ (fact : Fact) payload, fact.Holds u row payload → fact.Holds u row' payload

/-- The second log has no more than events that tell nothing. -/
def Adds (w w' : World P) : Prop :=
  ∃ new, w'.events = w.events ++ new ∧ ∀ event ∈ new, Fact.ofEvent? event.eventType = none

section

variable {o : RealJobOrchestrator} {sv : Services P} {u : Unicode} {w w' w₀ : World P}
  {last : Untold}

theorem RowsKeep.of_eq (h : w'.jobs = w.jobs) : RowsKeep u w w' :=
  fun _ row hf => ⟨row, by rw [h, hf], fun _ _ => id⟩

theorem Adds.of_eq (h : w'.events = w.events) : Adds w w' :=
  ⟨[], by rw [h, List.append_nil], fun _ h => absurd h List.not_mem_nil⟩

theorem Adds.told (h : Adds w w') (j : String) (fact : Fact) :
    told w'.events j fact = told w.events j fact := by
  obtain ⟨new, heq, hNew⟩ := h
  have hNone : SafactoryServer.told new j fact = [] :=
    List.filter_eq_nil_iff.mpr fun event hEvent => by simp [hNew event hEvent]
  rw [heq, SafactoryServer.told, List.filter_append]
  rw [SafactoryServer.told] at hNone
  rw [hNone, List.append_nil]
  rfl

theorem Truthful.keeps (h : Truthful u w) (hRows : RowsKeep u w w') (hAdds : Adds w w') :
    Truthful u w' where
  so {event fact} hEvent hFact := by
    obtain ⟨new, heq, hNew⟩ := hAdds
    rw [heq, List.mem_append] at hEvent
    rcases hEvent with hEvent | hEvent
    · obtain ⟨row, hf, hHolds⟩ := h.so hEvent hFact
      obtain ⟨row', hf', hKeep⟩ := hRows _ row hf
      exact ⟨row', hf', hKeep _ _ hHolds⟩
    · rw [hNew event hEvent] at hFact
      cases hFact
  once j fact := by
    rw [hAdds.told]
    exact h.once j fact

theorem Pending.keeps (h : Pending u last w) (hRows : RowsKeep u w w') (hAdds : Adds w w') :
    Pending u last w' := by
  intro changes j hLast fact payload hMade
  obtain ⟨⟨row, hf, hHolds⟩, hTold⟩ := h changes j hLast fact payload hMade
  obtain ⟨row', hf', hKeep⟩ := hRows _ row hf
  exact ⟨⟨row', hf', hKeep _ _ hHolds⟩, (hAdds.told j fact).trans hTold⟩

theorem Pending.none : Pending u none w := fun _ _ h => by cases h

/-- Nothing of a fact is told before it is so. -/
theorem Truthful.untold (h : Truthful u w) {j : String} {fact : Fact} {row : ControlJob}
    (hf : w.jobs.find j = some row) (hNot : ∀ payload, ¬ fact.Holds u row payload) :
    told w.events j fact = [] := by
  refine List.filter_eq_nil_iff.mpr fun event hEvent hTells => ?_
  simp only [decide_eq_true_eq] at hTells
  obtain ⟨rfl, hFact⟩ := hTells
  obtain ⟨row', hf', hHolds⟩ := h.so hEvent hFact
  obtain rfl : row = row' := Option.some.inj (hf.symm.trans hf')
  exact hNot _ hHolds

/-- The log after an event that tells what is pending. -/
theorem Truthful.tells {event : JobEvent} {fact : Fact} {row : ControlJob} (h : Truthful u w)
    (hFact : Fact.ofEvent? event.eventType = some fact)
    (hf : w.jobs.find event.jobId = some row) (hHolds : fact.Holds u row event.payload)
    (hTold : told w.events event.jobId fact = []) (hJobs : w'.jobs = w.jobs)
    (hEvents : w'.events = w.events ++ [event]) : Truthful u w' where
  so {event' fact'} hEvent hFact' := by
    rw [hJobs]
    rw [hEvents, List.mem_append, List.mem_singleton] at hEvent
    rcases hEvent with hEvent | rfl
    · exact h.so hEvent hFact'
    · obtain rfl := Option.some.inj (hFact.symm.trans hFact')
      exact ⟨row, hf, hHolds⟩
  once j fact' := by
    rw [hEvents, told, List.filter_append]
    by_cases hSame : event.jobId = j ∧ Fact.ofEvent? event.eventType = some fact'
    · obtain ⟨rfl, hFact'⟩ := hSame
      obtain rfl := Option.some.inj (hFact.symm.trans hFact')
      rw [told] at hTold
      rw [hTold]
      exact List.length_filter_le _ _
    · rw [List.filter_cons_of_neg (by simpa using hSame), List.filter_nil, List.append_nil]
      exact h.once j fact'

/-- The row that an update of a pass finds and the one it leaves. -/
theorem Services.Reaches.updated {permitted : World P → Label Op Ans → World P → Prop} {j : String}
    {now : Int} {changes : Changes} {row : ControlJob}
    {k : Ans (.update j now changes) → Program Op Ans (Except PyExc Unit)} (h₀ : sv.Initial w₀)
    (h : sv.Reaches o permitted ⟨w₀, none⟩ ⟨w, some (.call (.update j now changes) k)⟩)
    (hPerforms : sv.Performs (.update j now changes) w (.ok row) w') :
    ∃ source current, w.jobs.find j = some current ∧
      Written o w.trace source current row changes ∧
      ∀ i, w'.jobs.find i = if i = j then some row else w.jobs.find i := by
  obtain ⟨-, s₀, -, hAllowed, hw, -⟩ := h.holds h₀ (J := fun _ => True) trivial (preserves_true _ _)
  have hLater : Later sv s₀ w := .of_waits hw
  obtain ⟨source, current, allowed, -, hWrite, hClose, hf, hGuard, hRow, hfind⟩ :=
    Allowed.update_ok hAllowed hLater hPerforms
  exact ⟨source, current, hf, ⟨hLater.trace ▸ hWrite, hClose, allowed, now, hGuard, hRow⟩, hfind⟩

/-- Only `add_event` writes the log. -/
theorem Services.Performs.events {e : Op} {answer : Ans e} (h : sv.Performs e w answer w')
    (he : ∀ event, e ≠ .addEvent event) : w'.events = w.events := by
  cases e with
  | now | listActive | listCleanupPending | get => obtain ⟨-, rfl⟩ := h; rfl
  | createRJob | getRJob | stopRJob | ready | bind => obtain ⟨p, -, rfl⟩ := h; rfl
  | update j now changes =>
    simp only [Services.Performs] at h
    split at h <;> (obtain ⟨-, rfl⟩ := h; rfl)
  | addEvent event => exact absurd rfl (he event)

/-- What a permitted call leaves of the log. -/
theorem herald_answer {permitted : World P → Label Op Ans → World P → Prop} {e : Op}
    {answer : Ans e} {k : Ans e → Program Op Ans (Except PyExc Unit)} (h₀ : sv.Initial w₀)
    (h : sv.Reaches o permitted ⟨w₀, none⟩ ⟨w, some (.call e k)⟩)
    (hPerforms : sv.Performs e w answer w') (hTruthful : Truthful o.unicode w)
    (hPending : Pending o.unicode last w) (hPermits : (herald o.unicode).permits last e) :
    Truthful o.unicode w' ∧ Pending o.unicode ((herald o.unicode).note last e answer) w' := by
  have hOther : (∀ j now changes, e ≠ .update j now changes) → (∀ event, e ≠ .addEvent event) →
      Truthful o.unicode w' ∧ Pending o.unicode last w' := fun hUpdate hEvent =>
    have hRows := RowsKeep.of_eq (hPerforms.jobs hUpdate)
    have hAdds := Adds.of_eq (hPerforms.events hEvent)
    ⟨hTruthful.keeps hRows hAdds, hPending.keeps hRows hAdds⟩
  cases e with
  | now | listActive | listCleanupPending | get | createRJob | getRJob | stopRJob | ready | bind =>
    exact hOther (by simp) (by simp)
  | update j now changes =>
    have hAdds := Adds.of_eq (hPerforms.events (by simp))
    cases answer with
    | error x =>
      exact ⟨hTruthful.keeps (.of_eq hPerforms.update_error.2) hAdds, Pending.none⟩
    | ok row =>
      obtain ⟨source, current, hf, hWritten, hfind⟩ := h.updated h₀ hPerforms
      have hRow : row.jobId = j := JobTable.find_jobId ((hfind j).trans (if_pos rfl))
      have hRows : RowsKeep o.unicode w w' := by
        intro i row₀ hf₀
        by_cases hi : i = j
        · subst hi
          obtain rfl : row₀ = current := Option.some.inj (hf₀.symm.trans hf)
          exact ⟨row, (hfind i).trans (if_pos rfl), fun _ _ hHolds => hHolds.written hWritten⟩
        · exact ⟨row₀, by rw [hfind, if_neg hi, hf₀], fun _ _ => id⟩
      refine ⟨hTruthful.keeps hRows hAdds, fun changes' j' hLast fact payload hMade => ?_⟩
      obtain ⟨rfl, rfl⟩ := Prod.mk.inj (Option.some.inj hLast)
      refine ⟨⟨row, by rw [hfind, if_pos hRow], hWritten.made hMade⟩, ?_⟩
      rw [hAdds.told, hRow]
      exact hTruthful.untold hf fun _ => hWritten.unmade hMade
  | addEvent event =>
    have hFailed : w'.jobs = w.jobs → w'.events = w.events → Truthful o.unicode w' ∧
        Pending o.unicode ((herald o.unicode).note last (.addEvent event) answer) w' := by
      intro hJobs hEvents
      refine ⟨hTruthful.keeps (.of_eq hJobs) (.of_eq hEvents), ?_⟩
      show Pending o.unicode (if _ then _ else _) w'
      split
      · exact Pending.none
      · exact hPending.keeps (.of_eq hJobs) (.of_eq hEvents)
    simp only [Services.Performs] at hPerforms
    split at hPerforms
    · next events hInsert =>
      obtain ⟨-, rfl⟩ := hPerforms
      have hEvents : events = w.events ++ [event] := by
        unfold JobTable.insertEvent at hInsert
        split at hInsert
        · exact (Except.ok.inj hInsert).symm
        · cases hInsert
      cases hFact : Fact.ofEvent? event.eventType with
      | none =>
        have hAdds : Adds w ({ w with events := events }.record (.addEvent event) answer) :=
          ⟨[event], hEvents, by simpa using hFact⟩
        refine ⟨hTruthful.keeps (.of_eq rfl) hAdds, ?_⟩
        show Pending o.unicode (if _ then _ else _) _
        rw [hFact]
        exact hPending.keeps (.of_eq rfl) hAdds
      | some fact =>
        obtain ⟨changes, rfl, hMade⟩ := hPermits fact hFact
        obtain ⟨⟨row, hf, hHolds⟩, hTold⟩ := hPending changes event.jobId rfl fact _ hMade
        refine ⟨hTruthful.tells hFact hf hHolds hTold rfl hEvents, ?_⟩
        show Pending o.unicode (if _ then _ else _) _
        rw [hFact]
        exact Pending.none
    · obtain ⟨-, rfl⟩ := hPerforms
      exact hFailed rfl rfl

/-- What the steps of the server keep of the log. -/
theorem herald_tracks (h₀ : sv.Initial w₀) :
    (herald o.unicode).Tracks sv.system (ρ := Except PyExc Unit) o.reconcileOnce (· = .ok ())
      ApiEvents ⟨w₀, none⟩ fun last w => Truthful o.unicode w ∧ Pending o.unicode last w where
  forget h := ⟨h.1, Pending.none⟩
  interference h hInterferes hPermitted := by
    obtain ⟨new, hEvents, hNew⟩ := hPermitted rfl
    have hRows : RowsKeep o.unicode _ _ := fun j row hf => by
      obtain ⟨row', hf', hClose⟩ := (Later.of_interferes hInterferes).rows hf
      exact ⟨row', hf', fun _ _ hHolds => hHolds.closeOnly hClose⟩
    have hAdds : Adds _ _ := ⟨new, hEvents, fun event hEvent => by
      have hType := hNew event hEvent
      simp only [apiEvents, List.mem_cons, List.not_mem_nil, or_false] at hType
      rcases hType with hType | hType | hType <;> rw [hType] <;> decide⟩
    exact ⟨h.1.keeps hRows hAdds, h.2.keeps hRows hAdds⟩
  answer hReaches hPerforms _ h hPermits :=
    herald_answer h₀ hReaches hPerforms h.1 h.2 hPermits
  crash h hCrash := by
    cases hCrash
    exact ⟨h.1.keeps (.of_eq rfl) (.of_eq rfl), Pending.none⟩
  lost hReaches hPerforms hCrash _ h hPermits := by
    cases hCrash
    exact ⟨(herald_answer h₀ hReaches hPerforms h.1 h.2 hPermits).1.keeps (.of_eq rfl) (.of_eq rfl),
      Pending.none⟩

end

/-! ### The requests of the API -/

/-- A request records events of the API only. -/
def apiLog : Monitor ApiOp ApiAns Unit where
  init := ()
  permits _ e := ∀ event, e = .addEvent event → event.eventType ∈ apiEvents
  note _ _ _ := ()

namespace RealRuntimeRepository

variable {repo : RealRuntimeRepository} {ctx : RequestContext}

theorem ask_records {e : ApiOp} (he : ∀ event, e ≠ .addEvent event) :
    Task.Obeys apiLog (Task.ask (ε := ApiExc) e) :=
  .perform fun _ event h => absurd h (he event)

theorem lift_records {α : Type} (result : Except PyExc α) :
    Task.Obeys apiLog (ApiTask.lift result) := by
  cases result with
  | ok a => exact .pure a
  | error x => exact .throw _

theorem trusted_records {α : Type} (result : Except PyExc α) :
    Task.Obeys apiLog (trusted result) := by
  unfold trusted
  split
  · exact .throw _
  · exact lift_records _

theorem addEvent_records {event : JobEvent} (h : event.eventType ∈ apiEvents) :
    Task.Obeys apiLog (ApiTask.addEvent event) :=
  .bind (.perform fun _ event' heq => by cases heq; exact h) fun _ => lift_records _

theorem getJob_records (jobId : String) : Task.Obeys apiLog (ApiTask.getJob jobId) :=
  .bind (ask_records (by simp)) fun _ => lift_records _

theorem requireJob_records (jobId : String) : Task.Obeys apiLog (requireJob ctx jobId) := by
  refine .bind (getJob_records jobId) fun found => ?_
  cases found with
  | none => exact .throw _
  | some job =>
    simp only
    split
    · exact .throw _
    · exact .pure _

theorem queried_records {α : Type} (jobId operation : String)
    (answer : Except DataPlatformError α) :
    Task.Obeys apiLog (repo.queried jobId operation answer) := by
  cases answer with
  | ok value => exact .pure _
  | error x =>
    refine .bind (.bind (getJob_records jobId) fun job => ?_) fun _ => .throw _
    exact .bind (ask_records (by simp)) fun now => addEvent_records (by simp [apiEvents])

theorem createJob_records (modelId rangeId : String) :
    Task.Obeys apiLog (repo.createJob ctx modelId rangeId) := by
  refine .bind (trusted_records _) fun model => .bind (trusted_records _) fun range => ?_
  split
  · refine .bind (ask_records (by simp)) fun jobId => .bind (ask_records (by simp)) fun now => ?_
    refine .bind (.bind (ask_records (by simp)) fun _ => lift_records _) fun _ => ?_
    refine .bind (addEvent_records (by simp [apiEvents])) fun _ => ?_
    exact .bind (ask_records (by simp)) fun _ => .pure _
  · exact .throw _

theorem closeJob_records (jobId : String) : Task.Obeys apiLog (repo.closeJob ctx jobId) := by
  refine .bind (ask_records (by simp)) fun now => .bind (.tryCatch ?_ fun x => ?_) fun job => ?_
  · refine .bind (requireJob_records jobId) fun _ => ?_
    refine .bind (.bind (ask_records (by simp)) fun _ => lift_records _) fun closed => ?_
    obtain ⟨job, transitioned⟩ := closed
    cases transitioned with
    | false => exact .pure _
    | true => exact .bind (addEvent_records (by simp [apiEvents])) fun _ => .pure _
  · unfold closeFailed
    split
    · exact .throw _
    · split <;> exact .throw _
    · exact .throw _
  · unfold reportClose
    simp only
    split
    · exact .bind (ask_records (by simp)) fun _ => .pure _
    · exact .pure _

theorem boundFile_records {error : String} {code : ErrorCode}
    {read : SessionFile → Except PyExc (Option Row)} {document : Json}
    {jobId sessionId name : String} :
    Task.Obeys apiLog (boundFile error code read document jobId sessionId name) := by
  refine .tryCatch (.bind (lift_records _) fun binding => ?_) fun x => ?_
  · exact .bind (ask_records (by simp)) fun file => lift_records _
  · cases x with
    | domain error => exact .throw _
    | python x =>
      simp only
      split <;> exact .throw _

theorem getResult_records (jobId sessionId : String) :
    Task.Obeys apiLog (repo.getResult ctx jobId sessionId) := by
  have hFinish : ∀ result : SessionResult, Task.Obeys apiLog (do
      if result.resultStatus = .pending ∨ result.resultStatus = .running then
        return { result with retryAfterSeconds := some repo.retryAfterSeconds }
      return result : ApiTask SessionResult) := by
    intro result
    split <;> exact .pure _
  refine .bind (requireJob_records jobId) fun job => .bind (ask_records (by simp)) fun answer => ?_
  refine .bind (queried_records _ _ _) fun found => ?_
  cases found with
  | none => exact .throw _
  | some result =>
    refine .bind (.bind (trusted_records _) fun range => ?_) fun artifact => ?_
    · cases range with
      | none => exact .throw _
      | some range =>
        simp only
        split
        · exact .pure _
        · exact .throw _
    · cases artifact with
      | none => exact .bind (.pure _) hFinish
      | some name =>
        refine .bind ?_ hFinish
        have hArtifact : Task.Obeys apiLog (artifactOf job jobId sessionId name) := by
          unfold artifactOf
          split
          · exact .pure _
          · exact boundFile_records
        unfold withArtifact
        simp only
        split
        · exact fun _ => trivial
        · refine .bind hArtifact fun payload => ?_
          split <;> exact fun _ => trivial

theorem getMilestones_records (jobId sessionId : String) :
    Task.Obeys apiLog (repo.getMilestones ctx jobId sessionId) := by
  have hWithout : ∀ job, Task.Obeys apiLog (repo.withoutSnapshot job jobId sessionId) := by
    intro job
    refine .bind (ask_records (by simp)) fun answer => .bind (queried_records _ _ _) fun ids => ?_
    simp only
    split_ifs <;> exact fun _ => trivial
  refine .bind (requireJob_records jobId) fun job => .bind (trusted_records _) fun range => ?_
  cases range with
  | none => exact .throw _
  | some range =>
    have hSnapshot : Task.Obeys apiLog (snapshotOf job jobId sessionId) := by
      unfold snapshotOf
      split
      · exact .pure _
      · exact boundFile_records
    simp only
    split_ifs
    -- a range without milestones, or a name that is not safe, is refused before any file is read
    iterate 3 exact fun _ => trivial
    refine .bind hSnapshot fun found => ?_
    cases found with
    | some snapshot => exact .pure _
    | none => exact hWithout job

theorem getSteps_records (jobId sessionId : String) :
    Task.Obeys apiLog (repo.getSteps ctx jobId sessionId) := by
  refine .bind (requireJob_records jobId) fun job => .bind (ask_records (by simp)) fun answer => ?_
  refine .bind (queried_records _ _ _) fun found => ?_
  cases found with
  | none => exact .throw _
  | some steps => exact .pure _

theorem getTrajectory_records (jobId sessionId stepId : String) :
    Task.Obeys apiLog (repo.getTrajectory ctx jobId sessionId stepId) := by
  refine .bind (requireJob_records jobId) fun job => .bind (ask_records (by simp)) fun answer => ?_
  refine .bind (queried_records _ _ _) fun found => ?_
  cases found with
  | none =>
    refine .bind (ask_records (by simp)) fun steps => ?_
    split <;> exact .throw _
  | some steps => exact .pure _

/-- No request of the API records an event that tells what a pass does. -/
theorem requests_record (repo : RealRuntimeRepository) (ctx : RequestContext) :
    (∀ modelId rangeId, Task.Obeys apiLog (repo.createJob ctx modelId rangeId)) ∧
      ∀ request, Task.Obeys apiLog (repo.serve ctx request) := by
  refine ⟨createJob_records, fun request => ?_⟩
  cases request with
  | closeJob jobId => exact .map (closeJob_records jobId)
  | listSessions jobId =>
    refine .map (.bind (requireJob_records jobId) fun job => .bind (ask_records (by simp)) ?_)
    exact fun answer => .bind (queried_records _ _ _) fun ids => .pure _
  | getResult jobId sessionId => exact .map (getResult_records jobId sessionId)
  | getMilestones jobId sessionId => exact .map (getMilestones_records jobId sessionId)
  | getSteps jobId sessionId => exact .map (getSteps_records jobId sessionId)
  | getTrajectory jobId sessionId stepId =>
    exact .map (getTrajectory_records jobId sessionId stepId)

end RealRuntimeRepository

/-- The log of a server that has just accepted Jobs tells nothing. -/
def Silent (w : World P) : Prop := ∀ event ∈ w.events, Fact.ofEvent? event.eventType = none

/-- The log never lies: in every run, an event that tells that the files of a Job are bound, that an
RJob is submitted, that the Gateway is ready or that the Job has succeeded, failed or been closed is
so in the row of the Job, with the details of the event, and is told once. -/
theorem audit_log_truthful {o : RealJobOrchestrator} {sv : Services P} {w₀ : World P}
    {c : Config Op Ans (World P) (Except PyExc Unit)} (h₀ : sv.Initial w₀) (hSilent : Silent w₀)
    (h : sv.Reaches o ApiEvents ⟨w₀, none⟩ c) : Truthful o.unicode c.state := by
  have hTruthful : Truthful o.unicode w₀ := by
    refine ⟨fun {event fact} hEvent hFact => ?_, fun j fact => ?_⟩
    · rw [hSilent event hEvent] at hFact
      cases hFact
    · have hNone : told w₀.events j fact = [] :=
        List.filter_eq_nil_iff.mpr fun event hEvent => by simp [hSilent event hEvent]
      rw [hNone]
      exact Nat.zero_le 1
  obtain ⟨last, hLog, -⟩ := (herald_tracks h₀).ofReaches
    ((RealJobOrchestrator.reconcileOnce_obeys none).mono fun _ _ _ => trivial) rfl
    ⟨hTruthful, Pending.none⟩ h
  exact hLog.1

/-- A program that a script answers. -/
theorem Script.reaches_run (sc : Script P) (o : RealJobOrchestrator)
    {permitted : World P → Label Op Ans → World P → Prop}
    (hPermitted : ∀ w e r w', permitted w (.answer e r) w')
    (p : Program Op Ans (Except PyExc Unit)) (w : World P) :
    sc.services.Reaches o permitted ⟨w, some p⟩
      ⟨(p.run sc.answer w).2, some (.done (p.run sc.answer w).1)⟩ := by
  induction p generalizing w with
  | done a => exact .refl
  | call e k ih =>
    exact .trans (.tail .refl (.answer (sc.performs e w)) (hPermitted _ _ _ _)) (ih _ _)

/-- The log of the first pass over a Job. -/
theorem audit_log_truthful_pass : ∃ w : World Unit,
    w.events.map (·.eventType) = ["rjob_reconciliation_started", "job_files_bound",
      "gateway_rjob_submitted", "gateway_rjob_ready", "safactory_rjob_submitted",
      "rjob_reconciliation_completed"] ∧ Truthful sampleOrchestrator.unicode w := by
  have hRun : sampleScript.services.Reaches sampleOrchestrator ApiEvents ⟨sampleWorld (), none⟩
      ⟨(sampleScript.pass sampleOrchestrator (sampleWorld ())).2, some (.done _)⟩ :=
    .trans (.tail .refl (.start _) fun h => by cases h)
      (sampleScript.reaches_run sampleOrchestrator (fun _ _ _ _ h => by cases h) _ _)
  exact ⟨_, by decide +kernel, audit_log_truthful (sampleWorld_initial sampleScript ())
    (fun event hEvent => absurd hEvent List.not_mem_nil) hRun⟩

end SafactoryServer
