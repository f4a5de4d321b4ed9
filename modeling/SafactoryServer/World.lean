import SafactoryServer.Effect.Run
import SafactoryServer.Orchestrator

/-! The world of one server process: the control database, the clock, the platform and the record of
the calls that passes made; what each call does to it, and what the API handlers, the platform and
the clock may do while a pass waits. -/

namespace SafactoryServer

open Effect
open Relation (ReflTransGen)

/-- An answered call of a pass, or a restart of the server. -/
inductive TraceEvent
  | call (e : Op) (answer : Ans e)
  | restart

/-- The database, the clock, the platform, and the calls so far, newest first. -/
structure World (P : Type) where
  jobs : JobTable
  events : List JobEvent
  clock : Int
  platform : P
  trace : List TraceEvent

/-- The parts of the system outside the control database.  A relation takes the state of the
platform, the arguments of a call, its answer, and the new state; `drift` is what the platform does
by itself, `tick` how the clock moves, and `mints` which Job IDs the API hands out. -/
structure Services (P : Type) where
  create : P → RJobSpec → Except PyExc String → P → Prop
  get : P → String → Except PyExc RJobSnapshot → P → Prop
  stop : P → String → Except PyExc Unit → P → Prop
  ready : P → String → String → Except PyExc Bool → P → Prop
  bind : P → String → String → Except PyExc JobFileBinding → P → Prop
  drift : P → P → Prop
  tick : Int → Int → Prop
  mints : String → Prop

variable {P : Type}

/-- `answer` lists `rows` in ascending order of a column. -/
def Listed (rows : List ControlJob) (column : ControlJob → Int) (answer : List ControlJob) : Prop :=
  answer.Perm rows ∧ answer.Pairwise (column · ≤ column ·)

namespace World

def record (w : World P) (e : Op) (answer : Ans e) : World P :=
  { w with trace := .call e answer :: w.trace }

def restart (w : World P) : World P := { w with trace := .restart :: w.trace }

theorem mem_restart {w : World P} {e : Op} {answer : Ans e} :
    .call e answer ∈ w.restart.trace ↔ .call e answer ∈ w.trace := by
  simp [restart]

end World

/-- The calls about the control database and the clock. -/
def Op.isLocal : Op → Bool
  | .now | .listActive | .listCleanupPending | .get _ | .update _ _ _ | .addEvent _ => true
  | .createRJob _ | .getRJob _ | .stopRJob _ | .ready _ _ | .bind _ _ => false

namespace Services

variable (sv : Services P)

/-- What one call does. -/
def Performs : (e : Op) → World P → Ans e → World P → Prop
  | .now, w, answer, w' => answer = w.clock ∧ w' = w
  | .listActive, w, answer, w' =>
    Listed w.jobs.activeRows (·.createdAt) answer ∧ w' = w.record .listActive answer
  | .listCleanupPending, w, answer, w' =>
    Listed w.jobs.cleanupPendingRows (·.updatedAt) answer ∧ w' = w.record .listCleanupPending answer
  | .get jobId, w, answer, w' => answer = w.jobs.find jobId ∧ w' = w.record (.get jobId) answer
  | .update jobId now changes, w, answer, w' =>
    match w.jobs.update jobId now changes with
    | .ok (row, jobs) =>
      answer = .ok row ∧ w' = { w with jobs := jobs }.record (.update jobId now changes) answer
    | .error x => answer = .error x ∧ w' = w.record (.update jobId now changes) answer
  | .addEvent event, w, answer, w' =>
    match w.jobs.insertEvent w.events event with
    | .ok events =>
      answer = .ok () ∧ w' = { w with events := events }.record (.addEvent event) answer
    | .error x => answer = .error x ∧ w' = w.record (.addEvent event) answer
  | .createRJob spec, w, answer, w' => ∃ p, sv.create w.platform spec answer p ∧
      w' = { w with platform := p }.record (.createRJob spec) answer
  | .getRJob rjobId, w, answer, w' => ∃ p, sv.get w.platform rjobId answer p ∧
      w' = { w with platform := p }.record (.getRJob rjobId) answer
  | .stopRJob rjobId, w, answer, w' => ∃ p, sv.stop w.platform rjobId answer p ∧
      w' = { w with platform := p }.record (.stopRJob rjobId) answer
  | .ready gatewayUrl healthPath, w, answer, w' =>
    ∃ p, sv.ready w.platform gatewayUrl healthPath answer p ∧
      w' = { w with platform := p }.record (.ready gatewayUrl healthPath) answer
  | .bind jobId rangeId, w, answer, w' => ∃ p, sv.bind w.platform jobId rangeId answer p ∧
      w' = { w with platform := p }.record (.bind jobId rangeId) answer

/-- One step of the rest of the world: a close request, a new Job that the API read the clock for
before, an event of the API, a move of the clock, a change of the platform. -/
inductive Interferes : World P → World P → Prop
  | close {w : World P} {jobId : String} {now : Int} {row : ControlJob} {transitioned : Bool}
      {jobs : JobTable} : w.jobs.requestClose jobId now = .ok (row, transitioned, jobs) →
      Interferes w { w with jobs := jobs }
  | accept {w : World P} {new : NewJob} {now : Int} {jobs : JobTable} : sv.mints new.jobId →
      ReflTransGen sv.tick now w.clock → w.jobs.add (newControlJob new now) = .ok jobs →
      Interferes w { w with jobs := jobs }
  | event {w : World P} {event : JobEvent} {events : List JobEvent} :
      w.jobs.insertEvent w.events event = .ok events → Interferes w { w with events := events }
  | tick {w : World P} {now : Int} : sv.tick w.clock now → Interferes w { w with clock := now }
  | drift {w : World P} {p : P} : sv.drift w.platform p → Interferes w { w with platform := p }

/-- The server process: a crash leaves the database and the platform as they are. -/
def system : System Op Ans (World P) where
  performs := sv.Performs
  interferes := sv.Interferes
  crashes w w' := w' = w.restart

/-- Rows that the API has just inserted, before any pass. -/
structure Initial (w : World P) : Prop where
  rows : ∀ row ∈ w.jobs.rows, ∃ new now, sv.mints new.jobId ∧ ReflTransGen sv.tick now w.clock ∧
    row = newControlJob new now
  trace : w.trace = []

/-- The server does not crash. -/
def Uninterrupted : World P → Label Op Ans → World P → Prop
  | _, .crash, _ | _, .lost _ _, _ => False
  | _, _, _ => True

/-- The server under its orchestrator loop `_run`, which stops at an exception of a pass. -/
abbrev Reaches (o : RealJobOrchestrator) (permitted : World P → Label Op Ans → World P → Prop) :
    Config Op Ans (World P) (Except PyExc Unit) → Config Op Ans (World P) (Except PyExc Unit) →
      Prop :=
  Effect.Reaches sv.system (ρ := Except PyExc Unit) o.reconcileOnce (· = .ok ()) permitted

/-- One step of the server. -/
abbrev Steps (o : RealJobOrchestrator) :
    Config Op Ans (World P) (Except PyExc Unit) → Label Op Ans →
      Config Op Ans (World P) (Except PyExc Unit) → Prop :=
  Effect.Step sv.system (ρ := Except PyExc Unit) o.reconcileOnce (· = .ok ())

/-- A run of the server in which its orchestrator issues a call. -/
abbrev Issues (o : RealJobOrchestrator) (permitted : World P → Label Op Ans → World P → Prop) :
    Config Op Ans (World P) (Except PyExc Unit) → World P → Op → Prop :=
  Effect.Issues sv.system (ρ := Except PyExc Unit) o.reconcileOnce (· = .ok ()) permitted

end Services

/-! ### What a call changes -/

namespace Services

variable {sv : Services P} {w w' : World P}

theorem Performs.trace {e : Op} {answer : Ans e} (h : sv.Performs e w answer w') (he : e ≠ .now) :
    w'.trace = .call e answer :: w.trace := by
  cases e with
  | now => exact absurd rfl he
  | listActive | listCleanupPending | get => obtain ⟨-, rfl⟩ := h; rfl
  | createRJob | getRJob | stopRJob | ready | bind => obtain ⟨p, -, rfl⟩ := h; rfl
  | update j now changes =>
    simp only [Services.Performs] at h
    split at h <;> (obtain ⟨-, rfl⟩ := h; rfl)
  | addEvent event =>
    simp only [Services.Performs] at h
    split at h <;> (obtain ⟨-, rfl⟩ := h; rfl)

theorem Performs.clock {e : Op} {answer : Ans e} (h : sv.Performs e w answer w') :
    w'.clock = w.clock := by
  cases e with
  | now | listActive | listCleanupPending | get => obtain ⟨-, rfl⟩ := h; rfl
  | createRJob | getRJob | stopRJob | ready | bind => obtain ⟨p, -, rfl⟩ := h; rfl
  | update j now changes =>
    simp only [Services.Performs] at h
    split at h <;> (obtain ⟨-, rfl⟩ := h; rfl)
  | addEvent event =>
    simp only [Services.Performs] at h
    split at h <;> (obtain ⟨-, rfl⟩ := h; rfl)

theorem Performs.jobs {e : Op} {answer : Ans e} (h : sv.Performs e w answer w')
    (he : ∀ j now changes, e ≠ .update j now changes) : w'.jobs = w.jobs := by
  cases e with
  | now | listActive | listCleanupPending | get => obtain ⟨-, rfl⟩ := h; rfl
  | createRJob | getRJob | stopRJob | ready | bind => obtain ⟨p, -, rfl⟩ := h; rfl
  | update j now changes => exact absurd rfl (he j now changes)
  | addEvent event =>
    simp only [Services.Performs] at h
    split at h <;> (obtain ⟨-, rfl⟩ := h; rfl)

theorem Performs.platform {e : Op} {answer : Ans e} (h : sv.Performs e w answer w')
    (he : e.isLocal = true) : w'.platform = w.platform := by
  cases e with
  | now | listActive | listCleanupPending | get => obtain ⟨-, rfl⟩ := h; rfl
  | createRJob | getRJob | stopRJob | ready | bind => cases he
  | update j now changes =>
    simp only [Services.Performs] at h
    split at h <;> (obtain ⟨-, rfl⟩ := h; rfl)
  | addEvent event =>
    simp only [Services.Performs] at h
    split at h <;> (obtain ⟨-, rfl⟩ := h; rfl)

/-- An update answers with the row that it leaves, and touches no other. -/
theorem Performs.update_ok {j : String} {now : Int} {changes : Changes} {row : ControlJob}
    (h : sv.Performs (.update j now changes) w (.ok row) w') :
    ∃ current allowed, w.jobs.find j = some current ∧ current.guard changes = .ok allowed ∧
      row = allowed.write current now ∧
      ∀ i, w'.jobs.find i = if i = j then some row else w.jobs.find i := by
  simp only [Services.Performs] at h
  split at h
  · next row' jobs hu =>
    obtain ⟨h1, rfl⟩ := h
    cases h1
    exact JobTable.update_ok hu
  · cases h.1

/-- An update that raises changes no row. -/
theorem Performs.update_error {j : String} {now : Int} {changes : Changes} {x : PyExc}
    (h : sv.Performs (.update j now changes) w (.error x) w') :
    w.jobs.update j now changes = .error x ∧ w'.jobs = w.jobs := by
  simp only [Services.Performs] at h
  split at h
  · cases h.1
  · next x' hu =>
    obtain ⟨h1, rfl⟩ := h
    cases h1
    exact ⟨hu, rfl⟩

/-- Every recorded call has been issued. -/
theorem Reaches.issued {o : RealJobOrchestrator}
    {permitted : World P → Label Op Ans → World P → Prop}
    {c₀ c : Config Op Ans (World P) (Except PyExc Unit)} {e : Op} {answer : Ans e}
    (h : sv.Reaches o permitted c₀ c) (hIdle : c₀.program = none)
    (h₀ : .call e answer ∉ c₀.state.trace) (hc : .call e answer ∈ c.state.trace) :
    ∃ w, sv.Issues o permitted c₀ w e := by
  obtain ⟨c₁, l, c₂, hReaches, hStep, hBefore, hAfter⟩ :=
    Effect.Reaches.arises (Q := fun w => .call e answer ∈ w.trace) h h₀ hc
  have hPerformed : ∀ {e' : Op} {answer' : Ans e'} {w w' : World P}, sv.Performs e' w answer' w' →
      .call e answer ∉ w.trace → .call e answer ∈ w'.trace → e' = e := by
    intro e' answer' w w' hp hOld hNew
    by_cases hNow : e' = .now
    · subst hNow
      obtain ⟨-, rfl⟩ := hp
      exact absurd hNew hOld
    · rw [hp.trace hNow] at hNew
      rcases List.mem_cons.mp hNew with heq | hMem
      · cases heq
        rfl
      · exact absurd hMem hOld
  cases hStep with
  | interference hInterferes => cases hInterferes <;> exact absurd hAfter hBefore
  | start | finish => exact absurd hAfter hBefore
  | crash p hCrash =>
    cases hCrash
    exact absurd (World.mem_restart.mp hAfter) hBefore
  | answer hp =>
    obtain rfl := hPerformed hp hBefore hAfter
    exact Effect.Reaches.issued hReaches hIdle ⟨_, rfl⟩
  | lost hp hCrash =>
    cases hCrash
    obtain rfl := hPerformed hp hBefore (World.mem_restart.mp hAfter)
    exact Effect.Reaches.issued hReaches hIdle ⟨_, rfl⟩

end Services

/-! ### What the record of the calls says -/

/-- The calls of the current pass. -/
def passCalls : List TraceEvent → List TraceEvent
  | [] => []
  | .restart :: _ => []
  | .call .listActive _ :: _ => []
  | event :: rest => event :: passCalls rest

theorem passCalls_subset (trace : List TraceEvent) : passCalls trace ⊆ trace := by
  induction trace with
  | nil => exact List.Subset.refl _
  | cons event rest ih =>
    have hRest : passCalls rest ⊆ event :: rest := fun x hx => List.mem_cons_of_mem _ (ih hx)
    unfold passCalls
    split
    · exact List.nil_subset _
    · exact List.nil_subset _
    · exact List.nil_subset _
    · next heq =>
      cases heq
      exact List.cons_subset_cons _ ih

/-- The calls of a pass by turns, after one more call. -/
def extendTurn (event : TraceEvent) :
    List (Option String × List TraceEvent) → List (Option String × List TraceEvent)
  | [] => []
  | (turn, calls) :: rest => (turn, event :: calls) :: rest

/-- The calls of the current pass by turns, newest first: the Job whose attempt was counted, and the
calls since.  The cleanups at the end of a pass are no turn of a Job. -/
def turns : List TraceEvent → List (Option String × List TraceEvent)
  | [] => []
  | .restart :: _ => []
  | .call .listActive _ :: _ => []
  | .call .listCleanupPending _ :: rest => (none, []) :: turns rest
  | .call (.update j now changes) answer :: rest =>
    if changes.orchestratorAttempt.isSome then (some j, []) :: turns rest
    else extendTurn (.call (.update j now changes) answer) (turns rest)
  | event :: rest => extendTurn event (turns rest)

/-- The row that the current cleanup attempt read and the stops it has made, newest first. -/
def attempt : List TraceEvent → Option (ControlJob × List (String × Except PyExc Unit))
  | .call (.get _) row :: _ => row.map (·, [])
  | .call (.stopRJob rjobId) answer :: rest =>
    (attempt rest).map fun (row, stops) => (row, (rjobId, answer) :: stops)
  | .call (.addEvent _) _ :: rest => attempt rest
  | _ => none

/-- The stops among some calls. -/
def stopsOf : List TraceEvent → List (String × Except PyExc Unit)
  | [] => []
  | .call (.stopRJob rjobId) answer :: rest => (rjobId, answer) :: stopsOf rest
  | _ :: rest => stopsOf rest

theorem stopsOf_append (calls rest : List TraceEvent) :
    stopsOf (calls ++ rest) = stopsOf calls ++ stopsOf rest := by
  induction calls with
  | nil => rfl
  | cons event calls ih =>
    cases event with
    | restart => exact ih
    | call e stopped =>
      cases e with
      | stopRJob rjobId => exact congrArg _ ih
      | now | listActive | listCleanupPending | get | update | addEvent | createRJob | getRJob
      | ready | bind => exact ih

theorem mem_stopsOf {calls : List TraceEvent} {rjobId : String} {answer : Except PyExc Unit}
    (h : .call (.stopRJob rjobId) answer ∈ calls) : (rjobId, answer) ∈ stopsOf calls := by
  induction calls with
  | nil => cases h
  | cons event rest ih =>
    rcases List.mem_cons.mp h with heq | hRest
    · subst heq
      exact List.mem_cons_self
    · cases event with
      | restart => exact ih hRest
      | call e stopped =>
        cases e with
        | stopRJob => exact List.mem_cons_of_mem _ (ih hRest)
        | now | listActive | listCleanupPending | get | update | addEvent | createRJob | getRJob
        | ready | bind => exact ih hRest

/-- A created RJob whose ID no update has recorded yet. -/
def unrecorded : List TraceEvent → Option (RJobSpec × String)
  | .call (.createRJob spec) (.ok rjobId) :: _ => some (spec, rjobId)
  | .call (.update _ _ _) (.error .jobStateConflict) :: rest => unrecorded rest
  | _ => none

end SafactoryServer
