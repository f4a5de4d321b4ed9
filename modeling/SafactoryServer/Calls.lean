import SafactoryServer.Protocol

/-! What one call of a pass leaves of the state in which it was issued: the frame of a turn, and one
rule for each operation under the contract of a pass. -/

namespace SafactoryServer

open Effect
open Relation (ReflTransGen)

variable {P : Type}

/-! ### The calls of a turn -/

/-- A call that a turn makes after it has counted its attempt. -/
def TraceEvent.InTurn : TraceEvent → Prop
  | .restart => False
  | .call .listActive _ => False
  | .call .listCleanupPending _ => False
  | .call (.update _ _ changes) _ => changes.orchestratorAttempt = none
  | _ => True

/-- The calls since the last attempt was counted. -/
def turnCalls : List TraceEvent → List TraceEvent
  | [] => []
  | .restart :: _ => []
  | .call (.update j now changes) answer :: rest =>
    if changes.orchestratorAttempt.isSome then []
    else .call (.update j now changes) answer :: turnCalls rest
  | event :: rest => event :: turnCalls rest

/-- The first answer about an RJob in these calls, which is about the Gateway. -/
def gatewayAnswer : List TraceEvent → Option (Except PyExc RJobSnapshot)
  | [] => none
  | .call (.getRJob _) answer :: rest => (gatewayAnswer rest).or (some answer)
  | _ :: rest => gatewayAnswer rest

/-- The first answer of the health checker in these calls. -/
def healthAnswer : List TraceEvent → Option (Except PyExc Bool)
  | [] => none
  | .call (.ready _ _) answer :: rest => (healthAnswer rest).or (some answer)
  | _ :: rest => healthAnswer rest

/-- The calls saw the Gateway without a route, or found no healthy Gateway at `url`. -/
def Unhealthy (o : RealJobOrchestrator) (url : String) (calls : List TraceEvent) : Prop :=
  ∃ snapshot, gatewayAnswer calls = some (.ok snapshot) ∧
    (o.gatewayHasRoute snapshot = false ∨
      ∃ healthy, healthAnswer calls = some (.ok healthy) ∧
        (healthy = true → o.gatewayUrlOf snapshot ≠ url))

/-- A call outside the control store that raises `JobStateConflict`. -/
def TraceEvent.Conflicts : TraceEvent → Prop
  | .call (.createRJob _) answer => answer = .error .jobStateConflict
  | .call (.getRJob _) answer => answer = .error .jobStateConflict
  | .call (.stopRJob _) answer => answer = .error .jobStateConflict
  | .call (.ready _ _) answer => answer = .error .jobStateConflict
  | .call (.bind _ _) answer => answer = .error .jobStateConflict
  | _ => False

/-- The last call is a stop that raised another exception than `RJobDependencyError`. -/
def ForeignStop (x : PyExc) (trace : List TraceEvent) : Prop :=
  x ≠ .rjobDependencyError ∧ ∃ rjobId rest, trace = .call (.stopRJob rjobId) (.error x) :: rest

theorem turnCalls_append {new : List TraceEvent} (h : ∀ event ∈ new, event.InTurn)
    (trace : List TraceEvent) : turnCalls (new ++ trace) = new ++ turnCalls trace := by
  induction new with
  | nil => rfl
  | cons event rest ih =>
    have ih := ih fun e he => h e (List.mem_cons_of_mem _ he)
    have hEvent := h event List.mem_cons_self
    match event, hEvent with
    | .call (.update j now changes) answer, hEvent =>
      have hnone : changes.orchestratorAttempt = none := hEvent
      simp [turnCalls, hnone, ih]
    | .call .now answer, _ | .call (.get _) answer, _ | .call (.addEvent _) answer, _
    | .call (.createRJob _) answer, _ | .call (.getRJob _) answer, _
    | .call (.stopRJob _) answer, _ | .call (.ready _ _) answer, _ | .call (.bind _ _) answer, _ =>
      simp [turnCalls, ih]

theorem passCalls_append {new : List TraceEvent} (h : ∀ event ∈ new, event.InTurn)
    (trace : List TraceEvent) : passCalls (new ++ trace) = new ++ passCalls trace := by
  induction new with
  | nil => rfl
  | cons event rest ih =>
    have ih := ih fun e he => h e (List.mem_cons_of_mem _ he)
    have hEvent := h event List.mem_cons_self
    match event, hEvent with
    | .call (.update j now changes) answer, _ | .call .now answer, _ | .call (.get _) answer, _
    | .call (.addEvent _) answer, _ | .call (.createRJob _) answer, _
    | .call (.getRJob _) answer, _ | .call (.stopRJob _) answer, _ | .call (.ready _ _) answer, _
    | .call (.bind _ _) answer, _ => simp [passCalls, ih]

/-- The calls of a turn belong to the turn that has begun last. -/
theorem turns_append {new : List TraceEvent} (h : ∀ event ∈ new, event.InTurn)
    {trace calls : List TraceEvent} {turn : Option String}
    {rest : List (Option String × List TraceEvent)} (ht : turns trace = (turn, calls) :: rest) :
    turns (new ++ trace) = (turn, new ++ calls) :: rest := by
  induction new with
  | nil => exact ht
  | cons event new ih =>
    have ih := ih fun e he => h e (List.mem_cons_of_mem _ he)
    have hEvent := h event List.mem_cons_self
    match event, hEvent with
    | .call (.update j now changes) answer, hEvent =>
      have hnone : changes.orchestratorAttempt = none := hEvent
      simp [turns, hnone, ih, extendTurn]
    | .call .now answer, _ | .call (.get _) answer, _ | .call (.addEvent _) answer, _
    | .call (.createRJob _) answer, _ | .call (.getRJob _) answer, _
    | .call (.stopRJob _) answer, _ | .call (.ready _ _) answer, _ | .call (.bind _ _) answer, _ =>
      simp [turns, ih, extendTurn]

theorem gatewayAnswer_append {calls : List TraceEvent} {answer : Except PyExc RJobSnapshot}
    (h : gatewayAnswer calls = some answer) (new : List TraceEvent) :
    gatewayAnswer (new ++ calls) = some answer := by
  induction new with
  | nil => exact h
  | cons event rest ih =>
    rw [List.cons_append]
    unfold gatewayAnswer
    split
    · next heq => cases heq
    · next heq => cases heq; rw [ih]; rfl
    · next heq => cases heq; exact ih

theorem healthAnswer_append {calls : List TraceEvent} {answer : Except PyExc Bool}
    (h : healthAnswer calls = some answer) (new : List TraceEvent) :
    healthAnswer (new ++ calls) = some answer := by
  induction new with
  | nil => exact h
  | cons event rest ih =>
    rw [List.cons_append]
    unfold healthAnswer
    split
    · next heq => cases heq
    · next heq => cases heq; rw [ih]; rfl
    · next heq => cases heq; exact ih

/-! ### Frames -/

/-- What the turn of the Job `j` leaves of a state: the row of `j` may grow, the other rows are left
to the rest of the world. -/
structure Frame (sv : Services P) (j : String) (w w' : World P) : Prop where
  own {row : ControlJob} : w.jobs.find j = some row →
    ∃ row', w'.jobs.find j = some row' ∧ row.Grows row'
  others {i : String} {row : ControlJob} : i ≠ j → w.jobs.find i = some row →
    ∃ row', w'.jobs.find i = some row' ∧ row.CloseOnly row'
  clock : ReflTransGen sv.tick w.clock w'.clock
  calls : w.trace <:+ w'.trace

theorem Frame.refl (sv : Services P) (j : String) (w : World P) : Frame sv j w w :=
  ⟨fun h => ⟨_, h, .refl _⟩, fun _ h => ⟨_, h, .refl _⟩, .refl, List.suffix_rfl⟩

theorem Frame.trans {sv : Services P} {j : String} {w w' w'' : World P} (h : Frame sv j w w')
    (h' : Frame sv j w' w'') : Frame sv j w w'' where
  own hf := by
    obtain ⟨row', hf', hg⟩ := h.own hf
    obtain ⟨row'', hf'', hg'⟩ := h'.own hf'
    exact ⟨row'', hf'', hg.trans hg'⟩
  others hi hf := by
    obtain ⟨row', hf', hc⟩ := h.others hi hf
    obtain ⟨row'', hf'', hc'⟩ := h'.others hi hf'
    exact ⟨row'', hf'', hc.trans hc'⟩
  clock := h.clock.trans h'.clock
  calls := h.calls.trans h'.calls

/-- A frame whose calls all belong to one turn. -/
structure Follows (sv : Services P) (j : String) (w w' : World P) : Prop extends
    Frame sv j w w' where
  trace : ∃ new, w'.trace = new ++ w.trace ∧ ∀ event ∈ new, event.InTurn

theorem Follows.refl (sv : Services P) (j : String) (w : World P) : Follows sv j w w :=
  ⟨.refl sv j w, [], rfl, by simp⟩

theorem Follows.trans {sv : Services P} {j : String} {w w' w'' : World P} (h : Follows sv j w w')
    (h' : Follows sv j w' w'') : Follows sv j w w'' := by
  obtain ⟨new, heq, hnew⟩ := h.trace
  obtain ⟨new', heq', hnew'⟩ := h'.trace
  refine ⟨h.toFrame.trans h'.toFrame, new' ++ new, by rw [heq', heq, List.append_assoc], ?_⟩
  intro event he
  rcases List.mem_append.mp he with he | he
  · exact hnew' event he
  · exact hnew event he

theorem Follows.passCalls {sv : Services P} {j : String} {w w' : World P} (h : Follows sv j w w') :
    (passCalls w.trace).Sublist (passCalls w'.trace) := by
  obtain ⟨new, heq, hnew⟩ := h.trace
  rw [heq, passCalls_append hnew]
  exact List.sublist_append_right new _

theorem Follows.gatewayAnswer {sv : Services P} {j : String} {w w' : World P}
    {answer : Except PyExc RJobSnapshot} (h : Follows sv j w w')
    (ha : gatewayAnswer (turnCalls w.trace) = some answer) :
    gatewayAnswer (turnCalls w'.trace) = some answer := by
  obtain ⟨new, heq, hnew⟩ := h.trace
  rw [heq, turnCalls_append hnew]
  exact gatewayAnswer_append ha new

theorem Follows.healthAnswer {sv : Services P} {j : String} {w w' : World P}
    {answer : Except PyExc Bool} (h : Follows sv j w w')
    (ha : healthAnswer (turnCalls w.trace) = some answer) :
    healthAnswer (turnCalls w'.trace) = some answer := by
  obtain ⟨new, heq, hnew⟩ := h.trace
  rw [heq, turnCalls_append hnew]
  exact healthAnswer_append ha new

theorem GateOpen.follows {o : RealJobOrchestrator} {sv : Services P} {j : String} {w w' : World P}
    {row : ControlJob} (hg : GateOpen o row (passCalls w.trace)) (h : Follows sv j w w') :
    GateOpen o row (passCalls w'.trace) := by
  obtain ⟨id, snapshot, h1, h2, h3, hsub⟩ := hg
  exact ⟨id, snapshot, h1, h2, h3, hsub.trans h.passCalls⟩

/-- The pass knows the row `job`, which close requests may have changed since it read it. -/
def World.Sees (w : World P) (job : ControlJob) : Prop :=
  ∃ row, w.jobs.find job.jobId = some row ∧ job.CloseOnly row

/-- What calls leave of a state that write no row. -/
structure Quiet (sv : Services P) (w w' : World P) : Prop where
  rows {j : String} {row : ControlJob} : w.jobs.find j = some row →
    ∃ row', w'.jobs.find j = some row' ∧ row.CloseOnly row'
  clock : ReflTransGen sv.tick w.clock w'.clock
  trace : ∃ new, w'.trace = new ++ w.trace ∧ ∀ event ∈ new, event.InTurn

theorem Quiet.follows {sv : Services P} {w w' : World P} (h : Quiet sv w w') (j : String) :
    Follows sv j w w' where
  own hf := by
    obtain ⟨row', hf', hc⟩ := h.rows hf
    exact ⟨row', hf', hc.grows⟩
  others _ hf := h.rows hf
  clock := h.clock
  calls := h.trace.elim fun new hnew => ⟨new, hnew.1.symm⟩
  trace := h.trace

theorem Quiet.trans {sv : Services P} {w w' w'' : World P} (h : Quiet sv w w')
    (h' : Quiet sv w' w'') : Quiet sv w w'' where
  rows hf := by
    obtain ⟨row', hf', hc⟩ := h.rows hf
    obtain ⟨row'', hf'', hc'⟩ := h'.rows hf'
    exact ⟨row'', hf'', hc.trans hc'⟩
  clock := h.clock.trans h'.clock
  trace := ((h.follows "").trans (h'.follows "")).trace

theorem Quiet.sees {sv : Services P} {w w' : World P} {job : ControlJob} (h : Quiet sv w w')
    (hs : w.Sees job) : w'.Sees job := by
  obtain ⟨row, hf, hc⟩ := hs
  obtain ⟨row', hf', hc'⟩ := h.rows hf
  exact ⟨row', hf', hc.trans hc'⟩

/-- A row that no close request can change stays what it is. -/
theorem Quiet.find {sv : Services P} {w w' : World P} {j : String} {row : ControlJob}
    (h : Quiet sv w w') (hf : w.jobs.find j = some row) (ha : row.active = false) :
    w'.jobs.find j = some row := by
  obtain ⟨row', hf', hc⟩ := h.rows hf
  rw [hf', hc.eq ha]

/-! ### One rule for each operation -/

section

variable {o : RealJobOrchestrator} {sv : Services P} {w : World P}

/-- An operation that answers about something other than the rows. -/
def Op.Remote : Op → Bool
  | .createRJob _ | .getRJob _ | .stopRJob _ | .ready _ _ | .bind _ _ | .get _ | .addEvent _ => true
  | _ => false

theorem Op.Remote.inTurn {e : Op} (h : e.Remote = true) (answer : Ans e) :
    TraceEvent.InTurn (.call e answer) := by
  cases e with
  | createRJob | getRJob | stopRJob | ready | bind | get | addEvent => trivial
  | now | listActive | listCleanupPending | update => cases h

/-- A call that writes no row. -/
theorem quiet_of_performs {mid w' : World P} {e : Op} {answer : Ans e} (he : e.Remote = true)
    (hLater : Later sv w mid) (hp : sv.Performs e mid answer w') :
    Quiet sv w w' ∧ w'.trace = .call e answer :: w.trace := by
  have hTrace : w'.trace = .call e answer :: w.trace := by
    rw [hp.trace (by rintro rfl; cases he), hLater.trace]
  have hJobs : w'.jobs = mid.jobs := hp.jobs (by rintro j now changes rfl; cases he)
  refine ⟨⟨fun hf => ?_, hp.clock ▸ hLater.clock, [_], hTrace, ?_⟩, hTrace⟩
  · rw [hJobs]
    exact hLater.rows hf
  · intro event hEvent
    rw [List.mem_singleton.mp hEvent]
    exact Op.Remote.inTurn he answer

theorem now_safe {E : PyExc → World P → Prop} :
    Coroutine.now.Safe sv.system (protocol o sv)
      (fun n w' => Quiet sv w w' ∧ w'.trace = w.trace ∧ n = w'.clock ∧ Inv sv w') E w := by
  refine Task.Safe.ask (e := Op.now) trivial fun mid hw _ n w' hp hInv => ?_
  have hLater := Later.of_waits hw
  replace hp : sv.Performs .now mid n w' := hp
  obtain ⟨rfl, rfl⟩ := hp
  exact ⟨⟨hLater.rows, hLater.clock, [], hLater.trace, by simp⟩, hLater.trace, rfl, hInv⟩

theorem get_safe {E : PyExc → World P → Prop} {j : String} (hr : unrecorded w.trace = none) :
    (Coroutine.get j).Safe sv.system (protocol o sv)
      (fun row w' => Quiet sv w w' ∧ w'.trace = .call (.get j) row :: w.trace ∧
        w'.jobs.find j = row ∧ Inv sv w') E w := by
  refine Task.Safe.ask (e := Op.get j) hr fun mid hw _ row w' hp hInv => ?_
  replace hp : sv.Performs (.get j) mid row w' := hp
  obtain ⟨hq, ht⟩ := quiet_of_performs rfl (Later.of_waits hw) hp
  obtain ⟨rfl, rfl⟩ := hp
  exact ⟨hq, ht, rfl, hInv⟩

/-- A call that may raise, and writes no row. -/
theorem perform_safe {e : Op} (he : e.Remote = true) (ha : Allowed o sv w e) :
    Program.Safe sv.system (protocol o sv) (Program.perform e)
      (fun answer w' => Quiet sv w w' ∧ w'.trace = .call e answer :: w.trace ∧ Inv sv w') w := by
  refine ⟨ha, fun mid hw _ answer w' hp hInv => ?_⟩
  obtain ⟨hq, ht⟩ := quiet_of_performs he (Later.of_waits hw) hp
  exact ⟨hq, ht, hInv⟩

theorem createRJob_safe {spec : RJobSpec} (ha : Allowed o sv w (.createRJob spec)) :
    (Coroutine.createRJob spec).Safe sv.system (protocol o sv)
      (fun rjobId w' => Quiet sv w w' ∧ w'.trace = .call (.createRJob spec) (.ok rjobId) :: w.trace)
      (fun x w' => Quiet sv w w' ∧ w'.trace = .call (.createRJob spec) (.error x) :: w.trace)
      w := by
  refine Program.Safe.mono (perform_safe rfl ha) fun answer w' h => ?_
  cases answer <;> exact ⟨h.1, h.2.1⟩

theorem getRJob_safe {rjobId : String} (hr : unrecorded w.trace = none) :
    (Coroutine.getRJob rjobId).Safe sv.system (protocol o sv)
      (fun snapshot w' =>
        Quiet sv w w' ∧ w'.trace = .call (.getRJob rjobId) (.ok snapshot) :: w.trace)
      (fun x w' => Quiet sv w w' ∧ w'.trace = .call (.getRJob rjobId) (.error x) :: w.trace)
      w := by
  refine Program.Safe.mono (perform_safe (e := Op.getRJob rjobId) rfl hr) fun answer w' h => ?_
  cases answer <;> exact ⟨h.1, h.2.1⟩

theorem stopRJob_safe {rjobId : String} (ha : Allowed o sv w (.stopRJob rjobId)) :
    (Coroutine.stopRJob rjobId).Safe sv.system (protocol o sv)
      (fun _ w' => Quiet sv w w' ∧ w'.trace = .call (.stopRJob rjobId) (.ok ()) :: w.trace)
      (fun x w' => Quiet sv w w' ∧ w'.trace = .call (.stopRJob rjobId) (.error x) :: w.trace)
      w := by
  refine Program.Safe.mono (perform_safe rfl ha) fun answer w' h => ?_
  cases answer <;> exact ⟨h.1, h.2.1⟩

theorem ready_safe {url path : String} (hr : unrecorded w.trace = none) :
    (Coroutine.ready url path).Safe sv.system (protocol o sv)
      (fun healthy w' =>
        Quiet sv w w' ∧ w'.trace = .call (.ready url path) (.ok healthy) :: w.trace)
      (fun x w' => Quiet sv w w' ∧ w'.trace = .call (.ready url path) (.error x) :: w.trace)
      w := by
  refine Program.Safe.mono (perform_safe (e := Op.ready url path) rfl hr) fun answer w' h => ?_
  cases answer <;> exact ⟨h.1, h.2.1⟩

theorem bind_safe {j range : String} (hr : unrecorded w.trace = none) :
    (Coroutine.bindFiles j range).Safe sv.system (protocol o sv)
      (fun binding w' => Quiet sv w w' ∧ w'.trace = .call (.bind j range) (.ok binding) :: w.trace)
      (fun x w' => Quiet sv w w' ∧ w'.trace = .call (.bind j range) (.error x) :: w.trace)
      w := by
  refine Program.Safe.mono (perform_safe (e := Op.bind j range) rfl hr) fun answer w' h => ?_
  cases answer <;> exact ⟨h.1, h.2.1⟩

/-- An event of a row that the pass has seen is never refused. -/
theorem event_safe {E : PyExc → World P → Prop} {job : ControlJob} {eventType : String}
    {payload : List (String × Json)} (hs : ∃ row, w.jobs.find job.jobId = some row)
    (hr : unrecorded w.trace = none) :
    (o.event job eventType payload).Safe sv.system (protocol o sv)
      (fun _ w' => Quiet sv w w' ∧ ∃ event, w'.trace = .call (.addEvent event) (.ok ()) :: w.trace)
      E w := by
  refine Task.Safe.bind now_safe (fun n w₁ h₁ => ?_) fun x w' h => h
  obtain ⟨hq₁, ht₁, -, -⟩ := h₁
  refine ⟨show unrecorded w₁.trace = none by rw [ht₁, hr], fun mid hw _ answer w' hp _ => ?_⟩
  have hLater := Later.of_waits hw
  replace hp : sv.Performs (.addEvent _) mid answer w' := hp
  obtain ⟨hq, ht⟩ := quiet_of_performs rfl hLater hp
  obtain ⟨row, hf⟩ := hs
  obtain ⟨row₁, hf₁, -⟩ := hq₁.rows hf
  obtain ⟨row₂, hf₂, -⟩ := hLater.rows hf₁
  simp only [Services.Performs, JobTable.insertEvent, hf₂, Option.isSome_some, if_true] at hp
  obtain ⟨rfl, -⟩ := hp
  exact ⟨hq₁.trans hq, _, ht₁ ▸ ht⟩

/-- A write that the store accepted. -/
structure Updated (sv : Services P) (job : ControlJob) (now : Int) (changes : Changes)
    (w : World P) (row : ControlJob) (w' : World P) : Prop where
  source : ∃ current allowed, job.CloseOnly current ∧ current.guard changes = .ok allowed ∧
    row = allowed.write current now
  found : w'.jobs.find job.jobId = some row
  grows : job.Grows row
  consistent : row.Consistent
  frame : Frame sv job.jobId w w'
  trace : w'.trace = .call (.update job.jobId now changes) (.ok row) :: w.trace

/-- A write that the store refused. -/
structure Refused (sv : Services P) (job : ControlJob) (now : Int) (changes : Changes)
    (w : World P) (x : PyExc) (w' : World P) : Prop where
  source : ∃ current, job.CloseOnly current ∧ w'.jobs.find job.jobId = some current ∧
    (x = .jobStateConflict ∧ current.status = .closing ∧
        changes.status.getD .closing ≠ .closing ∧ changes.status.getD .closing ≠ .closed ∨
      x = .integrityError ∧ (changes.gatewayRjobId.isSome ∨ changes.safactoryRjobId.isSome))
  frame : Frame sv job.jobId w w'
  trace : w'.trace = .call (.update job.jobId now changes) (.error x) :: w.trace

theorem Clocked.closeOnly {row row' : ControlJob} {now : Int} (hc : row.CloseOnly row') :
    Clocked sv row' now ↔ Clocked sv row now := by
  have heq : row'.createdAt = row.createdAt := congrArg Identity.createdAt hc.grows.identity
  unfold Clocked
  rw [heq]

theorem World.Sees.clocked {job : ControlJob} (hs : w.Sees job) (hInv : Inv sv w) :
    Clocked sv job w.clock := by
  obtain ⟨row, hf, hc⟩ := hs
  exact (Clocked.closeOnly hc).mp (hInv.clocked hf)

theorem update_safe {job : ControlJob} {now : Int} {changes : Changes} (hs : w.Sees job)
    (hClocked : Clocked sv job now)
    (hWrite : ∀ row, job.CloseOnly row → Write o w.trace row changes) :
    (Coroutine.update job.jobId now changes).Safe sv.system (protocol o sv)
      (Updated sv job now changes w) (Refused sv job now changes w) w := by
  obtain ⟨row₀, hf₀, hc₀⟩ := hs
  have ha : Allowed o sv w (.update job.jobId now changes) :=
    ⟨row₀, hf₀, (Clocked.closeOnly hc₀).mpr hClocked, hWrite row₀ hc₀⟩
  refine ⟨ha, fun mid hw _ answer w' hp hInv => ?_⟩
  have hLater := Later.of_waits hw
  replace hp : sv.Performs (.update job.jobId now changes) mid answer w' := hp
  have hTrace : w'.trace = .call (.update job.jobId now changes) answer :: w.trace := by
    rw [hp.trace (by simp), hLater.trace]
  obtain ⟨current, hf, hc⟩ := hLater.rows hf₀
  cases answer with
  | ok row =>
    obtain ⟨row₀', current', allowed, hf₀', hw', hc', hf', hg, hrow, hfind⟩ :=
      ha.update_ok hLater hp
    obtain rfl : row₀' = row₀ := Option.some.inj (hf₀'.symm.trans hf₀)
    have hgrows : current'.Grows row := hrow ▸ hw'.grows hc' hg
    have hfound : w'.jobs.find job.jobId = some row := by simp [hfind]
    refine ⟨⟨current', allowed, hc₀.trans hc', hg, hrow⟩, hfound,
      (hc₀.trans hc').grows.trans hgrows, hInv.consistent hfound, ?_, hTrace⟩
    refine ⟨fun {r} hr => ?_, fun {i r} hi hr => ?_, hp.clock ▸ hLater.clock, [_], hTrace.symm⟩
    · obtain rfl : r = row₀' := Option.some.inj (hr.symm.trans hf₀)
      exact ⟨row, by simp [hfind], hc'.grows.trans hgrows⟩
    · obtain ⟨r', hr', hcr⟩ := hLater.rows hr
      exact ⟨r', by simp [hfind, hi, hr'], hcr⟩
  | error x =>
    obtain ⟨hu, hJobs⟩ := hp.update_error
    refine ⟨⟨current, hc₀.trans hc, by rw [hJobs, hf], ?_⟩, ?_, hTrace⟩
    · rw [JobTable.update_eq (hWrite row₀ hc₀).unknown hf] at hu
      split at hu
      · next hg => cases hu; exact .inl ((hWrite row₀ hc₀).refused hc hg)
      · next allowed hg =>
        split at hu
        · cases hu
        · next hv =>
          cases hu
          refine .inr ⟨rfl, by_contra fun hnone => hv ?_⟩
          simp only [not_or, Bool.not_eq_true, Option.isSome_eq_false_iff,
            Option.isNone_iff_eq_none] at hnone
          have hids : allowed.gatewayRjobId = none ∧ allowed.safactoryRjobId = none := by
            rcases (ControlJob.guard_ok hg).1 with rfl | ⟨rfl, -⟩ <;> exact hnone
          exact JobTable.replaced_valid hf
            ((allowed.write_jobId current now).trans (JobTable.find_jobId hf))
            (by simp [Changes.write, hids]) (by simp [Changes.write, hids])
    · refine ⟨fun hr => ?_, fun _ hr => ?_, hp.clock ▸ hLater.clock, [_], hTrace.symm⟩
      · rw [hJobs]
        obtain ⟨r', hr', hcr⟩ := hLater.rows hr
        exact ⟨r', hr', hcr.grows⟩
      · rw [hJobs]
        exact hLater.rows hr

theorem Updated.follows {job row : ControlJob} {now : Int} {changes : Changes} {w w' : World P}
    (h : Updated sv job now changes w row w') (hn : changes.orchestratorAttempt = none) :
    Follows sv job.jobId w w' :=
  ⟨h.frame, [_], h.trace, by
    intro event he
    rw [List.mem_singleton.mp he]
    exact hn⟩

theorem Refused.follows {job : ControlJob} {now : Int} {changes : Changes} {x : PyExc}
    {w w' : World P} (h : Refused sv job now changes w x w')
    (hn : changes.orchestratorAttempt = none) : Follows sv job.jobId w w' :=
  ⟨h.frame, [_], h.trace, by
    intro event he
    rw [List.mem_singleton.mp he]
    exact hn⟩

theorem Updated.of_quiet {job row : ControlJob} {now : Int} {changes : Changes} {w w₁ w' : World P}
    (h : Updated sv job now changes w₁ row w') (hq : Quiet sv w w₁) (ht : w₁.trace = w.trace) :
    Updated sv job now changes w row w' :=
  ⟨h.source, h.found, h.grows, h.consistent, (hq.follows job.jobId).toFrame.trans h.frame,
    ht ▸ h.trace⟩

theorem Refused.of_quiet {job : ControlJob} {now : Int} {changes : Changes} {x : PyExc}
    {w w₁ w' : World P} (h : Refused sv job now changes w₁ x w') (hq : Quiet sv w w₁)
    (ht : w₁.trace = w.trace) : Refused sv job now changes w x w' :=
  ⟨h.source, (hq.follows job.jobId).toFrame.trans h.frame, ht ▸ h.trace⟩

/-- `update` at a time that the clock has shown before. -/
theorem update_shown_safe {job : ControlJob} {now : Int} {changes : Changes} {w₁ : World P}
    (hs : w.Sees job) (hClocked : Clocked sv job now) (hq : Quiet sv w w₁)
    (ht : w₁.trace = w.trace)
    (hWrite : ∀ row, job.CloseOnly row → Write o w.trace row changes) :
    (Coroutine.update job.jobId now changes).Safe sv.system (protocol o sv)
      (fun row w' => Updated sv job now changes w row w')
      (fun x w' => Refused sv job now changes w x w') w₁ := by
  refine (update_safe (hq.sees hs) hClocked fun row hc => ?_).mono
    (fun row w' h => h.of_quiet hq ht) (fun x w' h => h.of_quiet hq ht)
  rw [ht]
  exact hWrite row hc

/-- `update` at the time that the clock shows. -/
theorem update_now_safe {job : ControlJob} {changes : Int → Changes} (hs : w.Sees job)
    (hWrite : ∀ now row, job.CloseOnly row → Write o w.trace row (changes now)) :
    (Coroutine.now >>= fun now => Coroutine.update job.jobId now (changes now)).Safe
      sv.system (protocol o sv)
      (fun row w' => ∃ now, Updated sv job now (changes now) w row w')
      (fun x w' => ∃ now, Refused sv job now (changes now) w x w') w := by
  refine Task.Safe.bind (now_safe (E := fun _ _ => False)) (fun now w₁ h₁ => ?_)
    fun x w' h => h.elim
  obtain ⟨hq, ht, rfl, hInv⟩ := h₁
  exact (update_shown_safe hs ((hq.sees hs).clocked hInv) hq ht (hWrite _)).mono
    (fun _ _ h => ⟨_, h⟩) fun _ _ h => ⟨_, h⟩

/-- A coroutine that goes on after an `update` at the time that the clock shows. -/
theorem update_now_bind {α : Type} {job : ControlJob} {changes : Int → Changes}
    {k : Int → ControlJob → Coroutine α} {Q : α → World P → Prop} {E : PyExc → World P → Prop}
    (hs : w.Sees job)
    (hWrite : ∀ now row, job.CloseOnly row → Write o w.trace row (changes now))
    (hok : ∀ now row w', Updated sv job now (changes now) w row w' →
      (k now row).Safe sv.system (protocol o sv) Q E w')
    (herr : ∀ now x w', Refused sv job now (changes now) w x w' → E x w') :
    (Coroutine.now >>= fun now => Coroutine.update job.jobId now (changes now) >>= k now).Safe
      sv.system (protocol o sv) Q E w := by
  refine Task.Safe.bind (now_safe (E := fun _ _ => False)) (fun now w₁ h₁ => ?_)
    fun x w' h => h.elim
  obtain ⟨hq, ht, rfl, hInv⟩ := h₁
  exact Task.Safe.bind (update_shown_safe hs ((hq.sees hs).clocked hInv) hq ht (hWrite _))
    (fun row w' h => hok _ row w' h) fun x w' h => herr _ x w' h

theorem Updated.jobId {job row : ControlJob} {now : Int} {changes : Changes} {w w' : World P}
    (h : Updated sv job now changes w row w') : row.jobId = job.jobId := JobTable.find_jobId h.found

/-- The status that a write leaves: the requested one, or that of the row it found. -/
theorem Updated.status {job row : ControlJob} {now : Int} {changes : Changes} {w w' : World P}
    (h : Updated sv job now changes w row w') :
    ∃ current, job.CloseOnly current ∧ row.status = changes.status.getD current.status ∧
      (current.status = .closing → row.status = .closing ∨ row.status = .closed) := by
  obtain ⟨current, allowed, hc, hg, rfl⟩ := h.source
  obtain ⟨hallowed, -, hclosing⟩ := ControlJob.guard_ok hg
  have hs : (allowed.write current now).status = changes.status.getD current.status := by
    rcases hallowed with rfl | ⟨rfl, -⟩ <;> rfl
  exact ⟨current, hc, hs, fun h => by rw [hs]; exact hclosing h⟩

/-- Between two calls of a turn that knew the row `job₀` in `w₀`: the pass knows `job` by now, and
has recorded what it created. -/
structure At (sv : Services P) (job₀ : ControlJob) (w₀ w : World P) (job : ControlJob) : Prop where
  follows : Follows sv job₀.jobId w₀ w
  grows : job₀.Grows job
  sees : w.Sees job
  recorded : unrecorded w.trace = none

theorem ControlJob.Grows.jobId {row row' : ControlJob} (h : row.Grows row') :
    row'.jobId = row.jobId := congrArg Identity.jobId h.identity

theorem At.quiet {job₀ job : ControlJob} {w₀ w w' : World P} (h : At sv job₀ w₀ w job)
    (hq : Quiet sv w w') (hr : unrecorded w'.trace = none) : At sv job₀ w₀ w' job :=
  ⟨h.follows.trans (hq.follows _), h.grows, hq.sees h.sees, hr⟩

theorem Updated.at {job₀ job row : ControlJob} {w₀ w w' : World P} {now : Int}
    {changes : Changes} (hu : Updated sv job now changes w row w')
    (hFollows : Follows sv job₀.jobId w₀ w) (hGrows : job₀.Grows job)
    (hn : changes.orchestratorAttempt = none) : At sv job₀ w₀ w' row := by
  refine ⟨hFollows.trans (hGrows.jobId ▸ hu.follows hn), hGrows.trans hu.grows,
    ⟨row, ?_, .refl row⟩, by rw [hu.trace]; rfl⟩
  rw [hu.jobId]
  exact hu.found

theorem At.updated {job₀ job row : ControlJob} {w₀ w w' : World P} {now : Int}
    {changes : Changes} (h : At sv job₀ w₀ w job) (hu : Updated sv job now changes w row w')
    (hn : changes.orchestratorAttempt = none) : At sv job₀ w₀ w' row :=
  hu.at h.follows h.grows hn

/-- A write that breaks a constraint of the table leaves the row alone. -/
theorem Refused.at {job₀ job : ControlJob} {w₀ w w' : World P} {now : Int} {changes : Changes}
    (hu : Refused sv job now changes w .integrityError w')
    (hFollows : Follows sv job₀.jobId w₀ w) (hGrows : job₀.Grows job)
    (hn : changes.orchestratorAttempt = none) : At sv job₀ w₀ w' job := by
  obtain ⟨current, hc, hf, -⟩ := hu.source
  exact ⟨hFollows.trans (hGrows.jobId ▸ hu.follows hn), hGrows, ⟨current, hf, hc⟩,
    by rw [hu.trace]; rfl⟩

theorem At.event_safe {job₀ job : ControlJob} {w₀ : World P} {eventType : String}
    {payload : List (String × Json)} {E : PyExc → World P → Prop} (h : At sv job₀ w₀ w job) :
    (o.event job eventType payload).Safe sv.system (protocol o sv)
      (fun _ w' => At sv job₀ w₀ w' job ∧
        ∃ event, w'.trace = .call (.addEvent event) (.ok ()) :: w.trace) E w := by
  obtain ⟨row, hf, -⟩ := h.sees
  refine (SafactoryServer.event_safe ⟨row, hf⟩ h.recorded).mono ?_ fun _ _ h => h
  rintro - w' ⟨hq, event, ht⟩
  exact ⟨h.quiet hq (by rw [ht]; rfl), event, ht⟩

/-- The row that a pass reads again. -/
structure Reread (sv : Services P) (job₀ : ControlJob) (w₀ : World P) (job : ControlJob)
    (w : World P) (row : ControlJob) (w' : World P) : Prop where
  closeOnly : job.CloseOnly row
  known : At sv job₀ w₀ w' row
  found : w'.jobs.find row.jobId = some row
  consistent : row.Consistent
  trace : w'.trace = .call (.get job.jobId) (some row) :: w.trace

theorem At.get_safe {job₀ job : ControlJob} {w₀ : World P} {E : PyExc → World P → Prop}
    (h : At sv job₀ w₀ w job) :
    (Coroutine.get job.jobId).Safe sv.system (protocol o sv)
      (fun answer w' => ∃ row, answer = some row ∧ Reread sv job₀ w₀ job w row w') E w := by
  refine (SafactoryServer.get_safe h.recorded).mono ?_ fun _ _ h => h
  rintro answer w' ⟨hq, ht, hfound, hInv⟩
  obtain ⟨row, hf, hc⟩ := hq.sees h.sees
  obtain rfl : answer = some row := hfound.symm.trans hf
  have hrow : w'.jobs.find row.jobId = some row := by rw [hc.jobId]; exact hf
  exact ⟨row, rfl, hc, ⟨h.follows.trans (hq.follows _), h.grows.trans hc.grows,
    ⟨row, hrow, .refl row⟩, by rw [ht]; rfl⟩, hrow, hInv.consistent hf, ht⟩

end

end SafactoryServer
