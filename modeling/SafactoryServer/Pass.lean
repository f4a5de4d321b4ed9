import SafactoryServer.Turn

/-! A whole pass: the loop over the active Jobs, then the loop over the pending cleanups. -/

namespace SafactoryServer

open Effect
open Relation (ReflTransGen)

variable {P : Type} {o : RealJobOrchestrator} {sv : Services P} {w : World P}

/-- The row is not active, or its deadline had not passed at some time since the pass began in `w`,
or a service raised `JobStateConflict`. -/
def Enforced (o : RealJobOrchestrator) (sv : Services P) (w w' : World P) (row : ControlJob) :
    Prop :=
  row.active = true → (∃ event ∈ w'.trace, event.Conflicts) ∨
    ∃ t, ReflTransGen sv.tick w.clock t ∧ o.expired row t = false

/-- If the turn of the Job `j` found the Gateway of the controller of `row` lost, then `stopped`. -/
def Halts (o : RealJobOrchestrator) (j : String) (row : ControlJob) (trace : List TraceEvent)
    (stopped : Prop) : Prop :=
  ∀ calls, (some j, calls) ∈ turns trace → Watched o row calls ∨ stopped

/-- The first loop of the pass that began in `w`, with the Jobs of `rest` still to come. -/
structure Turning (o : RealJobOrchestrator) (sv : Services P) (w : World P)
    (rest : List ControlJob) (s : World P) : Prop where
  recorded : unrecorded s.trace = none
  distinct : (rest.map (·.jobId)).Nodup
  waiting : ∀ job ∈ rest, job.active = true ∧ s.Sees job
  fresh : ∀ job ∈ rest, ∀ calls, (some job.jobId, calls) ∉ turns s.trace
  kept {j : String} {row : ControlJob} : w.jobs.find j = some row → row.active = false →
    j ∉ rest.map (·.jobId) ∧ s.jobs.find j = some row
  clock : ReflTransGen sv.tick w.clock s.clock
  rows {j : String} {row : ControlJob} : w.jobs.find j = some row →
    ∃ row', s.jobs.find j = some row' ∧ row.Grows row' ∧
      (j ∈ rest.map (·.jobId) ∨ Enforced o sv w s row') ∧
      Halts o j row s.trace (row'.status = .failed ∨ row'.status = .closing)

theorem Settled.enforced {job row : ControlJob} {w₀ s w' : World P}
    (h : Settled o sv job s w' row) (ht : ReflTransGen sv.tick w₀.clock s.clock) :
    Enforced o sv w₀ w' row := by
  intro ha
  cases h with
  | failed hs => simp [ControlJob.active, hs] at ha
  | closing hs => simp [ControlJob.active, hs] at ha
  | succeeded hs => simp [ControlJob.active, hs] at ha
  | active t _ _ ht' hTime => exact .inr ⟨t, ht.trans ht', hTime⟩
  | conflicted _ _ hc => exact .inl hc

theorem Settled.watched {job row : ControlJob} {s w' : World P} (h : Settled o sv job s w' row) :
    Watched o job (turnCalls w'.trace) ∨ row.status = .failed ∨ row.status = .closing := by
  cases h with
  | failed hs => exact .inr (.inl hs)
  | closing hs => exact .inr (.inr hs)
  | succeeded _ hw => exact .inl hw
  | active _ _ hw => exact .inl hw
  | conflicted _ hw => exact .inl hw

theorem Watched.closeOnly {row row' : ControlJob} {calls : List TraceEvent}
    (h : Watched o row calls) (hc : row.CloseOnly row') : Watched o row' calls := by
  obtain ⟨-, -, hurl, hid, -⟩ := hc.keeps
  intro hs url heq
  exact h (hid ▸ hs) url (hurl ▸ heq)

theorem Enforced.closeOnly {row row' : ControlJob} {s s' : World P} (h : Enforced o sv w s row)
    (hc : row.CloseOnly row') (ht : s.trace <:+ s'.trace) : Enforced o sv w s' row' := by
  intro ha
  rcases hc with rfl | ⟨-, now, rfl⟩
  · exact (h ha).imp_left fun ⟨event, he, hx⟩ => ⟨event, ht.mem he, hx⟩
  · simp [ControlJob.active] at ha

/-- No close request changes the status of a row that is not active. -/
theorem ControlJob.CloseOnly.ended {row row' : ControlJob} (h : row.CloseOnly row')
    (hs : row.status = .failed ∨ row.status = .closing ∨ row.status = .closed) :
    row'.status = .failed ∨ row'.status = .closing ∨ row'.status = .closed := by
  rw [h.eq (by rcases hs with hs | hs | hs <;> simp [ControlJob.active, hs])]
  exact hs

theorem ControlJob.CloseOnly.stopped {row row' : ControlJob} (h : row.CloseOnly row')
    (hs : row.status = .failed ∨ row.status = .closing) :
    row'.status = .failed ∨ row'.status = .closing := by
  rw [h.eq (by rcases hs with hs | hs <;> simp [ControlJob.active, hs])]
  exact hs

theorem World.Sees.others {s s' : World P} {j : String} {job : ControlJob} (h : s.Sees job)
    (hFrame : Frame sv j s s') (hj : job.jobId ≠ j) : s'.Sees job := by
  obtain ⟨row, hf, hc⟩ := h
  obtain ⟨row', hf', hc'⟩ := hFrame.others hj hf
  exact ⟨row', hf', hc.trans hc'⟩

/-- One round of the first loop. -/
theorem Turning.step {job : ControlJob} {rest : List ControlJob} {s s' : World P}
    (h : Turning o sv w (job :: rest) s) (hTurned : Turned o sv job s s') :
    Turning o sv w rest s' := by
  obtain ⟨hFrame, hr, hTurn, last, hLast, hSettled⟩ := hTurned
  have hDistinct := h.distinct
  rw [List.map_cons, List.nodup_cons] at hDistinct
  have hOther : ∀ other ∈ rest, other.jobId ≠ job.jobId := fun other hOther heq =>
    hDistinct.1 (heq ▸ List.mem_map_of_mem hOther)
  refine ⟨hr, hDistinct.2, fun other hMem => ?_, fun other hMem calls hCalls => ?_,
    fun {j row} hf ha => ?_, h.clock.trans hFrame.clock, fun {j row} hf => ?_⟩
  · obtain ⟨ha, hs⟩ := h.waiting other (List.mem_cons_of_mem _ hMem)
    exact ⟨ha, hs.others hFrame (hOther other hMem)⟩
  · rw [hTurn, List.mem_cons, Prod.mk.injEq, Option.some.injEq] at hCalls
    rcases hCalls with ⟨heq, -⟩ | hCalls
    · exact hOther other hMem heq
    · exact h.fresh other (List.mem_cons_of_mem _ hMem) calls hCalls
  · obtain ⟨hNot, hf₁⟩ := h.kept hf ha
    rw [List.map_cons, List.mem_cons, not_or] at hNot
    obtain ⟨row₂, hf₂, hc⟩ := hFrame.others hNot.1 hf₁
    exact ⟨hNot.2, hc.eq ha ▸ hf₂⟩
  · obtain ⟨row₁, hf₁, hg, hrest, hHalts⟩ := h.rows hf
    by_cases hj : j = job.jobId
    · subst hj
      obtain ⟨row₂, hf₂, hg₂⟩ := hFrame.own hf₁
      obtain rfl : row₂ = last := Option.some.inj (hf₂.symm.trans hLast)
      refine ⟨row₂, hf₂, hg.trans hg₂, .inr (hSettled.enforced h.clock), fun calls hCalls => ?_⟩
      rw [hTurn, List.mem_cons, Prod.mk.injEq] at hCalls
      rcases hCalls with ⟨-, rfl⟩ | hCalls
      · obtain ⟨-, row, hf', hc⟩ := h.waiting job List.mem_cons_self
        obtain rfl : row = row₁ := Option.some.inj (hf'.symm.trans hf₁)
        exact hSettled.watched.imp_left fun hw => (hw.closeOnly hc).of_grows hg
      · exact absurd hCalls (h.fresh job List.mem_cons_self calls)
    · obtain ⟨row₂, hf₂, hc⟩ := hFrame.others hj hf₁
      refine ⟨row₂, hf₂, hg.trans hc.grows, ?_, fun calls hCalls => ?_⟩
      · rcases hrest with hmem | hEnforced
        · exact .inl ((List.mem_cons.mp hmem).resolve_left hj)
        · exact .inr (hEnforced.closeOnly hc hFrame.calls)
      · rw [hTurn, List.mem_cons, Prod.mk.injEq, Option.some.injEq] at hCalls
        exact (hHalts calls (hCalls.resolve_left fun heq => hj heq.1)).imp_right hc.stopped

/-- The second loop of the pass that began in `w`, with the rows of `rest` still to come. -/
structure Sweeping (o : RealJobOrchestrator) (sv : Services P) (w : World P)
    (rest : List ControlJob) (s : World P) : Prop where
  recorded : unrecorded s.trace = none
  ended : ∀ x, ¬ ForeignStop x s.trace
  waiting : ∀ job ∈ rest, ∃ row, s.jobs.find job.jobId = some row ∧ row.active = false
  sweep : ∃ calls before, turns s.trace = (none, calls) :: before
  clock : ReflTransGen sv.tick w.clock s.clock
  rows {j : String} {row : ControlJob} : w.jobs.find j = some row →
    ∃ row', s.jobs.find j = some row' ∧ row.Grows row' ∧ Enforced o sv w s row' ∧
      Halts o j row s.trace
        (row'.status = .failed ∨ row'.status = .closing ∨ row'.status = .closed)

/-- A pass that began in `w` ended with the exception that a stop raised. -/
structure Broken (o : RealJobOrchestrator) (x : PyExc) (w w' : World P) : Prop where
  foreign : ForeignStop x w'.trace
  rows {j : String} {row : ControlJob} : w.jobs.find j = some row →
    ∃ row', w'.jobs.find j = some row' ∧ Halts o j row w'.trace
      (row'.status = .failed ∨ row'.status = .closing ∨ row'.status = .closed)

/-- The calls of a cleanup at the end of the pass are calls of no turn. -/
theorem Sweeping.turns {rest : List ControlJob} {s s' : World P} (h : Sweeping o sv w rest s)
    (hTrace : ∃ new, s'.trace = new ++ s.trace ∧ ∀ event ∈ new, event.InTurn) :
    (∃ calls before, turns s'.trace = (none, calls) :: before) ∧
      ∀ {j : String} {calls : List TraceEvent},
        (some j, calls) ∈ turns s'.trace → (some j, calls) ∈ turns s.trace := by
  obtain ⟨new, heq, hnew⟩ := hTrace
  obtain ⟨calls, before, ht⟩ := h.sweep
  rw [heq, turns_append hnew ht, ht]
  refine ⟨⟨_, _, rfl⟩, fun hCalls => ?_⟩
  rw [List.mem_cons, Prod.mk.injEq] at hCalls
  exact List.mem_cons_of_mem _ (hCalls.resolve_left fun h => by cases h.1)

theorem Sweeping.step {job row : ControlJob} {rest : List ControlJob} {s s' : World P}
    (h : Sweeping o sv w (job :: rest) s) (hf : s.jobs.find job.jobId = some row)
    (ha : row.active = false) (hCleaned : Cleaned o sv row s s') : Sweeping o sv w rest s' := by
  have hid : row.jobId = job.jobId := JobTable.find_jobId hf
  have hFrame : Frame sv job.jobId s s' := hid ▸ hCleaned.follows.toFrame
  obtain ⟨hSweep, hTurns⟩ := h.turns hCleaned.follows.trace
  refine ⟨hCleaned.recorded, hCleaned.ended, fun other hOther => ?_, hSweep,
    h.clock.trans hFrame.clock, fun {j row₀} hf₀ => ?_⟩
  · obtain ⟨row₁, hf₁, ha₁⟩ := h.waiting other (List.mem_cons_of_mem _ hOther)
    by_cases hj : other.jobId = job.jobId
    · rw [hj] at hf₁ ⊢
      obtain ⟨row₂, hf₂, hg⟩ := hFrame.own hf₁
      exact ⟨row₂, hf₂, hg.inactive ha₁⟩
    · obtain ⟨row₂, hf₂, hc⟩ := hFrame.others hj hf₁
      exact ⟨row₂, hf₂, hc.grows.inactive ha₁⟩
  · obtain ⟨row₁, hf₁, hg, hEnforced, hHalts⟩ := h.rows hf₀
    by_cases hj : j = job.jobId
    · subst hj
      obtain rfl : row₁ = row := Option.some.inj (hf₁.symm.trans hf)
      obtain ⟨row₂, hf₂, hg₂⟩ := hFrame.own hf
      refine ⟨row₂, hf₂, hg.trans hg₂, fun hactive => ?_, fun calls hCalls => ?_⟩
      · rw [hg₂.inactive ha] at hactive
        cases hactive
      · obtain ⟨row₃, hf₃, hs⟩ := hCleaned.row
        obtain rfl : row₃ = row₂ := Option.some.inj ((hid ▸ hf₃).symm.trans hf₂)
        refine (hHalts calls (hTurns hCalls)).imp_right fun hStopped => ?_
        rcases hs with hs | ⟨-, hs⟩
        · rw [hs]
          exact hStopped
        · exact .inr (.inr hs)
    · obtain ⟨row₂, hf₂, hc⟩ := hFrame.others hj hf₁
      refine ⟨row₂, hf₂, hg.trans hc.grows, hEnforced.closeOnly hc hFrame.calls,
        fun calls hCalls => (hHalts calls (hTurns hCalls)).imp_right hc.ended⟩

theorem Sweeping.raised {job row : ControlJob} {rest : List ControlJob} {x : PyExc}
    {s s' : World P} (h : Sweeping o sv w (job :: rest) s)
    (hRaised : CleanupRaised sv row x s s') : Broken o x w s' := by
  refine ⟨hRaised.foreign, fun {j row₀} hf₀ => ?_⟩
  obtain ⟨row₁, hf₁, -, -, hHalts⟩ := h.rows hf₀
  obtain ⟨row₂, hf₂, hc⟩ := hRaised.quiet.rows hf₁
  exact ⟨row₂, hf₂, fun calls hCalls =>
    (hHalts calls ((h.turns hRaised.quiet.trace).2 hCalls)).imp_right hc.ended⟩

theorem Turning.broken {rest : List ControlJob} {x : PyExc} {s : World P}
    (h : Turning o sv w rest s) (hForeign : ForeignStop x s.trace) : Broken o x w s := by
  refine ⟨hForeign, fun {j row} hf => ?_⟩
  obtain ⟨row', hf', -, -, hHalts⟩ := h.rows hf
  exact ⟨row', hf', fun calls hCalls =>
    (hHalts calls hCalls).imp_right fun hs => hs.imp_right .inl⟩

theorem listActive_safe {E : PyExc → World P → Prop} (hr : unrecorded w.trace = none) :
    Coroutine.listActive.Safe sv.system (protocol o sv) (fun jobs s => Turning o sv w jobs s)
      E w := by
  refine Task.Safe.ask (e := Op.listActive) hr fun mid hw _ jobs s hp _ => ?_
  have hLater := Later.of_waits hw
  obtain ⟨⟨hPerm, -⟩, rfl⟩ := hp
  have hMem : ∀ job, job ∈ jobs ↔ job ∈ mid.jobs.rows ∧ job.active = true := fun job => by
    rw [hPerm.mem_iff, JobTable.activeRows, List.mem_filter]
  refine ⟨rfl, ?_, fun job hJob => ?_, fun _ _ _ hCalls => ?_, fun {j row} hf ha => ?_,
    hLater.clock, fun {j row} hf => ?_⟩
  · rw [(hPerm.map (·.jobId)).nodup_iff]
    exact mid.jobs.valid.primaryKey.sublist (List.filter_sublist.map _)
  · obtain ⟨hRow, ha⟩ := (hMem job).mp hJob
    exact ⟨ha, job, JobTable.find_of_mem hRow, .refl job⟩
  · cases hCalls
  · obtain ⟨row', hf', hc⟩ := hLater.rows hf
    obtain rfl := hc.eq ha
    refine ⟨fun hListed => ?_, hf'⟩
    obtain ⟨job, hJob, rfl⟩ := List.mem_map.mp hListed
    obtain ⟨hRow, hActive⟩ := (hMem job).mp hJob
    rw [JobTable.find_of_mem hRow] at hf'
    rw [Option.some.inj hf', ha] at hActive
    cases hActive
  · obtain ⟨row', hf', hc⟩ := hLater.rows hf
    refine ⟨row', hf', hc.grows, ?_, fun _ hCalls => by cases hCalls⟩
    by_cases ha : row'.active = true
    · refine .inl (List.mem_map.mpr ⟨row', (hMem row').mpr ⟨JobTable.find_mem hf', ha⟩, ?_⟩)
      exact JobTable.find_jobId hf'
    · exact .inr fun h => absurd h ha

theorem listCleanupPending_safe {s : World P} {E : PyExc → World P → Prop}
    (h : Turning o sv w [] s) :
    Coroutine.listCleanupPending.Safe sv.system (protocol o sv)
      (fun pending s' => Sweeping o sv w pending s') E s := by
  refine Task.Safe.ask (e := Op.listCleanupPending) h.recorded fun mid hw hInv pending s' hp _ => ?_
  have hLater := Later.of_waits hw
  obtain ⟨⟨hPerm, -⟩, rfl⟩ := hp
  refine ⟨rfl, ?_, fun row hRow => ?_, ⟨[], _, rfl⟩, h.clock.trans hLater.clock,
    fun {j row} hf => ?_⟩
  · rintro x ⟨-, rjobId, rest, heq⟩
    cases heq
  · rw [hPerm.mem_iff, JobTable.cleanupPendingRows, List.mem_filter] at hRow
    have hf := JobTable.find_of_mem hRow.1
    refine ⟨row, hf, ?_⟩
    -- an active row asks for no cleanup
    by_contra ha
    have hZero := ((hInv.consistent hf).active (by simpa using ha)).1
    simp [hZero] at hRow
  · obtain ⟨row₁, hf₁, hg, hrest, hHalts⟩ := h.rows hf
    obtain ⟨row₂, hf₂, hc⟩ := hLater.rows hf₁
    refine ⟨row₂, hf₂, hg.trans hc.grows, ?_, fun calls hCalls => ?_⟩
    · have hEnforced : Enforced o sv w s row₁ := hrest.resolve_left (by simp)
      exact hEnforced.closeOnly hc ⟨[_], by rw [← hLater.trace]; rfl⟩
    · rw [World.record, turns, hLater.trace, List.mem_cons, Prod.mk.injEq] at hCalls
      exact (hHalts calls (hCalls.resolve_left fun h => by cases h.1)).imp_right fun hs =>
        (hc.stopped hs).imp_right .inl

/-- The first loop of `reconcile_once`. -/
theorem reconcileActive_safe (hr : unrecorded w.trace = none) :
    o.reconcileActive.Safe sv.system (protocol o sv) (fun _ s => Turning o sv w [] s)
      (fun x s => ForeignStop x s.trace ∧ ∃ rest, Turning o sv w rest s) w := by
  unfold RealJobOrchestrator.reconcileActive
  refine Task.Safe.bind (listActive_safe hr) (fun jobs s₁ h₁ => ?_) fun x w' h => h
  refine Task.Safe.forM (I := Turning o sv w) (fun job rest s h => ?_) h₁
  obtain ⟨ha, hs⟩ := h.waiting job List.mem_cons_self
  exact (turn_safe hs (.inl ha) h.recorded).mono (fun _ _ hTurned => h.step hTurned)
    fun x w' hRaised => ⟨hRaised.2, rest, h.step hRaised.1⟩

/-- The second loop of `reconcile_once`. -/
theorem cleanupPending_safe {s : World P} (h : Turning o sv w [] s) :
    o.cleanupPending.Safe sv.system (protocol o sv) (fun _ w' => Sweeping o sv w [] w')
      (fun x w' => Broken o x w w') s := by
  unfold RealJobOrchestrator.cleanupPending
  refine Task.Safe.bind (listCleanupPending_safe h) (fun pending s₁ h₁ => ?_) fun x w' h => h
  refine Task.Safe.forM (fun job rest s h => ?_) h₁
  obtain ⟨row, hf, ha⟩ := h.waiting job List.mem_cons_self
  exact (cleanup_safe hf h.recorded ha).mono (fun _ _ hCleaned => h.step hf ha hCleaned)
    fun _ _ hRaised => h.raised hRaised

/-- `reconcile_once` keeps the protocol.  It raises only what a stop raised last. -/
theorem reconcileOnce_safe (hr : unrecorded w.trace = none) :
    o.reconcileOnce.Safe sv.system (protocol o sv) (fun _ w' => Sweeping o sv w [] w')
      (fun x w' => Broken o x w w') w := by
  unfold RealJobOrchestrator.reconcileOnce
  refine Task.Safe.bind (reconcileActive_safe hr) (fun _ s h => cleanupPending_safe h) ?_
  rintro x s ⟨hForeign, rest, h⟩
  exact h.broken hForeign

/-! ### Runs of the server -/

section

variable {permitted : World P → Label Op Ans → World P → Prop} {J : World P → Prop}
  {w₀ : World P} {c : Config Op Ans (World P) (Except PyExc Unit)}

/-- What a pass leaves for the rest of the run. -/
def PassEnds : Except PyExc Unit → World P → Prop :=
  Task.Ends (fun _ w' => unrecorded w'.trace = none) fun x w' => ForeignStop x w'.trace

theorem pass_safe (hr : unrecorded w.trace = none) :
    Program.Safe sv.system ((protocol o sv).also J) (α := Except PyExc Unit) o.reconcileOnce
      PassEnds w :=
  Contract.also_safe ((reconcileOnce_safe hr).mono (fun _ _ h => h.recorded) fun _ _ h =>
    h.foreign)

theorem passEnds_idle {a : Except PyExc Unit} {w' : World P} (ha : a = .ok ())
    (h : PassEnds a w) (hw : ReflTransGen sv.system.interferes w w') :
    unrecorded w'.trace = none := by
  subst ha
  have hr : unrecorded w.trace = none := h
  have hLater : Later sv w w' := .of_waits hw
  rw [hLater.trace, hr]

/-- Every configuration that the server reaches keeps the contract and what its steps preserve. -/
theorem Services.Reaches.holds (h : sv.Reaches o permitted ⟨w₀, none⟩ c) (h₀ : sv.Initial w₀)
    (hJ₀ : J w₀) (hJ : (protocol o sv).Preserves sv.system J permitted) :
    ((protocol o sv).also J).inv c.state ∧
      ((protocol o sv).also J).Attends sv.system PassEnds c.state c.program := by
  refine Contract.Attends.ofReaches ((protocol_kept o sv permitted).also hJ)
    (fun _ _ hIdle => pass_safe hIdle) (fun _ _ _ ha hQ hw => passEnds_idle ha hQ hw) ?_ ?_ h
  · exact ⟨h₀.inv, hJ₀⟩
  · show unrecorded w₀.trace = none
    rw [h₀.trace]
    rfl

/-- Every call that the server issues is allowed. -/
theorem Services.Issues.allowed {e : Op} (h : sv.Issues o permitted ⟨w₀, none⟩ w e)
    (h₀ : sv.Initial w₀) (hJ₀ : J w₀) (hJ : (protocol o sv).Preserves sv.system J permitted) :
    ((protocol o sv).also J).inv w ∧ Allowed o sv w e := by
  refine Contract.Attends.ofIssues ((protocol_kept o sv permitted).also hJ)
    (fun _ _ hIdle => pass_safe hIdle) (fun _ _ _ ha hQ hw => passEnds_idle ha hQ hw) ?_ ?_ h
  · exact ⟨h₀.inv, hJ₀⟩
  · show unrecorded w₀.trace = none
    rw [h₀.trace]
    rfl

/-- Nothing but the contract. -/
theorem preserves_true (C : Contract Op (World P)) (S : System Op Ans (World P)) :
    C.Preserves S (fun _ => True) permitted :=
  ⟨fun _ _ _ _ => trivial, fun _ _ _ _ _ _ _ _ => trivial, fun _ _ _ _ => trivial,
    fun _ _ _ _ _ _ _ _ _ => trivial⟩

/-- What a program that is safe in an idle state leaves when an idle server of the run executes
it. -/
theorem Services.Reaches.exec {α : Type} {p : Program Op Ans α} {Q : α → World P → Prop} {a : α}
    {w' : World P} (h : sv.Reaches o (fun _ _ _ => True) ⟨w₀, none⟩ ⟨w, none⟩)
    (h₀ : sv.Initial w₀) (hJ₀ : J w₀)
    (hJ : (protocol o sv).Preserves sv.system J fun _ _ _ => True)
    (hSafe : unrecorded w.trace = none → p.Safe sv.system (protocol o sv) Q w)
    (hExec : Exec sv.system p w a w') : Q a w' ∧ Inv sv w' ∧ J w' := by
  obtain ⟨hInv, hIdle⟩ := h.holds h₀ hJ₀ hJ
  exact Contract.ofExec ((protocol_kept o sv _).also hJ) (fun _ _ _ => trivial)
    (fun _ _ _ _ _ => trivial) (Contract.also_safe (hSafe hIdle)) hInv hExec

end

end SafactoryServer
