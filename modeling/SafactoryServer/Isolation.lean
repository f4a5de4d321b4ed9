import SafactoryServer.Pass
import SafactoryServer.Script

/-! Fault isolation: when a pass gives every Job its turn and every pending cleanup its attempt, and
which exceptions of the RJob client end it early. -/

namespace SafactoryServer

open Effect

variable {P : Type} {o : RealJobOrchestrator} {sv : Services P} {w w' : World P}

/-- A pass that returned, after the turn of every Job that it listed as active and the cleanup of
every row that it listed as pending. -/
structure Isolated (o : RealJobOrchestrator) (sv : Services P) (w : World P)
    (result : Except PyExc Unit) (w' : World P) : Prop where
  returns : result = .ok ()
  rounds : ∃ jobs s₁ s₂ pending s₃,
    Exec sv.system (α := Except PyExc (List ControlJob)) Coroutine.listActive w (.ok jobs) s₁ ∧
    Each sv.system o.turn jobs s₁ s₂ ∧
    Exec sv.system (α := Except PyExc (List ControlJob)) Coroutine.listCleanupPending s₂
      (.ok pending) s₃ ∧
    Each sv.system o.cleanup pending s₃ w'

/-- A pass that returned skipped no Job. -/
theorem isolated_of_ok
    (h : Exec sv.system (α := Except PyExc Unit) o.reconcileOnce w (.ok ()) w') :
    Isolated o sv w (.ok ()) w' := by
  refine ⟨rfl, ?_⟩
  obtain ⟨_, s₂, hActive, hPending⟩ := Exec.task_bind_inv h
  obtain ⟨jobs, s₁, hList, hTurns⟩ := Exec.task_bind_inv hActive
  obtain ⟨pending, s₃, hList', hCleanups⟩ := Exec.task_bind_inv hPending
  exact ⟨jobs, s₁, s₂, pending, s₃, hList, hTurns.forM_inv, hList', hCleanups.forM_inv⟩

/-- A pass is isolated unless its last call is a stop that raised anything but
`RJobDependencyError`. -/
theorem isolated_iff {result : Except PyExc Unit} (hInv : Inv sv w)
    (hr : unrecorded w.trace = none)
    (h : Exec sv.system (α := Except PyExc Unit) o.reconcileOnce w result w') :
    Isolated o sv w result w' ↔ ∀ x, ¬ ForeignStop x w'.trace := by
  obtain ⟨hEnds, -⟩ := Contract.ofExec (protocol_kept o sv fun _ _ _ => True)
    (fun _ _ _ => trivial) (fun _ _ _ _ _ => trivial) (reconcileOnce_safe hr) hInv h
  cases result with
  | ok => exact ⟨fun _ => Sweeping.ended hEnds, fun _ => isolated_of_ok h⟩
  | error x =>
    refine ⟨fun hIsolated => ?_, fun hNone => ?_⟩
    · cases hIsolated.returns
    · exact absurd (Broken.foreign hEnds) (hNone x)

/-- A stop raises at most `RJobDependencyError`. -/
def Services.StopsCleanly (sv : Services P) : Prop :=
  ∀ p rjobId x p', rjobId ≠ "" → sv.stop p rjobId (.error x) p' → x = .rjobDependencyError

theorem StopOrder.ne_empty {row : ControlJob} {rjobId : String}
    {stops : List (String × Except PyExc Unit)} (h : StopOrder row rjobId stops) : rjobId ≠ "" := by
  cases h with
  | controller h => exact h
  | gateway h => exact h
  | gatewayLast h => exact h

theorem stops_preserved (hStops : sv.StopsCleanly)
    (permitted : World P → Label Op Ans → World P → Prop) :
    (protocol o sv).Preserves sv.system (fun w => ∀ x, ¬ ForeignStop x w.trace) permitted := by
  have hPerforms : ∀ {w₀ w w' : World P} {e : Op} {answer : Ans e}, Allowed o sv w₀ e →
      (∀ x, ¬ ForeignStop x w.trace) → sv.Performs e w answer w' →
      ∀ x, ¬ ForeignStop x w'.trace := by
    rintro w₀ w w' e answer ha hJ hp x ⟨hne, rjobId, rest, heq⟩
    by_cases hNow : e = .now
    · subst hNow
      obtain ⟨-, rfl⟩ := hp
      exact hJ x ⟨hne, rjobId, rest, heq⟩
    · rw [hp.trace hNow] at heq
      cases heq
      obtain ⟨-, row, stops, -, -, -, -, hOrder⟩ := ha
      obtain ⟨p, hStop, -⟩ := hp
      exact hne (hStops _ _ _ _ hOrder.ne_empty hStop)
  have hRestart : ∀ w : World P, ∀ x, ¬ ForeignStop x w.restart.trace := by
    rintro w x ⟨-, rjobId, rest, heq⟩
    cases heq
  refine ⟨fun _ hJ h _ => ?_, fun _ _ ha _ _ hJ hp _ => hPerforms ha hJ hp, fun _ _ h _ => ?_,
    fun _ _ _ _ _ _ _ h _ => ?_⟩
  · rw [(Later.of_interferes h).trace]
    exact hJ
  · cases h
    exact hRestart _
  · cases h
    exact hRestart _

/-- Every pass is isolated from a client whose stops raise at most `RJobDependencyError`. -/
theorem Services.StopsCleanly.isolated {result : Except PyExc Unit} (hStops : sv.StopsCleanly)
    (hInv : Inv sv w) (hr : unrecorded w.trace = none)
    (h : Exec sv.system (α := Except PyExc Unit) o.reconcileOnce w result w') :
    Isolated o sv w result w' := by
  rw [isolated_iff hInv hr h]
  have hSafe : o.reconcileOnce.Safe sv.system (protocol o sv) _ _ w := reconcileOnce_safe hr
  -- after its first call the pass is in a state that no stop has led to
  obtain ⟨k, hk⟩ : ∃ k, o.reconcileOnce = Program.call .listActive k := ⟨_, rfl⟩
  rw [hk] at h
  rw [Task.Safe, hk] at hSafe
  cases h with
  | @call _ _ _ mid first _ jobs _ hw hp hRest =>
    have hMid := hInv.waits hw
    replace hp : sv.Performs .listActive mid jobs first := hp
    have hFirst : Inv sv first :=
      hMid.performs (show Allowed o sv w .listActive from hr) (.of_waits hw) hp
    have hStart : ∀ x, ¬ ForeignStop x first.trace := by
      rintro x ⟨-, rjobId, rest, heq⟩
      rw [hp.trace (by simp)] at heq
      cases heq
    have hEnds := Contract.ofExec ((protocol_kept o sv fun _ _ _ => True).also
      (stops_preserved hStops _)) (fun _ _ _ => trivial) (fun _ _ _ _ _ => trivial)
      (Contract.also_safe (hSafe.2 mid hw hMid jobs first hp hFirst)) ⟨hFirst, hStart⟩ hRest
    exact hEnds.2.2

/-! ### Stops that end a pass -/

/-- A closing Job with one recorded RJob. -/
def closingRow (rjobId : String) : ControlJob :=
  { newControlJob sampleJob 0 with
    status := .closing, cleanupRequested := 1, bindingJson := some .null
    gatewayRjobId := some rjobId }

/-- The server with that Job alone. -/
def closingWorld (platform : P) (rjobId : String) : World P where
  jobs := ⟨[closingRow rjobId], ⟨List.nodup_singleton _, List.nodup_singleton _, List.nodup_nil⟩⟩
  events := []
  clock := 0
  platform := platform
  trace := []

theorem closingWorld_inv (platform : P) (rjobId : String) :
    Inv sv (closingWorld platform rjobId) := by
  have hRow : ∀ {j row}, (closingWorld platform rjobId).jobs.find j = some row →
      row = closingRow rjobId := fun hf => List.mem_singleton.mp (JobTable.find_mem hf)
  constructor
  · intro j row hf
    rw [hRow hf]
    constructor <;> simp [closingRow, newControlJob, ControlJob.active]
  · intro j row hf
    rw [hRow hf]
    exact ⟨0, rfl, .refl⟩

/-- The cleanup of that Job raises what the stop of its RJob raises. -/
theorem exec_closing_row {platform p : P} {rjobId : String} {x : PyExc} (hne : rjobId ≠ "")
    (hx : x ≠ .rjobDependencyError) (hStop : sv.stop platform rjobId (.error x) p)
    (hw : w.platform = platform) :
    Exec sv.system (α := Except PyExc Unit) (o.cleanupRow (closingRow rjobId)) w (.error x)
      ({ w with platform := p }.record (.stopRJob rjobId) (.error x)) := by
  have hController : o.stopController (closingRow rjobId) = pure () := by
    simp only [RealJobOrchestrator.stopController]
    rw [if_neg (by simp [closingRow, newControlJob])]
  have hStopped : Exec sv.system (α := Except PyExc Unit) (o.stopRecorded (closingRow rjobId)) w
      (.error x) ({ w with platform := p }.record (.stopRJob rjobId) (.error x)) := by
    unfold RealJobOrchestrator.stopRecorded
    rw [hController]
    refine Exec.task_ok (.done _ _) ?_
    simp only [RealJobOrchestrator.stopGateway]
    rw [if_pos (by simpa [closingRow] using hne)]
    refine Exec.task_error ?_
    exact .call .refl ⟨p, hw ▸ hStop, rfl⟩ (.done _ _)
  unfold RealJobOrchestrator.cleanupRow
  rw [if_neg (by simp [closingRow])]
  refine Exec.task_error (Exec.bind (Exec.task_error hStopped) ?_)
  -- the only handler is that of `RJobDependencyError`
  cases x with
  | rjobDependencyError => exact absurd rfl hx
  | _ => exact .done _ _

/-- The pass over that Job alone raises it, too. -/
theorem exec_closing {platform p : P} {rjobId : String} {x : PyExc} (hne : rjobId ≠ "")
    (hx : x ≠ .rjobDependencyError) (hStop : sv.stop platform rjobId (.error x) p) :
    ∃ w', Exec sv.system (α := Except PyExc Unit) o.reconcileOnce (closingWorld platform rjobId)
      (.error x) w' := by
  have hActive : Exec sv.system (α := Except PyExc Unit) o.reconcileActive
      (closingWorld platform rjobId) (.ok ())
      ((closingWorld platform rjobId).record .listActive []) :=
    Exec.task_ok (a := []) (.call .refl ⟨⟨.nil, .nil⟩, rfl⟩ (.done _ _)) (.done _ _)
  have hList : Exec sv.system (α := Except PyExc (List ControlJob)) Coroutine.listCleanupPending
      ((closingWorld platform rjobId).record .listActive []) (.ok [closingRow rjobId])
      (((closingWorld platform rjobId).record .listActive []).record .listCleanupPending
        [closingRow rjobId]) :=
    .call .refl ⟨⟨.refl _, List.pairwise_singleton _ _⟩, rfl⟩ (.done _ _)
  generalize hListed : ((closingWorld platform rjobId).record .listActive []).record
    .listCleanupPending [closingRow rjobId] = listed at hList
  have hGet : Exec sv.system (α := Except PyExc (Option ControlJob))
      (Coroutine.get (closingRow rjobId).jobId) listed (.ok (some (closingRow rjobId)))
      (listed.record (.get (closingRow rjobId).jobId) (some (closingRow rjobId))) := by
    refine .call .refl ⟨?_, rfl⟩ (.done _ _)
    rw [← hListed]
    rfl
  have hCleanup := exec_closing_row (o := o) hne hx hStop
    (w := listed.record (.get (closingRow rjobId).jobId) (some (closingRow rjobId)))
    (by rw [← hListed]; rfl)
  exact ⟨_, Exec.task_ok hActive (Exec.task_ok hList (Exec.task_error
    (Exec.task_ok hGet hCleanup)))⟩

/-- Every pass over every set of Jobs is isolated if and only if the RJob client never raises
anything but `RJobDependencyError` from a stop. -/
theorem passes_isolated_iff :
    (∀ w result w', Inv sv w → unrecorded w.trace = none →
      Exec sv.system (α := Except PyExc Unit) o.reconcileOnce w result w' →
      Isolated o sv w result w') ↔
    sv.StopsCleanly := by
  constructor
  · intro h p rjobId x p' hne hStop
    by_contra hx
    obtain ⟨w', hExec⟩ := exec_closing (o := o) hne hx hStop
    have hIsolated := h _ _ _ (closingWorld_inv p rjobId) rfl hExec
    cases hIsolated.returns
  · exact fun hStops w result w' hInv hr hExec => hStops.isolated hInv hr hExec

/-- A platform whose connection breaks while it answers a stop. -/
def brokenScript : Script Unit :=
  { sampleScript with stop := fun _ _ => (.error (.other "IncompleteRead"), ()) }

/-- The close of a running Job ends the pass that should clean it up, and the orchestrator. -/
theorem broken_stop_ends_pass :
    ¬ ∀ w result w', brokenScript.services.Reaches sampleOrchestrator (fun _ _ _ => True)
        ⟨sampleWorld (), none⟩ ⟨w, none⟩ →
      Exec brokenScript.services.system (α := Except PyExc Unit) sampleOrchestrator.reconcileOnce
        w result w' → Isolated sampleOrchestrator brokenScript.services w result w' := by
  intro h
  have hIdle := brokenScript.reaches_idle sampleOrchestrator (sampleWorld ()) (by decide +kernel)
  have hRaised : (brokenScript.pass sampleOrchestrator
      (Script.closed (brokenScript.pass sampleOrchestrator (sampleWorld ())).2 "job")).1 ≠
        .ok () := by
    decide +kernel
  have hReaches := (hIdle.trans (brokenScript.reaches_closed "job")).always
  exact hRaised (h _ _ _ hReaches (brokenScript.exec_pass sampleOrchestrator _)).returns

end SafactoryServer
