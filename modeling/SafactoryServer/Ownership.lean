import SafactoryServer.Backend

/-! A user sees only the Jobs that the user owns: no request tells apart two control databases that
agree on these, asks the data platform about another Job, or changes anything of another Job. -/

namespace SafactoryServer

open Effect

/-- `u` owns the Job `jobId`. -/
def Owns (u : String) (jobs : JobTable) (jobId : String) : Prop :=
  ∃ row ∈ jobs.rows, row.jobId = jobId ∧ row.ownerUsername = u

/-- Two control databases have the same Jobs of `u`. -/
def AgreeOn (u : String) (s s' : ControlState) : Prop :=
  ∀ row, row.ownerUsername = u → (row ∈ s.jobs.rows ↔ row ∈ s'.jobs.rows)

/-- The rows of Jobs that `u` does not own. -/
def foreignRows (u : String) (s : ControlState) : List ControlJob :=
  s.jobs.rows.filter (·.ownerUsername ≠ u)

/-- Two runs for `u` that have come from `s₀` and a control database with the same Jobs of `u`. -/
structure SameView (u : String) (s₀ s s' : ControlState) : Prop where
  agree : AgreeOn u s s'
  owns : ∀ jobId, Owns u s.jobs jobId ↔ Owns u s₀.jobs jobId
  others : foreignRows u s = foreignRows u s₀
  events : ∃ added, s.events = s₀.events ++ added ∧ ∀ e ∈ added, Owns u s₀.jobs e.jobId

/-- A call for `u` queries the data platform for a Job of `u` only. -/
def AsksOwn (u : String) (s₀ : ControlState) (e : ApiOp) : Prop :=
  ∀ jobId, e.queriedJob = some jobId → Owns u s₀.jobs jobId

namespace JobTable

variable {t : JobTable} {j : String} {current row : ControlJob}

theorem mem_replaced_iff (h : t.find j = some current) (hrow : row.jobId = j) (r : ControlJob) :
    r ∈ t.replaced row ↔ r = row ∨ r ∈ t.rows ∧ r.jobId ≠ j := by
  subst hrow
  constructor
  · exact mem_replaced
  · simp only [replaced, List.mem_map]
    rintro (rfl | ⟨hr, hne⟩)
    · exact ⟨current, find_mem h, if_pos (find_jobId h)⟩
    · exact ⟨r, hr, if_neg hne⟩

/-- A replaced row shows only where it is selected. -/
theorem filter_replaced {p : ControlJob → Bool} (h : t.find j = some current) (hrow : row.jobId = j)
    (hc : p current = false) (hp : p row = false) :
    (t.replaced row).filter p = t.rows.filter p := by
  have hsel : ∀ r ∈ t.rows, r.jobId = row.jobId → p r = false := by
    intro r hr hj
    rw [eq_of_mem hr (find_mem h) (hj.trans (hrow.trans (find_jobId h).symm))]
    exact hc
  rw [replaced, List.filter_map]
  have hcongr : t.rows.filter (p ∘ fun r => if r.jobId = row.jobId then row else r) =
      t.rows.filter p := by
    refine List.filter_congr fun r hr => ?_
    rw [Function.comp_apply]
    split
    · next hj => rw [hp, hsel r hr hj]
    · rfl
  rw [hcongr]
  refine (List.map_congr_left fun r hr => ?_).trans (List.map_id _)
  obtain ⟨hr, hpr⟩ := List.mem_filter.mp hr
  rw [if_neg fun hj => by rw [hsel r hr hj] at hpr; cases hpr]
  rfl

end JobTable

section

variable {u jobId : String} {s₀ s s' : ControlState}

theorem AgreeOn.sameView (h : AgreeOn u s s') : SameView u s s s' :=
  ⟨h, fun _ => Iff.rfl, rfl, [], (List.append_nil _).symm, by simp⟩

/-- Both databases have the row of an owned Job. -/
theorem SameView.find (h : SameView u s₀ s s') (howns : Owns u s₀.jobs jobId) :
    ∃ row, s.jobs.find jobId = some row ∧ s'.jobs.find jobId = some row ∧
      row.ownerUsername = u := by
  obtain ⟨row, hrow, rfl, hu⟩ := (h.owns jobId).mpr howns
  exact ⟨row, JobTable.find_of_mem hrow, JobTable.find_of_mem ((h.agree row hu).mp hrow), hu⟩

/-- Neither database shows `u` the row of another Job. -/
theorem SameView.find_foreign (h : SameView u s₀ s s') (hforeign : ¬ Owns u s₀.jobs jobId) :
    (∀ row ∈ s.jobs.find jobId, row.ownerUsername ≠ u) ∧
      ∀ row ∈ s'.jobs.find jobId, row.ownerUsername ≠ u := by
  rw [← h.owns] at hforeign
  constructor
  · intro row hrow hu
    exact hforeign ⟨row, JobTable.find_mem hrow, JobTable.find_jobId hrow, hu⟩
  · intro row hrow hu
    exact hforeign ⟨row, (h.agree row hu).mpr (JobTable.find_mem hrow),
      JobTable.find_jobId hrow, hu⟩

/-- The close of an owned Job keeps the view of two runs. -/
theorem SameView.close {current : ControlJob} {now : Int} (h : SameView u s₀ s s')
    (hf : s.jobs.find jobId = some current) (hf' : s'.jobs.find jobId = some current)
    (hu : current.ownerUsername = u) :
    SameView u s₀
      { s with jobs := ⟨s.jobs.replaced (current.close now), JobTable.close_valid hf⟩ }
      { s' with jobs := ⟨s'.jobs.replaced (current.close now), JobTable.close_valid hf'⟩ } := by
  have hj : (current.close now).jobId = jobId :=
    (closeChanges.write_jobId current now).trans (JobTable.find_jobId hf)
  refine ⟨fun row hrow => ?_, fun i => ?_, ?_, h.events⟩
  · show row ∈ s.jobs.replaced _ ↔ row ∈ s'.jobs.replaced _
    rw [JobTable.mem_replaced_iff hf hj, JobTable.mem_replaced_iff hf' hj, h.agree row hrow]
  · rw [← h.owns i]
    constructor
    · rintro ⟨row, hrow, rfl, hru⟩
      rcases (JobTable.mem_replaced_iff hf hj row).mp hrow with rfl | ⟨hrow, -⟩
      · exact ⟨current, JobTable.find_mem hf, rfl, hu⟩
      · exact ⟨row, hrow, rfl, hru⟩
    · rintro ⟨row, hrow, rfl, hru⟩
      by_cases hi : row.jobId = jobId
      · exact ⟨current.close now, (JobTable.mem_replaced_iff hf hj _).mpr (.inl rfl),
          hj.trans hi.symm, hu⟩
      · exact ⟨row, (JobTable.mem_replaced_iff hf hj row).mpr (.inr ⟨hrow, hi⟩), rfl, hru⟩
  · rw [← h.others]
    have hclosed : (current.close now).ownerUsername = u := hu
    exact JobTable.filter_replaced hf hj (by simpa using hu) (by simpa using hclosed)

/-- An event of an owned Job keeps the view of two runs. -/
theorem SameView.event {e e' : JobEvent} (h : SameView u s₀ s s')
    (howns : Owns u s₀.jobs e.jobId) :
    SameView u s₀ { s with events := s.events ++ [e] } { s' with events := s'.events ++ [e'] } := by
  obtain ⟨added, hadded, hown⟩ := h.events
  refine ⟨h.agree, h.owns, h.others, added ++ [e], ?_, ?_⟩
  · rw [hadded, List.append_assoc]
  · intro f hf
    rcases List.mem_append.mp hf with hf | hf
    · exact hown f hf
    · rw [List.mem_singleton.mp hf]
      exact howns

end

/-! ### Each call and each request -/

section

variable {b : Backend} {u jobId : String} {s₀ s s' : ControlState} {α β : Type}

/-- Two runs of a task with the same view return the same value, which satisfies `Q`, or raise the
same exception. -/
def Alike (b : Backend) (u : String) (s₀ : ControlState) (p : ApiTask α) (Q : α → Prop)
    (s s' : ControlState) : Prop :=
  Task.Coupled b.answer b.answer (AsksOwn u s₀) (SameView u s₀) p p (fun a a' => a = a' ∧ Q a) s s'

namespace Alike

theorem bind {p : ApiTask α} {f : α → ApiTask β} {Q : α → Prop} {W : β → Prop}
    (h : Alike b u s₀ p Q s s')
    (hf : ∀ a t t', Q a → SameView u s₀ t t' → Alike b u s₀ (f a) W t t') :
    Alike b u s₀ (p >>= f) W s s' := by
  refine Task.Coupled.bind h ?_
  rintro a _ t t' ⟨rfl, ha⟩ ht
  exact hf a t t' ha ht

theorem pure {a : α} {Q : α → Prop} (h : SameView u s₀ s s') (ha : Q a) :
    Alike b u s₀ (pure a) Q s s' := Task.Coupled.pure ⟨rfl, ha⟩ h

theorem throw {Q : α → Prop} (x : ApiExc) (h : SameView u s₀ s s') :
    Alike b u s₀ (throw x : ApiTask α) Q s s' := Task.Coupled.throw x h

theorem lift {result : Except PyExc α} {Q : α → Prop} (h : SameView u s₀ s s')
    (hq : ∀ a, result = .ok a → Q a) : Alike b u s₀ (ApiTask.lift result) Q s s' := by
  cases result with
  | ok a => exact pure h (hq a rfl)
  | error x => exact throw (.python x) h

theorem tryCatch {p : ApiTask α} {f : ApiExc → ApiTask α} {Q : α → Prop}
    (h : Alike b u s₀ p Q s s')
    (hf : ∀ x t t', SameView u s₀ t t' → Alike b u s₀ (f x) Q t t') :
    Alike b u s₀ (tryCatch p f) Q s s' := Task.Coupled.tryCatch h hf

theorem map {p : ApiTask α} {f : α → β} {Q : α → Prop} (h : Alike b u s₀ p Q s s') :
    Alike b u s₀ (f <$> p) (fun _ => True) s s' := by
  refine Task.Coupled.map (h.mono ?_)
  rintro a _ ⟨rfl, -⟩
  exact ⟨rfl, trivial⟩

/-- A call whose answer is the same in every control database, and that leaves it as it is. -/
theorem ask {e : ApiOp} {r : ApiAns e} (hask : AsksOwn u s₀ e) (h : SameView u s₀ s s')
    (he : ∀ t, b.answer e t = (r, t)) :
    Alike b u s₀ (Task.ask e) (fun _ => True) s s' := by
  refine Task.Coupled.ask hask ?_ ?_
  · rw [he, he]
    exact ⟨rfl, trivial⟩
  · rw [he, he]
    exact h

end Alike

/-- A transaction fails in both runs, or in neither. -/
theorem transact_both {t : Transaction} {V : α → α → Prop}
    (result result' : Except PyExc (α × ControlState)) (h : SameView u s₀ s s')
    (hresult : Task.Both (fun x x' => V x.1 x'.1 ∧ SameView u s₀ x.2 x'.2) result result') :
    Task.Both V (b.transact t s result).1 (b.transact t s' result').1 ∧
      SameView u s₀ (b.transact t s result).2 (b.transact t s' result').2 := by
  unfold Backend.transact
  cases b.failing t with
  | some x => exact ⟨rfl, h⟩
  | none =>
    match result, result', hresult with
    | .ok x, .ok x', hx => exact hx
    | .error x, .error _, rfl => exact ⟨rfl, h⟩

theorem lift_both {V : α → α → Prop} {r r' : Except PyExc α} (hr : Task.Both V r r')
    (h : SameView u s₀ s s') :
    Task.Coupled b.answer b.answer (AsksOwn u s₀) (SameView u s₀) (ApiTask.lift r)
      (ApiTask.lift r') V s s' := by
  match r, r', hr with
  | .ok a, .ok a', hv => exact Task.Coupled.pure hv h
  | .error x, .error _, rfl => exact Task.Coupled.throw (ApiExc.python x) h

/-- The read of an owned Job. -/
theorem getJob_alike (h : SameView u s₀ s s') (howns : Owns u s₀.jobs jobId) :
    Alike b u s₀ (ApiTask.getJob jobId) (fun _ => True) s s' := by
  obtain ⟨row, hf, hf', -⟩ := h.find howns
  have hboth := transact_both (b := b) (t := .read) (V := fun r r' => r = r' ∧ True)
    (.ok (s.jobs.find jobId, s)) (.ok (s'.jobs.find jobId, s')) h
    ⟨⟨hf.trans hf'.symm, trivial⟩, h⟩
  exact Task.Coupled.bind (Task.Coupled.ask (by intro i hi; cases hi) hboth.1 hboth.2)
    fun r r' t t' hr ht => lift_both hr ht

/-- `_require_job` returns the row of an owned Job, and raises for any other Job. -/
theorem requireJob_alike {ctx : RequestContext} (hctx : ctx.username = some u)
    (h : SameView u s₀ s s') :
    Alike b u s₀ (RealRuntimeRepository.requireJob ctx jobId)
      (fun _ => Owns u s₀.jobs jobId) s s' := by
  by_cases howns : Owns u s₀.jobs jobId
  · obtain ⟨row, hf, hf', hu⟩ := h.find howns
    have hboth := transact_both (b := b) (t := .read)
      (V := fun r r' => r = some row ∧ r' = some row) (.ok (s.jobs.find jobId, s))
      (.ok (s'.jobs.find jobId, s')) h ⟨⟨hf, hf'⟩, h⟩
    refine Task.Coupled.bind (Task.Coupled.bind
      (Task.Coupled.ask (by intro i hi; cases hi) hboth.1 hboth.2)
      fun r r' t t' hr ht => lift_both hr ht) ?_
    rintro _ _ t t' ⟨rfl, rfl⟩ ht
    simp only [hctx, Option.any_some, hu, ne_eq, not_true_eq_false, decide_false]
    exact Task.Coupled.pure ⟨rfl, howns⟩ ht
  · obtain ⟨hf, hf'⟩ := h.find_foreign howns
    have hboth := transact_both (b := b) (t := .read)
      (V := fun r r' => (∀ row ∈ r, row.ownerUsername ≠ u) ∧ ∀ row ∈ r', row.ownerUsername ≠ u)
      (.ok (s.jobs.find jobId, s)) (.ok (s'.jobs.find jobId, s')) h ⟨⟨hf, hf'⟩, h⟩
    refine Task.Coupled.bind (Task.Coupled.bind
      (Task.Coupled.ask (by intro i hi; cases hi) hboth.1 hboth.2)
      fun r r' t t' hr ht => lift_both hr ht) ?_
    -- whichever of the two databases has the Job, its owner is another user
    have hforeign {row : ControlJob} (hrow : row.ownerUsername ≠ u) :
        ctx.username.any (row.ownerUsername ≠ ·) = true := by
      simp [hctx, hrow]
    rintro (_ | row) (_ | row') t t' ⟨hr, hr'⟩ ht
    · exact Task.Coupled.throw _ ht
    · dsimp only
      rw [if_pos (hforeign (hr' row' rfl))]
      exact Task.Coupled.throw _ ht
    · dsimp only
      rw [if_pos (hforeign (hr row rfl))]
      exact Task.Coupled.throw _ ht
    · dsimp only
      rw [if_pos (hforeign (hr row rfl)), if_pos (hforeign (hr' row' rfl))]
      exact Task.Coupled.throw _ ht

/-- The close of an owned Job. -/
theorem requestClose_alike {now : Int} (h : SameView u s₀ s s') (howns : Owns u s₀.jobs jobId) :
    Alike b u s₀ (ApiTask.requestClose jobId now) (fun _ => True) s s' := by
  obtain ⟨current, hf, hf', hu⟩ := h.find howns
  have hboth := transact_both (b := b) (t := .closeJob) (V := fun r r' => r = r' ∧ True)
    (do
      let closed ← s.jobs.requestClose jobId now
      return ((closed.1, closed.2.1), { s with jobs := closed.2.2 }))
    (do
      let closed ← s'.jobs.requestClose jobId now
      return ((closed.1, closed.2.1), { s' with jobs := closed.2.2 })) h (by
      rw [JobTable.requestClose_eq hf, JobTable.requestClose_eq hf']
      split
      · exact ⟨⟨rfl, trivial⟩, h.close hf hf' hu⟩
      · exact ⟨⟨rfl, trivial⟩, h⟩)
  exact Task.Coupled.bind (Task.Coupled.ask (by intro i hi; cases hi) hboth.1 hboth.2)
    fun r r' t t' hr ht => lift_both hr ht

/-- An event of an owned Job. -/
theorem addEvent_alike {e : JobEvent} (h : SameView u s₀ s s') (howns : Owns u s₀.jobs e.jobId) :
    Alike b u s₀ (ApiTask.addEvent e) (fun _ => True) s s' := by
  obtain ⟨row, hf, hf', -⟩ := h.find howns
  have hboth := transact_both (b := b) (t := .insertEvent) (V := fun r r' => r = r' ∧ True)
    (do
      let events ← s.jobs.insertEvent s.events e
      return ((), { s with events := events }))
    (do
      let events ← s'.jobs.insertEvent s'.events e
      return ((), { s' with events := events })) h (by
      rw [JobTable.insertEvent, JobTable.insertEvent, hf, hf']
      exact ⟨⟨rfl, trivial⟩, h.event howns⟩)
  exact Task.Coupled.bind (Task.Coupled.ask (by intro i hi; cases hi) hboth.1 hboth.2)
    fun r r' t t' hr ht => lift_both hr ht

theorem now_alike (h : SameView u s₀ s s') : Alike b u s₀ ApiTask.now (fun _ => True) s s' :=
  Alike.ask (by intro i hi; cases hi) h fun _ => rfl

namespace RealRuntimeRepository

variable {repo : RealRuntimeRepository} {ctx : RequestContext} {sessionId stepId : String}

theorem queried_alike {operation : String} {answer : Except DataPlatformError α}
    (h : SameView u s₀ s s') (howns : Owns u s₀.jobs jobId) :
    Alike b u s₀ (repo.queried jobId operation answer) (fun _ => True) s s' := by
  cases answer with
  | ok a => exact Alike.pure h trivial
  | error x =>
    have hevent : Alike b u s₀ (repo.queryFailed jobId operation) (fun _ => True) s s' :=
      Alike.bind (getJob_alike h howns) fun job _ _ _ ht =>
        Alike.bind (now_alike ht) fun now _ _ _ ht => addEvent_alike ht howns
    exact Alike.bind hevent fun _ t t' _ ht => Alike.throw _ ht

theorem trusted_alike {result : Except PyExc α} (h : SameView u s₀ s s') :
    Alike b u s₀ (trusted result) (fun _ => True) s s' := by
  unfold trusted
  split
  · exact Alike.throw _ h
  · exact Alike.lift h fun _ _ => trivial

theorem closeJob_alike (hctx : ctx.username = some u) (h : SameView u s₀ s s') :
    Alike b u s₀ (repo.closeJob ctx jobId) (fun _ => True) s s' := by
  refine Alike.bind (now_alike h) fun now t t' _ ht => ?_
  refine Alike.bind (Q := fun _ => True) (Alike.tryCatch ?_ fun x t t' ht => ?_)
    fun job t t' _ ht => ?_
  · refine Alike.bind (requireJob_alike hctx ht) fun _ t t' howns ht => ?_
    refine Alike.bind (requestClose_alike ht howns) fun closed t t' _ ht => ?_
    obtain ⟨job, transitioned⟩ := closed
    cases transitioned with
    | false => exact Alike.pure ht trivial
    | true =>
      exact Alike.bind (addEvent_alike ht howns) fun _ t t' _ ht => Alike.pure ht trivial
  · unfold closeFailed
    split
    · exact Alike.throw _ ht
    · split
      · exact Alike.throw _ ht
      · exact Alike.throw _ ht
    · exact Alike.throw _ ht
  · have hwake : Alike b u s₀ ApiTask.wakeOrchestrator (fun _ => True) t t' :=
      Alike.ask (by intro i hi; cases hi) ht fun _ => rfl
    unfold reportClose
    dsimp only
    split
    · exact Alike.bind hwake fun _ t t' _ ht => Alike.pure ht trivial
    · exact Alike.pure ht trivial

theorem listSessions_alike (hctx : ctx.username = some u) (h : SameView u s₀ s s') :
    Alike b u s₀ (repo.listSessions ctx jobId) (fun _ => True) s s' := by
  refine Alike.bind (requireJob_alike hctx h) fun job t t' howns ht => ?_
  refine Alike.bind (Alike.ask (by rintro _ ⟨⟩; exact howns) ht fun _ => rfl)
    fun answer t t' _ ht => ?_
  exact Alike.bind (queried_alike ht howns) fun _ t t' _ ht => Alike.pure ht trivial

/-- The file of a Session, and what is read of it, does not depend on the control database. -/
theorem boundFile_alike {error : String} {code : ErrorCode} {name : String} {document : Json}
    {read : SessionFile → Except PyExc (Option Row)} (h : SameView u s₀ s s') :
    Alike b u s₀ (boundFile error code read document jobId sessionId name) (fun _ => True)
      s s' := by
  refine Alike.tryCatch ?_ fun x t t' ht => ?_
  · refine Alike.bind (Alike.lift h fun _ _ => trivial) fun binding t t' _ ht => ?_
    refine Alike.bind (Alike.ask (by intro i hi; cases hi) ht fun _ => rfl)
      fun file t t' _ ht => ?_
    exact Alike.lift ht fun _ _ => trivial
  · cases x with
    | domain error => exact Alike.throw _ ht
    | python x =>
      show Alike b u s₀ (if isBindingExc error x then _ else _) _ t t'
      split
      · exact Alike.throw _ ht
      · exact Alike.throw _ ht

theorem resultArtifact_alike {rangeId : String} (h : SameView u s₀ s s') :
    Alike b u s₀ (repo.resultArtifact rangeId) (fun _ => True) s s' := by
  refine Alike.bind (trusted_alike h) fun rangeConfig t t' _ ht => ?_
  cases rangeConfig with
  | none => exact Alike.throw _ ht
  | some rangeConfig =>
    dsimp only
    split
    · exact Alike.pure ht trivial
    · exact Alike.throw _ ht

theorem withArtifact_alike {job : ControlJob} {name : String} {result : SessionResult}
    (h : SameView u s₀ s s') :
    Alike b u s₀ (withArtifact job jobId sessionId name result) (fun _ => True) s s' := by
  unfold withArtifact
  cases safeName sessionId with
  | false => exact Alike.throw _ h
  | true =>
    refine Alike.bind (Q := fun _ => True) ?_ fun payload t t' _ ht => ?_
    · unfold artifactOf
      split
      · exact Alike.pure h trivial
      · exact boundFile_alike h
    · show Alike b u s₀ (if payload.isNone ∧ result.resultStatus = .succeeded then _ else _) _ t t'
      split
      · exact Alike.throw _ ht
      · exact Alike.pure ht trivial

theorem getResult_alike (hctx : ctx.username = some u) (h : SameView u s₀ s s') :
    Alike b u s₀ (repo.getResult ctx jobId sessionId) (fun _ => True) s s' := by
  refine Alike.bind (requireJob_alike hctx h) fun job t t' howns ht => ?_
  refine Alike.bind (Alike.ask (by rintro _ ⟨⟩; exact howns) ht fun _ => rfl)
    fun answer t t' _ ht => ?_
  refine Alike.bind (queried_alike ht howns) fun result t t' _ ht => ?_
  cases result with
  | none => exact Alike.throw _ ht
  | some result =>
    have hend : ∀ (result : SessionResult) t t', SameView u s₀ t t' →
        Alike b u s₀ (if result.resultStatus = .pending ∨ result.resultStatus = .running then
          pure { result with retryAfterSeconds := some repo.retryAfterSeconds }
          else pure result) (fun _ => True) t t' := by
      intro result t t' ht
      split
      · exact Alike.pure ht trivial
      · exact Alike.pure ht trivial
    refine Alike.bind (resultArtifact_alike ht) fun artifact t t' _ ht => ?_
    cases artifact with
    | none => exact hend _ t t' ht
    | some name => exact Alike.bind (withArtifact_alike ht) fun result t t' _ ht => hend _ t t' ht

theorem withoutSnapshot_alike {job : ControlJob} (h : SameView u s₀ s s')
    (howns : Owns u s₀.jobs jobId) :
    Alike b u s₀ (repo.withoutSnapshot job jobId sessionId) (fun _ => True) s s' := by
  refine Alike.bind (Alike.ask (by rintro _ ⟨⟩; exact howns) h fun _ => rfl)
    fun answer t t' _ ht => ?_
  refine Alike.bind (queried_alike ht howns) fun sessionIds t t' _ ht => ?_
  by_cases hmem : sessionId ∈ sessionIds
  · simp only [hmem, not_true_eq_false, if_false]
    cases job.terminal with
    | true => exact Alike.throw _ ht
    | false => exact Alike.pure ht trivial
  · simp only [hmem, not_false_eq_true, if_true]
    exact Alike.throw _ ht

theorem getMilestones_alike (hctx : ctx.username = some u) (h : SameView u s₀ s s') :
    Alike b u s₀ (repo.getMilestones ctx jobId sessionId) (fun _ => True) s s' := by
  refine Alike.bind (requireJob_alike hctx h) fun job t t' howns ht => ?_
  refine Alike.bind (trusted_alike ht) fun rangeConfig t t' _ ht => ?_
  cases rangeConfig with
  | none => exact Alike.throw _ ht
  | some rangeConfig =>
    dsimp only
    cases rangeConfig.groups.all (·.supportsMilestones) with
    | false => exact Alike.throw _ ht
    | true =>
      cases safeName sessionId with
      | false => exact Alike.throw _ ht
      | true =>
        refine Alike.bind (Q := fun _ => True) ?_ fun snapshot t t' _ ht => ?_
        · unfold snapshotOf
          split
          · exact Alike.pure ht trivial
          · exact boundFile_alike ht
        · cases snapshot with
          | some snapshot => exact Alike.pure ht trivial
          | none => exact withoutSnapshot_alike ht howns

theorem getSteps_alike (hctx : ctx.username = some u) (h : SameView u s₀ s s') :
    Alike b u s₀ (repo.getSteps ctx jobId sessionId) (fun _ => True) s s' := by
  refine Alike.bind (requireJob_alike hctx h) fun job t t' howns ht => ?_
  refine Alike.bind (Alike.ask (by rintro _ ⟨⟩; exact howns) ht fun _ => rfl)
    fun answer t t' _ ht => ?_
  refine Alike.bind (queried_alike ht howns) fun result t t' _ ht => ?_
  cases result with
  | none => exact Alike.throw _ ht
  | some result => exact Alike.pure ht trivial

theorem getTrajectory_alike (hctx : ctx.username = some u) (h : SameView u s₀ s s') :
    Alike b u s₀ (repo.getTrajectory ctx jobId sessionId stepId) (fun _ => True) s s' := by
  refine Alike.bind (requireJob_alike hctx h) fun job t t' howns ht => ?_
  refine Alike.bind (Alike.ask (by rintro _ ⟨⟩; exact howns) ht fun _ => rfl)
    fun answer t t' _ ht => ?_
  refine Alike.bind (queried_alike ht howns) fun result t t' _ ht => ?_
  cases result with
  | some result => exact Alike.pure ht trivial
  | none =>
    refine Alike.bind (Alike.ask (by rintro _ ⟨⟩; exact howns) ht fun _ => rfl)
      fun steps t t' _ ht => ?_
    match steps with
    | .error _ | .ok none | .ok (some _) => exact Alike.throw _ ht

/-- Any request. -/
theorem serve_alike (hctx : ctx.username = some u) (h : SameView u s₀ s s') (request : Request) :
    Alike b u s₀ (repo.serve ctx request) (fun _ => True) s s' := by
  cases request with
  | closeJob jobId => exact Alike.map (closeJob_alike hctx h)
  | listSessions jobId => exact Alike.map (listSessions_alike hctx h)
  | getResult jobId sessionId => exact Alike.map (getResult_alike hctx h)
  | getMilestones jobId sessionId => exact Alike.map (getMilestones_alike hctx h)
  | getSteps jobId sessionId => exact Alike.map (getSteps_alike hctx h)
  | getTrajectory jobId sessionId stepId => exact Alike.map (getTrajectory_alike hctx h)

end RealRuntimeRepository

end

/-- Owner isolation.  Two control databases with the same Jobs of `u` serve each request of `u`
alike; the request queries the data platform for Jobs of `u` only, and leaves the rows of other Jobs
and their events as they are. -/
theorem owner_isolation (repo : RealRuntimeRepository) (b : Backend) (u : String)
    (requestId : Option String) (request : Request) (s s' : ControlState) (h : AgreeOn u s s') :
    let served := repo.serve { username := some u, requestId := requestId } request
    (served.run b.answer s).1 = (served.run b.answer s').1 ∧
      (∀ e ∈ served.calls b.answer s, ∀ jobId, e.queriedJob = some jobId → Owns u s.jobs jobId) ∧
      foreignRows u (served.run b.answer s).2 = foreignRows u s ∧
      ∃ added, (served.run b.answer s).2.events = s.events ++ added ∧
        ∀ e ∈ added, Owns u s.jobs e.jobId := by
  intro served
  have hserved : Alike b u s served (fun _ => True) s s' :=
    RealRuntimeRepository.serve_alike rfl h.sameView request
  refine ⟨Task.Both.eq (hserved.mono fun _ _ ha => ha.1).values, hserved.calls,
    hserved.states.others, hserved.states.events⟩

/-- A close request of "alice" for a Job of "bob", that exists in one of the two databases only. -/
theorem owner_isolation_close :
    let alice := newControlJob sampleJob 0
    let bob := newControlJob { sampleJob with jobId := "other", ownerUsername := "bob" } 0
    let s : ControlState := ⟨⟨[alice, bob], by decide⟩, []⟩
    let s' : ControlState := ⟨⟨[alice], by decide⟩, []⟩
    let served := sampleRepository.serve { username := some "alice" } (.closeJob "other")
    (served.run sampleBackend.answer s).1 = (served.run sampleBackend.answer s').1 ∧
      foreignRows "alice" (served.run sampleBackend.answer s).2 = foreignRows "alice" s := by
  intro alice bob s s' served
  have hagree : AgreeOn "alice" s s' := by
    intro row hrow
    have hbob : row ≠ bob := by
      rintro rfl
      exact absurd hrow (by decide)
    show row ∈ [alice, bob] ↔ row ∈ [alice]
    simp [hbob]
  obtain ⟨hvalue, -, hrows, -⟩ := owner_isolation sampleRepository sampleBackend "alice" none
    (.closeJob "other") s s' hagree
  exact ⟨hvalue, hrows⟩

end SafactoryServer
