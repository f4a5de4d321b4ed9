import SafactoryServer.LeftBehind

/-! Cleanup over HTTP: an attempt finishes only if none of the recorded RJobs is gone already, and
the client accepts what the control plane says of their deletion. -/

namespace SafactoryServer

open Effect
open Relation (ReflTransGen)

variable {P : Type} {o : RealJobOrchestrator} {sv : Services P} {alive : P → String → Prop}
  {body : String → Content} {w w' w₁ : World P} {live : String → Prop}

/-- The control plane answers the DELETE of an existing RJob with success, with any body, and any
other with HTTP 404; only these calls and creates change which RJobs exist. -/
structure Services.Deletes (sv : Services P) (alive : P → String → Prop)
    (body : String → Content) : Prop where
  stop {p p' : P} {rjobId : String} {answer : Except PyExc Unit} : sv.stop p rjobId answer p' →
    (alive p rjobId → answer = HttpRJobClient.stop (.success (body rjobId)) ∧
      ∀ other, alive p' other ↔ alive p other ∧ other ≠ rjobId) ∧
    (¬ alive p rjobId → answer = HttpRJobClient.stop (.status 404) ∧
      ∀ other, alive p' other ↔ alive p other)
  get {p p' : P} {rjobId : String} {answer : Except PyExc RJobSnapshot} :
    sv.get p rjobId answer p' → ∀ other, alive p' other ↔ alive p other
  ready {p p' : P} {url path : String} {answer : Except PyExc Bool} :
    sv.ready p url path answer p' → ∀ other, alive p' other ↔ alive p other
  bind {p p' : P} {jobId rangeId : String} {answer : Except PyExc JobFileBinding} :
    sv.bind p jobId rangeId answer p' → ∀ other, alive p' other ↔ alive p other
  drift {p p' : P} : sv.drift p p' → ∀ other, alive p' other ↔ alive p other

/-- The RJobs of `live` that these stops left. -/
def Left (live : String → Prop) (stops : List (String × Except PyExc Unit)) (rjobId : String) :
    Prop :=
  live rjobId ∧ rjobId ∉ stops.map (·.1)

theorem left_cons {stop : String × Except PyExc Unit} {stops : List (String × Except PyExc Unit)}
    {rjobId : String} :
    Left live (stop :: stops) rjobId ↔ Left live stops rjobId ∧ rjobId ≠ stop.1 := by
  rw [Left, Left, List.map_cons, List.mem_cons]
  tauto

/-- The control plane answered these stops, newest first, from a state in which the RJobs of `live`
existed. -/
def Answers (live : String → Prop) (body : String → Content) :
    List (String × Except PyExc Unit) → Prop
  | [] => True
  | (rjobId, answer) :: rest =>
    (Left live rest rjobId → answer = HttpRJobClient.stop (.success (body rjobId))) ∧
      (¬ Left live rest rjobId → answer = .error .rjobDependencyError) ∧ Answers live body rest

/-- The calls since `w` created RJobs, or the control plane answered every stop among them and knows
the RJobs of `w` that were not deleted. -/
def Tracks (alive : P → String → Prop) (body : String → Content) (w w' : World P) : Prop :=
  ∃ new, w'.trace = new ++ w.trace ∧
    ((∃ spec answer, .call (.createRJob spec) answer ∈ new) ∨
      Answers (alive w.platform) body (stopsOf new) ∧
        ∀ rjobId, alive w'.platform rjobId ↔ Left (alive w.platform) (stopsOf new) rjobId)

theorem Tracks.refl (w : World P) : Tracks alive body w w :=
  ⟨[], rfl, .inr ⟨trivial, fun rjobId => by simp [Left, stopsOf]⟩⟩

/-- A step without a stop that keeps the RJobs. -/
theorem Tracks.kept (h : Tracks alive body w w₁) (events : List TraceEvent)
    (hTrace : w'.trace = events ++ w₁.trace) (hStops : stopsOf events = [])
    (hAlive : ∀ other, alive w'.platform other ↔ alive w₁.platform other) :
    Tracks alive body w w' := by
  obtain ⟨new, hNew, hCase⟩ := h
  refine ⟨events ++ new, by rw [hTrace, hNew, List.append_assoc], ?_⟩
  rcases hCase with ⟨spec, answer, hMem⟩ | ⟨hAnswers, hLive⟩
  · exact .inl ⟨spec, answer, List.mem_append_right _ hMem⟩
  · rw [stopsOf_append, hStops, List.nil_append]
    exact .inr ⟨hAnswers, fun rjobId => (hAlive rjobId).trans (hLive rjobId)⟩

theorem Tracks.stop (hDeletes : sv.Deletes alive body) (h : Tracks alive body w w₁)
    {rjobId : String} {answer : Except PyExc Unit}
    (hp : sv.Performs (.stopRJob rjobId) w₁ answer w') : Tracks alive body w w' := by
  have hTrace := hp.trace (by simp)
  obtain ⟨p, hStop, heq⟩ := hp
  obtain rfl : w'.platform = p := by rw [heq]; rfl
  obtain ⟨hExists, hGone⟩ := hDeletes.stop hStop
  obtain ⟨new, hNew, hCase⟩ := h
  refine ⟨_ :: new, by rw [hTrace, hNew]; rfl, ?_⟩
  rcases hCase with ⟨spec, created, hMem⟩ | ⟨hAnswers, hLive⟩
  · exact .inl ⟨spec, created, List.mem_cons_of_mem _ hMem⟩
  refine .inr ?_
  rw [stopsOf]
  by_cases hAlive : alive w₁.platform rjobId
  · obtain ⟨hAnswer, hAfter⟩ := hExists hAlive
    refine ⟨⟨fun _ => hAnswer, fun hNot => absurd ((hLive rjobId).mp hAlive) hNot, hAnswers⟩, ?_⟩
    intro other
    rw [hAfter, hLive, left_cons]
  · obtain ⟨hAnswer, hAfter⟩ := hGone hAlive
    have hNot : ¬ Left (alive w.platform) (stopsOf new) rjobId := fun hYes =>
      hAlive ((hLive rjobId).mpr hYes)
    refine ⟨⟨fun hYes => absurd hYes hNot, fun _ => hAnswer, hAnswers⟩, ?_⟩
    intro other
    rw [hAfter, hLive, left_cons]
    refine ⟨fun hLeft => ⟨hLeft, ?_⟩, And.left⟩
    rintro rfl
    exact hNot hLeft

theorem tracks_preserved (hDeletes : sv.Deletes alive body) (w : World P) :
    (protocol o sv).Preserves sv.system (Tracks alive body w) fun _ _ _ => True := by
  have hPerforms : ∀ {w₁ w' : World P} {e : Op} {answer : Ans e}, Tracks alive body w w₁ →
      sv.Performs e w₁ answer w' → Tracks alive body w w' := by
    intro w₁ w' e answer h hp
    have hLocal : e.isLocal = true → e ≠ .now → Tracks alive body w w' := fun hLocal hNow =>
      h.kept [_] (hp.trace hNow)
        (by cases e <;> first | rfl | cases hLocal) (by simp [hp.platform hLocal])
    cases e with
    | now =>
      obtain ⟨-, rfl⟩ := hp
      exact h
    | listActive | listCleanupPending | get | update | addEvent => exact hLocal rfl (by simp)
    | stopRJob rjobId => exact h.stop hDeletes hp
    | createRJob spec =>
      obtain ⟨new, hNew, -⟩ := h
      exact ⟨_ :: new, by rw [hp.trace (by simp), hNew]; rfl,
        .inl ⟨spec, answer, List.mem_cons_self⟩⟩
    | getRJob | ready | bind =>
      have hTrace := hp.trace (by simp)
      obtain ⟨p, hCall, rfl⟩ := hp
      refine h.kept [_] hTrace rfl ?_
      first | exact hDeletes.get hCall | exact hDeletes.ready hCall | exact hDeletes.bind hCall
  have hRestart : ∀ {w₁ : World P}, Tracks alive body w w₁ →
      Tracks alive body w w₁.restart := fun h =>
    h.kept [.restart] rfl rfl fun _ => Iff.rfl
  refine ⟨fun _ h hStep _ => ?_, fun _ _ _ _ _ h hp _ => hPerforms h hp, fun _ h hCrash _ => ?_,
    fun _ _ _ _ _ h hp hCrash _ => ?_⟩
  · refine h.kept [] (Later.of_interferes hStep).trace rfl ?_
    cases hStep with
    | drift hd => exact hDeletes.drift hd
    | close | accept | event | tick => exact fun _ => Iff.rfl
  · cases hCrash
    exact hRestart h
  · cases hCrash
    exact hRestart (hPerforms h hp)

/-- Every RJob that the row records exists, the client accepts the reply to its deletion, and no two
of them are one. -/
structure ControlJob.Deletable (row : ControlJob) (live : String → Prop) (body : String → Content) :
    Prop where
  present : ∀ rjobId, row.Has rjobId → rjobId ≠ "" → live rjobId
  accepted : ∀ rjobId, row.Has rjobId → rjobId ≠ "" → (body rjobId).Accepted
  distinct : row.gatewayRjobId.getD "" = row.safactoryRjobId.getD "" →
    row.gatewayRjobId.getD "" = ""

theorem StopOrder.left {row : ControlJob} {rjobId : String}
    {stops : List (String × Except PyExc Unit)} (h : StopOrder row rjobId stops)
    (hRow : row.Deletable live body) : Left live stops rjobId := by
  refine ⟨hRow.present rjobId h.recorded h.ne_empty, ?_⟩
  cases h with
  | controller | gateway => exact List.not_mem_nil
  | gatewayLast hGateway => exact fun hMem => hGateway (hRow.distinct (List.mem_singleton.mp hMem))

/-- A stop that raised is that of an RJob which is gone, or the reply to it was not accepted. -/
theorem Answers.refused {row : ControlJob} {rjobId : String} {x : PyExc}
    {stops : List (String × Except PyExc Unit)} (hOrder : StopOrder row rjobId stops)
    (h : Answers live body ((rjobId, .error x) :: stops)) : ¬ row.Deletable live body := by
  intro hRow
  have hStop : .error x = HttpRJobClient.stop (.success (body rjobId)) := h.1 (hOrder.left hRow)
  rw [(HttpRJobClient.stop_success_iff _).mpr
    (hRow.accepted rjobId hOrder.recorded hOrder.ne_empty)] at hStop
  cases hStop

theorem Answers.ok {rjobId : String} {rest : List (String × Except PyExc Unit)}
    (h : Answers live body ((rjobId, .ok ()) :: rest)) :
    Left live rest rjobId ∧ (body rjobId).Accepted := by
  by_cases hLeft : Left live rest rjobId
  · exact ⟨hLeft, (HttpRJobClient.stop_success_iff _).mp (h.1 hLeft).symm⟩
  · cases h.2.1 hLeft

/-- The RJobs of an attempt whose stops all returned existed, and the replies were accepted. -/
theorem Answers.deletable {row : ControlJob} (h : Answers live body row.allStops) :
    row.Deletable live body := by
  have hGateway : row.gatewayRjobId.getD "" ≠ "" →
      (live (row.gatewayRjobId.getD "") ∧ (body (row.gatewayRjobId.getD "")).Accepted) ∧
        row.gatewayRjobId.getD "" ≠ row.safactoryRjobId.getD "" := by
    intro hne
    rw [ControlJob.allStops, if_neg hne, List.singleton_append] at h
    obtain ⟨⟨hLive, hNot⟩, hBody⟩ := h.ok
    refine ⟨⟨hLive, hBody⟩, fun heq => hNot ?_⟩
    rw [← heq, if_neg hne]
    exact List.mem_singleton_self _
  have hController : row.safactoryRjobId.getD "" ≠ "" →
      live (row.safactoryRjobId.getD "") ∧ (body (row.safactoryRjobId.getD "")).Accepted := by
    intro hne
    have hRest : Answers live body [(row.safactoryRjobId.getD "", .ok ())] := by
      rw [ControlJob.allStops, if_neg hne] at h
      split at h
      · exact h
      · exact h.2.2
    exact ⟨hRest.ok.1.1, hRest.ok.2⟩
  have hEach : ∀ rjobId, row.Has rjobId → rjobId ≠ "" → live rjobId ∧ (body rjobId).Accepted := by
    intro rjobId hHas hne
    rcases hHas with hid | hid
    · rw [hid] at hGateway
      exact (hGateway hne).1
    · rw [hid] at hController
      exact hController hne
  refine ⟨fun rjobId hHas hne => (hEach rjobId hHas hne).1,
    fun rjobId hHas hne => (hEach rjobId hHas hne).2, fun heq => ?_⟩
  by_contra hne
  exact (hGateway hne).2 heq

/-- The cleanup of `row` is over in `w`, and its RJobs are gone. -/
def CleanedUp (alive : P → String → Prop) (row : ControlJob) (w : World P) : Prop :=
  (∃ row', w.jobs.find row.jobId = some row' ∧ row'.cleanupRequested = 0 ∧
    row'.status = (if row.status = .closing then .closed else row.status)) ∧
    ∀ rjobId, row.Has rjobId → rjobId ≠ "" → ¬ alive w.platform rjobId

/-- A cleanup attempt finishes if and only if every recorded RJob still exists when it begins and
the client accepts the reply to its deletion: the HTTP 404 for an RJob that is gone postpones it,
and so does the body of a success that is no JSON object. -/
theorem retry_finishes_iff {job row : ControlJob} {result : Except PyExc Unit}
    (hDeletes : sv.Deletes alive body) (hKeep : o.settings.keepRjobs = false) (hInv : Inv sv w)
    (hr : unrecorded w.trace = none) (hf : w.jobs.find job.jobId = some row)
    (hs : row.status = .closing ∨ row.status = .failed ∨ row.status = .succeeded)
    (hc : row.cleanupRequested = 1)
    (hExec : Exec sv.system (α := Except PyExc Unit) (o.cleanup job) w result w') :
    CleanedUp alive row w' ↔ row.Deletable (alive w.platform) body := by
  have ha : row.active = false := by
    rcases hs with hs | hs | hs <;> simp [ControlJob.active, hs]
  obtain ⟨hEnds, -, new, hNew, hCase⟩ := Contract.ofExec
    ((protocol_kept o sv fun _ _ _ => True).also (tracks_preserved hDeletes w))
    (fun _ _ _ => trivial) (fun _ _ _ _ _ => trivial)
    (Contract.also_safe (cleanup_safe hf hr ha)) ⟨hInv, .refl w⟩ hExec
  have hAnswers : ∀ {calls stops}, CleanupCalls stops calls → w'.trace = calls ++ w.trace →
      Answers (alive w.platform) body stops ∧
        ∀ rjobId, alive w'.platform rjobId ↔ Left (alive w.platform) stops rjobId := by
    intro calls stops hCalls hTrace
    obtain rfl := List.append_cancel_right (hNew.symm.trans hTrace)
    rw [← hCalls.stops]
    refine hCase.resolve_left ?_
    rintro ⟨spec, answer, hMem⟩
    exact hCalls.creates spec answer hMem
  cases result with
  | ok =>
    obtain ⟨last, calls, stops, hLast, hTrace, hCalls, hOutcome⟩ := Cleaned.outcome hEnds
    obtain ⟨hStops, hLive⟩ := hAnswers hCalls hTrace
    cases hOutcome with
    | finished _ _ hAll hZero hStatus =>
      obtain rfl := hAll (.inl hKeep)
      refine ⟨fun _ => hStops.deletable, fun _ => ⟨⟨last, hLast, hZero, hStatus⟩, ?_⟩⟩
      intro rjobId hHas hne hAlive
      have hStopped := (allStops_stopped row).recorded hne hHas
      exact ((hLive rjobId).mp hAlive).2 (List.mem_map_of_mem (f := (·.1)) hStopped)
    | postponed rjobId rest heq hOrder =>
      constructor
      · rintro ⟨⟨row', hf', hZero, -⟩, -⟩
        rw [Option.some.inj (hf'.symm.trans hLast), heq, hc] at hZero
        cases hZero
      · exact fun hRow => absurd hRow (hStops.refused hOrder)
  | error x =>
    have hRaised := CleanupRaised.toStopRaised hEnds
    obtain ⟨rjobId, stops, calls, hTrace, hOrder, hCalls⟩ := hRaised.raised
    have hStops := (hAnswers hCalls.stop hTrace).1
    refine ⟨?_, fun hRow => absurd hRow (hStops.refused hOrder)⟩
    -- The exception leaves the row as the attempt found it.
    rintro ⟨⟨row', hf', hZero, -⟩, -⟩
    rw [Option.some.inj (hf'.symm.trans hRaised.found), hc] at hZero
    cases hZero

/-! ### An attempt after the Gateway was deleted -/

/-- A control plane over HTTP that has these RJobs. -/
def httpCloud : Script (List String) where
  create p spec := (.ok spec.idempotencyKey, spec.idempotencyKey :: p)
  get p rjobId := ((sampleScript.get () rjobId).1, p)
  stop p rjobId :=
    if rjobId ∈ p then (HttpRJobClient.stop (.success .empty), p.filter (· ≠ rjobId))
    else (HttpRJobClient.stop (.status 404), p)
  ready p url path := ((sampleScript.ready () url path).1, p)
  bind p jobId rangeId := ((sampleScript.bind () jobId rangeId).1, p)

theorem httpCloud_deletes :
    httpCloud.services.Deletes (fun p rjobId => rjobId ∈ p) fun _ => .empty where
  stop {p p' rjobId answer} h := by
    have hStop : httpCloud.stop p rjobId = (answer, p') := h
    by_cases hMem : rjobId ∈ p
    · simp only [httpCloud, hMem, if_true, Prod.mk.injEq] at hStop
      obtain ⟨rfl, rfl⟩ := hStop
      exact ⟨fun _ => ⟨rfl, fun other => by simp⟩, fun hNot => absurd hMem hNot⟩
    · simp only [httpCloud, hMem, if_false, Prod.mk.injEq] at hStop
      obtain ⟨rfl, rfl⟩ := hStop
      exact ⟨fun hYes => absurd hYes hMem, fun _ => ⟨rfl, fun _ => Iff.rfl⟩⟩
  get h := by
    cases h
    exact fun _ => Iff.rfl
  ready h := by
    cases h
    exact fun _ => Iff.rfl
  bind h := by
    cases h
    exact fun _ => Iff.rfl
  drift h := h.elim

/-- The cleanup attempt of a closing Job, run on that control plane. -/
def cleanupOf (p : List String) : Except PyExc Unit × World (List String) :=
  Program.run (α := Except PyExc Unit) httpCloud.answer
    (sampleOrchestrator.cleanup (closingRow "gateway-1")) (closingWorld p "gateway-1")

theorem exec_cleanupOf (p : List String) :
    Exec httpCloud.services.system (α := Except PyExc Unit)
      (sampleOrchestrator.cleanup (closingRow "gateway-1")) (closingWorld p "gateway-1")
      (cleanupOf p).1 (cleanupOf p).2 :=
  Exec.ofRun (S := httpCloud.services.system) httpCloud.performs _ _

/-- With its Gateway in place the Job is closed. -/
theorem retry_finishes_present :
    CleanedUp (fun p rjobId => rjobId ∈ p) (closingRow "gateway-1")
      (cleanupOf ["gateway-1"]).2 := by
  have hFound : (closingWorld ["gateway-1"] "gateway-1").jobs.find
      (closingRow "gateway-1").jobId = some (closingRow "gateway-1") := rfl
  refine (retry_finishes_iff httpCloud_deletes rfl (closingWorld_inv _ _) rfl hFound (.inl rfl) rfl
    (exec_cleanupOf _)).mpr ⟨?_, fun _ _ _ => .inl rfl, ?_⟩
  · rintro rjobId (hid | hid) -
    · obtain rfl : "gateway-1" = rjobId := Option.some.inj hid
      exact List.mem_singleton_self _
    · cases hid
  · decide

/-- The attempt at a closing Job whose Gateway is gone leaves the Job closing, for good. -/
theorem deleted_gateway_postpones :
    ¬ ∀ w row result w', Inv httpCloud.services w → unrecorded w.trace = none →
      w.jobs.find row.jobId = some row → row.status = .closing → row.cleanupRequested = 1 →
      Exec httpCloud.services.system (α := Except PyExc Unit) (sampleOrchestrator.cleanup row) w
        result w' →
      CleanedUp (fun p rjobId => rjobId ∈ p) row w' := by
  intro h
  obtain ⟨⟨row', hf', hZero, -⟩, -⟩ := h _ (closingRow "gateway-1") _ _ (closingWorld_inv [] _) rfl
    rfl rfl rfl (exec_cleanupOf [])
  have hPending : ∃ row', (cleanupOf []).2.jobs.find "job" = some row' ∧
      row'.cleanupRequested = 1 := by
    decide +kernel
  obtain ⟨last, hLast, hOne⟩ := hPending
  obtain rfl : row' = last := Option.some.inj (hf'.symm.trans hLast)
  rw [hZero] at hOne
  cases hOne

end SafactoryServer
