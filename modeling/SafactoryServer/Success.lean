import SafactoryServer.Lifecycle

/-! What success rests on: the snapshots of the two adapters, the binding of the files, and the
branch of `_reconcile` that accepts a finished controller. -/

namespace SafactoryServer

open Effect
open Relation (ReflTransGen)

variable {P : Type}

/-- A snapshot that one of the adapters makes of an answer of the platform. -/
def FromAdapter (u : Unicode) (rjobId : String) (answer : Except PyExc RJobSnapshot) : Prop :=
  (∃ reply, answer = HttpRJobClient.get u rjobId reply) ∨
    ∃ port status, answer = BrainPPRJobClient.get u port rjobId status

/-- The document of a binding whose total is the sum over its groups. -/
def Totalled (document : Json) : Prop :=
  ∃ binding : JobFileBinding, document = binding.toJson ∧
    binding.totalEpisodes = episodes binding.groups

/-- The services are one of the two RJob clients and the shared file manager, whose published
bindings `published` reads off the state of the platform. -/
structure Services.Real (sv : Services P) (u : Unicode) (published : P → String → Option Json) :
    Prop where
  get {p p' : P} {rjobId : String} {answer : Except PyExc RJobSnapshot} :
    sv.get p rjobId answer p' → FromAdapter u rjobId answer ∧ published p' = published p
  bind {p p' : P} {jobId rangeId : String} {answer : Except PyExc JobFileBinding} :
    sv.bind p jobId rangeId answer p' →
      (∃ range, answer = bindJobFiles u (published p jobId) range jobId rangeId) ∧
      ∀ i document, published p' i = some document → published p i = some document ∨
        ∃ binding, answer = .ok binding ∧ document = binding.toJson
  create {p p' : P} {spec : RJobSpec} {answer : Except PyExc String} :
    sv.create p spec answer p' → published p' = published p
  stop {p p' : P} {rjobId : String} {answer : Except PyExc Unit} :
    sv.stop p rjobId answer p' → published p' = published p
  ready {p p' : P} {url path : String} {answer : Except PyExc Bool} :
    sv.ready p url path answer p' → published p' = published p
  drift {p p' : P} : sv.drift p p' → published p' = published p

/-- What the answers of real services leave in every state of a run. -/
structure Grounded (u : Unicode) (published : P → String → Option Json) (w : World P) : Prop where
  files {j : String} {document : Json} : published w.platform j = some document → Totalled document
  bindings {j rangeId : String} {binding : JobFileBinding} :
    .call (.bind j rangeId) (.ok binding) ∈ w.trace →
      binding.totalEpisodes = episodes binding.groups
  snapshots {rjobId : String} {snapshot : RJobSnapshot} :
    .call (.getRJob rjobId) (.ok snapshot) ∈ w.trace → FromAdapter u rjobId (.ok snapshot)
  rows {j : String} {row : ControlJob} {document : Json} : w.jobs.find j = some row →
    row.bindingJson = some document → Totalled document

theorem Write.bindingJson {o : RealJobOrchestrator} {trace : List TraceEvent} {row : ControlJob}
    {changes : Changes} (h : Write o trace row changes) :
    changes.bindingJson = none ∨ ∃ binding, changes.bindingJson = some (some binding.toJson) ∧
      .call (.bind row.jobId row.rangeId) (.ok binding) ∈ trace := by
  cases h with
  | bound binding _ _ _ hHead => exact .inr ⟨binding, rfl, List.mem_of_mem_head? hHead⟩
  | attempt | preparing | gatewaySubmitted | gatewayStatus | unhealthy | gatewayReady | running
  | recorded | controllerStatus | succeeded | failed | skipped | cleaned | closed => exact .inl rfl

section

variable {o : RealJobOrchestrator} {sv : Services P} {u : Unicode}
  {published : P → String → Option Json} {w₁ w w' : World P}

/-- What a call leaves of the published bindings. -/
theorem Services.Real.files (hReal : sv.Real u published) {e : Op} {answer : Ans e}
    (hp : sv.Performs e w answer w') {i : String} {document : Json}
    (hi : published w'.platform i = some document) :
    published w.platform i = some document ∨ ∃ j rangeId binding,
      w'.trace = .call (.bind j rangeId) (.ok binding) :: w.trace ∧ document = binding.toJson := by
  cases e with
  | now | listActive | listCleanupPending | get =>
    obtain ⟨-, rfl⟩ := hp
    exact .inl hi
  | update j now changes =>
    simp only [Services.Performs] at hp
    split at hp <;> (obtain ⟨-, rfl⟩ := hp; exact .inl hi)
  | addEvent event =>
    simp only [Services.Performs] at hp
    split at hp <;> (obtain ⟨-, rfl⟩ := hp; exact .inl hi)
  | createRJob =>
    obtain ⟨p, hc, rfl⟩ := hp
    exact .inl (hReal.create hc ▸ hi)
  | getRJob =>
    obtain ⟨p, hg, rfl⟩ := hp
    exact .inl ((hReal.get hg).2 ▸ hi)
  | stopRJob =>
    obtain ⟨p, hs, rfl⟩ := hp
    exact .inl (hReal.stop hs ▸ hi)
  | ready =>
    obtain ⟨p, hr, rfl⟩ := hp
    exact .inl (hReal.ready hr ▸ hi)
  | bind j rangeId =>
    obtain ⟨p, hb, rfl⟩ := hp
    rcases (hReal.bind hb).2 i document hi with hold | ⟨binding, rfl, hdoc⟩
    · exact .inl hold
    · exact .inr ⟨j, rangeId, binding, rfl, hdoc⟩

/-- A call of a pass keeps the ground of success. -/
theorem Grounded.performs (hReal : sv.Real u published) (h : Grounded u published w) {e : Op}
    {answer : Ans e} (ha : Allowed o sv w₁ e) (hw : Later sv w₁ w)
    (hp : sv.Performs e w answer w') : Grounded u published w' := by
  by_cases hnow : e = .now
  · subst hnow
    obtain ⟨-, rfl⟩ := hp
    exact h
  have hTrace := hp.trace hnow
  have hBindings : ∀ {j rangeId : String} {binding : JobFileBinding},
      .call (.bind j rangeId) (.ok binding) ∈ w'.trace →
        binding.totalEpisodes = episodes binding.groups := by
    intro j rangeId binding hMem
    rw [hTrace] at hMem
    rcases List.mem_cons.mp hMem with heq | hold
    · cases heq
      obtain ⟨p, hb, -⟩ := hp
      obtain ⟨range, hAnswer⟩ := (hReal.bind hb).1
      exact bindJobFiles_total hAnswer.symm fun document => h.files
    · exact h.bindings hold
  refine ⟨fun {i document} hi => ?_, hBindings, fun {rjobId snapshot} hMem => ?_,
    fun {j row' document} hf' hdoc => ?_⟩
  · rcases hReal.files hp hi with hold | ⟨j, rangeId, binding, ht, rfl⟩
    · exact h.files hold
    · exact ⟨binding, rfl, hBindings (ht ▸ List.mem_cons_self)⟩
  · rw [hTrace] at hMem
    rcases List.mem_cons.mp hMem with heq | hold
    · cases heq
      obtain ⟨p, hg, -⟩ := hp
      exact (hReal.get hg).1
    · exact h.snapshots hold
  · obtain ⟨row, hf, rfl | ⟨source, changes, -, hWritten⟩⟩ := hp.row_cases ha hw hf'
    · exact h.rows hf hdoc
    · obtain ⟨phase, now, rfl⟩ := hWritten.eq
      rcases hWritten.write.bindingJson with hnone | ⟨binding, hsome, hMem⟩
      · simp only [Changes.write, hnone, Option.getD_none] at hdoc
        exact h.rows hf hdoc
      · simp only [Changes.write, hsome, Option.getD_some, Option.some.injEq] at hdoc
        exact ⟨binding, hdoc.symm, h.bindings hMem⟩

theorem Grounded.restart (h : Grounded u published w) : Grounded u published w.restart :=
  ⟨h.files, fun hm => h.bindings (World.mem_restart.mp hm),
    fun hm => h.snapshots (World.mem_restart.mp hm), h.rows⟩

theorem grounded_preserved (hReal : sv.Real u published)
    (permitted : World P → Label Op Ans → World P → Prop) :
    (protocol o sv).Preserves sv.system (Grounded u published) permitted where
  interference {w w'} _ hJ h _ := by
    have hLater := Later.of_interferes h
    have hFiles : published w'.platform = published w.platform := by
      have hDrift := hLater.platform
      generalize w'.platform = p at hDrift
      induction hDrift with
      | refl => rfl
      | tail _ hStep ih => exact (hReal.drift hStep).trans ih
    refine ⟨fun hi => hJ.files (hFiles ▸ hi), fun hm => hJ.bindings (hLater.trace ▸ hm),
      fun hm => hJ.snapshots (hLater.trace ▸ hm), fun hf hdoc => ?_⟩
    rcases h.row_cases hf with ⟨row, hf', hc⟩ | ⟨new, now, -, -, rfl, -⟩
    · exact hJ.rows hf' (hc.keeps.1 ▸ hdoc)
    · cases hdoc
  answer _ _ ha hw _ hJ hp _ := hJ.performs hReal ha (.of_waits hw) hp
  crash _ hJ h _ := by
    cases h
    exact hJ.restart
  lost _ _ ha hw _ hJ hp h _ := by
    cases h
    exact (hJ.performs hReal ha (.of_waits hw) hp).restart

end

/-- The snapshot was made of an answer in which the platform named the state `succeeded`. -/
def NamedSucceeded (u : Unicode) (rjobId : String) (snapshot : RJobSnapshot) : Prop :=
  (∃ response text,
      HttpRJobClient.get u rjobId (.success (.json (.obj response))) = .ok snapshot ∧
      lookup "state" response = some (.str text) ∧ u.lowered text = "succeeded") ∨
    ∃ port status, BrainPPRJobClient.get u port rjobId (.ok (some status)) = .ok snapshot ∧
      u.lowered (u.strip status.text) = "succeeded"

/-- These calls of a pass have earned the row its success. -/
structure Earned (o : RealJobOrchestrator) (row : ControlJob) (calls : List TraceEvent) : Prop where
  controller : ∃ rjobId snapshot document binding, row.safactoryRjobId = some rjobId ∧
    .call (.getRJob rjobId) (.ok snapshot) ∈ calls ∧ snapshot.state = .succeeded ∧
    NamedSucceeded o.unicode rjobId snapshot ∧ row.bindingJson = some document ∧
    JobFileBinding.fromJson document = .ok binding ∧
    binding.totalEpisodes = episodes binding.groups ∧
    (snapshot.workloadSummary ≠ [] →
      lookup "total" snapshot.workloadSummary = some binding.totalEpisodes ∧
      lookup "succeeded" snapshot.workloadSummary = some binding.totalEpisodes ∧
      lookup "collected" snapshot.workloadSummary = some binding.totalEpisodes ∧
      (lookup "failed" snapshot.workloadSummary).getD 0 = 0 ∧
      (lookup "running" snapshot.workloadSummary).getD 0 = 0)
  gateway : ∃ rjobId snapshot, row.gatewayRjobId = some rjobId ∧ snapshot.state = .running ∧
    snapshot.ready = true ∧ row.gatewayUrl = some (o.gatewayUrlOf snapshot) ∧
    [.call (.ready (o.gatewayUrlOf snapshot) o.settings.gatewayHealthPath) (.ok true),
      .call (.getRJob rjobId) (.ok snapshot)].Sublist calls

theorem Earned.grows {o : RealJobOrchestrator} {row row' : ControlJob} {calls : List TraceEvent}
    (h : Earned o row calls) (hg : row.Grows row') : Earned o row' calls := by
  obtain ⟨rjobId, snapshot, document, binding, hid, hAsked, hs, hNamed, hdoc, hRest⟩ :=
    h.controller
  obtain ⟨gatewayId, gateway, hgid, hRunning, hReady, hurl, hsub⟩ := h.gateway
  refine ⟨⟨rjobId, snapshot, document, binding, ?_, hAsked, hs, hNamed, ?_, hRest⟩,
    ⟨gatewayId, gateway, ?_, hRunning, hReady, ?_, hsub⟩⟩
  · rw [(hg.controller (by rw [hid]; rfl)).1, hid]
  · rw [hg.binding (by rw [hdoc]; rfl), hdoc]
  · rw [hg.gateway (by rw [hgid]; rfl), hgid]
  · rw [hg.url (by rw [hurl]; rfl), hurl]

theorem FromAdapter.named {u : Unicode} {rjobId : String} {snapshot : RJobSnapshot}
    (h : FromAdapter u rjobId (.ok snapshot)) (hs : snapshot.state = .succeeded) :
    NamedSucceeded u rjobId snapshot := by
  rcases h with ⟨reply, heq⟩ | ⟨port, answer, heq⟩
  · obtain ⟨response, text, rfl, hState, hText, -⟩ := HttpRJobClient.get_succeeded heq.symm hs
    exact .inl ⟨response, text, heq.symm, hState, hText⟩
  · obtain ⟨status, rfl, hText, -⟩ := BrainPPRJobClient.get_succeeded heq.symm hs
    exact .inr ⟨port, status, heq.symm, hText⟩

theorem resultsComplete_counts {binding : JobFileBinding} {snapshot : RJobSnapshot}
    (h : resultsComplete binding snapshot = true) (hne : snapshot.workloadSummary ≠ []) :
    lookup "total" snapshot.workloadSummary = some binding.totalEpisodes ∧
      lookup "succeeded" snapshot.workloadSummary = some binding.totalEpisodes ∧
      lookup "collected" snapshot.workloadSummary = some binding.totalEpisodes ∧
      (lookup "failed" snapshot.workloadSummary).getD 0 = 0 ∧
      (lookup "running" snapshot.workloadSummary).getD 0 = 0 := by
  unfold resultsComplete at h
  simp only [List.isEmpty_iff, hne, if_false] at h
  simpa [and_assoc] using h

section

variable {o : RealJobOrchestrator} {sv : Services P} {published : P → String → Option Json}
  {w₀ : World P} {c c' : Config Op Ans (World P) (Except PyExc Unit)}

theorem Write.earned {trace : List TraceEvent} {row : ControlJob} {changes : Changes}
    {w : World P} (h : Write o trace row changes) (hs : changes.status = some .succeeded)
    (hGround : Grounded o.unicode published w) (ht : w.trace = trace)
    (hDoc : ∀ document, row.bindingJson = some document → Totalled document) :
    Earned o row (passCalls trace) := by
  cases h with
  | succeeded binding document rjobId snapshot now _ hid hdoc hb hAsked hState hComplete hGate =>
    obtain ⟨gatewayId, gateway, hgid, hRoute, hurl, hsub⟩ := hGate
    obtain ⟨binding', rfl, hTotal⟩ := hDoc document hdoc
    obtain rfl : binding' = binding := by
      rw [JobFileBinding.fromJson_toJson] at hb
      exact Except.ok.inj hb
    obtain ⟨hRunning, hReady⟩ := RealJobOrchestrator.gatewayHasRoute_running hRoute
    have hAnswer := hGround.snapshots (ht ▸ passCalls_subset _ hAsked)
    exact ⟨⟨rjobId, snapshot, _, binding', hid, hAsked, hState, hAnswer.named hState, hdoc, hb,
      hTotal, resultsComplete_counts hComplete⟩,
      ⟨gatewayId, gateway, hgid, hRunning, hReady, hurl, hsub⟩⟩
  | attempt | preparing | bound | gatewaySubmitted | gatewayStatus | unhealthy | gatewayReady
  | running | recorded | controllerStatus | failed | skipped | cleaned | closed => cases hs

/-- A Job becomes succeeded only in a pass that has earned it. -/
theorem success_earned {l : Label Op Ans} {j : String} {row row' : ControlJob}
    (hReal : sv.Real o.unicode published) (h₀ : sv.Initial w₀)
    (hFiles : ∀ i document, published w₀.platform i = some document → Totalled document)
    (h : sv.Reaches o (fun _ _ _ => True) ⟨w₀, none⟩ c)
    (hStep : sv.Steps o c l c')
    (hf : c.state.jobs.find j = some row) (hf' : c'.state.jobs.find j = some row')
    (hs : row.status ≠ .succeeded) (hs' : row'.status = .succeeded) :
    Earned o row' (passCalls c.state.trace) := by
  have hGround₀ : Grounded o.unicode published w₀ := by
    refine ⟨hFiles _ _, by simp [h₀.trace], by simp [h₀.trace], fun hf hdoc => ?_⟩
    obtain ⟨new, now, -, -, rfl⟩ := h₀.rows _ (JobTable.find_mem hf)
    cases hdoc
  obtain ⟨⟨-, hGround⟩, -⟩ := h.holds h₀ hGround₀ (grounded_preserved hReal _)
  rcases h.row_step h₀ hStep hf hf' with hc | ⟨source, changes, hWritten⟩
  · rcases hc with rfl | ⟨-, now, rfl⟩
    · exact absurd hs' hs
    · cases hs'
  · have hStatus : changes.status = some .succeeded := by
      obtain ⟨phase, now, rfl⟩ := hWritten.eq
      cases hcs : changes.status with
      | none => exact absurd (by simpa [hcs] using hs') hs
      | some status => simpa [hcs] using hs'
    refine (hWritten.write.earned hStatus hGround rfl fun document hdoc => ?_).grows hWritten.grows
    exact hGround.rows hf (hWritten.closeOnly.keeps.1.trans hdoc)

end

/-! ### Runs on HTTP answers -/

/-- The files of a range with one group of two episodes. -/
def sampleFiles : RangeFiles where
  groups := .ok [{
    envName := "env"
    environment := [("env_image", .str "image"), ("env_num", .int 1), ("env_params", .obj [])]
    dataset := .ok (2, "")
    startConfig := .ok "" }]
  binding := .ok sampleBinding

/-- The control plane that answers `controller` about every RJob but the Gateway, and the shared
files, where the state is the binding that is published. -/
def httpScript (controller : List (String × Json)) : Script (Option Json) where
  create p spec := (.ok (spec.role ++ "-1"), p)
  get p rjobId :=
    let response := if rjobId = "gateway-1" then
        [("state", .str "running"), ("ready", .bool true), ("address", .str "10.0.0.1"),
          ("port", .int 8000)]
      else controller
    (HttpRJobClient.get sampleOrchestrator.unicode rjobId (.success (.json (.obj response))), p)
  stop p _ := (.ok (), p)
  ready p _ _ := (.ok true, p)
  bind p jobId rangeId :=
    let answer := bindJobFiles sampleOrchestrator.unicode p (some sampleFiles) jobId rangeId
    (answer, match answer with
      | .ok binding => some binding.toJson
      | .error _ => p)

theorem httpScript_real (controller : List (String × Json)) :
    (httpScript controller).services.Real sampleOrchestrator.unicode fun p _ => p where
  get h := by
    cases h
    exact ⟨.inl ⟨_, rfl⟩, rfl⟩
  bind {p p' jobId rangeId answer} h := by
    simp only [Script.services, httpScript, Prod.mk.injEq] at h
    obtain ⟨rfl, rfl⟩ := h
    refine ⟨⟨_, rfl⟩, fun i document hi => ?_⟩
    split at hi
    · next binding heq => exact .inr ⟨binding, heq, (Option.some.inj hi).symm⟩
    · exact .inl hi
  create h := by
    cases h
    rfl
  stop h := by
    cases h
    rfl
  ready h := by
    cases h
    rfl
  drift h := h.elim

/-- An answer with the summary of two collected episodes. -/
def collectedReply : List (String × Json) :=
  [("state", .str "succeeded"),
    ("workload_summary", .obj [("total", .int 2), ("succeeded", .int 2), ("collected", .int 2)])]

/-- An answer whose summary is no object. -/
def malformedReply : List (String × Json) :=
  [("state", .str "succeeded"), ("workload_summary", .str "oops")]

/-- The Job whose controller has collected its two episodes earns its success. -/
theorem success_earned_collected :
    ∃ c l c' row row', (httpScript collectedReply).services.Reaches sampleOrchestrator
        (fun _ _ _ => True) ⟨sampleWorld none, none⟩ c ∧
      (httpScript collectedReply).services.Steps sampleOrchestrator c l c' ∧
      c.state.jobs.find "job" = some row ∧ c'.state.jobs.find "job" = some row' ∧
      row.status ≠ .succeeded ∧ row'.status = .succeeded ∧
      Earned sampleOrchestrator row' (passCalls c.state.trace) := by
  have h := ((httpScript collectedReply).reaches_pass sampleOrchestrator (sampleWorld none)).always
  obtain ⟨c, l, c', hReaches, hStep, hBefore, row', hf', hs'⟩ := h.arises
    (Q := fun w => ∃ row, w.jobs.find "job" = some row ∧ row.status = .succeeded)
    (by decide +kernel) (by decide +kernel)
  have hf₀ : (sampleWorld (P := Option Json) none).jobs.find "job" =
      some (newControlJob sampleJob 0) := rfl
  obtain ⟨row, hf⟩ := Services.Reaches.row_kept hReaches hf₀
  have hs : row.status ≠ .succeeded := fun hs => hBefore ⟨row, hf, hs⟩
  exact ⟨c, l, c', row, row', hReaches, hStep, hf, hf', hs, hs',
    success_earned (httpScript_real _) (sampleWorld_initial _ _)
      (fun _ _ hNone => by cases hNone) hReaches hStep hf hf' hs hs'⟩

/-- A malformed summary does not keep a Job from its success. -/
theorem malformed_summary_succeeds :
    ¬ ∀ c, (httpScript malformedReply).services.Reaches sampleOrchestrator (fun _ _ _ => True)
        ⟨sampleWorld none, none⟩ c → ∀ row ∈ c.state.jobs.rows, row.status ≠ .succeeded := by
  intro h
  have hRun := h _
    ((httpScript malformedReply).reaches_pass sampleOrchestrator (sampleWorld none)).always
  revert hRun
  decide +kernel

end SafactoryServer
