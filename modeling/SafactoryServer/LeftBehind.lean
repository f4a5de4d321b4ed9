import SafactoryServer.Once

/-! RJobs left behind: a finished Job has had every RJob stopped that its row records, and those
alone. -/

namespace SafactoryServer

open Effect
open Relation (ReflTransGen)

variable {P : Type} {o : RealJobOrchestrator} {sv : Services P} {v : PlatformView P}
  {ownerOf : String → Option String} {w w' w₁ : World P}

/-- A create makes at most the RJob of its specification, and what it returns or makes is the RJob
of one Job.  No other call makes one. -/
structure Services.Makes (o : RealJobOrchestrator) (sv : Services P) (v : PlatformView P)
    (ownerOf : String → Option String) : Prop where
  identifies : sv.Identifies o ownerOf
  create {p p' : P} {spec : RJobSpec} {j : String} {answer : Except PyExc String} :
    sv.mints j → spec.Names o j → sv.create p spec answer p' → v.made p' = v.made p ∨
      ∃ rjobId, v.made p' = (spec, rjobId) :: v.made p ∧ ownerOf rjobId = some j ∧
        ∀ returned, answer = .ok returned → returned = rjobId
  stop {p p' : P} {rjobId : String} {answer : Except PyExc Unit} : sv.stop p rjobId answer p' →
    v.made p' = v.made p
  get {p p' : P} {rjobId : String} {answer : Except PyExc RJobSnapshot} :
    sv.get p rjobId answer p' → v.made p' = v.made p
  ready {p p' : P} {url path : String} {answer : Except PyExc Bool} :
    sv.ready p url path answer p' → v.made p' = v.made p
  bind {p p' : P} {jobId rangeId : String} {answer : Except PyExc JobFileBinding} :
    sv.bind p jobId rangeId answer p' → v.made p' = v.made p
  drift {p p' : P} : sv.drift p p' → v.made p' = v.made p

/-- The Job is over and needs no cleanup any more. -/
def ControlJob.Finished (row : ControlJob) : Prop :=
  (row.status = .succeeded ∨ row.status = .failed ∨ row.status = .closed) ∧
    row.cleanupRequested = 0

/-- The row records the ID. -/
def ControlJob.Has (row : ControlJob) (rjobId : String) : Prop :=
  row.gatewayRjobId = some rjobId ∨ row.safactoryRjobId = some rjobId

theorem ControlJob.Has.grows {row row' : ControlJob} {rjobId : String} (h : row.Has rjobId)
    (hg : row.Grows row') : row'.Has rjobId := by
  rcases h with hid | hid
  · exact .inl ((hg.gateway (by rw [hid]; rfl)).trans hid)
  · exact .inr ((hg.controller (by rw [hid]; rfl)).1.trans hid)

theorem ControlJob.Finished.inactive {row : ControlJob} (h : row.Finished) :
    row.active = false ∧ row.status ≠ .closing := by
  rcases h.1 with hs | hs | hs <;> simp [ControlJob.active, hs]

theorem ControlJob.Finished.not_open {row : ControlJob} (h : row.Finished) : ¬ row.Open := by
  rintro (ha | hcl)
  · rw [h.inactive.1] at ha
    cases ha
  · exact h.inactive.2 hcl

/-- A row becomes finished by no close request. -/
theorem ControlJob.CloseOnly.finished {row row' : ControlJob} (h : row.CloseOnly row')
    (hFinished : row'.Finished) : row' = row := by
  rcases h with rfl | ⟨-, now, rfl⟩
  · rfl
  · exact absurd rfl hFinished.inactive.2

/-- The stops of an attempt are calls of the trace. -/
theorem mem_attempt {trace : List TraceEvent} {row : ControlJob}
    {stops : List (String × Except PyExc Unit)} (h : attempt trace = some (row, stops))
    {rjobId : String} {answer : Except PyExc Unit} (hMem : (rjobId, answer) ∈ stops) :
    .call (.stopRJob rjobId) answer ∈ trace := by
  induction trace using attempt.induct generalizing row stops with
  | case1 j answer rest =>
    rw [attempt] at h
    obtain ⟨last, -, heq⟩ := Option.map_eq_some_iff.mp h
    cases heq
    cases hMem
  | case2 id stopped rest ih =>
    rw [attempt] at h
    obtain ⟨⟨row', stops'⟩, hRest, heq⟩ := Option.map_eq_some_iff.mp h
    cases heq
    rcases List.mem_cons.mp hMem with heq | hMem
    · cases heq
      exact List.mem_cons_self
    · exact List.mem_cons_of_mem _ (ih hRest hMem)
  | case3 event answer rest ih =>
    rw [attempt] at h
    exact List.mem_cons_of_mem _ (ih h hMem)
  | case4 trace h1 h2 h3 =>
    rw [attempt] at h
    · cases h
    · exact h1
    · exact h2
    · exact h3

theorem attempt_recorded {trace : List TraceEvent} {row : ControlJob}
    {stops : List (String × Except PyExc Unit)} (h : attempt trace = some (row, stops)) :
    unrecorded trace = none := by
  unfold attempt at h
  split at h
  · rfl
  · rfl
  · rfl
  · cases h

/-- A write leaves the IDs of a row alone, unless the row is open. -/
theorem Written.ids {trace : List TraceEvent} {source row row' : ControlJob} {changes : Changes}
    (h : Written o trace source row row' changes) : row.Open ∨
      row'.gatewayRjobId = row.gatewayRjobId ∧ row'.safactoryRjobId = row.safactoryRjobId := by
  obtain ⟨phase, now, rfl⟩ := h.eq
  have hOpen : source.Open → row.Open := fun hs => h.closeOnly.opened hs
  cases h.write with
  | gatewaySubmitted _ _ ha | running _ _ _ ha => exact .inl (hOpen ha)
  | recorded _ _ _ hcl => exact .inl (hOpen (.inr hcl))
  | attempt | preparing | bound | gatewayStatus | unhealthy | gatewayReady | controllerStatus
  | failed | skipped | succeeded | cleaned | closed => exact .inr ⟨rfl, rfl⟩

/-- A write leaves the IDs of a row alone if no RJob waits to be recorded. -/
theorem Written.ids_recorded {trace : List TraceEvent} {source row row' : ControlJob}
    {changes : Changes} (h : Written o trace source row row' changes)
    (hr : unrecorded trace = none) :
    row'.gatewayRjobId = row.gatewayRjobId ∧ row'.safactoryRjobId = row.safactoryRjobId := by
  obtain ⟨phase, now, rfl⟩ := h.eq
  rcases h.write.recording with ⟨-, hGateway, hController⟩ | ⟨spec, rjobId, hu, -⟩
  · simp only [Changes.write, hGateway, hController, Option.getD_none, and_self]
  · rw [hr] at hu
    cases hu

theorem Written.row_grows {trace : List TraceEvent} {source row row' : ControlJob}
    {changes : Changes} (h : Written o trace source row row' changes) : row.Grows row' := by
  obtain ⟨allowed, now, hg, rfl⟩ := h.result
  exact h.write.grows h.closeOnly hg

/-- A row that a call leaves has grown from the one that there was. -/
theorem Services.Performs.row_grows {e : Op} {answer : Ans e} (ha : Allowed o sv w₁ e)
    (hw : Later sv w₁ w) (hp : sv.Performs e w answer w') {j : String} {row : ControlJob}
    (hf : w.jobs.find j = some row) : ∃ row', w'.jobs.find j = some row' ∧ row.Grows row' := by
  obtain ⟨row', hf'⟩ := hp.row_kept hf
  obtain ⟨last, hLast, hCase⟩ := hp.row_cases ha hw hf'
  obtain rfl : last = row := Option.some.inj (hLast.symm.trans hf)
  refine ⟨row', hf', ?_⟩
  rcases hCase with rfl | ⟨source, changes, -, hWritten⟩
  · exact .refl _
  · exact hWritten.row_grows

theorem Services.Performs.mem_trace {e : Op} {answer : Ans e} (hp : sv.Performs e w answer w')
    {event : TraceEvent} (h : event ∈ w.trace) : event ∈ w'.trace := by
  by_cases hNow : e = .now
  · subst hNow
    obtain ⟨-, rfl⟩ := hp
    exact h
  · rw [hp.trace hNow]
    exact List.mem_cons_of_mem _ h

/-- Every RJob that a finished row records was stopped, and what was stopped is recorded. -/
structure Swept (o : RealJobOrchestrator) (sv : Services P) (v : PlatformView P)
    (ownerOf : String → Option String) (w : World P) : Prop extends Owned o sv ownerOf w where
  finished {j rjobId : String} {row : ControlJob} : w.jobs.find j = some row → row.Finished →
    row.Has rjobId → .call (.stopRJob rjobId) (.ok ()) ∈ w.trace
  stopped {rjobId : String} {answer : Except PyExc Unit} :
    .call (.stopRJob rjobId) answer ∈ w.trace →
    ∃ j row, w.jobs.find j = some row ∧ row.Has rjobId
  made : ∀ made ∈ v.made w.platform, ∃ j, made.1.Names o j ∧ ownerOf made.2 = some j

namespace Swept

theorem interferes (hMakes : sv.Makes o v ownerOf) (h : Swept o sv v ownerOf w)
    (hStep : sv.Interferes w w') : Swept o sv v ownerOf w' := by
  have hLater := Later.of_interferes hStep
  have hMade : v.made w'.platform = v.made w.platform := by
    cases hStep with
    | drift hd => exact hMakes.drift hd
    | close | accept | event | tick => rfl
  refine ⟨h.toOwned.later hStep, fun {j rjobId row'} hf' hFinished hHas => ?_,
    fun {rjobId answer} hMem => ?_, hMade ▸ h.made⟩
  · rw [hLater.trace]
    rcases hStep.row_cases hf' with ⟨row, hf, hc⟩ | ⟨new, now, -, -, rfl, -⟩
    · obtain rfl := hc.finished hFinished
      exact h.finished hf hFinished hHas
    · rcases hHas with hid | hid <;> cases hid
  · rw [hLater.trace] at hMem
    obtain ⟨j, row, hf, hHas⟩ := h.stopped hMem
    obtain ⟨row', hf', hc⟩ := hLater.rows hf
    exact ⟨j, row', hf', hHas.grows hc.grows⟩

/-- The recorded RJobs of a row that a call finishes were stopped. -/
theorem finishes (hKeep : o.settings.keepRjobs = false) (h : Swept o sv v ownerOf w)
    {e : Op} {answer : Ans e} (ha : Allowed o sv w₁ e) (hw : Later sv w₁ w)
    (hp : sv.Performs e w answer w') {j rjobId : String} {row' : ControlJob}
    (hf' : w'.jobs.find j = some row') (hFinished : row'.Finished) (hHas : row'.Has rjobId) :
    .call (.stopRJob rjobId) (.ok ()) ∈ w.trace := by
  obtain ⟨row, hf, rfl | ⟨source, changes, -, hWritten⟩⟩ := hp.row_cases ha hw hf'
  · exact h.finished hf hFinished hHas
  have hBack : ¬ row.Open ∨ unrecorded w.trace = none → row.Has rjobId := by
    rintro (hNot | hr)
    · obtain ⟨hGateway, hController⟩ := hWritten.ids.resolve_left hNot
      rwa [ControlJob.Has, ← hGateway, ← hController]
    · obtain ⟨hGateway, hController⟩ := hWritten.ids_recorded hr
      rwa [ControlJob.Has, ← hGateway, ← hController]
  cases hWritten.move with
  | kept hs hc =>
    have hRow : row.Finished := by rwa [ControlJob.Finished, ← hs, ← hc]
    exact h.finished hf hRow (hBack (.inl hRow.not_open))
  | started hActive =>
    rw [hFinished.inactive.1] at hActive
    cases hActive
  | ended _ hc =>
    rw [hFinished.2] at hc
    cases hc
  | skipped hk =>
    rw [hKeep] at hk
    cases hk
  | finished stops _ _ hAttempt hStops =>
    have hRow := hBack (.inr (attempt_recorded hAttempt))
    exact mem_attempt hAttempt (hStops.recorded (h.owned hf hRow).1 hRow)

/-- What a call stops is recorded. -/
theorem stops (h : Swept o sv v ownerOf w) {e : Op} {answer : Ans e} (ha : Allowed o sv w₁ e)
    (hw : Later sv w₁ w) (hp : sv.Performs e w answer w') {rjobId : String}
    {stopped : Except PyExc Unit} (hMem : .call (.stopRJob rjobId) stopped ∈ w'.trace) :
    ∃ j row, w'.jobs.find j = some row ∧ row.Has rjobId := by
  have hOld : .call (.stopRJob rjobId) stopped ∈ w.trace →
      ∃ j row, w'.jobs.find j = some row ∧ row.Has rjobId := by
    intro hMem
    obtain ⟨j, row, hf, hHas⟩ := h.stopped hMem
    obtain ⟨row', hf', hg⟩ := hp.row_grows ha hw hf
    exact ⟨j, row', hf', hHas.grows hg⟩
  by_cases hNow : e = .now
  · subst hNow
    obtain ⟨-, rfl⟩ := hp
    exact hOld hMem
  rw [hp.trace hNow] at hMem
  rcases List.mem_cons.mp hMem with heq | hMem
  · cases heq
    obtain ⟨-, row₁, stops, -, hf₁, -, -, hOrder⟩ := id ha
    obtain ⟨row, hf, hc⟩ := hw.rows hf₁
    obtain ⟨row', hf', hg⟩ := hp.row_grows ha hw hf
    exact ⟨_, row', hf', (ControlJob.Has.grows hOrder.recorded hc.grows).grows hg⟩
  · exact hOld hMem

/-- What a call makes is the RJob of a Job. -/
theorem makes (hMakes : sv.Makes o v ownerOf) (h : Swept o sv v ownerOf w) {e : Op}
    {answer : Ans e} (ha : Allowed o sv w₁ e) (hw : Later sv w₁ w)
    (hp : sv.Performs e w answer w') :
    ∀ made ∈ v.made w'.platform, ∃ j, made.1.Names o j ∧ ownerOf made.2 = some j := by
  have hSame : v.made w'.platform = v.made w.platform →
      ∀ made ∈ v.made w'.platform, ∃ j, made.1.Names o j ∧ ownerOf made.2 = some j := by
    intro heq made hMem
    exact h.made made (heq ▸ hMem)
  cases e with
  | createRJob spec =>
    obtain ⟨row₁, hf₁, -, hNames⟩ := ha.names
    obtain ⟨row, hf, -⟩ := hw.rows hf₁
    obtain ⟨p, hCreate, heq⟩ := hp
    obtain rfl : w'.platform = p := by rw [heq]; rfl
    rcases hMakes.create (h.minted hf) hNames hCreate with hMade | ⟨rjobId, hMade, hOwner, -⟩
    · exact hSame hMade
    · rw [hMade]
      intro made hMem
      rcases List.mem_cons.mp hMem with rfl | hMem
      · exact ⟨row₁.jobId, hNames, hOwner⟩
      · exact h.made made hMem
  | stopRJob =>
    obtain ⟨p, hStop, rfl⟩ := hp
    exact hSame (hMakes.stop hStop)
  | getRJob =>
    obtain ⟨p, hGet, rfl⟩ := hp
    exact hSame (hMakes.get hGet)
  | ready =>
    obtain ⟨p, hReady, rfl⟩ := hp
    exact hSame (hMakes.ready hReady)
  | bind =>
    obtain ⟨p, hBind, rfl⟩ := hp
    exact hSame (hMakes.bind hBind)
  | now | listActive | listCleanupPending | get | update | addEvent =>
    exact hSame (congrArg v.made (hp.platform rfl))

theorem performs (hKeep : o.settings.keepRjobs = false) (hMakes : sv.Makes o v ownerOf)
    (h : Swept o sv v ownerOf w) {e : Op} {answer : Ans e} (ha : Allowed o sv w₁ e)
    (hw : Later sv w₁ w) (hp : sv.Performs e w answer w') : Swept o sv v ownerOf w' where
  toOwned := h.toOwned.performs hMakes.identifies ha hw hp
  finished hf hFinished hHas := hp.mem_trace (h.finishes hKeep ha hw hp hf hFinished hHas)
  stopped := h.stops ha hw hp
  made := h.makes hMakes ha hw hp

theorem restart (h : Swept o sv v ownerOf w) : Swept o sv v ownerOf w.restart where
  toOwned := h.toOwned.restart
  finished hf hFinished hHas := World.mem_restart.mpr (h.finished hf hFinished hHas)
  stopped hMem := h.stopped (World.mem_restart.mp hMem)
  made := h.made

end Swept

theorem swept_preserved (hKeep : o.settings.keepRjobs = false) (hMakes : sv.Makes o v ownerOf)
    (permitted : World P → Label Op Ans → World P → Prop) :
    (protocol o sv).Preserves sv.system (Swept o sv v ownerOf) permitted where
  interference _ hJ h _ := hJ.interferes hMakes h
  answer _ _ ha hw _ hJ hp _ := hJ.performs hKeep hMakes ha (.of_waits hw) hp
  crash _ hJ h _ := by
    cases h
    exact hJ.restart
  lost _ _ ha hw _ hJ hp h _ := by
    cases h
    exact (hJ.performs hKeep hMakes ha (.of_waits hw) hp).restart

theorem Services.Initial.swept (h : sv.Initial w) (hNone : v.made w.platform = []) :
    Swept o sv v ownerOf w := by
  refine ⟨h.owned, fun hf _ hHas => ?_, fun hMem => ?_, fun made hMem => ?_⟩
  · obtain ⟨new, now, -, -, rfl⟩ := h.rows _ (JobTable.find_mem hf)
    rcases hHas with hid | hid <;> cases hid
  · rw [h.trace] at hMem
    cases hMem
  · rw [hNone] at hMem
    cases hMem

/-! ### Runs in which every create reports what it made -/

/-- No create makes an RJob and raises an exception, and no crash falls between the creation of an
RJob and its recording. -/
def Reported (v : PlatformView P) (w : World P) (l : Label Op Ans) (w' : World P) : Prop :=
  Careful w l w' ∧ match l with
    | .answer (.createRJob _) (.error _) | .lost (.createRJob _) (.error _) =>
      v.made w'.platform = v.made w.platform
    | _ => True

/-- Every RJob that was made was returned. -/
structure Returned (o : RealJobOrchestrator) (sv : Services P) (v : PlatformView P)
    (ownerOf : String → Option String) (w : World P) : Prop extends Ledger o sv ownerOf w where
  returned : ∀ made ∈ v.made w.platform, .call (.createRJob made.1) (.ok made.2) ∈ w.trace

theorem Returned.performs (hMakes : sv.Makes o v ownerOf) (h : Returned o sv v ownerOf w) {e : Op}
    {answer : Ans e} (ha : Allowed o sv w₁ e) (hw : Later sv w₁ w)
    (hp : sv.Performs e w answer w')
    (hEffect : ∀ spec x, Label.answer e answer = .answer (.createRJob spec) (.error x) →
      v.made w'.platform = v.made w.platform) : Returned o sv v ownerOf w' := by
  refine ⟨h.toLedger.performs hMakes.identifies ha hw hp, ?_⟩
  have hSame : v.made w'.platform = v.made w.platform →
      ∀ made ∈ v.made w'.platform, .call (.createRJob made.1) (.ok made.2) ∈ w'.trace := by
    intro heq made hMem
    exact hp.mem_trace (h.returned made (heq ▸ hMem))
  cases e with
  | createRJob spec =>
    cases answer with
    | error x => exact hSame (hEffect spec x rfl)
    | ok returned =>
      have hTrace := hp.trace (by simp)
      obtain ⟨row₁, hf₁, -, hNames⟩ := ha.names
      obtain ⟨row, hf, -⟩ := hw.rows hf₁
      obtain ⟨p, hCreate, heq⟩ := id hp
      obtain rfl : w'.platform = p := by rw [heq]; rfl
      rcases hMakes.create (h.minted hf) hNames hCreate with hMade | ⟨rjobId, hMade, -, hId⟩
      · exact hSame hMade
      · obtain rfl := hId _ rfl
        rw [hMade, hTrace]
        intro made hMem
        rcases List.mem_cons.mp hMem with rfl | hMem
        · exact List.mem_cons_self
        · exact List.mem_cons_of_mem _ (h.returned made hMem)
  | stopRJob =>
    obtain ⟨p, hStop, heq⟩ := id hp
    exact hSame (by rw [heq]; exact hMakes.stop hStop)
  | getRJob =>
    obtain ⟨p, hGet, heq⟩ := id hp
    exact hSame (by rw [heq]; exact hMakes.get hGet)
  | ready =>
    obtain ⟨p, hReady, heq⟩ := id hp
    exact hSame (by rw [heq]; exact hMakes.ready hReady)
  | bind =>
    obtain ⟨p, hBind, heq⟩ := id hp
    exact hSame (by rw [heq]; exact hMakes.bind hBind)
  | now | listActive | listCleanupPending | get | update | addEvent =>
    exact hSame (congrArg v.made (hp.platform rfl))

theorem Returned.restart (h : Returned o sv v ownerOf w) (hr : unrecorded w.trace = none) :
    Returned o sv v ownerOf w.restart :=
  ⟨h.toLedger.restart hr, fun made hMem => World.mem_restart.mpr (h.returned made hMem)⟩

theorem returned_preserved (hMakes : sv.Makes o v ownerOf) :
    (protocol o sv).Preserves sv.system (Returned o sv v ownerOf) (Reported v) where
  interference _ hJ h _ := by
    refine ⟨hJ.toLedger.later h, ?_⟩
    rw [(Later.of_interferes h).trace]
    cases h with
    | drift hd =>
      intro made hMem
      exact hJ.returned made (hMakes.drift hd ▸ hMem)
    | close | accept | event | tick => exact hJ.returned
  answer _ _ ha hw _ hJ hp hReported := by
    refine hJ.performs hMakes ha (.of_waits hw) hp fun spec x heq => ?_
    cases heq
    exact hReported.2
  crash _ hJ h hReported := by
    cases h
    exact hJ.restart hReported.1
  lost _ _ ha hw _ hJ hp h hReported := by
    cases h
    refine (hJ.performs hMakes ha (.of_waits hw) hp fun spec x heq => ?_).restart hReported.1
    cases heq
    exact hReported.2

theorem Services.Initial.returned (h : sv.Initial w) (hNone : v.made w.platform = []) :
    Returned o sv v ownerOf w := by
  refine ⟨h.ledger, fun made hMem => ?_⟩
  rw [hNone] at hMem
  cases hMem

/-- A finished Job has left no RJob behind if and only if its row records every RJob that came into
existence for it.  That is so wherever every create that makes an RJob returns its ID, and no crash
falls before the ID is recorded. -/
theorem left_behind_iff {w₀ : World P} (h₀ : sv.Initial w₀) (hNone : v.made w₀.platform = [])
    (hKeep : o.settings.keepRjobs = false) (hMakes : sv.Makes o v ownerOf) :
    (∀ c, sv.Reaches o (fun _ _ _ => True) ⟨w₀, none⟩ c →
      ∀ j row, c.state.jobs.find j = some row → row.Finished →
        ((∀ made ∈ v.made c.state.platform, made.1.ownerJob = some j →
            .call (.stopRJob made.2) (.ok ()) ∈ c.state.trace) ↔
          ∀ made ∈ v.made c.state.platform, made.1.ownerJob = some j → row.Has made.2)) ∧
    ∀ c, sv.Reaches o (Reported v) ⟨w₀, none⟩ c →
      ∀ j row, c.state.jobs.find j = some row → row.Finished →
        ∀ made ∈ v.made c.state.platform, made.1.ownerJob = some j →
          .call (.stopRJob made.2) (.ok ()) ∈ c.state.trace := by
  have hSwept : ∀ {c}, sv.Reaches o (fun _ _ _ => True) ⟨w₀, none⟩ c →
      Swept o sv v ownerOf c.state := by
    intro c h
    obtain ⟨⟨-, hSwept⟩, -⟩ := h.holds h₀ (h₀.swept hNone) (swept_preserved hKeep hMakes _)
    exact hSwept
  refine ⟨fun c h j row hf hFinished => ⟨fun hStopped made hMem hOwner => ?_,
    fun hRecorded made hMem hOwner => ?_⟩, fun c h j row hf hFinished made hMem hOwner => ?_⟩
  · obtain ⟨i, row', hf', hHas⟩ := (hSwept h).stopped (hStopped made hMem hOwner)
    obtain ⟨i', hNames, hJob⟩ := (hSwept h).made made hMem
    obtain rfl : i' = j := Option.some.inj (hNames.1.symm.trans hOwner)
    have hSame := ((hSwept h).owned hf' hHas).2
    obtain rfl : i = i' := Option.some.inj (hSame.symm.trans hJob)
    exact Option.some.inj (hf'.symm.trans hf) ▸ hHas
  · exact (hSwept h).finished hf hFinished (hRecorded made hMem hOwner)
  · obtain ⟨⟨-, hReturned⟩, -⟩ := h.holds h₀ (h₀.returned hNone) (returned_preserved hMakes)
    obtain ⟨i, row', hOwner', hf', hCase⟩ := hReturned.created (hReturned.returned made hMem)
    obtain rfl : i = j := Option.some.inj (hOwner'.symm.trans hOwner)
    obtain rfl : row' = row := Option.some.inj (hf'.symm.trans hf)
    rcases hCase with hRecords | hu
    · exact (hSwept h.always).finished hf hFinished (hRecords.imp And.right And.right)
    · -- the row of an RJob that waits to be recorded is open
      obtain ⟨i', last, hNames, hLast, hOpen, -⟩ := hReturned.pending hu
      obtain rfl : i' = i := Option.some.inj (hNames.1.symm.trans hOwner)
      obtain rfl : last = row' := Option.some.inj (hLast.symm.trans hf)
      exact absurd hOpen hFinished.not_open

/-! ### Runs of a platform that may lose a reply -/

theorem Cloud.makes :
    ∃ ownerOf, Cloud.script.services.Makes sampleOrchestrator Cloud.view ownerOf := by
  obtain ⟨ownerOf, hOwner⟩ := @exists_owner
    (fun rjobId j => ∃ spec : RJobSpec, spec.Names sampleOrchestrator j ∧
      Cloud.keyOf rjobId = spec.idempotencyKey) (by
      rintro rjobId i j ⟨spec, hSpec, heq⟩ ⟨spec', hSpec', heq'⟩
      have hDistinct : Cloud.script.services.Distinguishes sampleOrchestrator
          RJobSpec.idempotencyKey := distinguishes_idempotencyKey
      exact (hDistinct i j spec spec' trivial trivial hSpec hSpec' (heq.symm.trans heq')).1)
  refine ⟨ownerOf, ⟨?_, ?_, fun h => ?_, fun h => ?_, fun h => ?_, fun h => ?_, fun h => h.elim⟩⟩
  · intro p spec j rjobId p' _ hNames hCreate
    obtain ⟨hne, hKey⟩ := Cloud.idempotent.created hCreate
    exact ⟨hne, hOwner ⟨spec, hNames, hKey⟩⟩
  · intro p p' spec j answer _ hNames hCreate
    obtain ⟨lossy, rfl⟩ := Cloud.create_state hCreate
    rcases Cloud.create_made p spec with hMade | ⟨hMade, -⟩
    · exact .inl hMade
    · refine .inr ⟨_, hMade, hOwner ⟨spec, hNames, Cloud.keyOf_rjobId _⟩, fun returned heq => ?_⟩
      subst heq
      exact (Cloud.create_ok hCreate).symm
  · exact (Cloud.idempotent.stop h).1
  · exact (Cloud.idempotent.get h).1
  · exact (Cloud.idempotent.ready h).1
  · exact (Cloud.idempotent.bind h).1

instance (row : ControlJob) (rjobId : String) : Decidable (row.Has rjobId) :=
  inferInstanceAs (Decidable (_ ∨ _))

instance (row : ControlJob) : Decidable row.Finished := inferInstanceAs (Decidable (_ ∧ _))

/-- The sample Job after a pass, a close request and another pass. -/
def closedCloud (lossy : Bool) : Config Op Ans (World Cloud) (Except PyExc Unit) :=
  let running := (Cloud.script.pass sampleOrchestrator (sampleWorld ⟨[], [], lossy⟩)).2
  let ended := Cloud.script.pass sampleOrchestrator (Script.closed running "job")
  ⟨ended.2, some (.done ended.1)⟩

theorem closedCloud_reached (lossy : Bool)
    (h : (Cloud.script.pass sampleOrchestrator (sampleWorld ⟨[], [], lossy⟩)).1 = .ok ()) :
    Cloud.script.services.Reaches sampleOrchestrator (fun _ _ _ => True)
      ⟨sampleWorld ⟨[], [], lossy⟩, none⟩ (closedCloud lossy) := by
  have hFirst := Cloud.script.reaches_idle sampleOrchestrator (sampleWorld ⟨[], [], lossy⟩) h
  exact ((hFirst.trans (Cloud.script.reaches_closed "job")).trans
    (Cloud.script.reaches_pass sampleOrchestrator _)).always

/-- Both RJobs of a Job whose creates returned were stopped. -/
theorem left_behind_none :
    (closedCloud false).state.platform.made.map (·.role) = ["safactory-controller", "gateway"] ∧
      ∀ made ∈ Cloud.view.made (closedCloud false).state.platform, made.1.ownerJob = some "job" →
        .call (.stopRJob made.2) (.ok ()) ∈ (closedCloud false).state.trace := by
  obtain ⟨ownerOf, hMakes⟩ := Cloud.makes
  have hReaches := closedCloud_reached false (by decide +kernel)
  have hRow : ∃ row, (closedCloud false).state.jobs.find "job" = some row ∧ row.Finished ∧
      ∀ made ∈ Cloud.view.made (closedCloud false).state.platform,
        made.1.ownerJob = some "job" → row.Has made.2 := by
    decide +kernel
  obtain ⟨row, hf, hFinished, hRecorded⟩ := hRow
  refine ⟨by decide +kernel, ?_⟩
  exact ((left_behind_iff (sampleWorld_initial Cloud.script _) rfl rfl hMakes).1 _ hReaches
    "job" row hf hFinished).mpr hRecorded

/-- A Gateway whose creation lost its reply is left behind by the close of its Job. -/
theorem lost_reply_left_behind :
    ¬ ∀ c, Cloud.script.services.Reaches sampleOrchestrator (fun _ _ _ => True)
        ⟨sampleWorld ⟨[], [], true⟩, none⟩ c →
      ∀ j row, c.state.jobs.find j = some row → row.Finished →
        ∀ made ∈ Cloud.view.made c.state.platform, made.1.ownerJob = some j →
          .call (.stopRJob made.2) (.ok ()) ∈ c.state.trace := by
  intro h
  have hReaches := closedCloud_reached true (by decide +kernel)
  have hRow : ∃ row, (closedCloud true).state.jobs.find "job" = some row ∧ row.Finished ∧
      ∃ made ∈ Cloud.view.made (closedCloud true).state.platform, made.1.ownerJob = some "job" ∧
        ("rjob-job:gateway", .ok ()) ∉ stopsOf (closedCloud true).state.trace ∧
        made.2 = "rjob-job:gateway" := by
    decide +kernel
  obtain ⟨row, hf, hFinished, made, hMem, hOwner, hNot, hId⟩ := hRow
  exact hNot (hId ▸ mem_stopsOf (h _ hReaches "job" row hf hFinished made hMem hOwner))

end SafactoryServer
