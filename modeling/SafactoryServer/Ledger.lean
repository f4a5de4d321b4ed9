import SafactoryServer.Lifecycle

/-! The ledger of the created RJobs: the row of a Job records RJobs of this Job only, and in a run
that never crashes between the creation of an RJob and its recording it records all of them. -/

namespace SafactoryServer

open Effect

variable {P : Type} {o : RealJobOrchestrator} {sv : Services P} {ownerOf : String → Option String}
  {w w' w₁ : World P}

/-- A relation that gives every RJob at most one Job has a function. -/
theorem exists_owner {owns : String → String → Prop}
    (h : ∀ {rjobId i j : String}, owns rjobId i → owns rjobId j → i = j) :
    ∃ ownerOf : String → Option String,
      ∀ {rjobId j : String}, owns rjobId j → ownerOf rjobId = some j := by
  classical
  refine ⟨fun rjobId => if hOwns : ∃ j, owns rjobId j then some hOwns.choose else none,
    fun {rjobId j} hj => ?_⟩
  have hOwns : ∃ j, owns rjobId j := ⟨j, hj⟩
  show (if hOwns : ∃ j, owns rjobId j then some hOwns.choose else none) = some j
  rw [dif_pos hOwns, h hOwns.choose_spec hj]

/-- No crash falls between the creation of an RJob and its recording. -/
def Careful : World P → Label Op Ans → World P → Prop
  | _, .crash, w' | _, .lost _ _, w' => unrecorded w'.trace.tail = none
  | _, _, _ => True

/-- The specification is that of the Gateway or of the controller of the Job. -/
def RJobSpec.Names (o : RealJobOrchestrator) (spec : RJobSpec) (j : String) : Prop :=
  spec.ownerJob = some j ∧
    (spec.role = "gateway" ∧ spec.idempotencyKey = j ++ ":gateway" ∧
        spec.name = safeRjobName o.unicode (o.settings.gatewayNamePrefix ++ "-" ++ j) ∨
      spec.role = "safactory-controller" ∧ spec.idempotencyKey = j ++ ":controller" ∧
        spec.name = safeRjobName o.unicode (o.settings.safactoryNamePrefix ++ "-" ++ j))

/-- Every ID that the platform returns for an RJob of a Job is a non-empty ID of this Job alone. -/
def Services.Identifies (o : RealJobOrchestrator) (sv : Services P)
    (ownerOf : String → Option String) : Prop :=
  ∀ p spec j rjobId p', sv.mints j → spec.Names o j → sv.create p spec (.ok rjobId) p' →
    rjobId ≠ "" ∧ ownerOf rjobId = some j

theorem key_ne {i j : String} : i ++ ":gateway" ≠ j ++ ":controller" := by
  intro h
  have hLast := congrArg (fun s : String => s.toList.getLast?) h
  simp [String.toList_append] at hLast

theorem RJobSpec.Names.gateway {spec : RJobSpec} {i j : String} (h : spec.Names o j)
    (hKey : spec.idempotencyKey = i ++ ":gateway") : i = j ∧ spec.role = "gateway" := by
  rcases h.2 with ⟨hRole, hj, -⟩ | ⟨-, hj, -⟩
  · exact ⟨(String.append_left_inj _).mp (hKey.symm.trans hj), hRole⟩
  · exact absurd (hKey.symm.trans hj) key_ne

theorem RJobSpec.Names.controller {spec : RJobSpec} {i j : String} (h : spec.Names o j)
    (hKey : spec.idempotencyKey = i ++ ":controller") :
    i = j ∧ spec.role = "safactory-controller" := by
  rcases h.2 with ⟨-, hj, -⟩ | ⟨hRole, hj, -⟩
  · exact absurd (hj.symm.trans hKey) key_ne
  · exact ⟨(String.append_left_inj _).mp (hKey.symm.trans hj), hRole⟩

/-- The row that a creation is for. -/
theorem Allowed.names {spec : RJobSpec} (h : Allowed o sv w (.createRJob spec)) :
    ∃ row, w.jobs.find row.jobId = some row ∧ row.active = true ∧ spec.Names o row.jobId := by
  obtain ⟨-, row, binding, hf, ha, ⟨-, -, hSpec⟩ | ⟨-, -, hSpec⟩⟩ := h
  · obtain ⟨hRole, hKey, hName, hOwner⟩ := RealJobOrchestrator.gatewaySpec_ok hSpec
    exact ⟨row, hf, ha, hOwner, .inl ⟨hRole, hKey, hName⟩⟩
  · obtain ⟨hRole, hKey, hName, hOwner⟩ := RealJobOrchestrator.safactorySpec_ok hSpec
    exact ⟨row, hf, ha, hOwner, .inr ⟨hRole, hKey, hName⟩⟩

/-- The row records the ID of the RJob of that specification. -/
def ControlJob.Records (row : ControlJob) (spec : RJobSpec) (rjobId : String) : Prop :=
  spec.role = "gateway" ∧ row.gatewayRjobId = some rjobId ∨
    spec.role = "safactory-controller" ∧ row.safactoryRjobId = some rjobId

theorem ControlJob.Records.grows {row row' : ControlJob} {spec : RJobSpec} {rjobId : String}
    (h : row.Records spec rjobId) (hg : row.Grows row') : row'.Records spec rjobId := by
  rcases h with ⟨hRole, hid⟩ | ⟨hRole, hid⟩
  · exact .inl ⟨hRole, (hg.gateway (by rw [hid]; rfl)).trans hid⟩
  · exact .inr ⟨hRole, (hg.controller (by rw [hid]; rfl)).1.trans hid⟩

/-- What a write does with a created RJob: it records it, or there is none and it records
nothing. -/
theorem Write.recording {trace : List TraceEvent} {row : ControlJob} {changes : Changes}
    (h : Write o trace row changes) :
    unrecorded trace = none ∧ changes.gatewayRjobId = none ∧ changes.safactoryRjobId = none ∨
    ∃ spec rjobId, unrecorded trace = some (spec, rjobId) ∧
      (spec.idempotencyKey = row.jobId ++ ":gateway" ∧
          changes.gatewayRjobId = some (some rjobId) ∧ changes.safactoryRjobId = none ∨
        spec.idempotencyKey = row.jobId ++ ":controller" ∧ changes.gatewayRjobId = none ∧
          changes.safactoryRjobId = some (some rjobId)) := by
  cases h with
  | gatewaySubmitted spec rjobId _ _ _ hu hKey =>
    exact .inr ⟨spec, rjobId, hu, .inl ⟨hKey, rfl, rfl⟩⟩
  | running spec rjobId now _ _ _ hu hKey =>
    exact .inr ⟨spec, rjobId, hu, .inr ⟨hKey, rfl, rfl⟩⟩
  | recorded spec rjobId now _ _ _ hu hKey =>
    exact .inr ⟨spec, rjobId, hu, .inr ⟨hKey, rfl, rfl⟩⟩
  | attempt _ _ hr | preparing _ _ hr | bound _ _ _ hr | gatewayStatus _ _ hr | unhealthy _ hr
  | gatewayReady _ _ _ _ _ _ hr | controllerStatus _ _ _ hr | failed _ _ _ hr
  | skipped _ _ _ hr | succeeded _ _ _ _ _ _ _ _ _ _ _ _ _ hr | cleaned _ _ _ _ _ _ hr
  | closed _ _ _ _ _ hr => exact .inl ⟨hr, rfl, rfl⟩

/-- Every recorded ID, and every ID that waits to be recorded, is the ID of an RJob of its Job. -/
structure Owned (o : RealJobOrchestrator) (sv : Services P) (ownerOf : String → Option String)
    (w : World P) : Prop where
  minted {j : String} {row : ControlJob} : w.jobs.find j = some row → sv.mints j
  owned {j rjobId : String} {row : ControlJob} : w.jobs.find j = some row →
    row.gatewayRjobId = some rjobId ∨ row.safactoryRjobId = some rjobId →
    rjobId ≠ "" ∧ ownerOf rjobId = some j
  pending {spec : RJobSpec} {rjobId : String} : unrecorded w.trace = some (spec, rjobId) →
    ∃ j row, spec.Names o j ∧ w.jobs.find j = some row ∧ row.Open ∧ rjobId ≠ "" ∧
      ownerOf rjobId = some j

namespace Owned

theorem later (h : Owned o sv ownerOf w) (hStep : sv.Interferes w w') :
    Owned o sv ownerOf w' := by
  refine ⟨fun {j row} hf => ?_, fun {j rjobId row} hf hid => ?_, fun {spec rjobId} hu => ?_⟩
  · rcases hStep.row_cases hf with ⟨last, hLast, -⟩ | ⟨new, now, hm, -, rfl, -⟩
    · exact h.minted hLast
    · exact JobTable.find_jobId hf ▸ hm
  · rcases hStep.row_cases hf with ⟨last, hLast, hc⟩ | ⟨new, now, -, -, rfl, -⟩
    · obtain ⟨-, hGateway, -, hController, -⟩ := hc.keeps
      rw [hGateway, hController] at hid
      exact h.owned hLast hid
    · rcases hid with hid | hid <;> cases hid
  · have hLater := Later.of_interferes hStep
    rw [hLater.trace] at hu
    obtain ⟨j, row, hNames, hf, hOpen, hRest⟩ := h.pending hu
    obtain ⟨row', hf', hc⟩ := hLater.rows hf
    exact ⟨j, row', hNames, hf', hOpen.closeOnly hc, hRest⟩

/-- A step that leaves the rows alone and lets no RJob wait to be recorded. -/
theorem quiet (h : Owned o sv ownerOf w) (hJobs : w'.jobs = w.jobs)
    (hr : unrecorded w'.trace = none) : Owned o sv ownerOf w' := by
  refine ⟨fun hf => h.minted (hJobs ▸ hf), fun hf hid => h.owned (hJobs ▸ hf) hid, fun hu => ?_⟩
  rw [hr] at hu
  cases hu

theorem restart (h : Owned o sv ownerOf w) : Owned o sv ownerOf w.restart := h.quiet rfl rfl

/-- A created RJob waits to be recorded in the row that it was created for. -/
theorem create (hIds : sv.Identifies o ownerOf) (h : Owned o sv ownerOf w) {spec : RJobSpec}
    {rjobId : String} (ha : Allowed o sv w₁ (.createRJob spec)) (hw : Later sv w₁ w)
    (hp : sv.Performs (.createRJob spec) w (.ok rjobId) w') : Owned o sv ownerOf w' := by
  obtain ⟨row₁, hf₁, hActive, hNames⟩ := ha.names
  obtain ⟨row, hf, hc⟩ := hw.rows hf₁
  obtain ⟨p, hCreate, rfl⟩ := hp
  have hId := hIds _ _ _ _ _ (h.minted hf) hNames hCreate
  have hOpen : row.Open := ControlJob.Open.closeOnly (.inl hActive) hc
  refine ⟨h.minted, h.owned, fun {spec' rjobId'} hu => ?_⟩
  cases hu
  exact ⟨row₁.jobId, row, hNames, hf, hOpen, hId⟩

/-- The IDs in the row that a write leaves are IDs of RJobs of its Job. -/
theorem wrote (h : Owned o sv ownerOf w) {source current : ControlJob} {changes allowed : Changes}
    {now : Int} (hWrite : Write o w.trace source changes)
    (hf : w.jobs.find source.jobId = some current)
    (hg : current.guard changes = .ok allowed) {rjobId : String}
    (hid : (allowed.write current now).gatewayRjobId = some rjobId ∨
      (allowed.write current now).safactoryRjobId = some rjobId) :
    rjobId ≠ "" ∧ ownerOf rjobId = some source.jobId := by
  have hSame : allowed.gatewayRjobId = changes.gatewayRjobId ∧
      allowed.safactoryRjobId = changes.safactoryRjobId := by
    rcases (ControlJob.guard_ok hg).1 with rfl | ⟨rfl, -⟩ <;> exact ⟨rfl, rfl⟩
  simp only [Changes.write, hSame] at hid
  rcases hWrite.recording with ⟨-, hGateway, hController⟩ | ⟨spec, id, hu, hCase⟩
  · rw [hGateway, hController] at hid
    exact h.owned hf hid
  · obtain ⟨j, row, hNames, -, -, hne, hOwner⟩ := h.pending hu
    rcases hCase with ⟨hKey, hGateway, hController⟩ | ⟨hKey, hGateway, hController⟩
    · rw [hGateway, hController] at hid
      rcases hid with heq | hid
      · cases heq
        exact ⟨hne, (hNames.gateway hKey).1 ▸ hOwner⟩
      · exact h.owned hf (.inr hid)
    · rw [hGateway, hController] at hid
      rcases hid with hid | heq
      · exact h.owned hf (.inl hid)
      · cases heq
        exact ⟨hne, (hNames.controller hKey).1 ▸ hOwner⟩

/-- The RJob that waits is one of the Job that the pass writes to, and the write records it. -/
theorem records (h : Owned o sv ownerOf w) {source current : ControlJob}
    {changes allowed : Changes} {now : Int} (hWrite : Write o w.trace source changes)
    (hg : current.guard changes = .ok allowed) {spec : RJobSpec} {rjobId : String}
    (hu : unrecorded w.trace = some (spec, rjobId)) :
    spec.ownerJob = some source.jobId ∧ (allowed.write current now).Records spec rjobId := by
  have hSame : allowed.gatewayRjobId = changes.gatewayRjobId ∧
      allowed.safactoryRjobId = changes.safactoryRjobId := by
    rcases (ControlJob.guard_ok hg).1 with rfl | ⟨rfl, -⟩ <;> exact ⟨rfl, rfl⟩
  obtain ⟨j, row, hNames, -⟩ := h.pending hu
  rcases hWrite.recording with ⟨hNone, -⟩ | ⟨spec', rjobId', hu', hCase⟩
  · rw [hu] at hNone
    cases hNone
  · rw [hu] at hu'
    cases hu'
    rcases hCase with ⟨hKey, hid, -⟩ | ⟨hKey, -, hid⟩
    · obtain ⟨hj, hRole⟩ := hNames.gateway hKey
      refine ⟨hj ▸ hNames.1, .inl ⟨hRole, ?_⟩⟩
      rw [Changes.write, hSame.1, hid, Option.getD_some]
    · obtain ⟨hj, hRole⟩ := hNames.controller hKey
      refine ⟨hj ▸ hNames.1, .inr ⟨hRole, ?_⟩⟩
      rw [Changes.write, hSame.2, hid, Option.getD_some]

theorem updated (h : Owned o sv ownerOf w) {j : String} {now : Int} {changes : Changes}
    {row : ControlJob} (ha : Allowed o sv w₁ (.update j now changes)) (hw : Later sv w₁ w)
    (hp : sv.Performs (.update j now changes) w (.ok row) w') : Owned o sv ownerOf w' := by
  obtain ⟨source, current, allowed, hSource, hWrite, hc, hf, hg, rfl, hfind⟩ := ha.update_ok hw hp
  obtain rfl : source.jobId = j := JobTable.find_jobId hSource
  rw [← hw.trace] at hWrite
  refine ⟨fun {i row'} hf' => ?_, fun {i rjobId row'} hf' hid => ?_, fun hu => ?_⟩
  · rw [hfind] at hf'
    split at hf'
    · next hi => exact hi ▸ h.minted hf
    · exact h.minted hf'
  · rw [hfind] at hf'
    split at hf'
    · next hi =>
      cases hf'
      rw [hi]
      exact h.wrote hWrite hf hg hid
    · exact h.owned hf' hid
  · rw [hp.trace (by simp)] at hu
    cases hu

/-- The constraints never refuse a write of a pass. -/
theorem not_refused (h : Owned o sv ownerOf w) {source current : ControlJob}
    {changes allowed : Changes} {now : Int} (hWrite : Write o w.trace source changes)
    (hf : w.jobs.find source.jobId = some current)
    (hg : current.guard changes = .ok allowed) :
    JobTable.Valid (w.jobs.replaced (allowed.write current now)) := by
  have hFresh : ∀ r ∈ w.jobs.rows, r.jobId ≠ source.jobId → ∀ rjobId,
      (allowed.write current now).gatewayRjobId = some rjobId ∨
        (allowed.write current now).safactoryRjobId = some rjobId →
      ¬ (r.gatewayRjobId = some rjobId ∨ r.safactoryRjobId = some rjobId) := by
    intro r hr hne rjobId hid hid'
    have hOwner := (h.wrote hWrite hf hg hid).2
    rw [(h.owned (JobTable.find_of_mem hr) hid').2] at hOwner
    exact hne (Option.some.inj hOwner)
  refine JobTable.replaced_fresh ((allowed.write_jobId current now).trans (JobTable.find_jobId hf))
    (fun r hr hne rjobId hid hid' => ?_) fun r hr hne rjobId hid hid' => ?_
  · exact hFresh r hr hne rjobId (.inl hid) (.inl hid')
  · exact hFresh r hr hne rjobId (.inr hid) (.inr hid')

/-- A refused write found a closing row, and the RJob that waited waits on. -/
theorem refused (h : Owned o sv ownerOf w) {j : String} {now : Int} {changes : Changes}
    {x : PyExc} (ha : Allowed o sv w₁ (.update j now changes)) (hw : Later sv w₁ w)
    (hp : sv.Performs (.update j now changes) w (.error x) w') :
    x = .jobStateConflict ∧ Owned o sv ownerOf w' := by
  have hTrace := hp.trace (by simp)
  obtain ⟨source, hSource, -, hWrite⟩ := ha
  obtain rfl : source.jobId = j := JobTable.find_jobId hSource
  obtain ⟨current, hf, hc⟩ := hw.rows hSource
  rw [← hw.trace] at hWrite
  obtain ⟨hu, hJobs⟩ := hp.update_error
  have hx : x = .jobStateConflict := by
    rw [JobTable.update_eq hWrite.unknown hf] at hu
    split at hu
    · next hg =>
      cases hu
      exact (hWrite.refused hc hg).1
    · next allowed hg =>
      rw [dif_pos (h.not_refused hWrite hf hg)] at hu
      cases hu
  subst hx
  refine ⟨rfl, fun hf' => h.minted (hJobs ▸ hf'), fun hf' hid => h.owned (hJobs ▸ hf') hid,
    fun hPending => ?_⟩
  rw [hTrace] at hPending
  rw [hJobs]
  exact h.pending hPending

theorem performs (hIds : sv.Identifies o ownerOf) (h : Owned o sv ownerOf w) {e : Op}
    {answer : Ans e} (ha : Allowed o sv w₁ e) (hw : Later sv w₁ w)
    (hp : sv.Performs e w answer w') : Owned o sv ownerOf w' := by
  cases e with
  | now =>
    obtain ⟨-, rfl⟩ := hp
    exact h
  | update j now changes =>
    cases answer with
    | ok row => exact h.updated ha hw hp
    | error x => exact (h.refused ha hw hp).2
  | createRJob spec =>
    cases answer with
    | ok rjobId => exact h.create hIds ha hw hp
    | error x => exact h.quiet (hp.jobs (by simp)) (by rw [hp.trace (by simp)]; rfl)
  | stopRJob | listActive | listCleanupPending | get | addEvent | getRJob | ready | bind =>
    exact h.quiet (hp.jobs (by simp)) (by rw [hp.trace (by simp)]; rfl)

end Owned

theorem owned_preserved (hIds : sv.Identifies o ownerOf)
    (permitted : World P → Label Op Ans → World P → Prop) :
    (protocol o sv).Preserves sv.system (Owned o sv ownerOf) permitted where
  interference _ hJ h _ := hJ.later h
  answer _ _ ha hw _ hJ hp _ := hJ.performs hIds ha (.of_waits hw) hp
  crash _ hJ h _ := by
    cases h
    exact hJ.restart
  lost _ _ ha hw _ hJ hp h _ := by
    cases h
    exact (hJ.performs hIds ha (.of_waits hw) hp).restart

theorem Services.Initial.owned (h : sv.Initial w) : Owned o sv ownerOf w := by
  refine ⟨fun hf => ?_, fun hf hid => ?_, fun hu => ?_⟩
  · obtain ⟨new, now, hm, -, rfl⟩ := h.rows _ (JobTable.find_mem hf)
    exact JobTable.find_jobId hf ▸ hm
  · obtain ⟨new, now, -, -, rfl⟩ := h.rows _ (JobTable.find_mem hf)
    rcases hid with hid | hid <;> cases hid
  · rw [h.trace] at hu
    cases hu

/-! ### Careful runs -/

/-- Every created RJob is recorded, unless it is the one that was created last. -/
structure Ledger (o : RealJobOrchestrator) (sv : Services P) (ownerOf : String → Option String)
    (w : World P) : Prop extends Owned o sv ownerOf w where
  created {spec : RJobSpec} {rjobId : String} :
    .call (.createRJob spec) (.ok rjobId) ∈ w.trace →
    ∃ j row, spec.ownerJob = some j ∧ w.jobs.find j = some row ∧
      (row.Records spec rjobId ∨ unrecorded w.trace = some (spec, rjobId))

namespace Ledger

theorem later (h : Ledger o sv ownerOf w) (hStep : sv.Interferes w w') :
    Ledger o sv ownerOf w' := by
  refine ⟨h.toOwned.later hStep, fun {spec rjobId} hMem => ?_⟩
  have hLater := Later.of_interferes hStep
  rw [hLater.trace] at hMem ⊢
  obtain ⟨j, row, hOwner, hf, hCase⟩ := h.created hMem
  obtain ⟨row', hf', hc⟩ := hLater.rows hf
  exact ⟨j, row', hOwner, hf', hCase.imp_left fun hr => hr.grows hc.grows⟩

/-- The RJobs that were created while nothing waited to be recorded. -/
theorem recorded (h : Ledger o sv ownerOf w) (hr : unrecorded w.trace = none) {spec : RJobSpec}
    {rjobId : String} (hMem : .call (.createRJob spec) (.ok rjobId) ∈ w.trace) :
    ∃ j row, spec.ownerJob = some j ∧ w.jobs.find j = some row ∧ row.Records spec rjobId := by
  obtain ⟨j, row, hOwner, hf, hCase⟩ := h.created hMem
  refine ⟨j, row, hOwner, hf, hCase.resolve_right fun hu => ?_⟩
  rw [hr] at hu
  cases hu

/-- An event that creates nothing, while nothing waits to be recorded. -/
theorem quiet (h : Ledger o sv ownerOf w) (hOwned : Owned o sv ownerOf w')
    (hr : unrecorded w.trace = none) (hJobs : w'.jobs = w.jobs) {event : TraceEvent}
    (ht : w'.trace = event :: w.trace)
    (hEvent : ∀ spec rjobId, event ≠ .call (.createRJob spec) (.ok rjobId)) :
    Ledger o sv ownerOf w' := by
  refine ⟨hOwned, fun {spec rjobId} hMem => ?_⟩
  rw [ht] at hMem
  rcases List.mem_cons.mp hMem with heq | hMem
  · exact absurd heq.symm (hEvent spec rjobId)
  · obtain ⟨j, row, hOwner, hf, hRecords⟩ := h.recorded hr hMem
    exact ⟨j, row, hOwner, hJobs ▸ hf, .inl hRecords⟩

theorem restart (h : Ledger o sv ownerOf w) (hr : unrecorded w.trace = none) :
    Ledger o sv ownerOf w.restart :=
  h.quiet h.toOwned.restart hr rfl rfl fun _ _ heq => by cases heq

theorem create (h : Ledger o sv ownerOf w) (hOwned : Owned o sv ownerOf w') {spec : RJobSpec}
    {rjobId : String} (ha : Allowed o sv w₁ (.createRJob spec)) (hw : Later sv w₁ w)
    (hp : sv.Performs (.createRJob spec) w (.ok rjobId) w') : Ledger o sv ownerOf w' := by
  obtain ⟨row₁, hf₁, -, hNames⟩ := ha.names
  obtain ⟨row, hf, -⟩ := hw.rows hf₁
  have hJobs := hp.jobs (by simp)
  have hTrace := hp.trace (by simp)
  refine ⟨hOwned, fun {spec' rjobId'} hMem => ?_⟩
  rw [hTrace] at hMem ⊢
  rcases List.mem_cons.mp hMem with heq | hMem
  · cases heq
    exact ⟨row₁.jobId, row, hNames.1, hJobs ▸ hf, .inr rfl⟩
  · obtain ⟨j, row', hOwner, hf', hRecords⟩ := h.recorded (hw.trace ▸ ha.1) hMem
    exact ⟨j, row', hOwner, hJobs ▸ hf', .inl hRecords⟩

/-- An accepted write records the RJob that waited, if any. -/
theorem updated (h : Ledger o sv ownerOf w) (hOwned : Owned o sv ownerOf w') {j : String}
    {now : Int} {changes : Changes} {row : ControlJob}
    (ha : Allowed o sv w₁ (.update j now changes))
    (hw : Later sv w₁ w) (hp : sv.Performs (.update j now changes) w (.ok row) w') :
    Ledger o sv ownerOf w' := by
  have hTrace := hp.trace (by simp)
  obtain ⟨source, current, allowed, hSource, hWrite, hc, hf, hg, rfl, hfind⟩ := ha.update_ok hw hp
  obtain rfl : source.jobId = j := JobTable.find_jobId hSource
  rw [← hw.trace] at hWrite
  have hGrows : current.Grows (allowed.write current now) := hWrite.grows hc hg
  refine ⟨hOwned, fun {spec rjobId} hMem => ?_⟩
  rw [hTrace] at hMem
  rcases List.mem_cons.mp hMem with heq | hMem
  · cases heq
  obtain ⟨i, row', hOwner, hf', hCase⟩ := h.created hMem
  rcases hCase with hRecords | hu
  · by_cases hi : i = source.jobId
    · subst hi
      obtain rfl : row' = current := Option.some.inj (hf'.symm.trans hf)
      exact ⟨_, _, hOwner, by rw [hfind, if_pos rfl], .inl (hRecords.grows hGrows)⟩
    · exact ⟨i, row', hOwner, by rw [hfind, if_neg hi]; exact hf', .inl hRecords⟩
  · obtain ⟨hOwner', hRecords⟩ := h.records hWrite hg hu
    exact ⟨_, _, hOwner', by rw [hfind, if_pos rfl], .inl hRecords⟩

theorem refused (h : Ledger o sv ownerOf w) {j : String} {now : Int} {changes : Changes}
    {x : PyExc} (ha : Allowed o sv w₁ (.update j now changes)) (hw : Later sv w₁ w)
    (hp : sv.Performs (.update j now changes) w (.error x) w') : Ledger o sv ownerOf w' := by
  have hTrace := hp.trace (by simp)
  obtain ⟨rfl, hOwned⟩ := h.toOwned.refused ha hw hp
  refine ⟨hOwned, fun {spec rjobId} hMem => ?_⟩
  rw [hTrace] at hMem ⊢
  rcases List.mem_cons.mp hMem with heq | hMem
  · cases heq
  · rw [hp.update_error.2]
    exact h.created hMem

theorem performs (hIds : sv.Identifies o ownerOf) (h : Ledger o sv ownerOf w) {e : Op}
    {answer : Ans e} (ha : Allowed o sv w₁ e) (hw : Later sv w₁ w)
    (hp : sv.Performs e w answer w') : Ledger o sv ownerOf w' := by
  have hOwned := h.toOwned.performs hIds ha hw hp
  have hQuiet : unrecorded w₁.trace = none → (∀ j now changes, e ≠ .update j now changes) →
      e ≠ .now → (∀ spec rjobId, TraceEvent.call e answer ≠ .call (.createRJob spec) (.ok rjobId)) →
      Ledger o sv ownerOf w' := fun hr hUpdate hNow hEvent =>
    h.quiet hOwned (hw.trace ▸ hr) (hp.jobs hUpdate) (hp.trace hNow) hEvent
  cases e with
  | now =>
    obtain ⟨-, rfl⟩ := hp
    exact h
  | update j now changes =>
    cases answer with
    | ok row => exact h.updated hOwned ha hw hp
    | error x => exact h.refused ha hw hp
  | createRJob spec =>
    cases answer with
    | ok rjobId => exact h.create hOwned ha hw hp
    | error x => exact hQuiet ha.1 (by simp) (by simp) fun _ _ heq => by cases heq
  | stopRJob rjobId => exact hQuiet ha.1 (by simp) (by simp) fun _ _ heq => by cases heq
  | listActive | listCleanupPending | get | addEvent | getRJob | ready | bind =>
    exact hQuiet ha (by simp) (by simp) fun _ _ heq => by cases heq

end Ledger

/-- The ledger holds in every careful run. -/
theorem ledger_preserved (hIds : sv.Identifies o ownerOf) :
    (protocol o sv).Preserves sv.system (Ledger o sv ownerOf) Careful where
  interference _ hJ h _ := hJ.later h
  answer _ _ ha hw _ hJ hp _ := hJ.performs hIds ha (.of_waits hw) hp
  crash _ hJ h hCareful := by
    cases h
    exact hJ.restart hCareful
  lost _ _ ha hw _ hJ hp h hCareful := by
    cases h
    exact (hJ.performs hIds ha (.of_waits hw) hp).restart hCareful

theorem Services.Initial.ledger (h : sv.Initial w) : Ledger o sv ownerOf w := by
  refine ⟨h.owned, fun hMem => ?_⟩
  rw [h.trace] at hMem
  cases hMem

end SafactoryServer
