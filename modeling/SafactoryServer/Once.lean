import SafactoryServer.CleanupOrder

/-! At most one RJob for each role of a Job: a Job whose RJob is gone is not active any more, and no
RJob is created for a Job that is not active. -/

namespace SafactoryServer

open Effect
open Relation (ReflTransGen)

variable {P : Type} {o : RealJobOrchestrator} {sv : Services P} {ownerOf : String → Option String}
  {w w' w₁ : World P}

/-- A list with distinct keys has at most one item of each key. -/
theorem nodup_filter_le_one {α β : Type} {xs : List α} {f : α → β} {p : α → Bool}
    (hNodup : (xs.map f).Nodup)
    (hSame : ∀ a ∈ xs, ∀ b ∈ xs, p a = true → p b = true → f a = f b) :
    (xs.filter p).length ≤ 1 := by
  have hFiltered : ((xs.filter p).map f).Nodup := hNodup.sublist (List.filter_sublist.map f)
  match hList : xs.filter p with
  | [] => exact Nat.zero_le 1
  | [_] => exact Nat.le_refl 1
  | a :: b :: rest =>
    have ha : a ∈ xs.filter p := hList ▸ List.mem_cons_self
    have hb : b ∈ xs.filter p := hList ▸ List.mem_cons_of_mem _ List.mem_cons_self
    rw [List.mem_filter] at ha hb
    rw [hList, List.map_cons, List.map_cons, List.nodup_cons] at hFiltered
    exact absurd (hSame a ha.1 b hb.1 ha.2 hb.2 ▸ List.mem_cons_self) hFiltered.1

/-- What there is to know about RJobs in a state of the platform: those that ever came into
existence, newest first, with the specification they were created from, and the IDs of those that
exist. -/
structure PlatformView (P : Type) where
  made : P → List (RJobSpec × String)
  alive : P → String → Prop

/-- The platform creates an RJob only if none with the same key exists, returns an ID of that key,
and deletes only what is stopped.  A create may take effect and raise an exception. -/
structure Services.Idempotent (sv : Services P) (v : PlatformView P) (key : RJobSpec → String)
    (keyOf : String → String) : Prop where
  create {p p' : P} {spec : RJobSpec} {answer : Except PyExc String} :
    sv.create p spec answer p' → (∀ rjobId, v.alive p rjobId → v.alive p' rjobId) ∧
      (v.made p' = v.made p ∨ ∃ rjobId, v.made p' = (spec, rjobId) :: v.made p ∧
        keyOf rjobId = key spec ∧ v.alive p' rjobId ∧
        ∀ made ∈ v.made p, key made.1 = key spec → ¬ v.alive p made.2)
  created {p p' : P} {spec : RJobSpec} {rjobId : String} : sv.create p spec (.ok rjobId) p' →
    rjobId ≠ "" ∧ keyOf rjobId = key spec
  stop {p p' : P} {rjobId : String} {answer : Except PyExc Unit} : sv.stop p rjobId answer p' →
    v.made p' = v.made p ∧ ∀ other, other ≠ rjobId → v.alive p other → v.alive p' other
  get {p p' : P} {rjobId : String} {answer : Except PyExc RJobSnapshot} :
    sv.get p rjobId answer p' →
    v.made p' = v.made p ∧ ∀ other, v.alive p other → v.alive p' other
  ready {p p' : P} {url path : String} {answer : Except PyExc Bool} :
    sv.ready p url path answer p' →
    v.made p' = v.made p ∧ ∀ other, v.alive p other → v.alive p' other
  bind {p p' : P} {jobId rangeId : String} {answer : Except PyExc JobFileBinding} :
    sv.bind p jobId rangeId answer p' →
    v.made p' = v.made p ∧ ∀ other, v.alive p other → v.alive p' other
  drift {p p' : P} : sv.drift p p' →
    v.made p' = v.made p ∧ ∀ other, v.alive p other → v.alive p' other

/-- Distinct pairs of a role and a Job have distinct keys. -/
def Services.Distinguishes (o : RealJobOrchestrator) (sv : Services P) (key : RJobSpec → String) :
    Prop :=
  ∀ i j (spec spec' : RJobSpec), sv.mints i → sv.mints j → spec.Names o i → spec'.Names o j →
    key spec = key spec' → i = j ∧ spec.role = spec'.role

/-- The idempotency keys of distinct pairs are distinct. -/
theorem distinguishes_idempotencyKey : sv.Distinguishes o RJobSpec.idempotencyKey := by
  intro i j spec spec' _ _ hi hj heq
  rcases hi.2 with ⟨hRole, hKey, -⟩ | ⟨hRole, hKey, -⟩
  · obtain ⟨hij, hRole'⟩ := hj.gateway (heq.symm.trans hKey)
    exact ⟨hij, hRole.trans hRole'.symm⟩
  · obtain ⟨hij, hRole'⟩ := hj.controller (heq.symm.trans hKey)
    exact ⟨hij, hRole.trans hRole'.symm⟩

theorem RJobSpec.Names.key {key : RJobSpec → String}
    (hKey : key = RJobSpec.name ∨ key = RJobSpec.idempotencyKey) {spec spec' : RJobSpec}
    {j : String} (h : spec.Names o j) (h' : spec'.Names o j) (hRole : spec.role = spec'.role) :
    key spec = key spec' := by
  have hSame : spec.name = spec'.name ∧ spec.idempotencyKey = spec'.idempotencyKey := by
    rcases h.2 with ⟨hr, hk, hn⟩ | ⟨hr, hk, hn⟩ <;>
      rcases h'.2 with ⟨hr', hk', hn'⟩ | ⟨hr', hk', hn'⟩
    · exact ⟨hn.trans hn'.symm, hk.trans hk'.symm⟩
    · rw [hr, hr'] at hRole
      exact absurd hRole (by decide)
    · rw [hr, hr'] at hRole
      exact absurd hRole (by decide)
    · exact ⟨hn.trans hn'.symm, hk.trans hk'.symm⟩
  rcases hKey with rfl | rfl
  · exact hSame.1
  · exact hSame.2

/-- The RJobs that came into existence are those of the Jobs, with distinct keys, and a Job with an
RJob that is gone is not active. -/
structure Singles (o : RealJobOrchestrator) (sv : Services P) (v : PlatformView P)
    (key : RJobSpec → String) (keyOf : String → String) (ownerOf : String → Option String)
    (w : World P) : Prop extends Owned o sv ownerOf w where
  specs : ∀ made ∈ v.made w.platform, keyOf made.2 = key made.1 ∧
    ∃ j row, made.1.Names o j ∧ w.jobs.find j = some row
  gone : ∀ made ∈ v.made w.platform, ¬ v.alive w.platform made.2 →
    ∀ j row, made.1.Names o j → w.jobs.find j = some row → row.active = false
  distinct : ((v.made w.platform).map fun made => key made.1).Nodup

section

variable {v : PlatformView P} {key : RJobSpec → String} {keyOf : String → String}

/-- The rows that a step leaves: those that there were, and new ones. -/
structure RowsKept (w w' : World P) : Prop where
  old {j : String} {row : ControlJob} : w.jobs.find j = some row →
    ∃ row', w'.jobs.find j = some row'
  back {j : String} {row' : ControlJob} : w'.jobs.find j = some row' → w.jobs.find j = none ∨
    ∃ row, w.jobs.find j = some row ∧ (row.active = false → row'.active = false)

theorem RowsKept.of_interferes (h : sv.Interferes w w') : RowsKept w w' := by
  refine ⟨fun hf => ?_, fun hf' => ?_⟩
  · obtain ⟨row', hf', -⟩ := (Later.of_interferes h).rows hf
    exact ⟨row', hf'⟩
  · rcases h.row_cases hf' with ⟨row, hf, hc⟩ | ⟨-, -, -, -, -, hNone⟩
    · exact .inr ⟨row, hf, hc.grows.inactive⟩
    · exact .inl hNone

theorem RowsKept.of_performs {e : Op} {answer : Ans e} (ha : Allowed o sv w₁ e)
    (hw : Later sv w₁ w) (hp : sv.Performs e w answer w') : RowsKept w w' := by
  refine ⟨hp.row_kept, fun hf' => ?_⟩
  obtain ⟨row, hf, rfl | ⟨source, changes, -, hWritten⟩⟩ := hp.row_cases ha hw hf'
  · exact .inr ⟨_, hf, id⟩
  · obtain ⟨allowed, now, hg, rfl⟩ := hWritten.result
    exact .inr ⟨row, hf, (hWritten.write.grows hWritten.closeOnly hg).inactive⟩

namespace Singles

/-- A row that a Job with an RJob that is gone has after a step. -/
theorem inactive (h : Singles o sv v key keyOf ownerOf w) (hRows : RowsKept w w')
    {made : RJobSpec × String} (hMem : made ∈ v.made w.platform)
    (hGone : ¬ v.alive w.platform made.2) {j : String} {row' : ControlJob}
    (hNames : made.1.Names o j) (hf' : w'.jobs.find j = some row') : row'.active = false := by
  obtain ⟨-, i, last, hi, hLast⟩ := h.specs made hMem
  obtain rfl : i = j := Option.some.inj (hi.1.symm.trans hNames.1)
  rcases hRows.back hf' with hNone | ⟨row, hf, hInactive⟩
  · rw [hLast] at hNone
    cases hNone
  · exact hInactive (h.gone made hMem hGone i row hNames hf)

/-- A step that makes and deletes no RJob. -/
theorem kept (h : Singles o sv v key keyOf ownerOf w) (hOwned : Owned o sv ownerOf w')
    (hRows : RowsKept w w') (hMade : v.made w'.platform = v.made w.platform)
    (hAlive : ∀ other, v.alive w.platform other → v.alive w'.platform other) :
    Singles o sv v key keyOf ownerOf w' := by
  refine ⟨hOwned, fun made hMem => ?_, fun made hMem hGone j row hNames hf => ?_, ?_⟩
  · rw [hMade] at hMem
    obtain ⟨hKey, j, row, hNames, hf⟩ := h.specs made hMem
    obtain ⟨row', hf'⟩ := hRows.old hf
    exact ⟨hKey, j, row', hNames, hf'⟩
  · rw [hMade] at hMem
    exact h.inactive hRows hMem (mt (hAlive _) hGone) hNames hf
  · rw [hMade]
    exact h.distinct

theorem interferes (hIdem : sv.Idempotent v key keyOf) (h : Singles o sv v key keyOf ownerOf w)
    (hStep : sv.Interferes w w') : Singles o sv v key keyOf ownerOf w' := by
  have hPlatform : v.made w'.platform = v.made w.platform ∧
      ∀ other, v.alive w.platform other → v.alive w'.platform other := by
    cases hStep with
    | drift hd => exact hIdem.drift hd
    | close | accept | event | tick => exact ⟨rfl, fun _ h => h⟩
  exact h.kept (h.toOwned.later hStep) (.of_interferes hStep) hPlatform.1 hPlatform.2

/-- What the platform does by itself while a call waits. -/
theorem waits (hIdem : sv.Idempotent v key keyOf) (hw : Later sv w w') :
    v.made w'.platform = v.made w.platform ∧
      ∀ other, v.alive w.platform other → v.alive w'.platform other := by
  have hPlatform := hw.platform
  generalize w'.platform = p at hPlatform
  induction hPlatform with
  | refl => exact ⟨rfl, fun _ h => h⟩
  | tail _ hd ih =>
    obtain ⟨hMade, hAlive⟩ := hIdem.drift hd
    exact ⟨hMade.trans ih.1, fun other h => hAlive other (ih.2 other h)⟩

/-- A create makes an RJob only for a Job that has none of that role. -/
theorem create (hIdem : sv.Idempotent v key keyOf) (hDistinct : sv.Distinguishes o key)
    (h₁ : Singles o sv v key keyOf ownerOf w₁) (h : Singles o sv v key keyOf ownerOf w)
    (hOwned : Owned o sv ownerOf w') {spec : RJobSpec} {answer : Except PyExc String}
    (ha : Allowed o sv w₁ (.createRJob spec)) (hw : Later sv w₁ w)
    (hp : sv.Performs (.createRJob spec) w answer w') : Singles o sv v key keyOf ownerOf w' := by
  have hRows := RowsKept.of_performs ha hw hp
  obtain ⟨row₁, hf₁, hActive, hNames⟩ := ha.names
  obtain ⟨row, hf, -⟩ := hw.rows hf₁
  have hJobs := hp.jobs (by simp)
  obtain ⟨p, hCreate, heq⟩ := hp
  obtain rfl : w'.platform = p := by rw [heq]; rfl
  obtain ⟨hAlive, hMade | ⟨rjobId, hMade, hKey, hLives, hFresh⟩⟩ := hIdem.create hCreate
  · exact h.kept hOwned hRows hMade hAlive
  obtain ⟨hMade₁, hAlive₁⟩ := waits hIdem hw
  -- an RJob with this key would have been gone when the create was issued, for an active Job
  have hNew : ∀ made ∈ v.made w.platform, key made.1 ≠ key spec := by
    intro made hMem heq
    obtain ⟨-, j, last, hj, hLast⟩ := h.specs made hMem
    obtain ⟨rfl, -⟩ := hDistinct _ _ _ _ (h.minted hLast) (h.minted hf) hj hNames heq
    have hGone : ¬ v.alive w₁.platform made.2 := mt (hAlive₁ _) (hFresh made hMem heq)
    have hInactive := h₁.gone made (hMade₁ ▸ hMem) hGone _ _ hj hf₁
    rw [hActive] at hInactive
    cases hInactive
  refine ⟨hOwned, fun made hMem => ?_, fun made hMem hGone j row' hj hf' => ?_, ?_⟩
  · rw [hMade] at hMem
    rw [hJobs]
    rcases List.mem_cons.mp hMem with rfl | hMem
    · exact ⟨hKey, _, row, hNames, hf⟩
    · exact h.specs made hMem
  · rw [hMade] at hMem
    rcases List.mem_cons.mp hMem with rfl | hMem
    · exact absurd hLives hGone
    · exact h.inactive hRows hMem (mt (hAlive _) hGone) hj hf'
  · rw [hMade, List.map_cons, List.nodup_cons]
    refine ⟨fun hMem => ?_, h.distinct⟩
    obtain ⟨made, hMem, heq⟩ := List.mem_map.mp hMem
    exact hNew made hMem heq

/-- A stop deletes only an RJob of a Job that is not active. -/
theorem stop (hIdem : sv.Idempotent v key keyOf)
    (hOwner : ∀ {rjobId j : String} {spec : RJobSpec}, sv.mints j → spec.Names o j →
      keyOf rjobId = key spec → ownerOf rjobId = some j)
    (h₁ : Owned o sv ownerOf w₁) (h : Singles o sv v key keyOf ownerOf w)
    (hOwned : Owned o sv ownerOf w') {rjobId : String} {answer : Except PyExc Unit}
    (ha : Allowed o sv w₁ (.stopRJob rjobId)) (hw : Later sv w₁ w)
    (hp : sv.Performs (.stopRJob rjobId) w answer w') : Singles o sv v key keyOf ownerOf w' := by
  have hRows := RowsKept.of_performs ha hw hp
  obtain ⟨-, row, stops, -, hf₁, hInactive, -, hOrder⟩ := ha
  have hJobs := hp.jobs (by simp)
  obtain ⟨p, hStop, heq⟩ := hp
  obtain rfl : w'.platform = p := by rw [heq]; rfl
  obtain ⟨hMade, hAlive⟩ := hIdem.stop hStop
  obtain ⟨row', hf, hc⟩ := hw.rows hf₁
  obtain rfl := hc.eq hInactive
  refine ⟨hOwned, fun made hMem => ?_, fun made hMem hGone j last hj hf' => ?_, ?_⟩
  · rw [hMade] at hMem
    rw [hJobs]
    exact h.specs made hMem
  · rw [hMade] at hMem
    by_cases hLive : v.alive w.platform made.2
    · -- the RJob that this stop deletes is recorded in the row of the attempt
      have hId : made.2 = rjobId := by
        by_contra hne
        exact hGone (hAlive _ hne hLive)
      have hJob := hOwner (hOwned.minted hf') hj (h.specs made hMem).1
      have hRow := (h₁.owned hf₁ (hOrder.recorded)).2
      rw [hId, hRow] at hJob
      obtain rfl : row'.jobId = j := Option.some.inj hJob
      rw [hJobs, hf] at hf'
      exact Option.some.inj hf' ▸ hInactive
    · exact h.inactive hRows hMem hLive hj hf'
  · rw [hMade]
    exact h.distinct

theorem performs (hIdem : sv.Idempotent v key keyOf) (hDistinct : sv.Distinguishes o key)
    (hOwner : ∀ {rjobId j : String} {spec : RJobSpec}, sv.mints j → spec.Names o j →
      keyOf rjobId = key spec → ownerOf rjobId = some j)
    (h₁ : Singles o sv v key keyOf ownerOf w₁) (h : Singles o sv v key keyOf ownerOf w)
    (hOwned : Owned o sv ownerOf w') {e : Op} {answer : Ans e} (ha : Allowed o sv w₁ e)
    (hw : Later sv w₁ w) (hp : sv.Performs e w answer w') :
    Singles o sv v key keyOf ownerOf w' := by
  have hRows := RowsKept.of_performs ha hw hp
  have hSame : w'.platform = w.platform → Singles o sv v key keyOf ownerOf w' := fun heq =>
    h.kept hOwned hRows (by rw [heq]) fun other hLive => by rwa [heq]
  cases e with
  | createRJob spec => exact h₁.create hIdem hDistinct h hOwned ha hw hp
  | stopRJob rjobId => exact h.stop hIdem hOwner h₁.toOwned hOwned ha hw hp
  | getRJob rjobId =>
    obtain ⟨p, hGet, rfl⟩ := hp
    exact h.kept hOwned hRows (hIdem.get hGet).1 (hIdem.get hGet).2
  | ready url path =>
    obtain ⟨p, hReady, rfl⟩ := hp
    exact h.kept hOwned hRows (hIdem.ready hReady).1 (hIdem.ready hReady).2
  | bind jobId rangeId =>
    obtain ⟨p, hBind, rfl⟩ := hp
    exact h.kept hOwned hRows (hIdem.bind hBind).1 (hIdem.bind hBind).2
  | now | listActive | listCleanupPending | get | update | addEvent =>
    exact hSame (hp.platform rfl)

theorem restart (h : Singles o sv v key keyOf ownerOf w) :
    Singles o sv v key keyOf ownerOf w.restart :=
  ⟨h.toOwned.restart, h.specs, h.gone, h.distinct⟩

end Singles

theorem singles_preserved (hIdem : sv.Idempotent v key keyOf) (hDistinct : sv.Distinguishes o key)
    (hIds : sv.Identifies o ownerOf)
    (hOwner : ∀ {rjobId j : String} {spec : RJobSpec}, sv.mints j → spec.Names o j →
      keyOf rjobId = key spec → ownerOf rjobId = some j) :
    (protocol o sv).Preserves sv.system (Singles o sv v key keyOf ownerOf) fun _ _ _ => True where
  interference _ hJ h _ := hJ.interferes hIdem h
  answer _ hJ₀ ha hw _ hJ hp _ := hJ₀.performs hIdem hDistinct hOwner hJ
    (hJ.toOwned.performs hIds ha (.of_waits hw) hp) ha (.of_waits hw) hp
  crash _ hJ h _ := by
    cases h
    exact hJ.restart
  lost _ hJ₀ ha hw _ hJ hp h _ := by
    cases h
    exact (hJ₀.performs hIdem hDistinct hOwner hJ
      (hJ.toOwned.performs hIds ha (.of_waits hw) hp) ha (.of_waits hw) hp).restart

/-- On a platform that is idempotent per name or per idempotency key at most one RJob of each role
comes into existence for a Job, in every run with any crashes, lost replies, failures and close
requests; and no create is issued for a Job that is not active. -/
theorem created_once {w₀ : World P} (h₀ : sv.Initial w₀) (hNone : v.made w₀.platform = [])
    (hKey : key = RJobSpec.name ∧ sv.Distinguishes o RJobSpec.name ∨ key = RJobSpec.idempotencyKey)
    (hIdem : sv.Idempotent v key keyOf) :
    (∀ c, sv.Reaches o (fun _ _ _ => True) ⟨w₀, none⟩ c → ∀ j role,
      ((v.made c.state.platform).filter fun made =>
        made.1.ownerJob = some j ∧ made.1.role = role).length ≤ 1) ∧
    ∀ w spec, sv.Issues o (fun _ _ _ => True) ⟨w₀, none⟩ w (.createRJob spec) →
      ∃ j row, spec.ownerJob = some j ∧ w.jobs.find j = some row ∧ row.active = true := by
  have hDistinct : sv.Distinguishes o key := by
    rcases hKey with ⟨rfl, hNames⟩ | rfl
    · exact hNames
    · exact distinguishes_idempotencyKey
  -- the Job of an ID is that of the key which the ID belongs to
  obtain ⟨ownerOf, hOwns⟩ := @exists_owner
    (fun rjobId j => sv.mints j ∧ ∃ spec : RJobSpec, spec.Names o j ∧ keyOf rjobId = key spec) (by
      rintro rjobId i j ⟨hi, spec, hSpec, heq⟩ ⟨hj, spec', hSpec', heq'⟩
      exact (hDistinct i j spec spec' hi hj hSpec hSpec' (heq.symm.trans heq')).1)
  have hIds : sv.Identifies o ownerOf := by
    intro p spec j rjobId p' hMints hSpec hCreate
    obtain ⟨hne, heq⟩ := hIdem.created hCreate
    exact ⟨hne, hOwns ⟨hMints, spec, hSpec, heq⟩⟩
  have hJ := singles_preserved hIdem hDistinct hIds
    fun hMints hSpec heq => hOwns ⟨hMints, _, hSpec, heq⟩
  have hJ₀ : Singles o sv v key keyOf ownerOf w₀ := by
    refine ⟨h₀.owned, fun made hMem => ?_, fun made hMem => ?_, ?_⟩
    · rw [hNone] at hMem
      cases hMem
    · rw [hNone] at hMem
      cases hMem
    · rw [hNone]
      exact List.nodup_nil
  refine ⟨fun c h j role => ?_, fun w spec h => ?_⟩
  · obtain ⟨⟨-, hSingles⟩, -⟩ := h.holds h₀ hJ₀ hJ
    refine nodup_filter_le_one hSingles.distinct fun a ha b hb hA hB => ?_
    simp only [decide_eq_true_eq] at hA hB
    obtain ⟨-, i, -, hi, -⟩ := hSingles.specs a ha
    obtain ⟨-, i', -, hi', -⟩ := hSingles.specs b hb
    obtain rfl : i = j := Option.some.inj (hi.1.symm.trans hA.1)
    obtain rfl : i' = i := Option.some.inj (hi'.1.symm.trans hB.1)
    exact hi.key (hKey.imp_left And.left) hi' (hA.2.trans hB.2.symm)
  · obtain ⟨-, ha⟩ := h.allowed h₀ hJ₀ hJ
    obtain ⟨row, hf, hActive, hSpec⟩ := ha.names
    exact ⟨row.jobId, row, hSpec.1, hf, hActive⟩

end

/-! ### A run with a lost reply -/

/-- A platform that deletes what is stopped and that may lose its next reply to a create. -/
structure Cloud where
  made : List RJobSpec
  gone : List String
  lossy : Bool

namespace Cloud

/-- The ID of the RJob with that key. -/
def rjobId (key : String) : String := "rjob-" ++ key

def keyOf (rjobId : String) : String := String.ofList (rjobId.toList.drop 5)

@[simp] theorem keyOf_rjobId (key : String) : keyOf (rjobId key) = key := by
  rw [keyOf, rjobId, String.toList_append]
  exact String.ofList_toList

def create (p : Cloud) (spec : RJobSpec) : Cloud :=
  if p.made.any (·.idempotencyKey = spec.idempotencyKey) ∧ rjobId spec.idempotencyKey ∉ p.gone
  then p
  else { p with made := spec :: p.made, gone := p.gone.filter (· ≠ rjobId spec.idempotencyKey) }

def script : Script Cloud where
  create p spec :=
    if p.lossy then (.error .rjobDependencyError, { p.create spec with lossy := false })
    else (.ok (rjobId spec.idempotencyKey), p.create spec)
  get p rjobId := ((sampleScript.get () rjobId).1, p)
  stop p rjobId := (.ok (), { p with gone := rjobId :: p.gone })
  ready p url path := ((sampleScript.ready () url path).1, p)
  bind p jobId rangeId := ((sampleScript.bind () jobId rangeId).1, p)

def view : PlatformView Cloud where
  made p := p.made.map fun spec => (spec, rjobId spec.idempotencyKey)
  alive p rjobId := rjobId ∉ p.gone

theorem create_alive {p : Cloud} {spec : RJobSpec} {other : String} (h : other ∉ p.gone) :
    other ∉ (p.create spec).gone := by
  unfold create
  split
  · exact h
  · simp [h]

theorem create_made (p : Cloud) (spec : RJobSpec) :
    view.made (p.create spec) = view.made p ∨
      view.made (p.create spec) = (spec, rjobId spec.idempotencyKey) :: view.made p ∧
      rjobId spec.idempotencyKey ∉ (p.create spec).gone ∧
      ∀ made ∈ view.made p, made.1.idempotencyKey = spec.idempotencyKey → made.2 ∈ p.gone := by
  unfold create
  split
  · exact .inl rfl
  · next hNew =>
    refine .inr ⟨rfl, by simp, fun made hMem hKey => ?_⟩
    obtain ⟨spec', hSpec, rfl⟩ := List.mem_map.mp hMem
    by_contra hLive
    refine hNew ⟨List.any_eq_true.mpr ⟨spec', hSpec, by simpa using hKey⟩, ?_⟩
    rwa [← show spec'.idempotencyKey = spec.idempotencyKey from hKey]

theorem create_state {p p' : Cloud} {spec : RJobSpec} {answer : Except PyExc String}
    (h : script.services.create p spec answer p') :
    ∃ lossy, p' = { p.create spec with lossy := lossy } := by
  have hState : (script.create p spec).2 = p' := congrArg Prod.snd h
  rw [← hState]
  by_cases hLossy : p.lossy = true
  · exact ⟨false, by simp only [script, hLossy, if_true]⟩
  · exact ⟨(p.create spec).lossy, by simp only [script, hLossy, Bool.false_eq_true, if_false]⟩

theorem create_ok {p p' : Cloud} {spec : RJobSpec} {id : String}
    (h : script.services.create p spec (.ok id) p') : rjobId spec.idempotencyKey = id := by
  have hAnswer : (script.create p spec).1 = .ok id := congrArg Prod.fst h
  by_cases hLossy : p.lossy = true
  · simp [script, hLossy] at hAnswer
  · simpa [script, hLossy] using hAnswer

theorem idempotent : script.services.Idempotent view RJobSpec.idempotencyKey keyOf where
  create {p p' spec answer} h := by
    obtain ⟨lossy, rfl⟩ := create_state h
    refine ⟨fun _ hLive => create_alive hLive, ?_⟩
    rcases create_made p spec with hSame | ⟨hMade, hLive, hFresh⟩
    · exact .inl hSame
    · exact .inr ⟨_, hMade, keyOf_rjobId _, hLive,
        fun made hMem hKey => not_not.mpr (hFresh made hMem hKey)⟩
  created {p p' spec id} h := by
    obtain rfl := create_ok h
    refine ⟨fun hEmpty => ?_, keyOf_rjobId _⟩
    have hLength := congrArg String.length hEmpty
    simp [rjobId] at hLength
  stop h := by
    cases h
    exact ⟨rfl, fun other hne hLive hMem => (List.mem_cons.mp hMem).elim hne hLive⟩
  get h := by
    cases h
    exact ⟨rfl, fun _ h => h⟩
  ready h := by
    cases h
    exact ⟨rfl, fun _ h => h⟩
  bind h := by
    cases h
    exact ⟨rfl, fun _ h => h⟩
  drift h := h.elim

end Cloud

def creates : TraceEvent → Bool
  | .call (.createRJob _) _ => true
  | _ => false

/-- The second pass finds the Gateway that the lost reply of the first was about. -/
theorem created_once_lost :
    ∃ c, Cloud.script.services.Reaches sampleOrchestrator (fun _ _ _ => True)
        ⟨sampleWorld ⟨[], [], true⟩, none⟩ c ∧
      c.state.platform.made.map (·.role) = ["safactory-controller", "gateway"] ∧
      c.state.trace.countP creates = 3 ∧
      ∀ j role, ((Cloud.view.made c.state.platform).filter fun made =>
        made.1.ownerJob = some j ∧ made.1.role = role).length ≤ 1 := by
  have hFirst := Cloud.script.reaches_idle sampleOrchestrator (sampleWorld ⟨[], [], true⟩)
    (by decide +kernel)
  have hSecond := (hFirst.trans (Cloud.script.reaches_pass sampleOrchestrator _)).always
  exact ⟨_, hSecond, by decide +kernel, by decide +kernel,
    (created_once (sampleWorld_initial Cloud.script _) rfl (.inr rfl) Cloud.idempotent).1 _ hSecond⟩

end SafactoryServer
