import SafactoryServer.Job
import Mathlib.Data.List.Nodup

/-! `SQLiteControlStore`: the statements it runs on the tables `jobs` and `job_events`, and its
operations as one connection runs them under its lock. -/

namespace SafactoryServer

/-- The constraints of the table `jobs`: `PRIMARY KEY` on `job_id` and `UNIQUE` on the two columns
of RJob IDs, where `NULL` may repeat. -/
structure JobTable.Valid (rows : List ControlJob) : Prop where
  primaryKey : (rows.map (·.jobId)).Nodup
  gateway : (rows.filterMap (·.gatewayRjobId)).Nodup
  safactory : (rows.filterMap (·.safactoryRjobId)).Nodup

instance (rows : List ControlJob) : Decidable (JobTable.Valid rows) :=
  decidable_of_iff ((rows.map (·.jobId)).Nodup ∧ (rows.filterMap (·.gatewayRjobId)).Nodup ∧
    (rows.filterMap (·.safactoryRjobId)).Nodup)
    ⟨fun ⟨h1, h2, h3⟩ => ⟨h1, h2, h3⟩, fun ⟨h1, h2, h3⟩ => ⟨h1, h2, h3⟩⟩

/-- The table `jobs`. -/
structure JobTable where
  rows : List ControlJob
  valid : JobTable.Valid rows

namespace JobTable

/-- `SELECT * FROM jobs WHERE job_id = ?`. -/
def find (t : JobTable) (jobId : String) : Option ControlJob :=
  t.rows.find? (·.jobId == jobId)

/-- `UPDATE jobs SET ... WHERE job_id = ? AND version = ?`, with `rowcount`.  SQLite refuses a
statement that would break a constraint. -/
def updateWhere (t : JobTable) (jobId : String) (version : Nat) (set : ControlJob → ControlJob) :
    Except PyExc (JobTable × Nat) :=
  let rows := t.rows.map fun row =>
    if row.jobId = jobId ∧ row.version = version then set row else row
  if h : Valid rows then
    .ok (⟨rows, h⟩, (t.rows.filter fun row => row.jobId = jobId ∧ row.version = version).length)
  else .error .integrityError

end JobTable

/-- The checks of `update` on the row it read: the changes it then writes.  A closing row keeps its
phase. -/
def ControlJob.guard (current : ControlJob) (changes : Changes) : Except PyExc Changes :=
  let requestedStatus := changes.status.getD current.status
  if current.terminal ∧ requestedStatus ≠ current.status then .error .valueError
  else if current.status = .closing then
    if requestedStatus ≠ .closing ∧ requestedStatus ≠ .closed then .error .jobStateConflict
    else if requestedStatus = .closing then .ok { changes with phase := none }
    else .ok changes
  else .ok changes

namespace JobTable

/-- The first statement of `update` and the checks on what it read: the row and the changes that
the second statement is to write. -/
def selectForUpdate (t : JobTable) (jobId : String) (changes : Changes) :
    Except PyExc (ControlJob × Changes) := do
  if changes.unknown ≠ [] then throw .valueError
  match t.find jobId with
  | none => throw .keyError
  | some current =>
    let changes ← current.guard changes
    return (current, changes)

/-- The second statement of `update` and `request_close`, its row count and the row it reads back,
in one transaction. -/
def writeVersion (t : JobTable) (jobId : String) (version : Nat) (set : ControlJob → ControlJob) :
    Except PyExc (ControlJob × JobTable) := do
  let (t', rowcount) ← t.updateWhere jobId version set
  if rowcount ≠ 1 then throw .runtimeError
  match t'.find jobId with
  | none => throw .typeError
  | some row => return (row, t')

/-- `SQLiteControlStore.update`. -/
def update (t : JobTable) (jobId : String) (now : Int) (changes : Changes) :
    Except PyExc (ControlJob × JobTable) := do
  let (current, changes) ← t.selectForUpdate jobId changes
  t.writeVersion jobId current.version (changes.write · now)

/-- `SQLiteControlStore.request_close`. -/
def requestClose (t : JobTable) (jobId : String) (now : Int) :
    Except PyExc (ControlJob × Bool × JobTable) :=
  match t.find jobId with
  | none => throw .keyError
  | some current =>
    if current.active then do
      let (row, t') ← t.writeVersion jobId current.version (closeChanges.write · now)
      return (row, true, t')
    else return (current, false, t)

/-- `SQLiteControlStore.add`. -/
def add (t : JobTable) (job : ControlJob) : Except PyExc JobTable :=
  if h : Valid (t.rows ++ [job]) then .ok ⟨t.rows ++ [job], h⟩ else .error .integrityError

/-- The rows of `list_active`, before `ORDER BY created_at`. -/
def activeRows (t : JobTable) : List ControlJob := t.rows.filter (·.active)

/-- The rows of `list_cleanup_pending`, before `ORDER BY updated_at`. -/
def cleanupPendingRows (t : JobTable) : List ControlJob := t.rows.filter (·.cleanupRequested = 1)

end JobTable

/-- One row of the table `job_events`. -/
structure JobEvent where
  jobId : String
  eventType : String
  phase : String
  payload : List (String × Json)
  createdAt : Int

/-- `_sanitize_event_payload`. -/
def sanitizeEventPayload (u : Unicode) (payload : List (String × Json)) : List (String × Json) :=
  payload.filter fun (key, _) =>
    u.lowered key ∉ ["token", "secret", "password", "route", "mount_source"]

/-- `INSERT INTO job_events`, with its foreign key. -/
def JobTable.insertEvent (t : JobTable) (events : List JobEvent) (event : JobEvent) :
    Except PyExc (List JobEvent) :=
  if (t.find event.jobId).isSome then .ok (events ++ [event]) else .error .integrityError

/-! ### What the operations do to the table -/

/-- The guard of `update` lets a terminal row keep its status only, and a closing row stay or become
closed. -/
theorem ControlJob.guard_ok {current : ControlJob} {changes allowed : Changes}
    (h : current.guard changes = .ok allowed) :
    (allowed = changes ∨ allowed = { changes with phase := none } ∧ current.status = .closing) ∧
      (current.terminal = true → changes.status.getD current.status = current.status) ∧
      (current.status = .closing → changes.status.getD current.status = .closing ∨
        changes.status.getD current.status = .closed) := by
  unfold ControlJob.guard at h
  simp only at h
  split at h
  · cases h
  · next hterminal =>
    refine ⟨?_, fun ht => by_contra fun hne => hterminal ⟨ht, hne⟩, fun hc => ?_⟩
    · grind
    · grind

namespace JobTable

variable {t t' : JobTable} {j : String} {now : Int} {changes : Changes} {current row : ControlJob}

theorem find_jobId (h : t.find j = some row) : row.jobId = j := by
  simpa using List.find?_some h

theorem find_mem (h : t.find j = some row) : row ∈ t.rows := List.mem_of_find?_eq_some h

theorem eq_of_mem {row' : ControlJob} (h : row ∈ t.rows) (h' : row' ∈ t.rows)
    (heq : row.jobId = row'.jobId) : row = row' :=
  List.inj_on_of_nodup_map t.valid.primaryKey h h' heq

theorem find_of_mem (h : row ∈ t.rows) : t.find row.jobId = some row := by
  cases hf : t.find row.jobId with
  | none =>
    have := List.find?_eq_none.mp hf row h
    simp at this
  | some row' => rw [eq_of_mem (find_mem hf) h (find_jobId hf)]

/-- The rows after the row of one Job is replaced. -/
def replaced (t : JobTable) (row : ControlJob) : List ControlJob :=
  t.rows.map fun r => if r.jobId = row.jobId then row else r

/-- The condition on the version selects the row that was read, or nothing. -/
theorem filter_version (h : t.find j = some current) (version : Nat) :
    (t.rows.filter fun r => r.jobId = j ∧ r.version = version) =
      if current.version = version then [current] else [] := by
  have hall : ∀ r ∈ t.rows, r.jobId = j → r = current := fun r hr hj =>
    eq_of_mem hr (find_mem h) (hj.trans (find_jobId h).symm)
  split
  · next hv =>
    have hmem : current ∈ t.rows.filter fun r => r.jobId = j ∧ r.version = version := by
      simp [find_mem h, find_jobId h, hv]
    have hnodup : (t.rows.filter fun r => r.jobId = j ∧ r.version = version).Nodup :=
      (List.Nodup.of_map _ t.valid.primaryKey).filter _
    have honly : ∀ r ∈ t.rows.filter fun r => r.jobId = j ∧ r.version = version, r = current := by
      intro r hr
      simp only [List.mem_filter, decide_eq_true_eq] at hr
      exact hall r hr.1 hr.2.1
    generalize t.rows.filter _ = l at hmem hnodup honly
    match l, hmem, hnodup, honly with
    | [a], _, _, honly => rw [honly a (by simp)]
    | a :: b :: _, _, hnodup, honly =>
      have hab : a = b := (honly a (by simp)).trans (honly b (by simp)).symm
      simp [hab] at hnodup
  · next hv =>
    simp only [List.filter_eq_nil_iff, decide_eq_true_eq, not_and]
    rintro r hr hj rfl
    exact hv (by rw [hall r hr hj])

/-- The `UPDATE` statement that follows the read of `current` changes that row and no other. -/
theorem updateWhere_rows (h : t.find j = some current) {set : ControlJob → ControlJob}
    (hSet : ∀ r, (set r).jobId = r.jobId) :
    (t.rows.map fun r => if r.jobId = j ∧ r.version = current.version then set r else r) =
      t.replaced (set current) := by
  refine List.map_congr_left fun r hr => ?_
  rw [hSet, find_jobId h]
  by_cases hj : r.jobId = j
  · obtain rfl : r = current := eq_of_mem hr (find_mem h) (hj.trans (find_jobId h).symm)
    simp [hj]
  · simp [hj]

theorem find_replaced (h : t.find j = some current) (hrow : row.jobId = j)
    (hv : Valid (t.replaced row)) (i : String) :
    (⟨t.replaced row, hv⟩ : JobTable).find i = if i = j then some row else t.find i := by
  have hmem : row ∈ t.replaced row := by
    simp only [replaced, List.mem_map]
    exact ⟨current, find_mem h, by simp [find_jobId h, hrow]⟩
  by_cases hi : i = j
  · subst hi
    have := find_of_mem (t := ⟨t.replaced row, hv⟩) hmem
    rw [hrow] at this
    simpa using this
  · simp only [hi, if_false]
    unfold find replaced
    simp only [List.find?_map]
    have hcomp : ((fun r : ControlJob => r.jobId == i) ∘
        fun r => if r.jobId = row.jobId then row else r) = fun r => r.jobId == i := by
      funext r
      by_cases hr : r.jobId = row.jobId
      · simp [hr]
      · simp [hr]
    rw [hcomp]
    cases hf : t.rows.find? (·.jobId == i) with
    | none => rfl
    | some r =>
      have hri : r.jobId = i := find_jobId (t := t) hf
      simp [hri, hrow, hi]

theorem mem_replaced {r : ControlJob} (h : r ∈ t.replaced row) :
    r = row ∨ (r ∈ t.rows ∧ r.jobId ≠ row.jobId) := by
  simp only [replaced, List.mem_map] at h
  obtain ⟨r', hr', rfl⟩ := h
  by_cases hj : r'.jobId = row.jobId
  · simp [hj]
  · simp [hj, hr']

/-- The second statement on the row that the first one read. -/
theorem writeVersion_eq (h : t.find j = some current) (set : ControlJob → ControlJob)
    (hSet : ∀ r, (set r).jobId = r.jobId) :
    t.writeVersion j current.version set =
      if hv : Valid (t.replaced (set current)) then
        .ok (set current, ⟨t.replaced (set current), hv⟩)
      else .error .integrityError := by
  unfold writeVersion updateWhere
  simp only [updateWhere_rows h hSet, filter_version h, if_true, List.length_singleton]
  by_cases hv : Valid (t.replaced (set current))
  · have hfind := find_replaced h ((hSet current).trans (find_jobId h)) hv j
    simp only [if_true] at hfind
    simp only [hv, dite_true, bind, Except.bind, hfind]
    rfl
  · simp only [hv, dite_false]
    rfl

/-- The second statement writes only over the version that the first one read. -/
theorem writeVersion_ok {version : Nat} {set : ControlJob → ControlJob}
    (hw : t.writeVersion j version set = .ok (row, t')) (hSet : ∀ r, (set r).jobId = r.jobId) :
    ∃ current, t.find j = some current ∧ current.version = version ∧ row = set current ∧
      ∀ i, t'.find i = if i = j then some row else t.find i := by
  cases hf : t.find j with
  | none =>
    have hnone : (t.rows.filter fun r => r.jobId = j ∧ r.version = version) = [] := by
      simp only [List.filter_eq_nil_iff, decide_eq_true_eq, not_and]
      intro r hr hj
      have := List.find?_eq_none.mp hf r hr
      simp [hj] at this
    unfold writeVersion updateWhere at hw
    simp only [hnone] at hw
    split at hw <;> cases hw
  | some current =>
    by_cases hv : current.version = version
    · subst hv
      rw [writeVersion_eq hf set hSet] at hw
      split at hw
      · simp only [Except.ok.injEq, Prod.mk.injEq] at hw
        obtain ⟨rfl, rfl⟩ := hw
        exact ⟨current, rfl, rfl, rfl, find_replaced hf ((hSet current).trans (find_jobId hf)) _⟩
      · cases hw
    · unfold writeVersion updateWhere at hw
      simp only [filter_version hf, hv, if_false] at hw
      split at hw <;> cases hw

theorem selectForUpdate_ok {allowed : Changes}
    (h : t.selectForUpdate j changes = .ok (current, allowed)) :
    t.find j = some current ∧ current.guard changes = .ok allowed := by
  unfold selectForUpdate at h
  by_cases hu : changes.unknown = []
  · simp only [hu, ne_eq, not_true_eq_false, if_false] at h
    cases hf : t.find j with
    | none => simp only [hf] at h; cases h
    | some row =>
      simp only [hf] at h
      cases hg : row.guard changes with
      | error x => rw [hg] at h; cases h
      | ok allowed' => rw [hg] at h; cases h; exact ⟨rfl, hg⟩
  · simp only [ne_eq, hu, not_false_eq_true, if_true] at h
    cases h

theorem update_ok (h : t.update j now changes = .ok (row, t')) :
    ∃ current allowed, t.find j = some current ∧ current.guard changes = .ok allowed ∧
      row = allowed.write current now ∧ ∀ i, t'.find i = if i = j then some row else t.find i := by
  obtain ⟨⟨current, allowed⟩, hs, hw⟩ := bind_ok h
  obtain ⟨hf, hg⟩ := selectForUpdate_ok hs
  obtain ⟨current', hf', -, hrow, hfind⟩ := writeVersion_ok hw fun _ => rfl
  obtain rfl : current' = current := Option.some.inj (hf'.symm.trans hf)
  exact ⟨current', allowed, hf, hg, hrow, hfind⟩

/-- `update` on a row that exists: the guard decides, then the constraints. -/
theorem update_eq (hu : changes.unknown = []) (h : t.find j = some current) :
    t.update j now changes = match current.guard changes with
      | .error x => .error x
      | .ok allowed =>
        if hv : Valid (t.replaced (allowed.write current now)) then
          .ok (allowed.write current now, ⟨t.replaced (allowed.write current now), hv⟩)
        else .error .integrityError := by
  unfold update selectForUpdate
  simp only [hu, ne_eq, not_true_eq_false, if_false, h]
  cases hg : current.guard changes with
  | error x => rfl
  | ok allowed => exact writeVersion_eq h _ fun _ => rfl

/-- A row that keeps its RJob IDs breaks no constraint. -/
theorem replaced_valid (h : t.find j = some current) (hrow : row.jobId = j)
    (hg : row.gatewayRjobId = current.gatewayRjobId)
    (hs : row.safactoryRjobId = current.safactoryRjobId) : Valid (t.replaced row) := by
  have hkeep : ∀ r ∈ t.rows, r.jobId = row.jobId → r = current := fun r hr hj =>
    eq_of_mem hr (find_mem h) (hj.trans (hrow.trans (find_jobId h).symm))
  have hmap : ∀ {α : Type} (f : ControlJob → α), f row = f current →
      (t.replaced row).map f = t.rows.map f := by
    intro α f hf
    simp only [replaced, List.map_map]
    refine List.map_congr_left fun r hr => ?_
    by_cases hj : r.jobId = row.jobId
    · obtain rfl := hkeep r hr hj
      simp [hj, hf]
    · simp [hj]
  have hfilter : ∀ (f : ControlJob → Option String), f row = f current →
      (t.replaced row).filterMap f = t.rows.filterMap f := by
    intro f hf
    have := congrArg (List.filterMap id) (hmap f hf)
    simpa [List.filterMap_map] using this
  constructor
  · rw [hmap _ (hrow.trans (find_jobId h).symm)]; exact t.valid.primaryKey
  · rw [hfilter _ hg]; exact t.valid.gateway
  · rw [hfilter _ hs]; exact t.valid.safactory

/-- A column of RJob IDs stays free of duplicates when one row takes an ID that no other has. -/
theorem nodup_replaced {column : ControlJob → Option String}
    (hColumn : (t.rows.filterMap column).Nodup)
    (hFresh : ∀ r ∈ t.rows, r.jobId ≠ row.jobId → ∀ rjobId, column row = some rjobId →
      column r ≠ some rjobId) :
    ((t.replaced row).filterMap column).Nodup := by
  have hKey := t.valid.primaryKey
  rw [List.Nodup, List.pairwise_filterMap] at hColumn
  rw [List.Nodup, List.pairwise_map] at hKey
  rw [List.Nodup, List.pairwise_filterMap, replaced, List.pairwise_map]
  refine (hColumn.and hKey).imp_of_mem fun {a b} ha hb hab x hx y hy => ?_
  obtain ⟨hOld, hNe⟩ := hab
  split at hx <;> split at hy
  · next hja hjb => exact absurd (hja.trans hjb.symm) hNe
  · next hja hjb =>
    rintro rfl
    exact hFresh b hb hjb x hx hy
  · next hja hjb =>
    rintro rfl
    exact hFresh a ha hja x hy hx
  · exact hOld x hx y hy

/-- A row breaks no constraint whose RJob IDs no other row has. -/
theorem replaced_fresh (hrow : row.jobId = j)
    (hg : ∀ r ∈ t.rows, r.jobId ≠ j → ∀ rjobId, row.gatewayRjobId = some rjobId →
      r.gatewayRjobId ≠ some rjobId)
    (hs : ∀ r ∈ t.rows, r.jobId ≠ j → ∀ rjobId, row.safactoryRjobId = some rjobId →
      r.safactoryRjobId ≠ some rjobId) : Valid (t.replaced row) := by
  subst hrow
  refine ⟨?_, nodup_replaced t.valid.gateway hg, nodup_replaced t.valid.safactory hs⟩
  have hKeep : (t.replaced row).map (·.jobId) = t.rows.map (·.jobId) := by
    rw [replaced, List.map_map]
    refine List.map_congr_left fun r _ => ?_
    by_cases hj : r.jobId = row.jobId <;> simp [hj]
  rw [hKeep]
  exact t.valid.primaryKey

theorem close_valid (h : t.find j = some current) : Valid (t.replaced (current.close now)) :=
  replaced_valid h ((closeChanges.write_jobId current now).trans (find_jobId h)) rfl rfl

theorem requestClose_eq (h : t.find j = some current) :
    t.requestClose j now = if current.active then
        .ok (current.close now, true, ⟨t.replaced (current.close now), close_valid h⟩)
      else .ok (current, false, t) := by
  unfold requestClose
  simp only [h]
  split
  · have hw : t.writeVersion j current.version (closeChanges.write · now) =
        .ok (current.close now, ⟨t.replaced (current.close now), close_valid h⟩) :=
      (writeVersion_eq h (closeChanges.write · now) fun _ => rfl).trans
        (dif_pos (close_valid h))
    rw [hw]
    rfl
  · rfl

theorem requestClose_ok {transitioned : Bool}
    (h : t.requestClose j now = .ok (row, transitioned, t')) :
    ∃ current, t.find j = some current ∧
      (t' = t ∨ current.active = true ∧
        ∀ i, t'.find i = if i = j then some (current.close now) else t.find i) := by
  cases hf : t.find j with
  | none =>
    unfold requestClose at h
    rw [hf] at h
    cases h
  | some current =>
    refine ⟨current, rfl, ?_⟩
    rw [requestClose_eq hf] at h
    split at h
    · next ha =>
      cases h
      exact .inr ⟨ha, find_replaced hf ((closeChanges.write_jobId current now).trans
        (find_jobId hf)) _⟩
    · cases h
      exact .inl rfl

theorem add_ok (h : t.add row = .ok t') :
    t.find row.jobId = none ∧
      ∀ i, t'.find i = if i = row.jobId then some row else t.find i := by
  unfold add at h
  split at h
  · next hv =>
    cases h
    have hnone : t.find row.jobId = none := by
      have hnodup := hv.primaryKey
      rw [List.map_append, List.nodup_append] at hnodup
      unfold find
      rw [List.find?_eq_none]
      intro r hr heq
      exact hnodup.2.2 r.jobId (List.mem_map_of_mem hr) row.jobId (by simp) (by simpa using heq)
    refine ⟨hnone, fun i => ?_⟩
    unfold find at hnone ⊢
    rw [List.find?_append]
    by_cases hi : i = row.jobId
    · subst hi
      simp [hnone]
    · simp [hi, Ne.symm hi]
  · cases h

end JobTable

end SafactoryServer
