import SafactoryServer.Ranking
import SafactoryServer.Value
import Mathlib.Data.Prod.Lex
import Mathlib.Data.String.Basic

/-! Rows of the Landing table: their sort key, which of them are steps of the trajectory and which
seal it, what a step shows, and the latest row of each step. -/

namespace SafactoryServer

open Ranking

/-- A row that `query_data` returns, or another dict. -/
abbrev Row := List (String × Value)

/-- `row.get(name)`. -/
def Row.field (row : Row) (name : String) : Value := (lookup name row).getD .null

/-- A row's place: step, creation time and identifier. -/
abbrev SortKey := Int ×ₗ String ×ₗ String

namespace Landing

variable (py : Interpreter)

/-- The `except (TypeError, ValueError)` of this module. -/
def orDefault {α : Type} (result : Except PyExc α) (default : α) : Except PyExc α :=
  match result with
  | .error .typeError | .error .valueError => .ok default
  | result => result

/-- `_json_value`. -/
def jsonValue (value default : Value) : Except PyExc Value :=
  match value with
  | .null => .ok default
  | .str s => orDefault (py.loads s) (.str s)
  | value => .ok value

/-- `_meta_json`. -/
def metaJson (value : Value) : Except PyExc Row := do
  return ((← jsonValue py value (.dict [])).asDict?).getD []

/-- `_truthy`. -/
def truthy (value : Value) : Bool :=
  match value with
  | .str s => ["1", "true", "yes", "on"].contains (py.lowered (py.toUnicode.strip s))
  | value => value.truthy

/-- `_finite_float`. -/
def finiteFloat (value : Value) : Except PyExc PyFloat :=
  match value with
  | .bool _ => .error .typeError
  | value => do
    let result ← value.toFloat py
    if !result.isFinite then throw .valueError
    return result

/-- `_row_sort_key`. -/
def rowSortKey (row : Row) : Except PyExc SortKey := do
  let step ← orDefault ((row.field "step_id").toInt py) (-1)
  let createdAt ← ((row.field "created_at").orElse (.str "")).toStr py
  let id ← ((row.field "id").orElse (.str "")).toStr py
  return toLex (step, toLex (createdAt, id))

def closingEvents : List String :=
  ["gateway_session_close", "episode_summary", "evaluation_summary"]

/-- `_is_trajectory_row`. -/
def isTrajectoryRow (row : Row) : Except PyExc Bool := do
  let metadata ← metaJson py (row.field "meta_json")
  let eventType := metadata.field "event_type"
  if (← eventType.memStrs closingEvents) || (metadata.field "synthetic_stop").truthy then
    return false
  if eventType.asStr? = some "gateway_inference" then
    let code := ((metadata.field "status_code").orElse (.int 200)).toInt py
    orDefault (do return (← code) < 400) true
  else
    let messages ← jsonValue py (row.field "messages") (.list [])
    return messages.truthy || (row.field "response").truthy

/-- `d[key] = value`. -/
def assign {α : Type} (key : String) (value : α) (d : List (String × α)) : List (String × α) :=
  if d.any (·.1 = key) then d.map fun p => if p.1 = key then (key, value) else p
  else d ++ [(key, value)]

/-- One round of the loop of `_trajectory_rows`. -/
def latestByStep (d : List (String × Row)) (row : Row) : Except PyExc (List (String × Row)) := do
  if !(← isTrajectoryRow py row) then return d
  let stepId ← (row.field "step_id").toStr py
  match lookup stepId d with
  | none => return assign stepId row d
  | some previous =>
    let key ← rowSortKey py row
    if (← rowSortKey py previous) < key then return assign stepId row d else return d

/-- `_trajectory_rows`. -/
def trajectoryRows (rows : List Row) : Except PyExc (List Row) := do
  let latest ← rows.foldlM (latestByStep py) []
  sortedBy (rowSortKey py) (latest.map (·.2))

/-- `_is_sealing_row`. -/
def isSealingRow (row : Row) : Except PyExc Bool := do
  let metadata ← metaJson py (row.field "meta_json")
  if truthy py (row.field "is_session_completed") || truthy py (row.field "is_terminal") ||
    truthy py (metadata.field "is_session_completed") then return true
  (metadata.field "event_type").memStrs closingEvents

/-- What a response is shown as. -/
def modelOutput : Value → Option Row
  | .dict entries => some entries
  | .null => none
  | .str s => some [("content", .str s)]
  | response => some [("value", response)]

/-- The entry of `model_input` for a request. -/
def requestInput (request : Value) : Except PyExc Row :=
  if request.isNone then .ok []
  else (jsonValue py request request).map fun decoded => [("request", decoded)]

/-- `_trajectory_payload`. -/
def trajectoryPayload (row : Row) : Except PyExc Row := do
  let metadata ← metaJson py (row.field "meta_json")
  let messages ← jsonValue py (row.field "messages") (.list [])
  let requested ← requestInput py (metadata.field "request")
  let modelInput := (if messages.truthy then [("messages", messages)] else []) ++ requested
  let response ← jsonValue py (row.field "response") .null
  return (if modelInput.isEmpty then [] else [("model_input", .dict modelInput)]) ++
    ((modelOutput response).elim [] fun output => [("model_output", .dict output)]) ++
    ["action", "observation"].flatMap fun name =>
      ((metadata.field name).asDict?).elim [] fun entries => [(name, .dict entries)]

/-- `abs(timestamp) >= 100_000_000_000`. -/
def isMilliseconds : PyFloat → Bool
  | .finite q => decide (100000000000 ≤ q ∨ q ≤ -100000000000)
  | .infinity _ => true
  | .nan => false

/-- `_datetime_or_none`. -/
def datetimeOrNone (value : Value) : Except PyExc (Option Datetime) :=
  match value with
  | .null => .ok none
  | .datetime d => if d.utcoffset.isNone then .error .valueError else .ok (some d)
  | .int _ | .float _ => do
    let timestamp ← value.toFloat py
    let timestamp :=
      if isMilliseconds timestamp then py.divide timestamp (.finite 1000) else timestamp
    return some (← py.fromtimestamp timestamp)
  | .str s =>
    match py.fromisoformat (replaceChar 'Z' "+00:00" s) with
    | none => .error .valueError
    | some d => if d.utcoffset.isNone then .error .valueError else .ok (some d)
  | _ => .error .typeError

/-- `_row_datetime`. -/
def rowDatetime (row : Row) : Except PyExc (Option Datetime) :=
  datetimeOrNone py (row.field "created_at")

/-! ### The latest row of each step -/

/-- What `_trajectory_rows` reads of a row before it files it: nothing if it is no step. -/
def observe (row : Row) : Except PyExc (Option (Entry String SortKey Row)) := do
  if !(← isTrajectoryRow py row) then return none
  let stepId ← (row.field "step_id").toStr py
  return some ⟨stepId, ← rowSortKey py row, row⟩

/-- A row on which nothing raises. -/
def Readable (row : Row) : Prop := ∃ observed, observe py row = .ok observed

/-- The entry of a readable row that is a step. -/
def entryOf (row : Row) : Option (Entry String SortKey Row) := (observe py row).toOption.join

variable {py}

/-- A step of the trajectory, whatever its key. -/
def IsStep (py : Interpreter) (row : Row) (stepId : String) : Prop :=
  isTrajectoryRow py row = .ok true ∧ (row.field "step_id").toStr py = .ok stepId

theorem observe_step {row : Row} {stepId : String} (h : IsStep py row stepId) :
    observe py row = (rowSortKey py row).map fun key => some ⟨stepId, key, row⟩ := by
  rw [observe, h.1, h.2]
  cases rowSortKey py row <;> rfl

theorem observe_other {row : Row} (h : isTrajectoryRow py row = .ok false) :
    observe py row = .ok none := by
  rw [observe, h]
  rfl

theorem entryOf_some {row : Row} {e : Entry String SortKey Row} :
    entryOf py row = some e ↔
      IsStep py row e.id ∧ rowSortKey py row = .ok e.key ∧ e.item = row := by
  constructor
  · intro h
    cases ht : isTrajectoryRow py row with
    | error x => simp [entryOf, observe, ht, bind, Except.bind, Except.toOption] at h
    | ok b =>
      cases b with
      | false => simp [entryOf, observe_other ht, Except.toOption] at h
      | true =>
        cases hs : (row.field "step_id").toStr py with
        | error x => simp [entryOf, observe, ht, hs, bind, Except.bind, Except.toOption] at h
        | ok stepId =>
          rw [entryOf, observe_step ⟨ht, hs⟩] at h
          cases hk : rowSortKey py row with
          | error x => simp [hk, Except.map, Except.toOption] at h
          | ok key =>
            rw [hk] at h
            cases h
            exact ⟨⟨ht, hs⟩, rfl, rfl⟩
  · rintro ⟨hstep, hkey, hitem⟩
    rw [entryOf, observe_step hstep, hkey]
    cases e
    cases hitem
    rfl

theorem Readable.cases {row : Row} (h : Readable py row) :
    isTrajectoryRow py row = .ok false ∧ entryOf py row = none ∨
      ∃ e, entryOf py row = some e := by
  obtain ⟨observed, h⟩ := h
  cases observed with
  | some e => exact .inr ⟨e, by rw [entryOf, h]; rfl⟩
  | none =>
    refine .inl ⟨?_, by rw [entryOf, h]; rfl⟩
    cases ht : isTrajectoryRow py row with
    | error x => rw [observe, ht] at h; cases h
    | ok b =>
      cases b with
      | false => rfl
      | true =>
        obtain ⟨b, hb, h⟩ := bind_ok h
        rw [ht] at hb
        cases hb
        obtain ⟨stepId, -, h⟩ := bind_ok h
        obtain ⟨key, -, h⟩ := bind_ok h
        cases h

/-- The dict that holds filed entries. -/
def asDict (filed : List (Entry String SortKey Row)) : List (String × Row) :=
  filed.map fun e => (e.id, e.item)

theorem asDict_values (filed : List (Entry String SortKey Row)) :
    (asDict filed).map (·.2) = filed.map (·.item) := by
  rw [asDict, List.map_map]
  rfl

theorem lookup_asDict (stepId : String) (filed : List (Entry String SortKey Row)) :
    lookup stepId (asDict filed) = (filed.find? (·.id == stepId)).map (·.item) := by
  rw [lookup, asDict, List.find?_map, Option.map_map]
  rfl

theorem assign_asDict (filed : List (Entry String SortKey Row)) (e : Entry String SortKey Row) :
    assign e.id e.item (asDict filed) =
      asDict (if filed.any (·.id = e.id) then filed.map fun f => if f.id = e.id then e else f
        else filed ++ [e]) := by
  have hany : ((asDict filed).any fun p => p.1 = e.id) = filed.any fun f => f.id = e.id := by
    rw [asDict, List.any_map]
    rfl
  rw [assign, hany]
  split
  · rw [asDict, asDict, List.map_map, List.map_map]
    refine List.map_congr_left fun f _ => ?_
    simp only [Function.comp_apply]
    split <;> rfl
  · rw [asDict, asDict, List.map_append]
    rfl

/-- One round of the loop files the entry of a readable row. -/
theorem latestByStep_entry {filed : List (Entry String SortKey Row)} {row : Row}
    {e : Entry String SortKey Row} (hids : (filed.map (·.id)).Nodup)
    (hkeys : ∀ f ∈ filed, rowSortKey py f.item = .ok f.key) (he : entryOf py row = some e) :
    latestByStep py (asDict filed) row = .ok (asDict (file filed e)) := by
  obtain ⟨hstep, hkey, rfl⟩ := entryOf_some.mp he
  rw [latestByStep, hstep.1, hstep.2]
  show (match lookup e.id (asDict filed) with | none => _ | some previous => _) = _
  rw [lookup_asDict]
  cases hf : filed.find? (·.id == e.id) with
  | none =>
    have hany : filed.any (·.id = e.id) = false := by simpa using hf
    show Except.ok _ = _
    rw [assign_asDict, hany, file, hany]
    rfl
  | some f =>
    have hmem := List.mem_of_find?_eq_some hf
    have hid : f.id = e.id := by simpa using List.find?_some hf
    have hany : filed.any (·.id = e.id) = true := List.any_eq_true.mpr ⟨f, hmem, by simpa using hid⟩
    have honly : ∀ g ∈ filed, g.id = e.id → g = f := fun g hg hgid =>
      List.inj_on_of_nodup_map hids hg hmem (hgid.trans hid.symm)
    simp only [Option.map_some, hkey, hkeys f hmem]
    show (if f.key < e.key then _ else _) = _
    rw [file, if_pos hany]
    split
    · next hlt =>
      show Except.ok _ = _
      rw [assign_asDict, if_pos hany]
      congr 2
      refine List.map_congr_left fun g hg => ?_
      by_cases hgid : g.id = e.id
      · rw [if_pos hgid, if_pos ⟨hgid, honly g hg hgid ▸ hlt⟩]
      · rw [if_neg hgid, if_neg fun h => hgid h.1]
    · next hlt =>
      show Except.ok _ = _
      congr 2
      refine (List.map_id filed).symm.trans (List.map_congr_left fun g hg => ?_)
      rw [if_neg]
      · rfl
      · rintro ⟨hgid, hg⟩
        exact hlt (honly g ‹_› hgid ▸ hg)

theorem latestByStep_other {d : List (String × Row)} {row : Row}
    (h : isTrajectoryRow py row = .ok false) : latestByStep py d row = .ok d := by
  rw [latestByStep, h]
  rfl

theorem foldlM_latestByStep {rows : List Row} (h : ∀ row ∈ rows, Readable py row)
    (entries : List (Entry String SortKey Row))
    (hkeys : ∀ e ∈ entries, rowSortKey py e.item = .ok e.key) :
    rows.foldlM (latestByStep py) (asDict (latest entries)) =
      .ok (asDict (latest (entries ++ rows.filterMap (entryOf py)))) := by
  induction rows generalizing entries with
  | nil => simp [pure, Except.pure]
  | cons row rest ih =>
    rw [List.forall_mem_cons] at h
    have hfiled := latest_filed entries
    rw [List.foldlM_cons]
    rcases h.1.cases with ⟨hother, hnone⟩ | ⟨e, he⟩
    · rw [latestByStep_other hother, List.filterMap_cons_none hnone]
      exact ih h.2 entries hkeys
    · rw [latestByStep_entry hfiled.nodup (fun f hf => hkeys f (hfiled.mem f hf)) he,
        ← latest_append, List.filterMap_cons_some he]
      obtain ⟨-, hkey, rfl⟩ := entryOf_some.mp he
      refine (ih h.2 (entries ++ [e]) ?_).trans ?_
      · simp only [List.mem_append, List.mem_singleton]
        rintro f (hf | rfl)
        · exact hkeys f hf
        · exact hkey
      · rw [List.append_assoc, List.singleton_append]

/-- The entries of the rows that are steps. -/
def entries (py : Interpreter) (rows : List Row) : List (Entry String SortKey Row) :=
  rows.filterMap (entryOf py)

theorem entries_key {rows : List Row} {e : Entry String SortKey Row} (h : e ∈ entries py rows) :
    rowSortKey py e.item = .ok e.key := by
  obtain ⟨row, -, hrow⟩ := List.mem_filterMap.mp h
  obtain ⟨-, hkey, rfl⟩ := entryOf_some.mp hrow
  exact hkey

/-- On readable rows `_trajectory_rows` returns the latest row of each step, in order. -/
theorem trajectoryRows_eq {rows : List Row} (h : ∀ row ∈ rows, Readable py row) :
    trajectoryRows py rows = .ok ((ranking (entries py rows)).map (·.item)) := by
  have hloop := foldlM_latestByStep h [] (by simp)
  rw [trajectoryRows, show ([] : List (String × Row)) = asDict (latest []) from rfl, hloop]
  show sortedBy (rowSortKey py) ((asDict (latest (entries py rows))).map (·.2)) = _
  rw [asDict_values, sortedBy_entries fun e he => entries_key ((latest_filed _).mem e he)]
  rfl

/-! A loop that returns has read every row, and has left each step in the dict or compared its
key. -/

theorem lookup_some_mem {α : Type} {key : String} {d : List (String × α)} {value : α}
    (h : lookup key d = some value) : (key, value) ∈ d := by
  obtain ⟨⟨key', value'⟩, hf, rfl⟩ := Option.map_eq_some_iff.mp h
  have hkey : key' = key := by simpa using List.find?_some hf
  exact hkey ▸ List.mem_of_find?_eq_some hf

theorem assign_keys_nodup {α : Type} {key : String} {value : α} {d : List (String × α)}
    (h : (d.map (·.1)).Nodup) : ((assign key value d).map (·.1)).Nodup := by
  unfold assign
  split
  · rw [List.map_map]
    refine (List.map_congr_left fun p _ => ?_) ▸ h
    simp only [Function.comp_apply]
    split
    · next hp => exact hp
    · rfl
  · next hany =>
    have hnew : ∀ p ∈ d, p.1 ≠ key := fun p hp hkey =>
      hany (List.any_eq_true.mpr ⟨p, hp, by simpa using hkey⟩)
    rw [List.map_append, List.nodup_append]
    refine ⟨h, by simp, ?_⟩
    intro k hk k' hk'
    obtain ⟨p, hp, rfl⟩ := List.mem_map.mp hk
    rw [List.map_singleton, List.mem_singleton] at hk'
    exact hk' ▸ hnew p hp

theorem mem_assign {α : Type} (key : String) (value : α) (d : List (String × α)) :
    (key, value) ∈ assign key value d := by
  unfold assign
  split
  · next hany =>
    obtain ⟨p, hp, hkey⟩ := List.any_eq_true.mp hany
    exact List.mem_map.mpr ⟨p, hp, if_pos (of_decide_eq_true hkey)⟩
  · exact List.mem_append_right d (List.mem_singleton_self _)

theorem mem_assign_of_ne {α : Type} {key : String} {value : α} {d : List (String × α)}
    {p : String × α} (hp : p ∈ d) (hne : p.1 ≠ key) : p ∈ assign key value d := by
  unfold assign
  split
  · exact List.mem_map.mpr ⟨p, hp, if_neg hne⟩
  · exact List.mem_append_left _ hp

section

variable {α : Type} {key k : String} {value : α} {d : List (String × α)}

theorem any_assign : (assign key value d).any (·.1 = key) = true :=
  List.any_eq_true.mpr ⟨_, mem_assign key value d, by simp⟩

theorem assign_assign : assign key value (assign key value d) = assign key value d := by
  conv_lhs => rw [assign, if_pos any_assign]
  conv_rhs => rw [← List.map_id (assign key value d)]
  refine List.map_congr_left fun p hp => ?_
  by_cases hkey : p.1 = key
  · rw [if_pos hkey]
    -- under the key there is only the value
    unfold assign at hp
    split at hp
    · obtain ⟨q, -, hq⟩ := List.mem_map.mp hp
      split at hq
      · exact hq
      · next hne => exact absurd (hq ▸ hkey) hne
    · next hany =>
      rcases List.mem_append.mp hp with hp | hp
      · exact absurd (List.any_eq_true.mpr ⟨p, hp, by simpa using hkey⟩) hany
      · exact (List.mem_singleton.mp hp).symm
  · rw [if_neg hkey]
    rfl

theorem lookup_append {d' : List (String × α)} :
    lookup k (d ++ d') = (lookup k d).or (lookup k d') := by
  rw [lookup, lookup, lookup, List.find?_append]
  cases d.find? (·.1 == k) <;> rfl

theorem lookup_map_value (h : k ≠ key) :
    lookup k (d.map fun p => if p.1 = key then (key, value) else p) = lookup k d := by
  induction d with
  | nil => rfl
  | cons p rest ih =>
    rw [List.map_cons, lookup_cons, lookup_cons, ih]
    by_cases hp : p.1 = key
    · rw [if_pos hp, if_neg (Ne.symm h), if_neg (hp ▸ Ne.symm h)]
    · rw [if_neg hp]

theorem lookup_assign_of_ne (h : k ≠ key) : lookup k (assign key value d) = lookup k d := by
  unfold assign
  split
  · exact lookup_map_value h
  · rw [lookup_append, lookup_cons, if_neg (Ne.symm h)]
    cases lookup k d <;> rfl

theorem lookup_assign_self : lookup key (assign key value d) = some value := by
  unfold assign
  split
  · next hany =>
    induction d with
    | nil => cases hany
    | cons p rest ih =>
      rw [List.map_cons, lookup_cons]
      by_cases hp : p.1 = key
      · rw [if_pos hp, if_pos rfl]
      · rw [if_neg hp, if_neg hp]
        exact ih (by simpa [hp] using hany)
  · next hany =>
    have hnone : lookup key d = none := by
      rw [lookup, Option.map_eq_none_iff, List.find?_eq_none]
      exact fun p hp hkey => hany (List.any_eq_true.mpr ⟨p, hp, by simpa using hkey⟩)
    rw [lookup_append, hnone, lookup_cons, if_pos rfl]
    rfl

end

theorem field_assign_of_ne {k key : String} {value : Value} {row : Row} (h : k ≠ key) :
    Row.field (assign key value row) k = row.field k := by
  rw [Row.field, lookup_assign_of_ne h, Row.field]

theorem field_assign_self {key : String} {value : Value} {row : Row} :
    Row.field (assign key value row) key = value := by
  rw [Row.field, lookup_assign_self]
  rfl

/-- A row whose key does not raise. -/
def HasKey (py : Interpreter) (row : Row) : Prop := ∃ key, rowSortKey py row = .ok key

/-- What one round leaves: the keys of the dict are distinct, a row that it drops has a key, and its
own row is no step, or has a key, or is in the dict. -/
theorem latestByStep_ok {d d' : List (String × Row)} {row : Row} (hd : (d.map (·.1)).Nodup)
    (h : latestByStep py d row = .ok d') :
    (d'.map (·.1)).Nodup ∧ (∀ p ∈ d, p ∈ d' ∨ HasKey py p.2) ∧
      (isTrajectoryRow py row = .ok false ∨
        ∃ stepId, IsStep py row stepId ∧ (HasKey py row ∨ (stepId, row) ∈ d')) := by
  obtain ⟨b, hb, h⟩ := bind_ok h
  cases b with
  | false =>
    cases h
    exact ⟨hd, fun p hp => .inl hp, .inl hb⟩
  | true =>
    obtain ⟨stepId, hs, h⟩ := bind_ok h
    cases hl : lookup stepId d with
    | none =>
      rw [hl] at h
      cases h
      have hnew : ∀ p ∈ d, p.1 ≠ stepId := by
        intro p hp heq
        have := List.find?_eq_none.mp (Option.map_eq_none_iff.mp hl) p hp
        exact this (by simpa using heq)
      exact ⟨assign_keys_nodup hd, fun p hp => .inl (mem_assign_of_ne hp (hnew p hp)),
        .inr ⟨stepId, ⟨hb, hs⟩, .inr (mem_assign stepId row d)⟩⟩
    | some previous =>
      rw [hl] at h
      obtain ⟨key, hkey, h⟩ := bind_ok h
      obtain ⟨key', hkey', h⟩ := bind_ok h
      have hrow : isTrajectoryRow py row = .ok false ∨
          ∃ stepId, IsStep py row stepId ∧ (HasKey py row ∨ (stepId, row) ∈ d') :=
        .inr ⟨stepId, ⟨hb, hs⟩, .inl ⟨key, hkey⟩⟩
      split at h
      · cases h
        refine ⟨assign_keys_nodup hd, fun p hp => ?_, hrow⟩
        by_cases hp1 : p.1 = stepId
        · have : p = (stepId, previous) :=
            List.inj_on_of_nodup_map hd hp (lookup_some_mem hl) hp1
          exact .inr ⟨key', this ▸ hkey'⟩
        · exact .inl (mem_assign_of_ne hp hp1)
      · cases h
        exact ⟨hd, fun p hp => .inl hp, hrow⟩

theorem foldlM_latestByStep_ok {rows : List Row} {d d' : List (String × Row)}
    (hd : (d.map (·.1)).Nodup) (h : rows.foldlM (latestByStep py) d = .ok d') :
    (∀ p ∈ d, p ∈ d' ∨ HasKey py p.2) ∧
      ∀ row ∈ rows, isTrajectoryRow py row = .ok false ∨
        ∃ stepId, IsStep py row stepId ∧ (HasKey py row ∨ (stepId, row) ∈ d') := by
  induction rows generalizing d with
  | nil =>
    cases h
    exact ⟨fun p hp => .inl hp, by simp⟩
  | cons row rest ih =>
    rw [List.foldlM_cons] at h
    obtain ⟨d₁, h₁, h⟩ := bind_ok h
    obtain ⟨hd₁, hkept, hrow⟩ := latestByStep_ok hd h₁
    obtain ⟨hkept', hrest⟩ := ih hd₁ h
    refine ⟨fun p hp => (hkept p hp).elim (hkept' p) .inr, List.forall_mem_cons.mpr ⟨?_, hrest⟩⟩
    rcases hrow with hother | ⟨stepId, hstep, hkey | hmem⟩
    · exact .inl hother
    · exact .inr ⟨stepId, hstep, .inl hkey⟩
    · exact .inr ⟨stepId, hstep, (hkept' _ hmem).symm.imp_right id⟩

/-- `_trajectory_rows` returns if and only if nothing raises on any row. -/
theorem trajectoryRows_ok {rows steps : List Row} :
    trajectoryRows py rows = .ok steps ↔
      (∀ row ∈ rows, Readable py row) ∧ steps = (ranking (entries py rows)).map (·.item) := by
  constructor
  · intro h
    have hread : ∀ row ∈ rows, Readable py row := by
      obtain ⟨d, hd, hsort⟩ := bind_ok h
      obtain ⟨pairs, hpairs, -⟩ := bind_ok hsort
      intro row hrow
      rcases (foldlM_latestByStep_ok (d := []) List.nodup_nil hd).2 row hrow with
        hother | ⟨s, hstep, hkey⟩
      · exact ⟨none, observe_other hother⟩
      · have hkey : HasKey py row := by
          rcases hkey with hkey | hmem
          · exact hkey
          · obtain ⟨key, hkey, -⟩ := keyed_covers hpairs (List.mem_map_of_mem hmem)
            exact ⟨key, hkey⟩
        obtain ⟨key, hkey⟩ := hkey
        exact ⟨some ⟨s, key, row⟩, by rw [observe_step hstep, hkey]; rfl⟩
    refine ⟨hread, ?_⟩
    rw [trajectoryRows_eq hread] at h
    exact (Except.ok.inj h).symm
  · rintro ⟨hread, rfl⟩
    exact trajectoryRows_eq hread

end Landing

end SafactoryServer
