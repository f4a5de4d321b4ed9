import SafactoryServer.DataPlatform
import SafactoryServer.JsonLoads
import Mathlib.Data.List.Pairwise

/-! The step index, the trajectories and the result of a Session: how they are computed from the
latest row of each step, that index and trajectories agree if the rows that are shown can be
decoded, and that none of them depends on the order of the rows. -/

namespace SafactoryServer

open Ranking Landing

namespace Landing

variable {py : Interpreter} {rows rows' : List Row} {jobId sessionId stepId : String}

/-- The index of a ranking. -/
def indexesOf (ranked : List (Entry String SortKey Row)) : List StepIndex :=
  (ranked.zipIdx 1).map fun p => ⟨p.1.id, p.2⟩

theorem entries_step {e : Entry String SortKey Row} (h : e ∈ entries py rows) :
    e.item ∈ rows ∧ (e.item.field "step_id").toStr py = .ok e.id := by
  obtain ⟨row, hrow, he⟩ := List.mem_filterMap.mp h
  obtain ⟨hstep, -, rfl⟩ := entryOf_some.mp he
  exact ⟨hrow, hstep.2⟩

theorem ranking_step {e : Entry String SortKey Row} (h : e ∈ ranking (entries py rows)) :
    e.item ∈ rows ∧ (e.item.field "step_id").toStr py = .ok e.id :=
  entries_step ((ranking_filed _).mem e h)

theorem indexesOf_stepIds (ranked : List (Entry String SortKey Row)) :
    (indexesOf ranked).map (·.stepId) = ranked.map (·.id) := by
  rw [indexesOf, List.map_map]
  conv_rhs => rw [← List.zipIdx_map_fst 1 ranked, List.map_map]
  rfl

theorem indexesOf_sequenceNos (ranked : List (Entry String SortKey Row)) :
    (indexesOf ranked).map (·.sequenceNo) = List.range' 1 (indexesOf ranked).length := by
  rw [indexesOf, List.map_map, List.length_map, List.length_zipIdx, ← List.zipIdx_map_snd 1 ranked]
  rfl

theorem stepIndexes_eq {ranked : List (Entry String SortKey Row)}
    (h : ∀ e ∈ ranked, (e.item.field "step_id").toStr py = .ok e.id) :
    stepIndexes py (ranked.map (·.item)) = .ok (indexesOf ranked) := by
  rw [stepIndexes, indexesOf, mapM_ok, List.zipIdx_map, List.forall₂_map_left_iff,
    List.forall₂_map_right_iff, List.forall₂_same]
  intro p hp
  have hid := h p.1 (List.fst_mem_of_mem_zipIdx hp)
  show (do return ({ stepId := ← (p.1.item.field "step_id").toStr py, sequenceNo := p.2 } :
    StepIndex)) = Except.ok _
  rw [hid]
  rfl

/-- The loop of `get_trajectory` over a ranking. -/
theorem findStep_eq {ranked : List (Entry String SortKey Row)}
    (h : ∀ e ∈ ranked, (e.item.field "step_id").toStr py = .ok e.id) (stepId : String) (n : Nat) :
    findStep py stepId ((ranked.map (·.item)).zipIdx n) =
      .ok (((ranked.zipIdx n).find? (·.1.id = stepId)).map fun p => (p.1.item, p.2)) := by
  induction ranked generalizing n with
  | nil => rfl
  | cons e rest ih =>
    rw [List.forall_mem_cons] at h
    rw [List.map_cons, List.zipIdx_cons, List.zipIdx_cons, findStep, h.1]
    show (if e.id ≠ stepId then findStep py stepId _ else _) = _
    by_cases hid : e.id = stepId
    · rw [if_neg (not_not.mpr hid), List.find?_cons_of_pos (by simpa using hid)]
      rfl
    · rw [if_pos hid, List.find?_cons_of_neg (by simpa using hid)]
      exact ih h.2 (n + 1)

theorem isSealingRow_ok {row : Row} (h : Readable py row) :
    ∃ b, isSealingRow py row = .ok b := by
  obtain ⟨observed, h⟩ := h
  obtain ⟨b, hb, -⟩ := bind_ok h
  obtain ⟨metadata, hm, hb⟩ := bind_ok hb
  obtain ⟨closing, hc, -⟩ := bind_ok hb
  rw [isSealingRow, hm, ok_bind]
  split
  · exact ⟨true, rfl⟩
  · exact ⟨closing, hc⟩

/-- Some readable row seals the trajectory. -/
theorem anyM_isSealingRow (h : ∀ row ∈ rows, Readable py row) :
    rows.anyM (isSealingRow py) =
      .ok (rows.any fun row => (isSealingRow py row).toOption.getD false) := by
  induction rows with
  | nil => rfl
  | cons row rest ih =>
    rw [List.forall_mem_cons] at h
    obtain ⟨b, hb⟩ := isSealingRow_ok h.1
    rw [List.anyM, hb, List.any_cons, hb]
    cases b with
    | true => rfl
    | false => exact ih h.2

/-- The step index of rows that are all readable. -/
def indexOf (py : Interpreter) (sessionId : String) (rows : List Row) : SessionSteps :=
  { sessionId := sessionId
    stepCount := (indexesOf (ranking (entries py rows))).length
    isSealed := rows.any fun row => (isSealingRow py row).toOption.getD false
    steps := indexesOf (ranking (entries py rows)) }

/-- `get_steps` returns if and only if nothing raises on any row, and then the index of the latest
rows. -/
theorem stepsOf_ok {result : Option SessionSteps} :
    stepsOf py sessionId rows = .ok result ↔ (∀ row ∈ rows, Readable py row) ∧
      result = if rows.isEmpty then none else some (indexOf py sessionId rows) := by
  cases rows with
  | nil => simp [stepsOf, pure, Except.pure, eq_comm]
  | cons row rest =>
    constructor
    · intro h
      obtain ⟨steps, hsteps, h⟩ := bind_ok h
      obtain ⟨hread, rfl⟩ := trajectoryRows_ok.mp hsteps
      rw [stepIndexes_eq fun e he => (ranking_step he).2, anyM_isSealingRow hread] at h
      exact ⟨hread, (Except.ok.inj h).symm⟩
    · rintro ⟨hread, rfl⟩
      show (trajectoryRows py (row :: rest) >>= _) = _
      rw [trajectoryRows_eq hread]
      show (stepIndexes py _ >>= _) = _
      rw [stepIndexes_eq fun e he => (ranking_step he).2]
      show (List.anyM (isSealingRow py) _ >>= _) = _
      rw [anyM_isSealingRow hread]
      rfl

/-- The trajectory of the step that the ranking has at a place. -/
theorem trajectoryOf_eq (hread : ∀ row ∈ rows, Readable py row) (stepId : String) :
    trajectoryOf py sessionId stepId rows =
      match ((ranking (entries py rows)).zipIdx 1).find? (·.1.id = stepId) with
      | none => .ok none
      | some (e, n) => some <$> stepTrajectory py sessionId stepId e.item n := by
  rw [trajectoryOf, trajectoryRows_eq hread]
  show (findStep py stepId _ >>= _) = _
  rw [findStep_eq fun e he => (ranking_step he).2]
  cases ((ranking (entries py rows)).zipIdx 1).find? (·.1.id = stepId) with
  | none => rfl
  | some p =>
    show (stepTrajectory py sessionId stepId p.1.item p.2 >>= _) = some <$> _
    cases stepTrajectory py sessionId stepId p.1.item p.2 <;> rfl

theorem find?_of_nodup {ranked : List (Entry String SortKey Row)} (h : (ranked.map (·.id)).Nodup)
    {p : Entry String SortKey Row × Nat} (hp : p ∈ ranked.zipIdx 1) :
    (ranked.zipIdx 1).find? (·.1.id = p.1.id) = some p := by
  have hnodup : ((ranked.zipIdx 1).map fun q => q.1.id).Nodup := by
    rw [← List.zipIdx_map_fst 1 ranked, List.map_map] at h
    exact h
  cases hf : (ranked.zipIdx 1).find? (·.1.id = p.1.id) with
  | none =>
    have := List.find?_eq_none.mp hf p hp
    simp at this
  | some q =>
    have hid : q.1.id = p.1.id := by simpa using List.find?_some hf
    rw [List.inj_on_of_nodup_map hnodup (List.mem_of_find?_eq_some hf) hp hid]

/-! ### What a row shows -/

/-- `json.loads` raises nothing on a text that `_json_value` does not catch. -/
def Decodes (py : Interpreter) (value : Value) : Prop :=
  ∀ s, value = .str s → ∀ x, py.loads s = .error x → x = .typeError ∨ x = .valueError

/-- The texts of a row that `_trajectory_payload` decodes. -/
structure RowDecodes (py : Interpreter) (row : Row) : Prop where
  metadata : Decodes py (row.field "meta_json")
  messages : Decodes py (row.field "messages")
  request : ∀ metadata, metaJson py (row.field "meta_json") = .ok metadata →
    Decodes py (metadata.field "request")
  response : Decodes py (row.field "response")

theorem orDefault_ok_iff {α : Type} {result : Except PyExc α} {default : α} :
    (∃ a, orDefault result default = .ok a) ↔
      ∀ x, result = .error x → x = .typeError ∨ x = .valueError := by
  cases result with
  | ok a => exact iff_of_true ⟨a, rfl⟩ nofun
  | error x => cases x <;> simp [orDefault]

theorem jsonValue_ok_iff {value : Value} (default : Value) :
    (∃ decoded, jsonValue py value default = .ok decoded) ↔ Decodes py value := by
  cases value with
  | str s =>
    rw [jsonValue, orDefault_ok_iff]
    constructor
    · rintro h s' heq
      cases heq
      exact h
    · exact fun h => h s rfl
  | null | bool | int | float | datetime | list | dict | object =>
    exact iff_of_true ⟨_, rfl⟩ nofun

theorem metaJson_ok_iff {value : Value} :
    (∃ metadata, metaJson py value = .ok metadata) ↔ Decodes py value := by
  rw [← jsonValue_ok_iff (.dict []), metaJson]
  cases jsonValue py value (.dict []) with
  | error x => exact iff_of_false nofun nofun
  | ok decoded => exact iff_of_true ⟨_, rfl⟩ ⟨_, rfl⟩

theorem requestInput_ok_iff {request : Value} :
    (∃ entries, requestInput py request = .ok entries) ↔ Decodes py request := by
  rw [← jsonValue_ok_iff request]
  cases request with
  | null => exact iff_of_true ⟨_, rfl⟩ ⟨_, rfl⟩
  | bool | int | float | str | datetime | list | dict | object =>
    simp only [requestInput, Value.isNone, Bool.false_eq_true, if_false]
    cases jsonValue py _ _ with
    | error x => exact iff_of_false nofun nofun
    | ok decoded => exact iff_of_true ⟨_, rfl⟩ ⟨_, rfl⟩

/-- A row has a payload if and only if its texts decode. -/
theorem trajectoryPayload_ok_iff {row : Row} :
    (∃ payload, trajectoryPayload py row = .ok payload) ↔ RowDecodes py row := by
  constructor
  · rintro ⟨payload, h⟩
    obtain ⟨metadata, hMetadata, h⟩ := bind_ok h
    obtain ⟨messages, hMessages, h⟩ := bind_ok h
    obtain ⟨requested, hRequest, h⟩ := bind_ok h
    obtain ⟨response, hResponse, -⟩ := bind_ok h
    refine ⟨metaJson_ok_iff.mp ⟨_, hMetadata⟩, (jsonValue_ok_iff _).mp ⟨_, hMessages⟩, ?_,
      (jsonValue_ok_iff _).mp ⟨_, hResponse⟩⟩
    intro metadata' hMetadata'
    cases hMetadata.symm.trans hMetadata'
    exact requestInput_ok_iff.mp ⟨_, hRequest⟩
  · intro h
    obtain ⟨metadata, hMetadata⟩ := metaJson_ok_iff.mpr h.metadata
    obtain ⟨messages, hMessages⟩ := (jsonValue_ok_iff (.list [])).mpr h.messages
    obtain ⟨requested, hRequest⟩ := requestInput_ok_iff.mpr (h.request metadata hMetadata)
    obtain ⟨response, hResponse⟩ := (jsonValue_ok_iff .null).mpr h.response
    rw [trajectoryPayload, hMetadata, hMessages, hResponse, ok_bind, ok_bind, hRequest]
    exact ⟨_, rfl⟩

theorem stepTrajectory_ok_iff {row : Row} {n : Nat} {shown : StepTrajectory} :
    stepTrajectory py sessionId stepId row n = .ok shown ↔
      ∃ timestamp payload, rowDatetime py row = .ok timestamp ∧
        trajectoryPayload py row = .ok payload ∧
        shown = { sessionId := sessionId, stepId := stepId, sequenceNo := n, startedAt := timestamp,
                  finishedAt := timestamp, trajectory := payload } := by
  constructor
  · intro h
    obtain ⟨timestamp, hTimestamp, h⟩ := bind_ok h
    obtain ⟨payload, hPayload, h⟩ := bind_ok h
    cases h
    exact ⟨timestamp, payload, hTimestamp, hPayload, rfl⟩
  · rintro ⟨timestamp, payload, hTimestamp, hPayload, rfl⟩
    rw [stepTrajectory, hTimestamp, hPayload]
    rfl

/-! ### The rows of a step -/

/-- The rows that are steps of the trajectory under `stepId`. -/
def stepRows (py : Interpreter) (stepId : String) (rows : List Row) : List Row :=
  rows.filter fun row => (isTrajectoryRow py row).toOption = some true ∧
    ((row.field "step_id").toStr py).toOption = some stepId

theorem mem_stepRows {row : Row} :
    row ∈ stepRows py stepId rows ↔ row ∈ rows ∧ IsStep py row stepId := by
  have hok : ∀ {α : Type} {x : Except PyExc α} {a : α}, x.toOption = some a ↔ x = .ok a := by
    intro α x a
    cases x <;> simp [Except.toOption]
  rw [stepRows, List.mem_filter, decide_eq_true_iff, hok, hok, IsStep]

/-- The rows of a step are those of its entries. -/
theorem entries_stepRows (hread : ∀ row ∈ rows, Readable py row) (stepId : String) :
    ((entries py rows).filter (·.id = stepId)).map (·.item) = stepRows py stepId rows := by
  induction rows with
  | nil => rfl
  | cons row rest ih =>
    rw [List.forall_mem_cons] at hread
    have ih := ih hread.2
    rcases hread.1.cases with ⟨hother, hnone⟩ | ⟨e, he⟩
    · rw [entries, List.filterMap_cons_none hnone, stepRows, List.filter_cons_of_neg]
      · exact ih
      · simp [hother, Except.toOption]
    · rw [entries, List.filterMap_cons_some he, stepRows]
      obtain ⟨hstep, -, rfl⟩ := entryOf_some.mp he
      by_cases hid : e.id = stepId
      · rw [List.filter_cons_of_pos (by simpa using hid), List.map_cons, List.filter_cons_of_pos]
        · exact congrArg _ ih
        · simp [hstep.1, hstep.2, hid, Except.toOption]
      · rw [List.filter_cons_of_neg (by simpa using hid), List.filter_cons_of_neg]
        · exact ih
        · simp [hstep.2, hid, Except.toOption]

/-- The row that is shown of a step is the one that leads the rows of the step. -/
theorem ranking_leads (hread : ∀ row ∈ rows, Readable py row) {e : Entry String SortKey Row}
    (he : e ∈ ranking (entries py rows)) :
    Leads (rowSortKey py) e.item (stepRows py e.id rows) := by
  rw [← maxBy_eq_some, ← entries_stepRows hread, maxBy,
    keyed_entries fun f hf => entries_key (List.mem_of_mem_filter hf)]
  show Except.ok _ = _
  rw [ranking_greatest he]
  rfl

/-- A step of a row is in the ranking. -/
theorem ranking_of_step (hread : ∀ row ∈ rows, Readable py row) {row : Row}
    (hrow : row ∈ stepRows py stepId rows) :
    ∃ p ∈ (ranking (entries py rows)).zipIdx 1, p.1.id = stepId := by
  rw [← entries_stepRows hread] at hrow
  obtain ⟨e, he, -⟩ := List.mem_map.mp hrow
  obtain ⟨hmem, hid⟩ := List.mem_filter.mp he
  obtain ⟨f, hf, hfid, -⟩ := (ranking_filed _).covers e hmem
  rw [← List.zipIdx_map_fst 1 (ranking _)] at hf
  obtain ⟨p, hp, rfl⟩ := List.mem_map.mp hf
  exact ⟨p, hp, hfid.trans (of_decide_eq_true hid)⟩

/-- What `get_trajectory` serves for a step of the ranking. -/
theorem getTrajectory_ranking (hread : ∀ row ∈ rows, Readable py row)
    {p : Entry String SortKey Row × Nat} (hp : p ∈ (ranking (entries py rows)).zipIdx 1) :
    (SdkClient.serving rows).getTrajectory py jobId sessionId p.1.id =
      raiseFrom "failed to query step trajectory"
        (some <$> stepTrajectory py sessionId p.1.id p.1.item p.2) := by
  rw [SdkClient.getTrajectory_serving, trajectoryOf_eq hread,
    find?_of_nodup (ranking_filed _).nodup hp]

end Landing

/-- The step index of a Session and its trajectories: the index numbers distinct steps from 1,
`get_trajectory` returns each of them under its number, and no other. -/
structure StepsAgree (py : Interpreter) (jobId sessionId : String) (rows : List Row)
    (index : SessionSteps) : Prop where
  count : index.stepCount = index.steps.length
  nodup : (index.steps.map (·.stepId)).Nodup
  numbered : index.steps.map (·.sequenceNo) = List.range' 1 index.steps.length
  served : ∀ step ∈ index.steps, ∃ trajectory,
    (SdkClient.serving rows).getTrajectory py jobId sessionId step.stepId =
      .ok (some trajectory) ∧
    trajectory.stepId = step.stepId ∧ trajectory.sequenceNo = step.sequenceNo
  others : ∀ stepId ∉ index.steps.map (·.stepId),
    (SdkClient.serving rows).getTrajectory py jobId sessionId stepId = .ok none

/-- If no row raises, the row that is shown of each step can be decoded. -/
def ShownDecode (py : Interpreter) (rows : List Row) : Prop :=
  (∀ row ∈ rows, Readable py row) → ∀ stepId row,
    Leads (rowSortKey py) row (stepRows py stepId rows) → RowDecodes py row

/-- An index and the trajectories agree if and only if the rows that are shown can be decoded: on a
text that is nested too deeply `json.loads` raises what `_json_value` does not catch. -/
theorem steps_agree_iff (py : Interpreter) (jobId sessionId : String) (rows : List Row)
    (hdates : ∀ row ∈ rows, ∃ t, datetimeOrNone py (row.field "created_at") = .ok t) :
    (∀ index, (SdkClient.serving rows).getSteps py jobId sessionId = .ok (some index) →
      StepsAgree py jobId sessionId rows index) ↔ ShownDecode py rows := by
  simp only [SdkClient.getSteps_serving, raiseFrom_ok, stepsOf_ok]
  have hr := ranking_filed (entries py rows)
  constructor
  · intro h hread stepId row hrow
    obtain ⟨p, hp, rfl⟩ := ranking_of_step hread hrow.mem
    have hmem := ranking_step (List.fst_mem_of_mem_zipIdx hp)
    have hne : ¬ rows.isEmpty := fun hempty =>
      List.ne_nil_of_mem hmem.1 (List.isEmpty_iff.mp hempty)
    obtain ⟨shown, hshown, -⟩ := (h (indexOf py sessionId rows)
      ⟨hread, by rw [if_neg hne]⟩).served ⟨p.1.id, p.2⟩ (List.mem_map_of_mem hp)
    rw [hrow.unique (ranking_leads hread (List.fst_mem_of_mem_zipIdx hp))]
    rw [getTrajectory_ranking hread hp, raiseFrom_ok] at hshown
    obtain ⟨trajectory, htrajectory, -⟩ := bind_ok hshown
    obtain ⟨-, payload, -, hpayload, -⟩ := stepTrajectory_ok_iff.mp htrajectory
    exact trajectoryPayload_ok_iff.mp ⟨payload, hpayload⟩
  · rintro h index ⟨hread, hindex⟩
    split at hindex
    · cases hindex
    cases hindex
    refine ⟨rfl, ?_, indexesOf_sequenceNos _, ?_, ?_⟩
    · rw [indexOf, indexesOf_stepIds]
      exact hr.nodup
    · intro step hstep
      obtain ⟨p, hp, rfl⟩ := List.mem_map.mp hstep
      have he := List.fst_mem_of_mem_zipIdx hp
      obtain ⟨t, ht⟩ := hdates p.1.item (ranking_step he).1
      obtain ⟨payload, hpayload⟩ := trajectoryPayload_ok_iff.mpr
        (h hread p.1.id p.1.item (ranking_leads hread he))
      rw [getTrajectory_ranking hread hp, stepTrajectory_ok_iff.mpr ⟨t, payload, ht, hpayload, rfl⟩]
      exact ⟨_, rfl, rfl, rfl⟩
    · intro stepId hout
      have hnone : ((ranking (entries py rows)).zipIdx 1).find? (·.1.id = stepId) = none := by
        refine List.find?_eq_none.mpr fun p hp hid => hout ?_
        rw [indexOf, indexesOf_stepIds]
        exact List.mem_map.mpr ⟨p.1, List.fst_mem_of_mem_zipIdx hp, by simpa using hid⟩
      rw [SdkClient.getTrajectory_serving, trajectoryOf_eq hread, hnone]
      rfl

/-- Two steps, the first of them written twice. -/
def rewrittenRows : List Row :=
  let message : Value := .list [.dict [("role", .str "user")]]
  [[("id", .str "a"), ("step_id", .int 2), ("created_at", .int 10), ("messages", message)],
   [("id", .str "b"), ("step_id", .str "1"), ("created_at", .int 11), ("messages", message)],
   [("id", .str "c"), ("step_id", .int 2), ("created_at", .int 12), ("messages", message)]]

theorem steps_agree_rewritten :
    (∀ index, (SdkClient.serving rewrittenRows).getSteps plainPython "job" "session" =
      .ok (some index) → StepsAgree plainPython "job" "session" rewrittenRows index) ↔
    ShownDecode plainPython rewrittenRows :=
  steps_agree_iff plainPython "job" "session" rewrittenRows (by
    simp only [rewrittenRows, List.forall_mem_cons]
    exact ⟨⟨_, rfl⟩, ⟨_, rfl⟩, ⟨_, rfl⟩, by simp⟩)

/-- An interpreter whose `json.loads` may have 10000 containers open. -/
def nestedPython : Interpreter :=
  { plainPython with
    loads := loadsValue { floatOf := fun _ => .nan, tooDeep := (10000 < ·) }
    loads_empty := rfl }

theorem nestedPython_raises {n : Nat} (hn : 10000 < n) (rest : List Char) :
    nestedPython.loads (String.ofList (List.replicate n '[' ++ rest)) =
      .error (.other "RecursionError") :=
  loadsValue_nested 10000 (fun _ hd => decide_eq_true hd) hn rest

/-- A step with a response. -/
def respondedRow (response : Value) : Row :=
  [("step_id", .int 0), ("created_at", .int 1), ("messages", .list [.str "m"]),
   ("response", response)]

/-- The step is listed and not shown. -/
theorem unread_response_disagrees {text : String}
    (h : nestedPython.loads text = .error (.other "RecursionError")) :
    ∃ index, (SdkClient.serving [respondedRow (.str text)]).getSteps nestedPython "job" "session" =
        .ok (some index) ∧
      ¬ StepsAgree nestedPython "job" "session" [respondedRow (.str text)] index := by
  refine ⟨⟨"session", 1, false, [⟨"0", 1⟩]⟩, rfl, fun hagree => ?_⟩
  obtain ⟨shown, hshown, -⟩ := hagree.served ⟨"0", 1⟩ (List.mem_singleton_self _)
  have htrajectory : (SdkClient.serving [respondedRow (.str text)]).getTrajectory nestedPython
      "job" "session" "0" = raiseFrom "failed to query step trajectory"
        (some <$> stepTrajectory nestedPython "session" "0" (respondedRow (.str text)) 1) := rfl
  have hresponse : jsonValue nestedPython (.str text) .null = .error (.other "RecursionError") := by
    rw [jsonValue, h]
    rfl
  have hpayload : trajectoryPayload nestedPython (respondedRow (.str text)) =
      .error (.other "RecursionError") := by
    show (jsonValue nestedPython (.str text) .null >>= _) = _
    rw [hresponse]
    rfl
  rw [htrajectory, raiseFrom_ok] at hshown
  obtain ⟨trajectory, hstep, -⟩ := bind_ok hshown
  obtain ⟨-, payload, -, hok, -⟩ := stepTrajectory_ok_iff.mp hstep
  rw [hpayload] at hok
  cases hok

/-- A row whose response is nested in 20000 brackets is listed as a step, and its trajectory
raises. -/
theorem nested_response_disagrees :
    ¬ ∀ (py : Interpreter) (jobId sessionId : String) (rows : List Row),
      (∀ row ∈ rows, ∃ t, datetimeOrNone py (row.field "created_at") = .ok t) →
      ∀ index, (SdkClient.serving rows).getSteps py jobId sessionId = .ok (some index) →
        StepsAgree py jobId sessionId rows index := by
  intro h
  obtain ⟨index, hsteps, hnot⟩ := unread_response_disagrees
    (nestedPython_raises (n := 20000) (by omega) (List.replicate 20000 ']'))
  refine hnot (h _ _ _ _ ?_ _ hsteps)
  rw [List.forall_mem_singleton]
  exact ⟨_, rfl⟩

/-! ### The order of the rows -/

/-- Rows with an `id` each, a non-empty string that no other row has. -/
structure DistinctIds (rows : List Row) : Prop where
  text : ∀ row ∈ rows, ∃ id, id ≠ "" ∧ row.field "id" = .str id
  distinct : rows.Pairwise fun row row' => row.field "id" ≠ row'.field "id"

namespace DistinctIds

variable {py : Interpreter} {rows rows' : List Row}

theorem perm (h : DistinctIds rows) (hp : rows.Perm rows') : DistinctIds rows' where
  text row hrow := h.text row (hp.mem_iff.mpr hrow)
  distinct := (hp.pairwise_iff fun hne heq => hne heq.symm).mp h.distinct

theorem sublist (h : DistinctIds rows) (hs : rows'.Sublist rows) : DistinctIds rows' where
  text row hrow := h.text row (hs.subset hrow)
  distinct := h.distinct.sublist hs

theorem eq_of_id (h : DistinctIds rows) {row row' : Row} (hrow : row ∈ rows) (hrow' : row' ∈ rows)
    (hid : row.field "id" = row'.field "id") : row = row' := by
  have : Std.Symm fun row row' : Row => row.field "id" ≠ row'.field "id" :=
    ⟨fun _ _ hne heq => hne heq.symm⟩
  by_contra hne
  exact h.distinct.forall hrow hrow' hne hid

/-- The `id` of a row is the last part of its sort key. -/
theorem rowSortKey_id {row : Row} {key : SortKey} {id : String} (hid : row.field "id" = .str id)
    (hne : id ≠ "") (h : rowSortKey py row = .ok key) : (ofLex (ofLex key).2).2 = id := by
  obtain ⟨step, -, h⟩ := bind_ok h
  obtain ⟨createdAt, -, h⟩ := bind_ok h
  obtain ⟨id', hid', h⟩ := bind_ok h
  rw [hid, Value.orElse, if_pos (by simpa [Value.truthy] using hne)] at hid'
  cases hid'
  cases h
  rfl

theorem eq_of_key (h : DistinctIds rows) {row row' : Row} (hrow : row ∈ rows) (hrow' : row' ∈ rows)
    {key : SortKey} (hk : rowSortKey py row = .ok key) (hk' : rowSortKey py row' = .ok key) :
    row = row' := by
  obtain ⟨id, hne, hid⟩ := h.text row hrow
  obtain ⟨id', hne', hid'⟩ := h.text row' hrow'
  refine h.eq_of_id hrow hrow' ?_
  rw [hid, hid', ← rowSortKey_id hid hne hk, ← rowSortKey_id hid' hne' hk']

theorem ranking_eq (h : DistinctIds rows) (hp : rows.Perm rows') :
    ranking (entries py rows) = ranking (entries py rows') := by
  refine ranking_perm (hp.filterMap _) fun e he f hf hkey => ?_
  obtain ⟨row, hrow, hre⟩ := List.mem_filterMap.mp he
  obtain ⟨row', hrow', hrf⟩ := List.mem_filterMap.mp hf
  have heq : row = row' := h.eq_of_key hrow hrow' (entryOf_some.mp hre).2.1
    (hkey ▸ (entryOf_some.mp hrf).2.1)
  rw [heq, hrf] at hre
  exact (Option.some.inj hre).symm

theorem maxBy_eq (h : DistinctIds rows) (hp : rows.Perm rows') {final : Option Row}
    (hok : maxBy (rowSortKey py) rows = .ok final) : maxBy (rowSortKey py) rows' = .ok final :=
  maxBy_perm hp (fun _ ha _ hb _ hka hkb => h.eq_of_key ha hb hka hkb) hok

theorem resultOf_eq (h : DistinctIds rows) (hp : rows.Perm rows') {sessionId : String}
    {result : Option SessionResult} (hok : resultOf py sessionId rows = .ok result) :
    resultOf py sessionId rows' = .ok result := by
  have hcompleted : (completedRows py rows).Perm (completedRows py rows') := hp.filter _
  have hrewarded : (rewardedRows py rows).Perm (rewardedRows py rows') := hcompleted.filter _
  have hids : DistinctIds (completedRows py rows) := h.sublist List.filter_sublist
  rw [resultOf] at hok ⊢
  rw [← hp.isEmpty_eq]
  split
  · next hempty => rwa [if_pos hempty] at hok
  · next hempty =>
    rw [if_neg hempty] at hok
    obtain ⟨final, hfinal, hok⟩ := bind_ok hok
    rw [(hids.sublist List.filter_sublist).maxBy_eq hrewarded hfinal]
    cases final with
    | some final => exact hok
    | none =>
      obtain ⟨last, hlast, hok⟩ := bind_ok hok
      show (maxBy (rowSortKey py) (completedRows py rows') >>= _) = _
      rw [hids.maxBy_eq hcompleted hlast]
      exact hok

theorem stepsOf_eq (h : DistinctIds rows) (hp : rows.Perm rows') {sessionId : String}
    {result : Option SessionSteps} (hok : stepsOf py sessionId rows = .ok result) :
    stepsOf py sessionId rows' = .ok result := by
  obtain ⟨hread, rfl⟩ := stepsOf_ok.mp hok
  refine stepsOf_ok.mpr ⟨fun row hrow => hread row (hp.mem_iff.mpr hrow), ?_⟩
  have hsealed : (rows.any fun row => (isSealingRow py row).toOption.getD false) =
      rows'.any fun row => (isSealingRow py row).toOption.getD false := by
    rw [Bool.eq_iff_iff, List.any_eq_true, List.any_eq_true]
    simp only [hp.mem_iff]
  rw [← hp.isEmpty_eq, indexOf, indexOf, h.ranking_eq hp, hsealed]

theorem trajectoryOf_eq (h : DistinctIds rows) (hp : rows.Perm rows') {sessionId stepId : String}
    {result : Option StepTrajectory} (hok : trajectoryOf py sessionId stepId rows = .ok result) :
    trajectoryOf py sessionId stepId rows' = .ok result := by
  obtain ⟨steps, hsteps, -⟩ := bind_ok hok
  obtain ⟨hread, -⟩ := trajectoryRows_ok.mp hsteps
  rw [Landing.trajectoryOf_eq hread] at hok
  rw [Landing.trajectoryOf_eq fun row hrow => hread row (hp.mem_iff.mpr hrow), ← h.ranking_eq hp]
  exact hok

end DistinctIds

/-- The answers of `get_result`, `get_steps` and `get_trajectory` do not depend on the order of the
rows of a Session. -/
theorem order_independent (py : Interpreter) (jobId sessionId : String) (rows rows' : List Row)
    (h : DistinctIds rows) (hp : rows.Perm rows') :
    (SdkClient.serving rows).getResult py jobId sessionId =
        (SdkClient.serving rows').getResult py jobId sessionId ∧
      (SdkClient.serving rows).getSteps py jobId sessionId =
        (SdkClient.serving rows').getSteps py jobId sessionId ∧
      ∀ stepId, (SdkClient.serving rows).getTrajectory py jobId sessionId stepId =
        (SdkClient.serving rows').getTrajectory py jobId sessionId stepId := by
  have h' := h.perm hp
  simp only [SdkClient.getResult_serving, SdkClient.getSteps_serving,
    SdkClient.getTrajectory_serving]
  refine ⟨raiseFrom_congr fun a => ?_, raiseFrom_congr fun a => ?_,
    fun stepId => raiseFrom_congr fun a => ?_⟩
  · exact ⟨h.resultOf_eq hp, h'.resultOf_eq hp.symm⟩
  · exact ⟨h.stepsOf_eq hp, h'.stepsOf_eq hp.symm⟩
  · exact ⟨h.trajectoryOf_eq hp, h'.trajectoryOf_eq hp.symm⟩

theorem order_independent_rewritten :
    (SdkClient.serving rewrittenRows).getSteps plainPython "job" "session" =
      (SdkClient.serving rewrittenRows.reverse).getSteps plainPython "job" "session" :=
  (order_independent plainPython "job" "session" rewrittenRows rewrittenRows.reverse
    ⟨by
      simp only [rewrittenRows, List.forall_mem_cons]
      exact ⟨⟨"a", by simp, rfl⟩, ⟨"b", by simp, rfl⟩, ⟨"c", by simp, rfl⟩, by simp⟩,
    by simp [rewrittenRows, Row.field, lookup]⟩ (List.reverse_perm _).symm).2.1

end SafactoryServer
