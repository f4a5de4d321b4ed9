import SafactoryServer.Landing

/-! `WTDataPlatformRepository`: the queries of the server over the rows of the Landing table, or
over the answers of a client with the four legacy methods. -/

namespace SafactoryServer

open Ranking Landing

inductive ResultStatus
  | pending
  | running
  | succeeded
  | failed
deriving DecidableEq, Repr

/-- `ResultStatus(text)`, with `none` for `ValueError`. -/
def ResultStatus.ofStr? : String → Option ResultStatus
  | "pending" => some .pending
  | "running" => some .running
  | "succeeded" => some .succeeded
  | "failed" => some .failed
  | _ => none

structure FailureInfo where
  code : String
  message : String
  details : Row
  retryable : Bool

structure SessionResult where
  sessionId : String
  resultStatus : ResultStatus
  score : Option PyFloat
  completedAt : Option Datetime
  retryAfterSeconds : Option Int := none
  result : Option Row := none
  error : Option FailureInfo := none

structure StepIndex where
  stepId : String
  sequenceNo : Nat
deriving DecidableEq, Repr

structure SessionSteps where
  sessionId : String
  stepCount : Nat
  isSealed : Bool
  steps : List StepIndex
deriving DecidableEq

structure StepTrajectory where
  sessionId : String
  stepId : String
  sequenceNo : Nat
  startedAt : Option Datetime
  finishedAt : Option Datetime
  trajectory : Row

/-- A `DataPlatformError`. -/
structure DataPlatformError where
  message : String
deriving DecidableEq

/-- The keyword arguments of `query_data`. -/
structure LandingQuery where
  filterQuery : String
  limit : Option Nat := none
  columns : Option (List String)
  partition : String
  orderBy : Option String
  ascending : Bool := true
  checkoutLatest : Bool := true
  excludeNone : Bool := false
  deserializeJson : Bool := true

/-- The client of the SDK: one with `query_data`, or one with the four legacy methods. -/
inductive SdkClient
  | gateway (queryData : LandingQuery → Except PyExc Value)
  | legacy (listSessions : String → Except PyExc Value)
      (getSessionResult listSteps : String → String → Except PyExc Value)
      (getStepTrajectory : String → String → String → Except PyExc Value)

/-- `except Exception as exc: raise DataPlatformError(message) from exc`. -/
def raiseFrom {α : Type} (message : String) (result : Except PyExc α) :
    Except DataPlatformError α :=
  result.mapError fun _ => ⟨message⟩

namespace Landing

/-- `_escape_sql_literal`. -/
def escapeSqlLiteral (value : String) : String := replaceChar '\'' "''" value

/-- The filter of `_query_landing`. -/
def filterQuery (jobId : String) (sessionId : Option String) : String :=
  String.intercalate " AND " (("job_id = '" ++ escapeSqlLiteral jobId ++ "'") ::
    sessionId.elim [] fun id => ["session_id = '" ++ escapeSqlLiteral id ++ "'"])

/-- The arguments with which `_query_landing` calls `query_data`. -/
def landingQuery (jobId : String) (sessionId : Option String) (columns : Option (List String)) :
    LandingQuery :=
  { filterQuery := filterQuery jobId sessionId
    columns := columns
    partition := jobId
    orderBy := sessionId.map fun _ => "step_id" }

/-- The checks of `_query_landing` on what `query_data` returned. -/
def checkedRows (answer : Value) : Except PyExc (List Row) :=
  match answer.asList? with
  | none => .error .typeError
  | some items => (items.mapM Value.asDict?).elim (.error .typeError) .ok

/-- `_query_landing`. -/
def queryLanding (queryData : LandingQuery → Except PyExc Value) (jobId : String)
    (sessionId : Option String) (columns : Option (List String)) : Except PyExc (List Row) := do
  checkedRows (← queryData (landingQuery jobId sessionId columns))

/-- One round of the loop of `list_session_ids`. -/
def addSessionId (values : List String) (value : Value) : List String :=
  match value.asStr? with
  | some s => if s ≠ "" ∧ s ∉ values then values ++ [s] else values
  | none => values

/-- The session IDs of rows. -/
def sessionIdsOf (rows : List Row) : List String :=
  rows.foldl (fun values row => addSessionId values (row.field "session_id")) []

variable (py : Interpreter)

/-- The result that a completed row with a reward gives. -/
def succeededResult (sessionId : String) (final : Row) : Except PyExc SessionResult := do
  let score ← finiteFloat py (final.field "reward")
  let some completedAt ← rowDatetime py final | throw .valueError
  return { sessionId := sessionId, resultStatus := .succeeded, score := some score,
           completedAt := some completedAt }

/-- The result that a completed row without a reward gives. -/
def failedResult (sessionId : String) (final : Row) : Except PyExc SessionResult := do
  return { sessionId := sessionId, resultStatus := .failed, score := none,
           completedAt := ← rowDatetime py final }

def runningResult (sessionId : String) : SessionResult :=
  { sessionId := sessionId, resultStatus := .running, score := none, completedAt := none }

def completedRows (rows : List Row) : List Row :=
  rows.filter fun row => truthy py (row.field "is_session_completed")

def rewardedRows (rows : List Row) : List Row :=
  (completedRows py rows).filter fun row => !(row.field "reward").isNone

/-- `get_result` on the rows of a Session. -/
def resultOf (sessionId : String) (rows : List Row) : Except PyExc (Option SessionResult) := do
  if rows.isEmpty then return none
  match ← maxBy (rowSortKey py) (rewardedRows py rows) with
  | some final => return some (← succeededResult py sessionId final)
  | none =>
    match ← maxBy (rowSortKey py) (completedRows py rows) with
    | some final => return some (← failedResult py sessionId final)
    | none => return some (runningResult sessionId)

/-- The indexes of the steps, numbered from 1. -/
def stepIndexes (steps : List Row) : Except PyExc (List StepIndex) :=
  (steps.zipIdx 1).mapM fun (row, sequenceNo) => do
    return { stepId := ← (row.field "step_id").toStr py, sequenceNo := sequenceNo }

/-- `get_steps` on the rows of a Session. -/
def stepsOf (sessionId : String) (rows : List Row) : Except PyExc (Option SessionSteps) := do
  if rows.isEmpty then return none
  let steps ← trajectoryRows py rows
  let indexes ← stepIndexes py steps
  let isSealed ← rows.anyM (isSealingRow py)
  return some { sessionId := sessionId, stepCount := indexes.length, isSealed := isSealed,
                steps := indexes }

/-- The loop of `get_trajectory`: the first numbered row with a step ID. -/
def findStep (stepId : String) : List (Row × Nat) → Except PyExc (Option (Row × Nat))
  | [] => .ok none
  | (row, sequenceNo) :: rest => do
    if (← (row.field "step_id").toStr py) ≠ stepId then findStep stepId rest
    else return some (row, sequenceNo)

/-- The `StepTrajectory` of a row. -/
def stepTrajectory (sessionId stepId : String) (row : Row) (sequenceNo : Nat) :
    Except PyExc StepTrajectory := do
  let timestamp ← rowDatetime py row
  return { sessionId := sessionId, stepId := stepId, sequenceNo := sequenceNo,
           startedAt := timestamp, finishedAt := timestamp,
           trajectory := ← trajectoryPayload py row }

/-- `get_trajectory` on the rows of a Session. -/
def trajectoryOf (sessionId stepId : String) (rows : List Row) :
    Except PyExc (Option StepTrajectory) := do
  let steps ← trajectoryRows py rows
  match ← findStep py stepId (steps.zipIdx 1) with
  | none => return none
  | some (row, sequenceNo) =>
    return some (← stepTrajectory py sessionId stepId row sequenceNo)

end Landing

namespace Legacy

variable (py : Interpreter)

/-- The session IDs that `list_sessions` returned. -/
def sessionIdsOf (answer : Value) : Except PyExc (List String) :=
  match answer.asList? with
  | none => .error .typeError
  | some rows => .ok (rows.foldl (fun values row =>
      addSessionId values (if row.asStr?.isSome then row else row.field "session_id")) [])

/-- `get_result` on the answer of `get_session_result`. -/
def resultOf (sessionId : String) (row : Value) : Except PyExc (Option SessionResult) := do
  if row.isNone then return none
  if (row.field "session_id").asStr? ≠ some sessionId then throw .valueError
  let some status := ResultStatus.ofStr? (← (row.field "result_status").toStr py)
    | throw .valueError
  let score ← match row.field "score" with
    | .bool _ => throw .typeError
    | .null => pure none
    | rawScore => some <$> rawScore.toFloat py
  if score.any fun x => !x.isFinite then throw .valueError
  let completedAt ← datetimeOrNone py (row.field "completed_at")
  if status = .succeeded ∧ (score.isNone ∨ completedAt.isNone) then throw .valueError
  if status ≠ .succeeded ∧ score.isSome then throw .valueError
  return some { sessionId := sessionId, resultStatus := status, score := score,
                completedAt := completedAt }

/-- `_required_string`. -/
def requiredString (value : Value) (name : String) : Except PyExc String :=
  match value.field name with
  | .str s => if py.toUnicode.strip s = "" then .error .typeError else .ok s
  | _ => .error .typeError

/-- `_required_positive_int`. -/
def requiredPositiveInt (value : Value) (name : String) : Except PyExc Nat :=
  match value.field name with
  | .int n => if n < 1 then .error .typeError else .ok n.toNat
  | _ => .error .typeError

/-- `get_steps` on the answer of `list_steps`. -/
def stepsOf (sessionId : String) (response : Value) : Except PyExc (Option SessionSteps) := do
  if response.isNone then return none
  let some rows := (response.field "steps").asList? | throw .typeError
  let .bool isSealed := response.field "sealed" | throw .typeError
  let steps ← rows.mapM fun row => do
    let stepId ← requiredString py row "step_id"
    return ({ stepId := stepId, sequenceNo := ← requiredPositiveInt row "sequence_no" } : StepIndex)
  let steps := steps.insertionSort fun a b => a.sequenceNo ≤ b.sequenceNo
  if ¬ (steps.map (·.stepId)).Nodup then throw .valueError
  if steps.map (·.sequenceNo) ≠ List.range' 1 steps.length then throw .valueError
  return some { sessionId := sessionId, stepCount := steps.length, isSealed := isSealed,
                steps := steps }

/-- The four parts of a trajectory, each an object or absent. -/
def trajectoryParts (raw : Row) : Except PyExc Row :=
  ["model_input", "model_output", "action", "observation"].foldlM (fun trajectory name =>
    match raw.field name with
    | .null => .ok trajectory
    | .dict entries => .ok (trajectory ++ [(name, .dict entries)])
    | _ => .error .typeError) []

/-- `get_trajectory` on the answer of `get_step_trajectory`. -/
def trajectoryOf (sessionId stepId : String) (row : Value) :
    Except PyExc (Option StepTrajectory) := do
  if row.isNone then return none
  if (row.field "session_id").asStr? ≠ some sessionId ∨ (row.field "step_id").asStr? ≠ some stepId
    then throw .valueError
  let .dict raw := row.field "trajectory" | throw .typeError
  let trajectory ← trajectoryParts raw
  let sequenceNo ← requiredPositiveInt row "sequence_no"
  return some { sessionId := sessionId, stepId := stepId, sequenceNo := sequenceNo,
                startedAt := ← datetimeOrNone py (row.field "started_at"),
                finishedAt := ← datetimeOrNone py (row.field "finished_at"),
                trajectory := trajectory }

end Legacy

/-- The rows that a query for a Session selects. -/
def sessionRows (sessionId : String) (rows : List Row) : List Row :=
  rows.filter fun row => (row.field "session_id").asStr? = some sessionId

/-- The rows of a Job. -/
def jobRows (jobId : String) (rows : List Row) : List Row :=
  rows.filter fun row => (row.field "job_id").asStr? = some jobId

namespace SdkClient

variable (py : Interpreter)

/-- `WTDataPlatformRepository.list_session_ids`. -/
def listSessionIds (client : SdkClient) (jobId : String) :
    Except DataPlatformError (List String) :=
  raiseFrom "failed to query sessions" <| match client with
  | .gateway queryData => do
    let rows ← queryLanding queryData jobId none (some ["session_id"])
    return Landing.sessionIdsOf rows
  | .legacy listSessions _ _ _ => do Legacy.sessionIdsOf (← listSessions jobId)

/-- `WTDataPlatformRepository.get_result`. -/
def getResult (client : SdkClient) (jobId sessionId : String) :
    Except DataPlatformError (Option SessionResult) :=
  raiseFrom "failed to query session result" <| match client with
  | .gateway queryData => do
    Landing.resultOf py sessionId (← queryLanding queryData jobId (some sessionId) none)
  | .legacy _ getSessionResult _ _ => do
    Legacy.resultOf py sessionId (← getSessionResult jobId sessionId)

/-- `WTDataPlatformRepository.get_steps`. -/
def getSteps (client : SdkClient) (jobId sessionId : String) :
    Except DataPlatformError (Option SessionSteps) :=
  raiseFrom "failed to query session steps" <| match client with
  | .gateway queryData => do
    Landing.stepsOf py sessionId (← queryLanding queryData jobId (some sessionId) none)
  | .legacy _ _ listSteps _ => do Legacy.stepsOf py sessionId (← listSteps jobId sessionId)

/-- `WTDataPlatformRepository.get_trajectory`. -/
def getTrajectory (client : SdkClient) (jobId sessionId stepId : String) :
    Except DataPlatformError (Option StepTrajectory) :=
  raiseFrom "failed to query step trajectory" <| match client with
  | .gateway queryData => do
    Landing.trajectoryOf py sessionId stepId (← queryLanding queryData jobId (some sessionId) none)
  | .legacy _ _ _ getStepTrajectory => do
    Legacy.trajectoryOf py sessionId stepId (← getStepTrajectory jobId sessionId stepId)

/-- A client whose queries return `rows`. -/
def serving (rows : List Row) : SdkClient := .gateway fun _ => .ok (.list (rows.map .dict))

end SdkClient

namespace Landing

theorem checkedRows_dicts (rows : List Row) : checkedRows (.list (rows.map .dict)) = .ok rows := by
  have h : (rows.map Value.dict).mapM Value.asDict? = some rows := by
    induction rows with
    | nil => rfl
    | cons row rest ih =>
      rw [List.map_cons, List.mapM_cons, ih]
      rfl
  show ((rows.map Value.dict).mapM Value.asDict?).elim _ _ = _
  rw [h]
  rfl

theorem queryLanding_rows {queryData : LandingQuery → Except PyExc Value} {jobId : String}
    {sessionId : Option String} {columns : Option (List String)} {rows : List Row}
    (h : queryData (landingQuery jobId sessionId columns) = .ok (.list (rows.map .dict))) :
    queryLanding queryData jobId sessionId columns = .ok rows := by
  rw [queryLanding, h]
  exact checkedRows_dicts rows

theorem sessionIdsOf_append (rows : List Row) (row : Row) : sessionIdsOf (rows ++ [row]) =
    addSessionId (sessionIdsOf rows) (row.field "session_id") := by
  rw [sessionIdsOf, List.foldl_append]
  rfl

end Landing

namespace SdkClient

variable (py : Interpreter) (rows : List Row) (jobId sessionId stepId : String)

theorem listSessionIds_serving :
    (serving rows).listSessionIds jobId = .ok (Landing.sessionIdsOf rows) := by
  show raiseFrom _ (queryLanding _ _ _ _ >>= _) = _
  rw [queryLanding_rows rfl]
  rfl

theorem getResult_serving : (serving rows).getResult py jobId sessionId =
    raiseFrom "failed to query session result" (Landing.resultOf py sessionId rows) := by
  show raiseFrom _ (queryLanding _ _ _ _ >>= Landing.resultOf py sessionId) = _
  rw [queryLanding_rows rfl]
  rfl

theorem getSteps_serving : (serving rows).getSteps py jobId sessionId =
    raiseFrom "failed to query session steps" (Landing.stepsOf py sessionId rows) := by
  show raiseFrom _ (queryLanding _ _ _ _ >>= Landing.stepsOf py sessionId) = _
  rw [queryLanding_rows rfl]
  rfl

theorem getTrajectory_serving : (serving rows).getTrajectory py jobId sessionId stepId =
    raiseFrom "failed to query step trajectory"
      (Landing.trajectoryOf py sessionId stepId rows) := by
  show raiseFrom _ (queryLanding _ _ _ _ >>= Landing.trajectoryOf py sessionId stepId) = _
  rw [queryLanding_rows rfl]
  rfl

end SdkClient

theorem raiseFrom_ok {α : Type} {message : String} {result : Except PyExc α} {a : α} :
    raiseFrom message result = .ok a ↔ result = .ok a := by
  cases result with
  | error x => simp [raiseFrom, Except.mapError]
  | ok b => simp [raiseFrom, Except.mapError]

/-- Computations that return the same value raise the same `DataPlatformError`. -/
theorem raiseFrom_congr {α : Type} {message : String} {result result' : Except PyExc α}
    (h : ∀ a, result = .ok a ↔ result' = .ok a) :
    raiseFrom message result = raiseFrom message result' := by
  cases result with
  | ok a => rw [(h a).mp rfl]
  | error x =>
    cases result' with
    | ok a => cases (h a).mpr rfl
    | error x' => rfl

end SafactoryServer
