import SafactoryServer.Steps
import SafactoryServer.Sql

/-! The scope of the Landing queries: the filter of a Job, or of a Session of a Job, holds of its
rows and no others, whatever characters the IDs are made of. -/

namespace SafactoryServer

open Ranking Landing

/-- A platform that answers each query from the rows of its table that match the filter, in the
order and with the columns asked for. -/
def tableClient (present : LandingQuery → List Row → List Row) (table : List Row) : SdkClient :=
  .gateway fun query => .ok (.list ((present query (table.filter fun row =>
    Sql.holds query.filterQuery fun column => (row.field column).asStr?)).map .dict))

/-- What the answers keep of the matching rows: all of them, and what they hold in the columns that
the query names. -/
structure Presents (present : LandingQuery → List Row → List Row) : Prop where
  rows (query : LandingQuery) (rows : List Row) : query.columns = none →
    (present query rows).Perm rows
  column (query : LandingQuery) (rows : List Row) (columns : List String) (name : String) :
    query.columns = some columns → name ∈ columns →
    ((present query rows).map (·.field name)).Perm (rows.map (·.field name))

/-- A row that no query of its Session trips over. -/
structure WellFormed (py : Interpreter) (row : Row) : Prop where
  readable : Readable py row
  completed : truthy py (row.field "is_session_completed") = true →
    (∃ key, rowSortKey py row = .ok key) ∧ ∃ date, rowDatetime py row = .ok date
  rewarded : truthy py (row.field "is_session_completed") = true →
    (row.field "reward").isNone = false →
    (∃ score, finiteFloat py (row.field "reward") = .ok score) ∧
      ∃ date, rowDatetime py row = .ok (some date)

/-! ### The filter -/

theorem escapeSqlLiteral_toList (value : String) :
    (escapeSqlLiteral value).toList = Sql.doubled value.toList := by
  rw [escapeSqlLiteral, replaceChar, String.toList_ofList]
  rfl

/-- The tokens of a condition on one column. -/
def equation (column value : String) : List Sql.Token :=
  [.word column, .symbol '=', .literal value]

/-- The tokens of the filter of a Job, or of a Session of a Job. -/
def filterTokens (jobId : String) (sessionId : Option String) : List Sql.Token :=
  equation "job_id" jobId ++ sessionId.elim [] fun id => .word "AND" :: equation "session_id" id

theorem filterQuery_none (jobId : String) : (filterQuery jobId none).toList =
    "job_id = '".toList ++ (Sql.doubled jobId.toList ++ "'".toList) := by
  rw [filterQuery, ← escapeSqlLiteral_toList, String.toList_intercalate]
  simp [List.intercalate, String.toList_append]

theorem filterQuery_some (jobId sessionId : String) : (filterQuery jobId (some sessionId)).toList =
    "job_id = '".toList ++ (Sql.doubled jobId.toList ++ ("' AND session_id = '".toList ++
      (Sql.doubled sessionId.toList ++ "'".toList))) := by
  rw [filterQuery, ← escapeSqlLiteral_toList, ← escapeSqlLiteral_toList, String.toList_intercalate]
  simp [List.intercalate, String.toList_append]

theorem steps_job : Sql.steps .outside "job_id = '".toList =
    ([.word "job_id", .symbol '='], .literal []) := by decide

theorem steps_session (read : List Char) :
    Sql.steps (.literal read) "' AND session_id = '".toList =
      ([.literal (String.ofList read.reverse), .word "AND", .word "session_id", .symbol '='],
        .literal []) := rfl

theorem steps_close (read : List Char) :
    Sql.steps (.literal read) "'".toList = ([], .closing read) := rfl

/-- The filter lexes to its equations and to nothing else. -/
theorem filterQuery_lex (jobId : String) (sessionId : Option String) :
    Sql.lex (filterQuery jobId sessionId) = some (filterTokens jobId sessionId) := by
  cases sessionId with
  | none =>
    rw [Sql.lex, filterQuery_none, Sql.steps_append, steps_job, Sql.steps_append,
      Sql.steps_doubled, steps_close]
    simp [Sql.finish, filterTokens, equation]
  | some sessionId =>
    rw [Sql.lex, filterQuery_some, Sql.steps_append, steps_job, Sql.steps_append,
      Sql.steps_doubled, Sql.steps_append, steps_session, Sql.steps_append, Sql.steps_doubled,
      steps_close]
    simp [Sql.finish, filterTokens, equation]

theorem holds_job (jobId : String) (column : String → Option String) :
    Sql.holds (filterQuery jobId none) column = decide (column "job_id" = some jobId) := by
  rw [Sql.holds, filterQuery_lex]
  simp [filterTokens, equation, Sql.conjuncts]

theorem holds_session (jobId sessionId : String) (column : String → Option String) :
    Sql.holds (filterQuery jobId (some sessionId)) column =
      (decide (column "job_id" = some jobId) && decide (column "session_id" = some sessionId)) := by
  rw [Sql.holds, filterQuery_lex]
  simp [filterTokens, equation, Sql.conjuncts]

/-! ### What a query returns -/

variable {py : Interpreter} {present : LandingQuery → List Row → List Row} {table : List Row}
  {jobId sessionId : String}

theorem queryLanding_job :
    queryLanding (fun query => .ok (.list ((present query (table.filter fun row =>
      Sql.holds query.filterQuery fun column => (row.field column).asStr?)).map .dict)))
      jobId none (some ["session_id"]) =
    .ok (present (landingQuery jobId none (some ["session_id"])) (jobRows jobId table)) := by
  refine queryLanding_rows ?_
  simp only [landingQuery, holds_job]
  rfl

theorem queryLanding_session :
    queryLanding (fun query => .ok (.list ((present query (table.filter fun row =>
      Sql.holds query.filterQuery fun column => (row.field column).asStr?)).map .dict)))
      jobId (some sessionId) none =
    .ok (present (landingQuery jobId (some sessionId) none)
      (sessionRows sessionId (jobRows jobId table))) := by
  refine queryLanding_rows ?_
  simp only [landingQuery, holds_session]
  rw [sessionRows, jobRows, List.filter_filter]
  simp only [Bool.and_comm]

theorem mem_addSessionId (values : List String) (value : Value) (s : String) :
    s ∈ addSessionId values value ↔ s ∈ values ∨ s ≠ "" ∧ value.asStr? = some s := by
  unfold addSessionId
  cases hv : value.asStr? with
  | none => simp
  | some s' =>
    by_cases hs' : s' ≠ "" ∧ s' ∉ values
    · simp only [hs', not_false_eq_true, and_self, if_true, List.mem_append, List.mem_singleton,
        Option.some.injEq, ne_eq]
      refine or_congr_right ⟨?_, fun h => h.2.symm⟩
      rintro rfl
      exact ⟨hs'.1, rfl⟩
    · simp only [hs', if_false, Option.some.injEq]
      refine ⟨.inl, ?_⟩
      rintro (hmem | ⟨hne, rfl⟩)
      · exact hmem
      · by_contra hout
        exact hs' ⟨hne, hout⟩

theorem mem_sessionIdsOf (rows : List Row) (s : String) :
    s ∈ sessionIdsOf rows ↔ s ≠ "" ∧ ∃ v ∈ rows.map (·.field "session_id"), v.asStr? = some s := by
  induction rows using List.reverseRec with
  | nil => simp [sessionIdsOf]
  | append_singleton rows row ih =>
    rw [sessionIdsOf_append, mem_addSessionId, ih, List.map_append, List.map_singleton]
    simp only [List.mem_append, List.mem_singleton, or_and_right, exists_or, exists_eq_left,
      and_or_left]

/-- A Session whose rows are well formed has a result if and only if it has rows. -/
theorem resultOf_total (sessionId : String) {rows : List Row}
    (h : ∀ row ∈ rows, WellFormed py row) :
    ∃ result, resultOf py sessionId rows = .ok result ∧ (result.isSome ↔ rows ≠ []) := by
  have hcompleted : ∀ row ∈ completedRows py rows, WellFormed py row ∧
      truthy py (row.field "is_session_completed") = true := by
    intro row hrow
    obtain ⟨hrow, htrue⟩ := List.mem_filter.mp hrow
    exact ⟨h row hrow, htrue⟩
  have hmax : ∀ items : List Row, items.Sublist (completedRows py rows) →
      ∃ final, maxBy (rowSortKey py) items = .ok final ∧ ∀ row, final = some row → row ∈ items := by
    intro items hsub
    obtain ⟨pairs, hpairs⟩ := keyed_total fun item hitem =>
      have hitem := hcompleted item (hsub.subset hitem)
      (hitem.1.completed hitem.2).1
    refine ⟨(greatest pairs).map (·.2), maxBy_of_keyed hpairs, fun row hrow => ?_⟩
    obtain ⟨p, hp, rfl⟩ := Option.map_eq_some_iff.mp hrow
    exact (keyed_mem hpairs (greatest_mem hp).1).1
  rw [resultOf]
  split
  · next hempty => exact ⟨none, rfl, by simp [List.isEmpty_iff.mp hempty]⟩
  · next hempty =>
    have hne : rows ≠ [] := fun hnil => hempty (by rw [hnil]; rfl)
    obtain ⟨final, hfinal, hmem⟩ := hmax (rewardedRows py rows) List.filter_sublist
    rw [hfinal]
    cases final with
    | some row =>
      obtain ⟨hrow, hreward⟩ := List.mem_filter.mp (hmem row rfl)
      obtain ⟨hwf, htrue⟩ := hcompleted row hrow
      obtain ⟨⟨score, hscore⟩, date, hdate⟩ := hwf.rewarded htrue (by simpa using hreward)
      obtain ⟨result, hresult⟩ : ∃ result, succeededResult py sessionId row = .ok result :=
        ⟨_, by rw [succeededResult, hscore, hdate]; rfl⟩
      refine ⟨some result, ?_, by simpa using hne⟩
      show (succeededResult py sessionId row >>= _) = _
      rw [hresult]
      rfl
    | none =>
      obtain ⟨last, hlast, hmem⟩ := hmax (completedRows py rows) (.refl _)
      show ∃ result, (maxBy (rowSortKey py) (completedRows py rows) >>= _) = _ ∧ _
      rw [hlast]
      cases last with
      | some row =>
        obtain ⟨hwf, htrue⟩ := hcompleted row (hmem row rfl)
        obtain ⟨date, hdate⟩ := (hwf.completed htrue).2
        obtain ⟨result, hresult⟩ : ∃ result, failedResult py sessionId row = .ok result :=
          ⟨_, by rw [failedResult, hdate]; rfl⟩
        refine ⟨some result, ?_, by simpa using hne⟩
        show (failedResult py sessionId row >>= _) = _
        rw [hresult]
        rfl
      | none => exact ⟨_, rfl, by simpa using hne⟩

theorem stepsOf_total (sessionId : String) {rows : List Row} (h : ∀ row ∈ rows, WellFormed py row) :
    ∃ steps, stepsOf py sessionId rows = .ok steps ∧ (steps.isSome ↔ rows ≠ []) := by
  refine ⟨_, stepsOf_ok.mpr ⟨fun row hrow => (h row hrow).readable, rfl⟩, ?_⟩
  cases rows <;> simp

/-- The Landing queries stay in their scope.  The filter of a Job, or of a Session of a Job, lexes
to its equations; tables that agree on the rows in scope give the same answers; and a Session is
listed if and only if its result and its steps are found, unless a row of it is malformed. -/
theorem landing_scope (py : Interpreter) (present : LandingQuery → List Row → List Row)
    (jobId sessionId : String) :
    (∀ session : Option String,
      Sql.lex (filterQuery jobId session) = some (filterTokens jobId session)) ∧
    (∀ table table', jobRows jobId table = jobRows jobId table' →
      (tableClient present table).listSessionIds jobId =
        (tableClient present table').listSessionIds jobId) ∧
    (∀ table table', sessionRows sessionId (jobRows jobId table) =
        sessionRows sessionId (jobRows jobId table') →
      (tableClient present table).getResult py jobId sessionId =
          (tableClient present table').getResult py jobId sessionId ∧
        (tableClient present table).getSteps py jobId sessionId =
          (tableClient present table').getSteps py jobId sessionId ∧
        ∀ stepId, (tableClient present table).getTrajectory py jobId sessionId stepId =
          (tableClient present table').getTrajectory py jobId sessionId stepId) ∧
    (Presents present → ∀ table,
      (∀ row ∈ sessionRows sessionId (jobRows jobId table), WellFormed py row) → sessionId ≠ "" →
      ∃ ids result steps, (tableClient present table).listSessionIds jobId = .ok ids ∧
        (tableClient present table).getResult py jobId sessionId = .ok result ∧
        (tableClient present table).getSteps py jobId sessionId = .ok steps ∧
        (sessionId ∈ ids ↔ result.isSome) ∧ (sessionId ∈ ids ↔ steps.isSome)) := by
  refine ⟨filterQuery_lex jobId, fun table table' h => ?_, fun table table' h => ?_, ?_⟩
  · show raiseFrom _ (queryLanding _ _ _ _ >>= _) = raiseFrom _ (queryLanding _ _ _ _ >>= _)
    rw [queryLanding_job, queryLanding_job, h]
  · refine ⟨?_, ?_, fun stepId => ?_⟩ <;>
    · show raiseFrom _ (queryLanding _ _ _ _ >>= _) = raiseFrom _ (queryLanding _ _ _ _ >>= _)
      rw [queryLanding_session, queryLanding_session, h]
  · intro hpresent table hwf hne
    have hperm := hpresent.rows (landingQuery jobId (some sessionId) none)
      (sessionRows sessionId (jobRows jobId table)) rfl
    have hwf' := fun row hrow => hwf row (hperm.mem_iff.mp hrow)
    obtain ⟨result, hresult, hisSome⟩ := resultOf_total sessionId hwf'
    obtain ⟨steps, hsteps, hisSome'⟩ := stepsOf_total sessionId hwf'
    have hcolumn := hpresent.column (landingQuery jobId none (some ["session_id"]))
      (jobRows jobId table) ["session_id"] "session_id" rfl (List.mem_singleton_self _)
    have hlisted : sessionId ∈ sessionIdsOf
          (present (landingQuery jobId none (some ["session_id"])) (jobRows jobId table)) ↔
        present (landingQuery jobId (some sessionId) none)
          (sessionRows sessionId (jobRows jobId table)) ≠ [] := by
      rw [mem_sessionIdsOf]
      simp only [hcolumn.mem_iff, ne_eq, hne, not_false_eq_true, true_and]
      rw [← List.isEmpty_iff, hperm.isEmpty_eq, List.isEmpty_iff, sessionRows,
        List.filter_eq_nil_iff]
      simp
    refine ⟨_, result, steps, ?_, ?_, ?_, hlisted.trans hisSome.symm, hlisted.trans hisSome'.symm⟩
    · show raiseFrom _ (queryLanding _ _ _ _ >>= _) = _
      rw [queryLanding_job]
      rfl
    · show raiseFrom _ (queryLanding _ _ _ _ >>= _) = _
      rw [queryLanding_session]
      exact raiseFrom_ok.mpr hresult
    · show raiseFrom _ (queryLanding _ _ _ _ >>= _) = _
      rw [queryLanding_session]
      exact raiseFrom_ok.mpr hsteps

/-- A Job and a Session whose IDs end a literal that does not double its quotes. -/
theorem landing_scope_quoted : ∃ ids result steps,
    let row : Row := [("job_id", .str "x' OR 'a' = 'a"), ("session_id", .str "s' --")]
    let client := tableClient (fun _ rows => rows) [row, [("job_id", .str "y")]]
    client.listSessionIds "x' OR 'a' = 'a" = .ok ids ∧
      client.getResult plainPython "x' OR 'a' = 'a" "s' --" = .ok result ∧
      client.getSteps plainPython "x' OR 'a' = 'a" "s' --" = .ok steps ∧
      ("s' --" ∈ ids ↔ result.isSome) ∧ ("s' --" ∈ ids ↔ steps.isSome) :=
  (landing_scope plainPython (fun _ rows => rows) "x' OR 'a' = 'a" "s' --").2.2.2
    ⟨fun _ _ _ => .refl _, fun _ _ _ _ _ _ => .refl _⟩ _
    (by
      rw [show sessionRows "s' --" (jobRows "x' OR 'a' = 'a" _) =
        [[("job_id", .str "x' OR 'a' = 'a"), ("session_id", .str "s' --")]] from rfl]
      simp only [List.forall_mem_singleton]
      exact ⟨⟨none, rfl⟩, fun h => by simp [truthy, Row.field, lookup, Value.truthy] at h,
        fun h => by simp [truthy, Row.field, lookup, Value.truthy] at h⟩)
    (by decide)

end SafactoryServer
