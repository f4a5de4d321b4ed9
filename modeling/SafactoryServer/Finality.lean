import SafactoryServer.Steps

/-! When the result of a Session that was succeeded or failed stays what it was while rows are
appended. -/

namespace SafactoryServer

open Ranking Landing

/-- `late` sorts behind `final`. -/
def SortsAfter (py : Interpreter) (late final : Row) : Prop :=
  ∃ key key', rowSortKey py late = .ok key ∧ rowSortKey py final = .ok key' ∧ key' < key

/-- Of the appended rows that are completed and have a reward, the last in sort order, if there is
one, comes no later than the last such row before, or carries the same reward. -/
def Unrevised (py : Interpreter) (rows more : List Row) : Prop :=
  ∀ late, maxBy (rowSortKey py) (rewardedRows py more) = .ok (some late) →
    ∃ final, maxBy (rowSortKey py) (rewardedRows py rows) = .ok (some final) ∧
      (SortsAfter py late final →
        finiteFloat py (late.field "reward") = finiteFloat py (final.field "reward"))

namespace Landing

variable {py : Interpreter} {rows more : List Row} {sessionId : String} {result : SessionResult}

theorem completedRows_append (rows more : List Row) :
    completedRows py (rows ++ more) = completedRows py rows ++ completedRows py more :=
  List.filter_append ..

theorem rewardedRows_append (rows more : List Row) :
    rewardedRows py (rows ++ more) = rewardedRows py rows ++ rewardedRows py more := by
  rw [rewardedRows, completedRows_append, List.filter_append]
  rfl

/-- How the rows of a Session give its result: from the last completed row with a reward, else from
the last completed row, else there is none yet. -/
theorem resultOf_ok (h : resultOf py sessionId rows = .ok (some result)) :
    ∃ pairs, keyed (rowSortKey py) (rewardedRows py rows) = .ok pairs ∧
      match greatest pairs with
      | some final => result.resultStatus = .succeeded ∧
          ∃ score, finiteFloat py (final.2.field "reward") = .ok score ∧ result.score = some score
      | none => result.resultStatus ≠ .succeeded ∧ result.score = none ∧
          (result.resultStatus = .failed ↔ completedRows py rows ≠ []) := by
  rw [resultOf] at h
  split at h
  · cases h
  · obtain ⟨final, hfinal, h⟩ := bind_ok h
    obtain ⟨pairs, hpairs, hgreatest⟩ := bind_ok hfinal
    refine ⟨pairs, hpairs, ?_⟩
    cases hg : greatest pairs with
    | some p =>
      rw [hg] at hgreatest
      cases hgreatest
      obtain ⟨r, hr, h⟩ := bind_ok h
      cases h
      obtain ⟨score, hscore, hr⟩ := bind_ok hr
      obtain ⟨completedAt, -, hr⟩ := bind_ok hr
      cases completedAt with
      | none => cases hr
      | some completedAt =>
        cases hr
        exact ⟨rfl, score, hscore, rfl⟩
    | none =>
      rw [hg] at hgreatest
      cases hgreatest
      obtain ⟨last, hlast, h⟩ := bind_ok h
      obtain ⟨keys, hkeys, hlast⟩ := bind_ok hlast
      cases hg' : greatest keys with
      | some p =>
        rw [hg'] at hlast
        cases hlast
        obtain ⟨r, hr, h⟩ := bind_ok h
        cases h
        obtain ⟨completedAt, -, hr⟩ := bind_ok hr
        cases hr
        refine ⟨by simp, rfl, fun _ => ?_, fun _ => rfl⟩
        exact List.ne_nil_of_mem (keyed_mem hkeys (greatest_mem hg').1).1
      | none =>
        rw [hg'] at hlast
        cases hlast
        cases h
        refine ⟨by simp [runningResult], rfl, by simp [runningResult], fun hne => ?_⟩
        obtain ⟨row, hrow⟩ := List.exists_mem_of_ne_nil _ hne
        obtain ⟨k, -, hmem⟩ := keyed_covers hkeys hrow
        rw [greatest_eq_none.mp hg'] at hmem
        cases hmem

/-! What the condition says of the last rows with a reward, before and among the appended ones. -/

variable {pairs added : List (SortKey × Row)} {final late : SortKey × Row}

theorem unrevised_none (hadded : keyed (rowSortKey py) (rewardedRows py more) = .ok added)
    (hg : greatest added = none) : Unrevised py rows more := by
  intro late hlate
  rw [maxBy_of_keyed hadded, hg] at hlate
  cases hlate

theorem not_unrevised (hpairs : keyed (rowSortKey py) (rewardedRows py rows) = .ok pairs)
    (hadded : keyed (rowSortKey py) (rewardedRows py more) = .ok added)
    (hg : greatest pairs = none) (hg' : greatest added = some late) :
    ¬ Unrevised py rows more := by
  intro h
  obtain ⟨final, hfinal, -⟩ := h late.2 (by rw [maxBy_of_keyed hadded, hg']; rfl)
  rw [maxBy_of_keyed hpairs, hg] at hfinal
  cases hfinal

theorem sortsAfter_iff (hpairs : keyed (rowSortKey py) (rewardedRows py rows) = .ok pairs)
    (hadded : keyed (rowSortKey py) (rewardedRows py more) = .ok added)
    (hg : greatest pairs = some final) (hg' : greatest added = some late) :
    SortsAfter py late.2 final.2 ↔ final.1 < late.1 := by
  have hfinal := keyed_mem hpairs (greatest_mem hg).1
  have hlate := keyed_mem hadded (greatest_mem hg').1
  constructor
  · rintro ⟨key, key', hk, hk', hlt⟩
    rw [hlate.2] at hk
    rw [hfinal.2] at hk'
    cases hk
    cases hk'
    exact hlt
  · exact fun hlt => ⟨late.1, final.1, hlate.2, hfinal.2, hlt⟩

theorem unrevised_iff (hpairs : keyed (rowSortKey py) (rewardedRows py rows) = .ok pairs)
    (hadded : keyed (rowSortKey py) (rewardedRows py more) = .ok added)
    (hg : greatest pairs = some final) (hg' : greatest added = some late) :
    Unrevised py rows more ↔ (final.1 < late.1 →
      finiteFloat py (late.2.field "reward") = finiteFloat py (final.2.field "reward")) := by
  have hafter := sortsAfter_iff hpairs hadded hg hg'
  rw [Unrevised, maxBy_of_keyed hpairs, maxBy_of_keyed hadded, hg, hg']
  constructor
  · intro h hlt
    obtain ⟨row, hrow, hsame⟩ := h late.2 rfl
    cases hrow
    exact hsame (hafter.mpr hlt)
  · intro h row hrow
    cases hrow
    exact ⟨final.2, rfl, fun ha => h (hafter.mp ha)⟩

end Landing

/-- A result that was succeeded or failed keeps its status and its score if and only if the appended
rows do not revise it. -/
theorem terminal_final_iff (py : Interpreter) (jobId sessionId : String) (rows more : List Row)
    (earlier later : SessionResult)
    (h : (SdkClient.serving rows).getResult py jobId sessionId = .ok (some earlier))
    (hterminal : earlier.resultStatus = .succeeded ∨ earlier.resultStatus = .failed)
    (h' : (SdkClient.serving (rows ++ more)).getResult py jobId sessionId = .ok (some later)) :
    (later.resultStatus = earlier.resultStatus ∧ later.score = earlier.score) ↔
      Unrevised py rows more := by
  rw [SdkClient.getResult_serving, raiseFrom_ok] at h h'
  obtain ⟨pairs, hpairs, hresult⟩ := resultOf_ok h
  obtain ⟨pairs', hpairs', hresult'⟩ := resultOf_ok h'
  rw [rewardedRows_append, keyed_append] at hpairs'
  obtain ⟨_, added, hpairs'', hadded, rfl⟩ := hpairs'
  rw [hpairs] at hpairs''
  cases hpairs''
  rw [greatest_append] at hresult'
  cases hg' : greatest added with
  | none =>
    -- no reward was appended: the rows that decided before decide again
    rw [hg'] at hresult'
    refine iff_of_true ?_ (unrevised_none hadded hg')
    cases hg : greatest pairs with
    | some final =>
      simp only [hg] at hresult hresult'
      obtain ⟨hs, score, hscore, heq⟩ := hresult
      obtain ⟨hs', score', hscore', heq'⟩ := hresult'
      rw [hscore] at hscore'
      cases hscore'
      exact ⟨hs'.trans hs.symm, heq'.trans heq.symm⟩
    | none =>
      simp only [hg] at hresult hresult'
      obtain ⟨hs, hnone, hfailed⟩ := hresult
      obtain ⟨-, hnone', hfailed'⟩ := hresult'
      have hf := hterminal.resolve_left hs
      rw [hf, hfailed', completedRows_append]
      exact ⟨fun hnil => hfailed.mp hf (List.append_eq_nil_iff.mp hnil).1, hnone'.trans hnone.symm⟩
  | some late =>
    rw [hg'] at hresult'
    cases hg : greatest pairs with
    | none =>
      -- a reward after a completion without one turns `failed` into `succeeded`
      simp only [hg] at hresult hresult'
      refine iff_of_false (fun hsame => hresult.1 ?_) (not_unrevised hpairs hadded hg hg')
      rw [← hsame.1]
      exact hresult'.1
    | some final =>
      rw [unrevised_iff hpairs hadded hg hg']
      simp only [hg, greaterOf, Option.elim_some, better] at hresult hresult'
      obtain ⟨hs, score, hscore, heq⟩ := hresult
      by_cases hlt : final.1 < late.1
      · rw [if_pos hlt] at hresult'
        obtain ⟨hs', score', hscore', heq'⟩ := hresult'
        simp [hs, hs', heq, heq', hscore, hscore', hlt]
      · rw [if_neg hlt] at hresult'
        obtain ⟨hs', score', hscore', heq'⟩ := hresult'
        rw [hscore] at hscore'
        cases hscore'
        simp [hs, hs', heq, heq', hlt]

/-- Rows with integer steps and creation times that do not decrease. -/
def NonDecreasing (rows : List Row) : Prop :=
  rows.Pairwise fun row row' => ∃ m n s t : Int, row.field "step_id" = .int m ∧
    row'.field "step_id" = .int n ∧ row.field "created_at" = .int s ∧
    row'.field "created_at" = .int t ∧ m ≤ n ∧ s ≤ t

/-- The row that completes a Session, not evaluated yet. -/
def completionRow : Row :=
  [("id", .str "a"), ("session_id", .str "s"), ("step_id", .int 3), ("created_at", .int 10),
   ("is_session_completed", .bool true)]

/-- A later row of the same Session. -/
def laterRow (reward : Value) : Row :=
  [("id", .str "b"), ("session_id", .str "s"), ("step_id", .int 3), ("created_at", .int 20),
   ("is_session_completed", .bool true), ("reward", reward)]

theorem terminal_final_iff_unrewarded :
    (ResultStatus.failed = .failed ∧ (none : Option PyFloat) = none) ↔
      Unrevised plainPython [completionRow] [laterRow .null] :=
  terminal_final_iff plainPython "job" "s" [completionRow] [laterRow .null]
    { sessionId := "s", resultStatus := .failed, score := none,
      completedAt := some ⟨10000000, some 0⟩ }
    { sessionId := "s", resultStatus := .failed, score := none,
      completedAt := some ⟨20000000, some 0⟩ } rfl (.inr rfl) rfl

/-- A Session that was reported failed succeeds when its reward is written. -/
theorem evaluated_late : ¬ ∀ (rows more : List Row) (earlier later : SessionResult),
    NonDecreasing (rows ++ more) →
    (SdkClient.serving rows).getResult plainPython "job" "s" = .ok (some earlier) →
    (earlier.resultStatus = .succeeded ∨ earlier.resultStatus = .failed) →
    (SdkClient.serving (rows ++ more)).getResult plainPython "job" "s" = .ok (some later) →
    later.resultStatus = earlier.resultStatus ∧ later.score = earlier.score := by
  intro h
  have hsame := h [completionRow] [laterRow (.float (.finite 1))]
    { sessionId := "s", resultStatus := .failed, score := none,
      completedAt := some ⟨10000000, some 0⟩ }
    { sessionId := "s", resultStatus := .succeeded, score := some (.finite 1),
      completedAt := some ⟨20000000, some 0⟩ }
    (by
      rw [NonDecreasing, List.singleton_append, List.pairwise_pair]
      exact ⟨3, 3, 10, 20, rfl, rfl, rfl, rfl, by omega, by omega⟩)
    rfl (.inr rfl) rfl
  cases hsame.1

end SafactoryServer
