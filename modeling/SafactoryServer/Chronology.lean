import SafactoryServer.Steps
import Mathlib.Data.Int.ConditionallyCompleteOrder
import Mathlib.Data.List.MinMax
import Mathlib.Order.ConditionallyCompleteLattice.Basic

/-! Which row of a step a Session shows, and which row scores it.  Rows are compared by the text of
`created_at`, and what is served is the instant that `created_at` denotes: the latest row is chosen
if and only if it leads in the order of the texts too, and shown if it can be decoded. -/

namespace SafactoryServer

open Ranking Landing

/-- The microseconds since 1970 in UTC that a `datetime` denotes. -/
def Datetime.instant (d : Datetime) : Int := d.wall - d.utcoffset.getD 0 * 1000000

namespace Landing

variable (py : Interpreter)

/-- The instant of a row, below all instants if it has none. -/
def instantOf (row : Row) : WithBot Int :=
  match rowDatetime py row with
  | .ok (some d) => (d.instant : Int)
  | _ => ⊥

/-- The number of a row's step, by which it sorts first. -/
def stepNumber (row : Row) : Except PyExc Int := orDefault ((row.field "step_id").toInt py) (-1)

/-- Rows whose steps print to the same text or have the same number. -/
def SameStep (row row' : Row) : Prop :=
  (∃ stepId, (row.field "step_id").toStr py = .ok stepId ∧
    (row'.field "step_id").toStr py = .ok stepId) ∨
  ∃ n, stepNumber py row = .ok n ∧ stepNumber py row' = .ok n

/-- Rows that were all created at some instant, those of one step at different ones. -/
structure Dated (rows : List Row) : Prop where
  accepted : ∀ row ∈ rows, ∃ d, rowDatetime py row = .ok (some d)
  distinct : rows.Pairwise fun row row' =>
    SameStep py row row' → instantOf py row ≠ instantOf py row'

/-- A row that was created last. -/
def Latest (row : Row) (candidates : List Row) : Prop :=
  row ∈ candidates ∧ ∀ candidate ∈ candidates, instantOf py candidate ≤ instantOf py row

/-- The rows whose step has the number `n`. -/
def numberedRows (n : Int) (rows : List Row) : List Row :=
  rows.filter fun row => (stepNumber py row).toOption = some n

/-- The greatest step number among rows. -/
def GreatestStep (n : Int) (rows : List Row) : Prop :=
  (∃ row ∈ rows, stepNumber py row = .ok n) ∧ ∀ row ∈ rows, ∃ m ≤ n, stepNumber py row = .ok m

/-- A row with a reward that is a finite number. -/
def Scored (row : Row) : Prop := ∃ score, finiteFloat py (row.field "reward") = .ok score

/-- A trajectory with the payload and the timestamps of a row. -/
structure Shows (row : Row) (shown : StepTrajectory) : Prop where
  startedAt : rowDatetime py row = .ok shown.startedAt
  finishedAt : rowDatetime py row = .ok shown.finishedAt
  payload : trajectoryPayload py row = .ok shown.trajectory

end Landing

/-- The latest row of each exposed step is the one that is shown, and the latest completed row with
a reward of the greatest step gives the result. -/
structure LatestWins (py : Interpreter) (jobId sessionId : String) (rows : List Row) : Prop where
  trajectory : ∀ index, (SdkClient.serving rows).getSteps py jobId sessionId = .ok (some index) →
    ∀ step ∈ index.steps, ∃ row, Latest py row (stepRows py step.stepId rows) ∧
      ∃ shown, (SdkClient.serving rows).getTrajectory py jobId sessionId step.stepId =
        .ok (some shown) ∧ Shows py row shown
  result : ∀ n, GreatestStep py n (rewardedRows py rows) →
    ∃ final, Latest py final (numberedRows py n (rewardedRows py rows)) ∧
      (SdkClient.serving rows).getResult py jobId sessionId =
        raiseFrom "failed to query session result" (some <$> succeededResult py sessionId final)

/-- If no row raises, the latest row of each step leads the rows of the step in sort order, and can
be decoded; and the latest completed row with a reward of the greatest step leads those with a
reward, or neither it nor the one that leads has a finite reward. -/
structure TextuallyLatest (py : Interpreter) (rows : List Row) : Prop where
  trajectory : (∀ row ∈ rows, Readable py row) → ∀ stepId row,
    Latest py row (stepRows py stepId rows) →
      Leads (rowSortKey py) row (stepRows py stepId rows) ∧ RowDecodes py row
  result : ∀ n, GreatestStep py n (rewardedRows py rows) →
    ∀ final, Latest py final (numberedRows py n (rewardedRows py rows)) →
      Leads (rowSortKey py) final (rewardedRows py rows) ∨ ¬ Scored py final ∧
        ∀ row, Leads (rowSortKey py) row (rewardedRows py rows) → ¬ Scored py row

namespace Landing

variable {py : Interpreter} {rows : List Row} {jobId sessionId stepId : String}

theorem mem_numberedRows {row : Row} {n : Int} :
    row ∈ numberedRows py n rows ↔ row ∈ rows ∧ stepNumber py row = .ok n := by
  rw [numberedRows, List.mem_filter, decide_eq_true_iff]
  cases stepNumber py row <;> simp [Except.toOption]

theorem mem_of_rewarded {row : Row} (h : row ∈ rewardedRows py rows) : row ∈ rows :=
  List.mem_of_mem_filter (List.mem_of_mem_filter h)

/-- Of any rows, one was created last. -/
theorem latest_exists (py : Interpreter) {candidates : List Row} (h : candidates ≠ []) :
    ∃ row, Latest py row candidates := by
  cases ho : candidates.argmax (instantOf py) with
  | none => exact absurd (List.argmax_eq_none.mp ho) h
  | some row => exact ⟨row, List.argmax_mem ho, fun _ hmem => List.le_of_mem_argmax hmem ho⟩

theorem Shows.instant {row row' : Row} {shown : StepTrajectory} (h : Shows py row shown)
    (h' : Shows py row' shown) : instantOf py row = instantOf py row' := by
  rw [instantOf, instantOf, h.startedAt, h'.startedAt]

namespace Dated

variable (h : Dated py rows) {row row' : Row}

include h

/-- An instant tells the rows of a step apart. -/
theorem eq_of_instant (hrow : row ∈ rows) (hrow' : row' ∈ rows) (hsame : SameStep py row row')
    (heq : instantOf py row = instantOf py row') : row = row' := by
  have : Std.Symm fun row row' => SameStep py row row' → instantOf py row ≠ instantOf py row' := by
    refine ⟨fun row row' hne hsame heq => hne ?_ heq.symm⟩
    rcases hsame with ⟨stepId, hs, hs'⟩ | ⟨n, hn, hn'⟩
    · exact .inl ⟨stepId, hs', hs⟩
    · exact .inr ⟨n, hn', hn⟩
  by_contra hne
  exact h.distinct.forall hrow hrow' hne hsame heq

theorem eq_of_stepRows (hrow : row ∈ stepRows py stepId rows)
    (hrow' : row' ∈ stepRows py stepId rows) (heq : instantOf py row = instantOf py row') :
    row = row' := by
  obtain ⟨hmem, hstep⟩ := mem_stepRows.mp hrow
  obtain ⟨hmem', hstep'⟩ := mem_stepRows.mp hrow'
  exact h.eq_of_instant hmem hmem' (.inl ⟨stepId, hstep.2, hstep'.2⟩) heq

theorem eq_of_numberedRows {n : Int} (hrow : row ∈ numberedRows py n (rewardedRows py rows))
    (hrow' : row' ∈ numberedRows py n (rewardedRows py rows))
    (heq : instantOf py row = instantOf py row') : row = row' := by
  obtain ⟨hmem, hn⟩ := mem_numberedRows.mp hrow
  obtain ⟨hmem', hn'⟩ := mem_numberedRows.mp hrow'
  exact h.eq_of_instant (mem_of_rewarded hmem) (mem_of_rewarded hmem') (.inr ⟨n, hn, hn'⟩) heq

end Dated

/-! ### The trajectories -/

theorem getTrajectory_shows (hread : ∀ row ∈ rows, Readable py row)
    {p : Entry String SortKey Row × Nat} (hp : p ∈ (ranking (entries py rows)).zipIdx 1)
    {shown : StepTrajectory} (h : (SdkClient.serving rows).getTrajectory py jobId sessionId p.1.id =
      .ok (some shown)) : Shows py p.1.item shown := by
  rw [getTrajectory_ranking hread hp, raiseFrom_ok] at h
  obtain ⟨trajectory, htrajectory, h⟩ := bind_ok h
  obtain ⟨timestamp, payload, ht, hpayload, rfl⟩ := stepTrajectory_ok_iff.mp htrajectory
  cases h
  exact ⟨ht, ht, hpayload⟩

/-- The steps that are exposed are those of the ranking, if no row raises. -/
theorem exposed_iff {step : StepIndex} :
    (∃ index, (SdkClient.serving rows).getSteps py jobId sessionId = .ok (some index) ∧
      step ∈ index.steps) ↔
    (∀ row ∈ rows, Readable py row) ∧
      ∃ p ∈ (ranking (entries py rows)).zipIdx 1, step = ⟨p.1.id, p.2⟩ := by
  simp only [SdkClient.getSteps_serving, raiseFrom_ok, stepsOf_ok]
  constructor
  · rintro ⟨index, ⟨hread, hindex⟩, hstep⟩
    split at hindex
    · cases hindex
    · cases hindex
      obtain ⟨p, hp, rfl⟩ := List.mem_map.mp hstep
      exact ⟨hread, p, hp, rfl⟩
  · rintro ⟨hread, p, hp, rfl⟩
    have hrow := (ranking_step (List.fst_mem_of_mem_zipIdx hp)).1
    refine ⟨indexOf py sessionId rows, ⟨hread, ?_⟩, List.mem_map_of_mem hp⟩
    rw [if_neg fun hempty => List.ne_nil_of_mem hrow (List.isEmpty_iff.mp hempty)]

/-- The latest row of each exposed step is shown if and only if it leads the rows of the step and
can be decoded. -/
theorem trajectory_iff (h : Dated py rows) :
    (∀ index, (SdkClient.serving rows).getSteps py jobId sessionId = .ok (some index) →
      ∀ step ∈ index.steps, ∃ row, Latest py row (stepRows py step.stepId rows) ∧
        ∃ shown, (SdkClient.serving rows).getTrajectory py jobId sessionId step.stepId =
          .ok (some shown) ∧ Shows py row shown) ↔
    ((∀ row ∈ rows, Readable py row) → ∀ stepId row, Latest py row (stepRows py stepId rows) →
      Leads (rowSortKey py) row (stepRows py stepId rows) ∧ RowDecodes py row) := by
  constructor
  · intro hshows hread stepId row hrow
    obtain ⟨p, hp, rfl⟩ := ranking_of_step hread hrow.1
    have hleads := ranking_leads hread (List.fst_mem_of_mem_zipIdx hp)
    obtain ⟨index, hindex, hstep⟩ := exposed_iff.mpr ⟨hread, p, hp, rfl⟩
    obtain ⟨row', hrow', shown, hshown, hshows⟩ := hshows index hindex _ hstep
    -- the row that is shown has the instant of the latest row
    have heq := hshows.instant (getTrajectory_shows hread hp hshown)
    have hdecodes := trajectoryPayload_ok_iff.mp ⟨_, (getTrajectory_shows hread hp hshown).payload⟩
    rw [h.eq_of_stepRows hrow.1 hrow'.1 (le_antisymm (hrow'.2 row hrow.1) (hrow.2 row' hrow'.1)),
      h.eq_of_stepRows hrow'.1 hleads.mem heq]
    exact ⟨hleads, hdecodes⟩
  · intro hleads index hindex step hstep
    obtain ⟨hread, p, hp, rfl⟩ := exposed_iff.mp ⟨index, hindex, hstep⟩
    have hshown := ranking_leads hread (List.fst_mem_of_mem_zipIdx hp)
    obtain ⟨row, hrow⟩ := latest_exists py (List.ne_nil_of_mem hshown.mem)
    obtain ⟨hrowLeads, hdecodes⟩ := hleads hread p.1.id row hrow
    obtain rfl := hrowLeads.unique hshown
    obtain ⟨payload, hpayload⟩ := trajectoryPayload_ok_iff.mpr hdecodes
    obtain ⟨d, hd⟩ := h.accepted p.1.item (ranking_step (List.fst_mem_of_mem_zipIdx hp)).1
    refine ⟨p.1.item, hrow, ?_⟩
    rw [getTrajectory_ranking hread hp, stepTrajectory_ok_iff.mpr ⟨_, _, hd, hpayload, rfl⟩]
    exact ⟨_, rfl, hd, hd, hpayload⟩

/-! ### The result -/

theorem rowSortKey_number {row : Row} {key : SortKey} (h : rowSortKey py row = .ok key) :
    stepNumber py row = .ok (ofLex key).1 := by
  obtain ⟨step, hstep, h⟩ := bind_ok h
  obtain ⟨createdAt, -, h⟩ := bind_ok h
  obtain ⟨id, -, h⟩ := bind_ok h
  cases h
  exact hstep

/-- The row that leads has the greatest step. -/
theorem leads_number {n : Int} (hn : GreatestStep py n rows) {row : Row}
    (h : Leads (rowSortKey py) row rows) : stepNumber py row = .ok n := by
  obtain ⟨last, hlast, hnumber⟩ := hn.1
  obtain ⟨k, k', hk, hk', hle⟩ := h.le hlast
  obtain ⟨m, hm, hstep⟩ := hn.2 row h.mem
  have hfst := Prod.Lex.monotone_fst_ofLex hle
  have hrow := rowSortKey_number hk
  rw [rowSortKey_number hk'] at hnumber
  cases hnumber
  rw [hstep] at hrow
  cases hrow
  rw [hstep, le_antisymm hm hfst]

theorem succeededResult_eq {row : Row} {d : Datetime} (hd : rowDatetime py row = .ok (some d)) :
    succeededResult py sessionId row = (finiteFloat py (row.field "reward")).map fun score =>
      { sessionId := sessionId, resultStatus := .succeeded, score := some score,
        completedAt := some d } := by
  rw [succeededResult, hd]
  cases finiteFloat py (row.field "reward") <;> rfl

/-- `get_result` reads the row that leads those with a reward. -/
theorem resultOf_leads {final : Row} (h : Leads (rowSortKey py) final (rewardedRows py rows)) :
    resultOf py sessionId rows = some <$> succeededResult py sessionId final := by
  have hne := List.ne_nil_of_mem (mem_of_rewarded h.mem)
  rw [resultOf, if_neg fun hempty => hne (List.isEmpty_iff.mp hempty), maxBy_eq_some.mpr h]
  show (succeededResult py sessionId final >>= _) = _
  cases succeededResult py sessionId final <;> rfl

theorem resultOf_error {x : PyExc} (hne : rewardedRows py rows ≠ [])
    (h : maxBy (rowSortKey py) (rewardedRows py rows) = .error x) :
    resultOf py sessionId rows = .error x := by
  obtain ⟨row, hrow⟩ := List.exists_mem_of_ne_nil _ hne
  have hne := List.ne_nil_of_mem (mem_of_rewarded hrow)
  rw [resultOf, if_neg fun hempty => hne (List.isEmpty_iff.mp hempty), h]
  rfl

/-- A result fails for a dated row exactly if its reward is no finite number. -/
theorem succeededResult_error_iff {row : Row} {message : String}
    (hd : ∃ d, rowDatetime py row = .ok (some d)) :
    raiseFrom message (some <$> succeededResult py sessionId row) = .error ⟨message⟩ ↔
      ¬ Scored py row := by
  obtain ⟨d, hd⟩ := hd
  rw [succeededResult_eq hd, Scored]
  cases finiteFloat py (row.field "reward") with
  | error x => exact iff_of_true rfl (by simp)
  | ok score => exact iff_of_false (by rintro ⟨⟩) (by simp)

/-- A result tells the instant of its row. -/
theorem succeededResult_instant {row row' : Row} {message : String} (hscore : Scored py row)
    (hd : ∃ d, rowDatetime py row = .ok (some d)) (hd' : ∃ d, rowDatetime py row' = .ok (some d))
    (h : raiseFrom message (some <$> succeededResult py sessionId row) =
      raiseFrom message (some <$> succeededResult py sessionId row')) :
    instantOf py row = instantOf py row' := by
  obtain ⟨d, hd⟩ := hd
  obtain ⟨d', hd'⟩ := hd'
  obtain ⟨score, hscore⟩ := hscore
  rw [succeededResult_eq hd, succeededResult_eq hd', hscore] at h
  cases hscore' : finiteFloat py (row'.field "reward") with
  | error x =>
    rw [hscore'] at h
    cases h
  | ok score' =>
    rw [hscore'] at h
    cases h
    rw [instantOf, instantOf, hd, hd']

/-- The latest row of the greatest step leads if it gives the result, unless no reward is finite. -/
theorem leads_of_result (h : Dated py rows) {n : Int} {final : Row}
    (hn : GreatestStep py n (rewardedRows py rows))
    (hfinal : Latest py final (numberedRows py n (rewardedRows py rows)))
    (hget : raiseFrom "failed to query session result" (resultOf py sessionId rows) =
      raiseFrom "failed to query session result" (some <$> succeededResult py sessionId final)) :
    Leads (rowSortKey py) final (rewardedRows py rows) ∨ ¬ Scored py final ∧
      ∀ row, Leads (rowSortKey py) row (rewardedRows py rows) → ¬ Scored py row := by
  have hrewarded := (mem_numberedRows.mp hfinal.1).1
  have hdated := fun {row} (hrow : row ∈ rewardedRows py rows) =>
    h.accepted row (mem_of_rewarded hrow)
  rcases leads_or_error (rowSortKey py) (List.ne_nil_of_mem hrewarded) with
    ⟨chosen, hchosen⟩ | ⟨x, hx⟩
  · rw [resultOf_leads hchosen] at hget
    by_cases hscore : Scored py chosen
    · have hmem := mem_numberedRows.mpr ⟨hchosen.mem, leads_number hn hchosen⟩
      have heq := succeededResult_instant hscore (hdated hchosen.mem) (hdated hrewarded) hget
      exact .inl (h.eq_of_numberedRows hmem hfinal.1 heq ▸ hchosen)
    · rw [(succeededResult_error_iff (hdated hchosen.mem)).mpr hscore] at hget
      refine .inr ⟨(succeededResult_error_iff (hdated hrewarded)).mp hget.symm, ?_⟩
      exact fun row hrow => hrow.unique hchosen ▸ hscore
  · rw [resultOf_error (List.ne_nil_of_mem hrewarded) hx] at hget
    refine .inr ⟨(succeededResult_error_iff (hdated hrewarded)).mp hget.symm, fun row hrow => ?_⟩
    rw [maxBy_eq_some.mpr hrow] at hx
    cases hx

/-- A row gives the result if it leads, or if no row that may give it has a finite reward. -/
theorem result_of_leads (h : Dated py rows) {final : Row} (hfinal : final ∈ rewardedRows py rows)
    (hlead : Leads (rowSortKey py) final (rewardedRows py rows) ∨ ¬ Scored py final ∧
      ∀ row, Leads (rowSortKey py) row (rewardedRows py rows) → ¬ Scored py row) :
    raiseFrom "failed to query session result" (resultOf py sessionId rows) =
      raiseFrom "failed to query session result" (some <$> succeededResult py sessionId final) := by
  rcases hlead with hlead | ⟨hscore, hothers⟩
  · rw [resultOf_leads hlead]
  have hdated := h.accepted final (mem_of_rewarded hfinal)
  rw [(succeededResult_error_iff hdated).mpr hscore]
  rcases leads_or_error (rowSortKey py) (List.ne_nil_of_mem hfinal) with
    ⟨chosen, hchosen⟩ | ⟨x, hx⟩
  · rw [resultOf_leads hchosen]
    exact (succeededResult_error_iff (h.accepted chosen (mem_of_rewarded hchosen.mem))).mpr
      (hothers chosen hchosen)
  · rw [resultOf_error (List.ne_nil_of_mem hfinal) hx]
    rfl

/-- The latest completed row with a reward of the greatest step gives the result if and only if it
leads those with a reward, or neither it nor the one that leads has a finite reward. -/
theorem result_iff (h : Dated py rows) :
    (∀ n, GreatestStep py n (rewardedRows py rows) →
      ∃ final, Latest py final (numberedRows py n (rewardedRows py rows)) ∧
        (SdkClient.serving rows).getResult py jobId sessionId =
          raiseFrom "failed to query session result"
            (some <$> succeededResult py sessionId final)) ↔
    ∀ n, GreatestStep py n (rewardedRows py rows) →
      ∀ final, Latest py final (numberedRows py n (rewardedRows py rows)) →
        Leads (rowSortKey py) final (rewardedRows py rows) ∨ ¬ Scored py final ∧
          ∀ row, Leads (rowSortKey py) row (rewardedRows py rows) → ¬ Scored py row := by
  rw [SdkClient.getResult_serving]
  constructor
  · intro hresult n hn final hfinal
    obtain ⟨final', hfinal', hget⟩ := hresult n hn
    have hsame := h.eq_of_numberedRows hfinal.1 hfinal'.1
      (le_antisymm (hfinal'.2 final hfinal.1) (hfinal.2 final' hfinal'.1))
    subst hsame
    exact leads_of_result h hn hfinal hget
  · intro hleads n hn
    obtain ⟨row, hrow, hnumber⟩ := hn.1
    obtain ⟨final, hfinal⟩ := latest_exists py
      (List.ne_nil_of_mem (mem_numberedRows.mpr ⟨hrow, hnumber⟩))
    exact ⟨final, hfinal,
      result_of_leads h (mem_numberedRows.mp hfinal.1).1 (hleads n hn final hfinal)⟩

end Landing

/-- The latest rows win if and only if they lead in sort order, and those of the steps can be
decoded. -/
theorem latest_wins_iff (py : Interpreter) (jobId sessionId : String) (rows : List Row)
    (h : Dated py rows) : LatestWins py jobId sessionId rows ↔ TextuallyLatest py rows := by
  constructor
  · rintro ⟨htrajectory, hresult⟩
    exact ⟨(trajectory_iff h).mp htrajectory, (result_iff h).mp hresult⟩
  · rintro ⟨htrajectory, hresult⟩
    exact ⟨(trajectory_iff h).mpr htrajectory, (result_iff h).mpr hresult⟩

/-- A completed row with a reward, written under a time zone. -/
def zonedRow (id : String) (createdAt : Datetime) (reward : ℚ) : Row :=
  [("id", .str id), ("session_id", .str "s"), ("step_id", .int 0),
   ("created_at", .datetime createdAt), ("messages", .list [.str id]),
   ("is_session_completed", .bool true), ("reward", .float (.finite reward))]

/-- Written at 09:02:03+08:00, an hour before the row below. -/
def earlierRow : Row := zonedRow "a" ⟨1787389323000000, some 28800⟩ 0

/-- Written at 02:00:00+00:00 of the same day. -/
def laterZonedRow : Row := zonedRow "b" ⟨1787364000000000, some 0⟩ 1

theorem zonedRows_dated : Dated plainPython [earlierRow, laterZonedRow] where
  accepted := by
    rw [List.forall_mem_cons, List.forall_mem_singleton]
    exact ⟨⟨_, rfl⟩, ⟨_, rfl⟩⟩
  distinct := by
    rw [List.pairwise_pair]
    intro _ heq
    exact absurd heq (by decide)

theorem latest_wins_iff_zoned :
    LatestWins plainPython "job" "s" [earlierRow, laterZonedRow] ↔
      TextuallyLatest plainPython [earlierRow, laterZonedRow] :=
  latest_wins_iff plainPython "job" "s" [earlierRow, laterZonedRow] zonedRows_dated

/-- The text of the earlier row is the greater one. -/
theorem earlierRow_leads :
    Leads (rowSortKey plainPython) earlierRow [earlierRow, laterZonedRow] := by
  have hearlier : Datetime.str ⟨1787389323000000, some 28800⟩ = "2026-08-22 09:02:03+08:00" := by
    decide +kernel
  have hlater : Datetime.str ⟨1787364000000000, some 0⟩ = "2026-08-22 02:00:00+00:00" := by
    decide +kernel
  refine ⟨toLex (0, toLex ("2026-08-22 09:02:03+08:00", "a")), [], [laterZonedRow], rfl, ?_,
    by simp, ?_⟩
  · rw [← hearlier]
    rfl
  · rw [List.forall_mem_singleton]
    refine ⟨toLex (0, toLex ("2026-08-22 02:00:00+00:00", "b")), by decide, ?_⟩
    rw [← hlater]
    rfl

/-- A Session is scored by the earlier of two rows when its time zone is ahead. -/
theorem time_zones_misorder : ¬ ∀ rows : List Row, Dated plainPython rows →
    LatestWins plainPython "job" "s" rows := by
  intro h
  have hrewarded : rewardedRows plainPython [earlierRow, laterZonedRow] =
    [earlierRow, laterZonedRow] := rfl
  have hnumber : ∀ row ∈ [earlierRow, laterZonedRow], stepNumber plainPython row = .ok 0 := by
    rw [List.forall_mem_cons, List.forall_mem_singleton]
    exact ⟨rfl, rfl⟩
  obtain ⟨final, ⟨hmem, hlatest⟩, hget⟩ := (h _ zonedRows_dated).result 0 (by
    rw [hrewarded]
    exact ⟨⟨earlierRow, by simp, rfl⟩, fun row hrow => ⟨0, le_rfl, hnumber row hrow⟩⟩)
  rw [SdkClient.getResult_serving, resultOf_leads (hrewarded ▸ earlierRow_leads)] at hget
  -- the latest row is the second one, and the result is that of the first
  have hle := hlatest laterZonedRow (mem_numberedRows.mpr ⟨by simp [hrewarded], rfl⟩)
  have hfinal := (mem_numberedRows.mp hmem).1
  simp only [hrewarded, List.mem_cons, List.not_mem_nil, or_false] at hfinal
  rcases hfinal with rfl | rfl
  · exact absurd hle (by decide)
  · cases hget

end SafactoryServer
