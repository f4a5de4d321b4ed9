import SafactoryServer.Pass
import SafactoryServer.Script

/-! The lifecycle of a Job: what every row satisfies in every run, and where every change of a row
comes from. -/

namespace SafactoryServer

open Effect
open Relation (ReflTransGen)

variable {P : Type} {o : RealJobOrchestrator} {sv : Services P} {w₀ : World P}
  {c c' : Config Op Ans (World P) (Except PyExc Unit)}

/-- Every row that the server ever persists is consistent, wherever the close requests, the
restarts and the answers of the services fall. -/
theorem rows_consistent (h₀ : sv.Initial w₀)
    (h : sv.Reaches o (fun _ _ _ => True) ⟨w₀, none⟩ c) :
    ∀ row ∈ c.state.jobs.rows, row.Consistent := by
  intro row hRow
  obtain ⟨⟨hInv, -⟩, -⟩ := h.holds h₀ (J := fun _ => True) trivial (preserves_true _ _)
  exact hInv.consistent (JobTable.find_of_mem hRow)

/-- The row of a Job with a running controller. -/
theorem rows_consistent_running :
    ∃ c, sampleScript.services.Reaches sampleOrchestrator (fun _ _ _ => True)
        ⟨sampleWorld (), none⟩ c ∧ c.state.jobs.rows.map (·.status) = [.running] ∧
      ∀ row ∈ c.state.jobs.rows, row.Consistent :=
  have h := (sampleScript.reaches_pass sampleOrchestrator (sampleWorld ())).always
  ⟨_, h, by decide +kernel, rows_consistent (sampleWorld_initial sampleScript ()) h⟩

/-- The write of a pass, issued after the calls of `trace` at the row `source`, that made `row'` of
`row`. -/
structure Written (o : RealJobOrchestrator) (trace : List TraceEvent) (source row row' : ControlJob)
    (changes : Changes) : Prop where
  write : Write o trace source changes
  closeOnly : source.CloseOnly row
  result : ∃ allowed now, row.guard changes = .ok allowed ∧ row' = allowed.write row now

/-- The row that a write leaves, up to the phase. -/
theorem Written.eq {trace : List TraceEvent} {source row row' : ControlJob} {changes : Changes}
    (h : Written o trace source row row' changes) :
    ∃ phase now, row' = { changes with phase := phase }.write row now := by
  obtain ⟨allowed, now, hg, rfl⟩ := h.result
  rcases (ControlJob.guard_ok hg).1 with rfl | ⟨rfl, -⟩
  · exact ⟨allowed.phase, now, rfl⟩
  · exact ⟨none, now, rfl⟩

theorem Written.grows {trace : List TraceEvent} {source row row' : ControlJob} {changes : Changes}
    (h : Written o trace source row row' changes) : source.Grows row' := by
  obtain ⟨allowed, now, hg, rfl⟩ := h.result
  exact h.closeOnly.grows.trans (h.write.grows h.closeOnly hg)

/-- What an answered call does to a row. -/
theorem Services.Performs.row_cases {w₁ w w' : World P} {e : Op} {answer : Ans e}
    (ha : Allowed o sv w₁ e) (hw : Later sv w₁ w) (hp : sv.Performs e w answer w') {j : String}
    {row' : ControlJob} (hf' : w'.jobs.find j = some row') :
    ∃ row, w.jobs.find j = some row ∧ (row' = row ∨ ∃ source changes,
      w₁.jobs.find j = some source ∧ Written o w.trace source row row' changes) := by
  by_cases he : ∀ j now changes, e ≠ .update j now changes
  · rw [hp.jobs he] at hf'
    exact ⟨row', hf', .inl rfl⟩
  simp only [not_forall, not_not] at he
  obtain ⟨j', now, changes, rfl⟩ := he
  cases answer with
  | error x =>
    rw [hp.update_error.2] at hf'
    exact ⟨row', hf', .inl rfl⟩
  | ok last =>
    obtain ⟨source, current, allowed, hSource, hWrite, hc, hCurrent, hg, rfl, hfind⟩ :=
      ha.update_ok hw hp
    rw [hfind] at hf'
    split at hf'
    · next hj =>
      subst hj
      obtain rfl : allowed.write current now = row' := Option.some.inj hf'
      exact ⟨current, hCurrent,
        .inr ⟨source, changes, hSource, hw.trace ▸ hWrite, hc, allowed, now, hg, rfl⟩⟩
    · exact ⟨row', hf', .inl rfl⟩

/-- Where every change of a row comes from: a close request, or a write of the protocol. -/
theorem Services.Reaches.row_step {permitted : World P → Label Op Ans → World P → Prop}
    {l : Label Op Ans} (h : sv.Reaches o permitted ⟨w₀, none⟩ c) (h₀ : sv.Initial w₀)
    (hStep : sv.Steps o c l c')
    {j : String} {row row' : ControlJob} (hf : c.state.jobs.find j = some row)
    (hf' : c'.state.jobs.find j = some row') :
    row.CloseOnly row' ∨
      ∃ source changes, Written o c.state.trace source row row' changes := by
  obtain ⟨-, hAttends⟩ := h.holds h₀ (J := fun _ => True) trivial (preserves_true _ _)
  have hSame : ∀ {last}, c.state.jobs.find j = some last → last = row := fun hl =>
    Option.some.inj (hl.symm.trans hf)
  cases hStep with
  | interference hInterferes =>
    obtain ⟨last, hLast, hc⟩ := (Later.of_interferes hInterferes).rows hf
    exact .inl (Option.some.inj (hLast.symm.trans hf') ▸ hc)
  | start | finish => exact .inl (.inl (hSame hf'))
  | crash p hCrash =>
    cases hCrash
    exact .inl (.inl (hSame hf'))
  | answer hPerforms =>
    obtain ⟨s₀, -, ha, hw, -⟩ := hAttends
    obtain ⟨last, hLast, heq | ⟨source, changes, -, hWritten⟩⟩ :=
      hPerforms.row_cases ha (.of_waits hw) hf'
    · exact .inl (.inl (heq.trans (hSame hLast)))
    · exact .inr ⟨source, changes, hSame hLast ▸ hWritten⟩
  | lost hPerforms hCrash =>
    cases hCrash
    obtain ⟨s₀, -, ha, hw, -⟩ := hAttends
    obtain ⟨last, hLast, heq | ⟨source, changes, -, hWritten⟩⟩ :=
      hPerforms.row_cases ha (.of_waits hw) hf'
    · exact .inl (.inl (heq.trans (hSame hLast)))
    · exact .inr ⟨source, changes, hSame hLast ▸ hWritten⟩

/-- A call of a pass loses no row. -/
theorem Services.Performs.row_kept {w w' : World P} {e : Op} {answer : Ans e}
    (hp : sv.Performs e w answer w') {j : String} {row : ControlJob}
    (hf : w.jobs.find j = some row) : ∃ row', w'.jobs.find j = some row' := by
  by_cases he : ∀ j now changes, e ≠ .update j now changes
  · exact ⟨row, by rw [hp.jobs he, hf]⟩
  simp only [not_forall, not_not] at he
  obtain ⟨j', now, changes, rfl⟩ := he
  cases answer with
  | error x => exact ⟨row, by rw [hp.update_error.2, hf]⟩
  | ok last =>
    obtain ⟨current, allowed, -, -, -, hfind⟩ := hp.update_ok
    by_cases hj : j = j'
    · exact ⟨last, by rw [hfind, if_pos hj]⟩
    · exact ⟨row, by rw [hfind, if_neg hj, hf]⟩

/-- A run loses no row. -/
theorem Services.Reaches.row_kept {permitted : World P → Label Op Ans → World P → Prop}
    {c₀ : Config Op Ans (World P) (Except PyExc Unit)} (h : sv.Reaches o permitted c₀ c)
    {j : String} {row : ControlJob} (hf : c₀.state.jobs.find j = some row) :
    ∃ row', c.state.jobs.find j = some row' := by
  induction h with
  | refl => exact ⟨row, hf⟩
  | tail _ hStep _ ih =>
    obtain ⟨row', hf'⟩ := ih
    cases hStep with
    | interference hInterferes =>
      obtain ⟨last, hLast, -⟩ := (Later.of_interferes hInterferes).rows hf'
      exact ⟨last, hLast⟩
    | start | finish => exact ⟨row', hf'⟩
    | crash p hCrash =>
      cases hCrash
      exact ⟨row', hf'⟩
    | answer hPerforms => exact hPerforms.row_kept hf'
    | lost hPerforms hCrash =>
      cases hCrash
      exact hPerforms.row_kept hf'

end SafactoryServer
