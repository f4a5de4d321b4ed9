import SafactoryServer.Steps
import Mathlib

/-! Polling a Job while rows of it are appended: what a client was shown stays as it was. -/

namespace SafactoryServer

open Ranking Landing

/-- What happens to the rows of one Job: a row is appended, or a poll of the session IDs or of the
steps of a Session returns. -/
inductive PollEvent
  | append (row : Row)
  | sessions (ids : List String)
  | steps (sessionId : String) (result : Option SessionSteps)

/-- The step IDs that polls of a Session have returned. -/
def Exposed (events : List PollEvent) (sessionId stepId : String) : Prop :=
  ∃ index, .steps sessionId (some index) ∈ events ∧ stepId ∈ index.steps.map (·.stepId)

/-- A row that may be appended: if it is a step, it has an integer `step_id` that is exposed in its
Session or greater than every exposed one. -/
def Appendable (py : Interpreter) (events : List PollEvent) (row : Row) : Prop :=
  isTrajectoryRow py row = .ok true → ∃ n, row.field "step_id" = .int n ∧
    ∀ sessionId, row.field "session_id" = .str sessionId →
      Exposed events sessionId (toString n) ∨
        ∀ m : Int, Exposed events sessionId (toString m) → m < n

/-- The histories of a Job and the rows they leave.  A query without an order returns the rows, with
the columns it asks for, as they were appended; a query for a Session, its rows in any order. -/
inductive History (py : Interpreter) (jobId : String) : List PollEvent → List Row → Prop
  | start : History py jobId [] []
  | append {events rows} (row : Row) : History py jobId events rows →
      Appendable py events row → History py jobId (events ++ [.append row]) (rows ++ [row])
  | sessions {events rows} (answer : List Row) (ids : List String) : History py jobId events rows →
      answer.map (·.field "session_id") = rows.map (·.field "session_id") →
      (SdkClient.serving answer).listSessionIds jobId = .ok ids →
      History py jobId (events ++ [.sessions ids]) rows
  | steps {events rows} (sessionId : String) (answer : List Row) (result : Option SessionSteps) :
      History py jobId events rows → answer.Perm (sessionRows sessionId rows) →
      (SdkClient.serving answer).getSteps py jobId sessionId = .ok result →
      History py jobId (events ++ [.steps sessionId result]) rows

/-! ### One poll -/

/-- A step of the trajectory with an integer `step_id`. -/
def IsStepNo (py : Interpreter) (row : Row) (n : Int) : Prop :=
  isTrajectoryRow py row = .ok true ∧ row.field "step_id" = .int n

def stepNo (e : Entry String SortKey Row) : Int := (ofLex e.key).1

/-- The index of steps with integer IDs. -/
def numbered (ns : List Int) : List StepIndex := (ns.zipIdx 1).map fun p => ⟨toString p.1, p.2⟩

variable {py : Interpreter} {rows answer : List Row} {sessionId jobId : String}

theorem toString_injective {m n : Int} (h : toString m = toString n) : m = n := by
  rw [Int.toString_eq_repr, Int.toString_eq_repr] at h
  exact Int.repr_injective h

theorem entry_stepNo {row : Row} {e : Entry String SortKey Row} {n : Int}
    (h : entryOf py row = some e) (hn : row.field "step_id" = .int n) :
    stepNo e = n ∧ e.id = toString n := by
  obtain ⟨⟨-, hid⟩, hkey, -⟩ := entryOf_some.mp h
  rw [hn] at hid
  obtain ⟨step, hstep, hkey⟩ := bind_ok hkey
  rw [hn] at hstep
  obtain ⟨createdAt, -, hkey⟩ := bind_ok hkey
  obtain ⟨id, -, hkey⟩ := bind_ok hkey
  have hid : strInt n = .ok e.id := hid
  unfold strInt at hid
  split at hid
  · cases hid
  · rw [stepNo, ← Except.ok.inj hkey]
    exact ⟨(Except.ok.inj hstep).symm, (Except.ok.inj hid).symm⟩

/-- Rows whose steps all have integer IDs. -/
def IntSteps (py : Interpreter) (rows : List Row) : Prop :=
  ∀ row ∈ rows, isTrajectoryRow py row = .ok true → ∃ n, row.field "step_id" = .int n

theorem IntSteps.entry (h : IntSteps py rows) {e : Entry String SortKey Row}
    (he : e ∈ entries py rows) :
    e.id = toString (stepNo e) ∧ ∃ row ∈ rows, IsStepNo py row (stepNo e) := by
  obtain ⟨row, hrow, hre⟩ := List.mem_filterMap.mp he
  have hstep := (entryOf_some.mp hre).1.1
  obtain ⟨n, hn⟩ := h row hrow hstep
  obtain ⟨hno, hid⟩ := entry_stepNo hre hn
  rw [hno]
  exact ⟨hid, row, hrow, hstep, hn⟩

/-- The step numbers of an index, in order. -/
def shownSteps (py : Interpreter) (rows : List Row) : List Int :=
  (ranking (entries py rows)).map stepNo

theorem IntSteps.indexesOf (h : IntSteps py rows) :
    indexesOf (ranking (entries py rows)) = numbered (shownSteps py rows) := by
  rw [Landing.indexesOf, numbered, shownSteps, List.zipIdx_map, List.map_map]
  refine List.map_congr_left fun p hp => ?_
  have hmem := (ranking_filed _).mem _ (List.fst_mem_of_mem_zipIdx hp)
  rw [(h.entry hmem).1]
  rfl

theorem IntSteps.sorted (h : IntSteps py rows) : (shownSteps py rows).Pairwise (· < ·) := by
  refine ranking_rank stepNo (fun e he f hf heq => ?_) fun e _ f _ hlt => ?_
  · rw [(h.entry he).1, (h.entry hf).1, heq]
  · exact Prod.Lex.lt_iff.mpr (.inl hlt)

theorem IntSteps.mem (h : IntSteps py rows) (hread : ∀ row ∈ rows, Readable py row) {row : Row}
    {n : Int} (hrow : row ∈ rows) (hn : IsStepNo py row n) : n ∈ shownSteps py rows := by
  rcases (hread row hrow).cases with ⟨hother, -⟩ | ⟨e, he⟩
  · rw [hn.1] at hother
    cases hother
  · have hmem : e ∈ entries py rows := List.mem_filterMap.mpr ⟨row, hrow, he⟩
    obtain ⟨f, hf, hid, -⟩ := (ranking_filed _).covers e hmem
    have hno : stepNo f = n := by
      apply toString_injective
      rw [← (h.entry ((ranking_filed _).mem f hf)).1, hid, (entry_stepNo he hn.2).2]
    exact List.mem_map.mpr ⟨f, hf, hno⟩

/-- What a client that was shown `ns` knows of the rows now: they have these steps, and others only
behind them. -/
structure Shown (py : Interpreter) (rows : List Row) (ns : List Int) (isSealed : Bool) : Prop where
  sorted : ns.Pairwise (· < ·)
  nonempty : rows ≠ []
  present : ∀ n ∈ ns, ∃ row ∈ rows, IsStepNo py row n
  greater : ∀ row ∈ rows, ∀ n, IsStepNo py row n → n ∈ ns ∨ ∀ m ∈ ns, m < n
  seals : isSealed = true → ∃ row ∈ rows, isSealingRow py row = .ok true

/-- A client that was shown every step. -/
structure ShownAll (py : Interpreter) (rows : List Row) (index : SessionSteps) (ns : List Int) :
    Prop extends Shown py rows ns index.isSealed where
  steps_eq : index.steps = numbered ns
  complete : ∀ row ∈ rows, ∀ n, IsStepNo py row n → n ∈ ns
  complete_seals : ∀ row ∈ rows, isSealingRow py row = .ok true → index.isSealed = true

theorem Shown.append {ns : List Int} {isSealed : Bool} (h : Shown py rows ns isSealed) {row : Row}
    (hrow : ∀ n, IsStepNo py row n → n ∈ ns ∨ ∀ m ∈ ns, m < n) :
    Shown py (rows ++ [row]) ns isSealed where
  sorted := h.sorted
  nonempty := by simp
  present n hn := by
    obtain ⟨row', hrow', hstep⟩ := h.present n hn
    exact ⟨row', List.mem_append_left _ hrow', hstep⟩
  greater row' hrow' n hn := by
    rcases List.mem_append.mp hrow' with hold | hnew
    · exact h.greater row' hold n hn
    · rw [List.mem_singleton.mp hnew] at hn
      exact hrow n hn
  seals hs := by
    obtain ⟨row', hrow', hseal⟩ := h.seals hs
    exact ⟨row', List.mem_append_left _ hrow', hseal⟩

theorem Shown.isPrefix {index : SessionSteps} {ns ms : List Int} {isSealed : Bool}
    (h : Shown py rows ns isSealed) (h' : ShownAll py rows index ms) :
    numbered ns <+: index.steps ∧ (isSealed = true → index.isSealed = true) := by
  have hsub : ∀ n ∈ ns, n ∈ ms := by
    intro n hn
    obtain ⟨row, hrow, hstep⟩ := h.present n hn
    exact h'.complete row hrow n hstep
  have hnew : ∀ n ∈ ms, n ∈ ns ∨ ∀ m ∈ ns, m < n := by
    intro n hn
    obtain ⟨row, hrow, hstep⟩ := h'.present n hn
    exact h.greater row hrow n hstep
  refine ⟨?_, fun hs => ?_⟩
  · obtain ⟨more, rfl⟩ := isPrefix_of_greater h.sorted h'.sorted hsub hnew
    rw [h'.steps_eq, numbered, numbered, List.zipIdx_append, List.map_append]
    exact List.prefix_append _ _
  · obtain ⟨row, hrow, hseal⟩ := h.seals hs
    exact h'.complete_seals row hrow hseal

/-- A poll that returns an index shows every step of the rows it was given. -/
theorem IntSteps.shownAll (hint : IntSteps py rows) (hp : answer.Perm rows) {index : SessionSteps}
    (h : (SdkClient.serving answer).getSteps py jobId sessionId = .ok (some index)) :
    ∃ ns, ShownAll py rows index ns := by
  rw [SdkClient.getSteps_serving, raiseFrom_ok, stepsOf_ok] at h
  obtain ⟨hread, h⟩ := h
  split at h
  · cases h
  · next hempty =>
    cases h
    have hint : IntSteps py answer := fun row hrow => hint row (hp.mem_iff.mp hrow)
    have hseal : (∃ row ∈ rows, isSealingRow py row = .ok true) ↔
        (indexOf py sessionId answer).isSealed = true := by
      rw [indexOf, List.any_eq_true]
      simp only [hp.mem_iff]
      refine exists_congr fun row => and_congr_right fun _ => ?_
      cases isSealingRow py row with
      | error x => simp [Except.toOption]
      | ok b => simp [Except.toOption]
    refine ⟨shownSteps py answer, ⟨hint.sorted, ?_, ?_, ?_, hseal.mpr⟩, hint.indexesOf, ?_, ?_⟩
    · rintro rfl
      rw [List.perm_nil.mp hp] at hempty
      exact hempty rfl
    · intro n hn
      obtain ⟨e, he, rfl⟩ := List.mem_map.mp hn
      obtain ⟨-, row, hrow, hstep⟩ := hint.entry ((ranking_filed _).mem e he)
      exact ⟨row, hp.mem_iff.mp hrow, hstep⟩
    · exact fun row hrow n hn => .inl (hint.mem hread (hp.mem_iff.mpr hrow) hn)
    · exact fun row hrow n hn => hint.mem hread (hp.mem_iff.mpr hrow) hn
    · exact fun row hrow hs => hseal.mp ⟨row, hrow, hs⟩

/-! ### Histories -/

theorem sessionRows_append (sessionId : String) (rows : List Row) (row : Row) :
    sessionRows sessionId (rows ++ [row]) =
      if (row.field "session_id").asStr? = some sessionId then sessionRows sessionId rows ++ [row]
      else sessionRows sessionId rows := by
  rw [sessionRows, List.filter_append, List.filter_cons]
  split <;> simp_all [sessionRows]

theorem isPrefix_addSessionId (values : List String) (value : Value) :
    values <+: addSessionId values value := by
  unfold addSessionId
  split
  · split
    · exact List.prefix_append _ _
    · exact List.prefix_refl _
  · exact List.prefix_refl _

theorem addSessionId_nodup {values : List String} (h : values.Nodup) (value : Value) :
    (addSessionId values value).Nodup := by
  unfold addSessionId
  split
  · next s _ =>
    split
    · next hs =>
      rw [List.nodup_append]
      exact ⟨h, by simp, fun a ha b hb => by rintro rfl; exact hs.2 (List.mem_singleton.mp hb ▸ ha)⟩
    · exact h
  · exact h

theorem sessionIdsOf_nodup (rows : List Row) : (sessionIdsOf rows).Nodup := by
  induction rows using List.reverseRec with
  | nil => exact List.nodup_nil
  | append_singleton rows row ih =>
    rw [sessionIdsOf_append]
    exact addSessionId_nodup ih _

theorem sessionIdsOf_congr {rows rows' : List Row}
    (h : rows.map (·.field "session_id") = rows'.map (·.field "session_id")) :
    sessionIdsOf rows = sessionIdsOf rows' := by
  have key : ∀ rows : List Row, sessionIdsOf rows =
      (rows.map (·.field "session_id")).foldl addSessionId [] := by
    intro rows
    rw [List.foldl_map]
    rfl
  rw [key, key, h]

/-- What holds of the rows because of what polls have returned. -/
structure Remembered (py : Interpreter) (events : List PollEvent) (rows : List Row) : Prop where
  ints : IntSteps py rows
  shown : ∀ sessionId index, .steps sessionId (some index) ∈ events → ∃ ns,
    index.steps = numbered ns ∧ Shown py (sessionRows sessionId rows) ns index.isSealed
  listed : ∀ ids, .sessions ids ∈ events → ids <+: sessionIdsOf rows ∧ ids.Nodup

theorem numbered_stepIds (ns : List Int) : (numbered ns).map (·.stepId) = ns.map toString := by
  rw [numbered, List.map_map]
  conv_rhs => rw [← List.zipIdx_map_fst 1 ns, List.map_map]
  rfl

theorem IntSteps.session (h : IntSteps py rows) (sessionId : String) :
    IntSteps py (sessionRows sessionId rows) :=
  fun row hrow => h row (List.mem_filter.mp hrow).1

namespace Remembered

variable {events : List PollEvent}

/-- An exposed step is a step of the rows. -/
theorem exposed (h : Remembered py events rows) {n : Int}
    (he : Exposed events sessionId (toString n)) :
    ∃ row ∈ sessionRows sessionId rows, IsStepNo py row n := by
  obtain ⟨index, hmem, hid⟩ := he
  obtain ⟨ns, hsteps, hshown⟩ := h.shown sessionId index hmem
  rw [hsteps, numbered_stepIds] at hid
  obtain ⟨m, hm, heq⟩ := List.mem_map.mp hid
  rw [← toString_injective heq]
  exact hshown.present m hm

theorem append (h : Remembered py events rows) {row : Row} (ha : Appendable py events row) :
    Remembered py (events ++ [.append row]) (rows ++ [row]) where
  ints row' hrow' hstep := by
    rcases List.mem_append.mp hrow' with hold | hnew
    · exact h.ints row' hold hstep
    · rw [List.mem_singleton.mp hnew] at hstep ⊢
      obtain ⟨n, hn, -⟩ := ha hstep
      exact ⟨n, hn⟩
  shown sessionId index hmem := by
    have hmem : .steps sessionId (some index) ∈ events := by simpa using hmem
    obtain ⟨ns, hsteps, hshown⟩ := h.shown sessionId index hmem
    refine ⟨ns, hsteps, ?_⟩
    rw [sessionRows_append]
    split
    · next hsession =>
      refine hshown.append fun n hn => ?_
      obtain ⟨n', hn', hexposed⟩ := ha hn.1
      rw [hn.2] at hn'
      cases hn'
      have hfield : row.field "session_id" = .str sessionId := by
        cases hf : row.field "session_id" <;> rw [hf] at hsession <;> cases hsession
        rfl
      rcases hexposed sessionId hfield with hold | hgreater
      · obtain ⟨row', hrow', hstep⟩ := h.exposed hold
        exact hshown.greater row' hrow' n hstep
      · refine .inr fun m hm => hgreater m ⟨index, hmem, ?_⟩
        rw [hsteps, numbered_stepIds]
        exact List.mem_map_of_mem hm
    · exact hshown
  listed ids hmem := by
    have hmem : .sessions ids ∈ events := by simpa using hmem
    obtain ⟨hpre, hnodup⟩ := h.listed ids hmem
    rw [sessionIdsOf_append]
    exact ⟨hpre.trans (isPrefix_addSessionId _ _), hnodup⟩

theorem sessions (h : Remembered py events rows) {ids : List String}
    (hids : ids = sessionIdsOf rows) : Remembered py (events ++ [.sessions ids]) rows where
  ints := h.ints
  shown sessionId index hmem := h.shown sessionId index (by simpa using hmem)
  listed ids' hmem := by
    rcases List.mem_append.mp hmem with hold | hnew
    · exact h.listed ids' hold
    · cases List.mem_singleton.mp hnew
      rw [hids]
      exact ⟨List.prefix_refl _, sessionIdsOf_nodup rows⟩

theorem steps (h : Remembered py events rows) {answer : List Row} {result : Option SessionSteps}
    (hp : answer.Perm (sessionRows sessionId rows))
    (hok : (SdkClient.serving answer).getSteps py jobId sessionId = .ok result) :
    Remembered py (events ++ [.steps sessionId result]) rows where
  ints := h.ints
  shown sessionId' index hmem := by
    rcases List.mem_append.mp hmem with hold | hnew
    · exact h.shown sessionId' index hold
    · cases List.mem_singleton.mp hnew
      obtain ⟨ns, hall⟩ := (h.ints.session sessionId).shownAll hp hok
      exact ⟨ns, hall.steps_eq, hall.toShown⟩
  listed ids hmem := h.listed ids (by simpa using hmem)

end Remembered

theorem History.remembered {events : List PollEvent} (h : History py jobId events rows) :
    Remembered py events rows := by
  induction h with
  | start => exact ⟨fun row hrow => absurd hrow (by simp), by simp, by simp⟩
  | append row _ ha ih => exact ih.append ha
  | sessions answer ids _ hanswer hids ih =>
    refine ih.sessions ?_
    rw [SdkClient.listSessionIds_serving, sessionIdsOf_congr hanswer] at hids
    exact (Except.ok.inj hids).symm
  | steps sessionId answer result _ hp hok ih => exact ih.steps hp hok

theorem pair_sublist_concat {α : Type} {a b c : α} {l : List α}
    (h : [a, b].Sublist (l ++ [c])) : [a, b].Sublist l ∨ a ∈ l ∧ b = c := by
  obtain ⟨l₁, l₂, heq, h₁, h₂⟩ := List.sublist_append_iff.mp h
  rcases List.sublist_singleton.mp h₂ with rfl | rfl
  · rw [List.append_nil] at heq
    exact .inl (heq ▸ h₁)
  · obtain ⟨rfl, hb⟩ := List.append_inj' (show [a] ++ [b] = _ ++ [c] from heq) rfl
    exact .inr ⟨h₁.subset List.mem_cons_self, List.singleton_inj.mp hb⟩

/-- Polling is stable: the index of a Session only grows at its end, and so does the list of the
session IDs, in which no ID stands twice; a sealed Session stays sealed. -/
theorem polling_stable (py : Interpreter) (jobId : String) (events : List PollEvent)
    (rows : List Row) (h : History py jobId events rows) :
    (∀ sessionId earlier later,
      [.steps sessionId (some earlier), .steps sessionId later].Sublist events →
      ∃ index, later = some index ∧ earlier.steps <+: index.steps ∧
        (earlier.isSealed = true → index.isSealed = true)) ∧
      (∀ ids ids', [.sessions ids, .sessions ids'].Sublist events → ids <+: ids') ∧
      ∀ ids, .sessions ids ∈ events → ids.Nodup := by
  refine ⟨?_, ?_, fun ids hmem => (h.remembered.listed ids hmem).2⟩
  · intro sessionId earlier later hsub
    induction h with
    | start => simp at hsub
    | append row _ _ ih => exact ih ((pair_sublist_concat hsub).resolve_right (by simp))
    | sessions answer ids _ _ _ ih => exact ih ((pair_sublist_concat hsub).resolve_right (by simp))
    | steps sessionId' answer result hprev hp hok ih =>
      rcases pair_sublist_concat hsub with hold | ⟨hmem, heq⟩
      · exact ih hold
      · cases heq
        obtain ⟨ns, hsteps, hshown⟩ := hprev.remembered.shown sessionId earlier hmem
        cases later with
        | none =>
          rw [SdkClient.getSteps_serving, raiseFrom_ok, stepsOf_ok] at hok
          obtain ⟨-, hnone⟩ := hok
          split at hnone
          · next hempty =>
            rw [List.isEmpty_iff.mp hempty] at hp
            exact absurd (List.nil_perm.mp hp) hshown.nonempty
          · cases hnone
        | some index =>
          obtain ⟨ms, hall⟩ := (hprev.remembered.ints.session sessionId).shownAll hp hok
          rw [hsteps]
          exact ⟨index, rfl, hshown.isPrefix hall⟩
  · intro ids ids' hsub
    induction h with
    | start => simp at hsub
    | append row _ _ ih => exact ih ((pair_sublist_concat hsub).resolve_right (by simp))
    | steps sessionId answer result _ _ _ ih =>
      exact ih ((pair_sublist_concat hsub).resolve_right (by simp))
    | sessions answer ids'' hprev hanswer hids ih =>
      rcases pair_sublist_concat hsub with hold | ⟨hmem, heq⟩
      · exact ih hold
      · cases heq
        rw [SdkClient.listSessionIds_serving, sessionIdsOf_congr hanswer] at hids
        rw [← Except.ok.inj hids]
        exact (hprev.remembered.listed ids hmem).1

/-- A row of the Session `s` that is a step. -/
def stepRow (id : String) (n : Int) : Row :=
  [("id", .str id), ("session_id", .str "s"), ("step_id", .int n), ("response", .str "text")]

/-- One step, a poll, a second step and the first one rewritten, and a poll. -/
theorem rewritten_history : ∃ rows, History plainPython "job"
    [.append (stepRow "a" 1), .steps "s" (some ⟨"s", 1, false, [⟨"1", 1⟩]⟩),
      .append (stepRow "b" 2), .append (stepRow "c" 1),
      .steps "s" (some ⟨"s", 2, false, [⟨"1", 1⟩, ⟨"2", 2⟩]⟩)] rows := by
  have h₁ : History plainPython "job" [.append (stepRow "a" 1)] [stepRow "a" 1] := by
    refine .append _ .start fun _ => ⟨1, rfl, fun sessionId _ => .inr ?_⟩
    rintro m ⟨index, hmem, -⟩
    cases hmem
  have h₂ := h₁.steps "s" [stepRow "a" 1] (some ⟨"s", 1, false, [⟨"1", 1⟩]⟩) (.refl _) rfl
  have h₃ := h₂.append (stepRow "b" 2) fun _ => ⟨2, rfl, fun sessionId _ => .inr ?_⟩
  · have h₄ := h₃.append (stepRow "c" 1) fun _ => ⟨1, rfl, fun sessionId hs => .inl ?_⟩
    · exact ⟨_, h₄.steps "s" [stepRow "a" 1, stepRow "b" 2, stepRow "c" 1] _ (.refl _) rfl⟩
    · cases hs
      exact ⟨⟨"s", 1, false, [⟨"1", 1⟩]⟩, by simp, by decide⟩
  · rintro m ⟨index, hmem, hid⟩
    simp only [List.mem_append, List.mem_singleton, PollEvent.steps.injEq, reduceCtorEq,
      Option.some.injEq, false_or] at hmem
    rw [hmem.2, List.map_singleton, List.mem_singleton] at hid
    rw [toString_injective (n := 1) hid]
    decide

theorem polling_stable_rewritten :
    [(⟨"1", 1⟩ : StepIndex)] <+: [⟨"1", 1⟩, ⟨"2", 2⟩] := by
  obtain ⟨rows, h⟩ := rewritten_history
  obtain ⟨index, heq, hpre, -⟩ := (polling_stable plainPython "job" _ rows h).1 "s"
    ⟨"s", 1, false, [⟨"1", 1⟩]⟩ (some ⟨"s", 2, false, [⟨"1", 1⟩, ⟨"2", 2⟩]⟩)
    (.cons _ (.cons_cons _ (.cons _ (.cons _ (.cons_cons _ .slnil)))))
  cases heq
  exact hpre

end SafactoryServer
