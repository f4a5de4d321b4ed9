import SafactoryServer.Redaction
import SafactoryServer.Steps

/-! What stands beneath a sensitive key does not show: rows and snapshot files that differ only
there give the same trajectories and milestones. -/

namespace SafactoryServer

open Effect Ranking Landing Value

/-- Decoded metadata that differ beneath hidden keys only, in a request, an action or an
observation; the requests are both decoded, or raise alike. -/
structure SimilarMetadata (py : Interpreter) (hidden : String → Bool) (metadata metadata' : Row) :
    Prop where
  others : ∀ name, name ∉ ["request", "action", "observation"] →
    metadata.field name = metadata'.field name
  -- a request that is `None` is left out, and is not decoded
  requested : (metadata.field "request").isNone = (metadata'.field "request").isNone
  request : Task.Both (Similar hidden)
    (jsonValue py (metadata.field "request") (metadata.field "request"))
    (jsonValue py (metadata'.field "request") (metadata'.field "request"))
  reported : ∀ name ∈ ["action", "observation"],
    Similar hidden (metadata.field name) (metadata'.field name)

/-- Rows that differ beneath hidden keys only, once their texts are decoded as `_trajectory_payload`
decodes them; a text is decoded in both, or raises alike in both. -/
structure SimilarRow (py : Interpreter) (hidden : String → Bool) (row row' : Row) : Prop where
  others : ∀ name, name ∉ ["messages", "response", "meta_json"] → row.field name = row'.field name
  messages : Task.Both (Similar hidden) (jsonValue py (row.field "messages") (.list []))
    (jsonValue py (row'.field "messages") (.list []))
  response : Task.Both (Similar hidden) (jsonValue py (row.field "response") .null)
    (jsonValue py (row'.field "response") .null)
  -- `_is_trajectory_row` tests the response as it is stored
  responded : (row.field "response").truthy = (row'.field "response").truthy
  metadata : Task.Both (SimilarMetadata py hidden) (metaJson py (row.field "meta_json"))
    (metaJson py (row'.field "meta_json"))

/-- Trajectories that differ beneath hidden keys only. -/
structure SimilarTrajectory (hidden : String → Bool) (t t' : StepTrajectory) : Prop where
  rest : t' = { t with trajectory := t'.trajectory }
  trajectory : SimilarEntries hidden t.trajectory t'.trajectory

/-- Milestones that differ beneath hidden keys only. -/
structure SimilarMilestones (hidden : String → Bool) (m m' : SessionMilestones) : Prop where
  rest : m' = { m with snapshot := m'.snapshot }
  snapshot : Option.Rel (SimilarEntries hidden) m.snapshot m'.snapshot

/-! ### Rows -/

section

variable {py : Interpreter} {hidden : String → Bool} {row row' : Row} {rows rows' : List Row}
  {sessionId stepId : String}

/-- An object that is left out when it is empty. -/
theorem Value.SimilarEntries.unlessEmpty {entries entries' : Row}
    (h : SimilarEntries hidden entries entries') (name : String) :
    SimilarEntries hidden (if entries.isEmpty then [] else [(name, .dict entries)])
      (if entries'.isEmpty then [] else [(name, .dict entries')]) := by
  cases h with
  | nil => exact .nil
  | beneath hkey hrest => exact .cons (.dict (.beneath hkey hrest)) .nil
  | cons hv hrest => exact .cons (.dict (.cons hv hrest)) .nil

theorem SimilarMetadata.requestInput {metadata metadata' : Row}
    (h : SimilarMetadata py hidden metadata metadata') :
    Task.Both (SimilarEntries hidden) (requestInput py (metadata.field "request"))
      (requestInput py (metadata'.field "request")) := by
  unfold Landing.requestInput
  rw [h.requested]
  split
  · exact .nil
  · exact h.request.map fun request request' hRequest => .cons hRequest .nil

namespace SimilarRow

theorem isTrajectoryRow_eq (h : SimilarRow py hidden row row') :
    isTrajectoryRow py row = isTrajectoryRow py row' := by
  refine Task.Both.eq (h.metadata.bind fun metadata metadata' hMetadata => ?_)
  simp only [hMetadata.others "event_type" (by decide), hMetadata.others "status_code" (by decide),
    hMetadata.others "synthetic_stop" (by decide)]
  refine (Task.Both.refl (fun _ => rfl) _).bind ?_
  rintro closing _ rfl
  split
  · exact rfl
  · split
    · exact Task.Both.refl (fun _ => rfl) _
    · refine h.messages.bind fun messages messages' hMessages => ?_
      rw [hMessages.truthy_eq, h.responded]
      exact rfl

theorem rowSortKey_eq (h : SimilarRow py hidden row row') :
    rowSortKey py row = rowSortKey py row' := by
  unfold rowSortKey
  rw [h.others "step_id" (by decide), h.others "created_at" (by decide),
    h.others "id" (by decide)]

theorem rowDatetime_eq (h : SimilarRow py hidden row row') :
    rowDatetime py row = rowDatetime py row' := by
  rw [rowDatetime, rowDatetime, h.others "created_at" (by decide)]

theorem isSealingRow_eq (h : SimilarRow py hidden row row') :
    isSealingRow py row = isSealingRow py row' := by
  refine Task.Both.eq (h.metadata.bind fun metadata metadata' hMetadata => ?_)
  simp only [hMetadata.others "event_type" (by decide),
    hMetadata.others "is_session_completed" (by decide),
    h.others "is_session_completed" (by decide), h.others "is_terminal" (by decide)]
  exact Task.Both.refl (fun _ => rfl) _

/-- Similar rows are steps with the same identifier and key, or neither is one. -/
theorem observe_alike (h : SimilarRow py hidden row row') :
    Task.Both (Option.Rel (Entry.Alike (SimilarRow py hidden))) (observe py row)
      (observe py row') := by
  unfold observe
  rw [← h.isTrajectoryRow_eq, ← h.others "step_id" (by decide), ← h.rowSortKey_eq]
  cases isTrajectoryRow py row with
  | error x => exact rfl
  | ok isStep =>
    cases isStep with
    | false => exact .none
    | true =>
      cases (row.field "step_id").toStr py with
      | error x => exact rfl
      | ok stepId =>
        cases rowSortKey py row with
        | error x => exact rfl
        | ok key => exact .some ⟨rfl, rfl, h⟩

theorem readable_iff (h : SimilarRow py hidden row row') :
    Readable py row ↔ Readable py row' := by
  have hboth := h.observe_alike
  unfold Readable
  cases hobs : observe py row with
  | error x =>
    cases hobs' : observe py row' with
    | error y => simp
    | ok observed' => rw [hobs, hobs'] at hboth; cases hboth
  | ok observed =>
    cases hobs' : observe py row' with
    | error y => rw [hobs, hobs'] at hboth; cases hboth
    | ok observed' => simp

theorem entryOf_alike (h : SimilarRow py hidden row row') :
    Option.Rel (Entry.Alike (SimilarRow py hidden)) (entryOf py row) (entryOf py row') := by
  have hboth := h.observe_alike
  unfold entryOf
  cases hobs : observe py row with
  | error x =>
    cases hobs' : observe py row' with
    | error y => exact .none
    | ok observed' => rw [hobs, hobs'] at hboth; cases hboth
  | ok observed =>
    cases hobs' : observe py row' with
    | error y => rw [hobs, hobs'] at hboth; cases hboth
    | ok observed' =>
      rw [hobs, hobs'] at hboth
      exact hboth

/-- The payloads of similar rows have the same keys, and differ beneath hidden keys only. -/
theorem payload (h : SimilarRow py hidden row row') :
    Task.Both (SimilarEntries hidden) (trajectoryPayload py row) (trajectoryPayload py row') := by
  refine h.metadata.bind fun metadata metadata' hMetadata => ?_
  refine h.messages.bind fun messages messages' hMessages => ?_
  refine hMetadata.requestInput.bind fun requested requested' hRequested => ?_
  refine h.response.bind fun response response' hResponse => ?_
  have hInput : SimilarEntries hidden
      ((if messages.truthy then [("messages", messages)] else []) ++ requested)
      ((if messages'.truthy then [("messages", messages')] else []) ++ requested') := by
    refine SimilarEntries.append ?_ hRequested
    rw [hMessages.truthy_eq]
    split
    · exact .cons hMessages .nil
    · exact .nil
  refine SimilarEntries.append (SimilarEntries.append (hInput.unlessEmpty "model_input") ?_) ?_
  · cases hResponse with
    | same => exact .refl _
    | list hItems => exact .cons (.dict (.cons (.list hItems) .nil)) .nil
    | dict hEntries => exact .cons (.dict hEntries) .nil
  · have hPart : ∀ name ∈ ["action", "observation"], SimilarEntries hidden
        (((metadata.field name).asDict?).elim [] fun entries => [(name, .dict entries)])
        (((metadata'.field name).asDict?).elim [] fun entries => [(name, .dict entries)]) := by
      intro name hName
      rcases (hMetadata.reported name hName).asDict? with
        ⟨hd, hd'⟩ | ⟨entries, entries', hd, hd', hSimilar⟩
      · rw [hd, hd']
        exact .nil
      · rw [hd, hd']
        exact .cons (.dict hSimilar) .nil
    simp only [List.flatMap_cons, List.flatMap_nil]
    exact (hPart "action" (by simp)).append ((hPart "observation" (by simp)).append .nil)

theorem stepTrajectory_both (h : SimilarRow py hidden row row') (n : Nat) :
    Task.Both (SimilarTrajectory hidden) (stepTrajectory py sessionId stepId row n)
      (stepTrajectory py sessionId stepId row' n) := by
  unfold stepTrajectory
  rw [h.rowDatetime_eq]
  refine (Task.Both.refl (V := (· = ·)) (fun _ => rfl) _).bind ?_
  rintro timestamp _ rfl
  exact h.payload.bind fun payload payload' hPayload => ⟨rfl, hPayload⟩

end SimilarRow

/-! ### Lists of rows -/

theorem readable_similar (h : List.Forall₂ (SimilarRow py hidden) rows rows') :
    (∀ row ∈ rows, Readable py row) ↔ ∀ row ∈ rows', Readable py row := by
  induction h with
  | nil => simp
  | cons hrow _ ih => rw [List.forall_mem_cons, List.forall_mem_cons, ih, hrow.readable_iff]

theorem entries_alike (h : List.Forall₂ (SimilarRow py hidden) rows rows') :
    List.Forall₂ (Entry.Alike (SimilarRow py hidden)) (entries py rows) (entries py rows') := by
  induction h with
  | nil => exact .nil
  | @cons row row' rest rest' hrow _ ih =>
    have hentry := hrow.entryOf_alike
    unfold entries at ih ⊢
    rw [List.filterMap_cons, List.filterMap_cons]
    generalize entryOf py row = e, entryOf py row' = e' at hentry ⊢
    cases hentry with
    | none => exact ih
    | some he => exact .cons he ih

theorem ranking_similar (h : List.Forall₂ (SimilarRow py hidden) rows rows') :
    List.Forall₂ (Entry.Alike (SimilarRow py hidden)) (ranking (entries py rows))
      (ranking (entries py rows')) := ranking_alike (entries_alike h)

/-- Similar rows have the same step index. -/
theorem stepsOf_similar (h : List.Forall₂ (SimilarRow py hidden) rows rows')
    (result : Option SessionSteps) :
    stepsOf py sessionId rows = .ok result ↔ stepsOf py sessionId rows' = .ok result := by
  have hsealed : (rows.any fun row => (isSealingRow py row).toOption.getD false) =
      rows'.any fun row => (isSealingRow py row).toOption.getD false := by
    induction h with
    | nil => rfl
    | cons hrow _ ih => rw [List.any_cons, List.any_cons, hrow.isSealingRow_eq, ih]
  have hempty : rows.isEmpty = rows'.isEmpty := by cases h <;> rfl
  have hindexes : indexesOf (ranking (entries py rows)) =
      indexesOf (ranking (entries py rows')) := by
    have hranked := ranking_similar h
    unfold indexesOf
    generalize ranking (entries py rows) = ranked, ranking (entries py rows') = ranked',
      (1 : Nat) = n at hranked ⊢
    induction hranked generalizing n with
    | nil => rfl
    | cons he _ ih =>
      rw [List.zipIdx_cons, List.zipIdx_cons, List.map_cons, List.map_cons, ih, he.id]
  rw [stepsOf_ok, stepsOf_ok, readable_similar h, hempty, indexOf, indexOf, hindexes, hsealed]

theorem find?_similar (stepId : String) {ranked ranked' : List (Entry String SortKey Row)}
    (h : List.Forall₂ (Entry.Alike (SimilarRow py hidden)) ranked ranked') (n : Nat) :
    Option.Rel (fun p p' => p.1.Alike (SimilarRow py hidden) p'.1 ∧ p.2 = p'.2)
      ((ranked.zipIdx n).find? (·.1.id = stepId)) ((ranked'.zipIdx n).find? (·.1.id = stepId)) := by
  induction h generalizing n with
  | nil => exact .none
  | @cons e e' rest rest' he _ ih =>
    rw [List.zipIdx_cons, List.zipIdx_cons]
    by_cases hid : e.id = stepId
    · rw [List.find?_cons_of_pos (by simpa using hid),
        List.find?_cons_of_pos (by simpa using he.id.symm.trans hid)]
      exact .some ⟨he, rfl⟩
    · rw [List.find?_cons_of_neg (by simpa using hid),
        List.find?_cons_of_neg (by simpa using he.id ▸ hid)]
      exact ih (n + 1)

theorem raiseFrom_both {α β : Type} {V : α → β → Prop} {message : String} {r : Except PyExc α}
    {r' : Except PyExc β} (h : Task.Both V r r') :
    Task.Both V (raiseFrom message r) (raiseFrom message r') := by
  match r, r', h with
  | .ok _, .ok _, hv => exact hv
  | .error _, .error _, rfl => exact rfl

/-- Similar rows have similar trajectories, or raise alike. -/
theorem trajectoryOf_similar (h : List.Forall₂ (SimilarRow py hidden) rows rows')
    (message : String) :
    Task.Both (Option.Rel (SimilarTrajectory hidden))
      (raiseFrom message (trajectoryOf py sessionId stepId rows))
      (raiseFrom message (trajectoryOf py sessionId stepId rows')) := by
  by_cases hread : ∀ row ∈ rows, Readable py row
  · rw [trajectoryOf_eq hread, trajectoryOf_eq ((readable_similar h).mp hread)]
    have hfound := find?_similar stepId (ranking_similar h) 1
    generalize ((ranking (entries py rows)).zipIdx 1).find? (·.1.id = stepId) = found,
      ((ranking (entries py rows')).zipIdx 1).find? (·.1.id = stepId) = found' at hfound ⊢
    cases hfound with
    | none => exact .none
    | @some p p' hp =>
      obtain ⟨he, hn⟩ := hp
      refine raiseFrom_both ?_
      show Task.Both _ (some <$> stepTrajectory py sessionId stepId p.1.item p.2)
        (some <$> stepTrajectory py sessionId stepId p'.1.item p'.2)
      rw [← hn]
      exact (he.item.stepTrajectory_both p.2).map fun _ _ ht => .some ht
  · have hraises : ∀ rows : List Row, (¬ ∀ row ∈ rows, Readable py row) →
        raiseFrom message (trajectoryOf py sessionId stepId rows) = .error ⟨message⟩ := by
      intro rows hread
      cases ht : trajectoryOf py sessionId stepId rows with
      | error x => rfl
      | ok t =>
        obtain ⟨steps, hsteps, -⟩ := bind_ok ht
        exact absurd (trajectoryRows_ok.mp hsteps).1 hread
    rw [hraises rows hread, hraises rows' ((readable_similar h).not.mp hread)]
    exact rfl

end

/-! ### Snapshot files -/

/-- Snapshot files whose documents differ beneath hidden keys only, both within or both over the
bound on the size. -/
structure SimilarFile (hidden : String → Bool) (file file' : SessionFile) : Prop where
  present : file.present = file'.present
  symlink : file.symlink = file'.symlink
  isFile : file.isFile = file'.isFile
  size : Task.Both (fun size size' => maxMilestonesBytes < size ↔ maxMilestonesBytes < size')
    file.size file'.size
  document : Task.Both (Similar hidden) file.document file'.document

section

variable {hidden : String → Bool} {file file' : SessionFile}

theorem SimilarFile.bounded (h : SimilarFile hidden file file') (error : String) :
    Task.Both (Similar hidden) (file.bounded error maxMilestonesBytes)
      (file'.bounded error maxMilestonesBytes) := by
  have hsize := h.size
  unfold SessionFile.bounded
  rw [← h.isFile]
  cases file.isFile with
  | error x => exact rfl
  | ok isFile =>
    cases isFile with
    | false => exact rfl
    | true =>
      generalize file.size = size, file'.size = size' at hsize ⊢
      match size, size', hsize with
      | .error x, .error _, rfl => exact rfl
      | .ok size, .ok size', hsize =>
        show Task.Both _ (if maxMilestonesBytes < size then _ else _)
          (if maxMilestonesBytes < size' then _ else _)
        by_cases hover : maxMilestonesBytes < size
        · rw [if_pos hover, if_pos (hsize.mp hover)]
          exact rfl
        · rw [if_neg hover, if_neg (hsize.not.mp hover)]
          exact h.document

theorem SimilarFile.read (h : SimilarFile hidden file file') (error : String) :
    Task.Both (Option.Rel (Similar hidden)) (readSessionFile error maxMilestonesBytes file)
      (readSessionFile error maxMilestonesBytes file') := by
  have hbounded := h.bounded error
  unfold readSessionFile
  rw [← h.present, ← h.symlink]
  cases file.present with
  | error x => exact rfl
  | ok present =>
    cases present with
    | false => exact .none
    | true =>
      cases file.symlink with
      | error x => exact rfl
      | ok symlink =>
        cases symlink with
        | true => exact rfl
        | false =>
          generalize file.bounded error maxMilestonesBytes = document,
            file'.bounded error maxMilestonesBytes = document' at hbounded ⊢
          match document, document', hbounded with
          | .ok _, .ok _, hsimilar => exact .some hsimilar
          | .error .fileNotFound, .error _, rfl => exact .none
          | .error .unreadable, .error _, rfl => exact rfl
          | .error (.other x), .error _, rfl => exact rfl

theorem SimilarFile.snapshot (h : SimilarFile hidden file file')
    (hversion : hidden "schema_version" = false) :
    Task.Both (Option.Rel (SimilarEntries hidden)) (readMilestoneSnapshot file)
      (readMilestoneSnapshot file') := by
  have hread := h.read "MilestoneSnapshotError"
  unfold readMilestoneSnapshot
  generalize readSessionFile "MilestoneSnapshotError" maxMilestonesBytes file = raw,
    readSessionFile "MilestoneSnapshotError" maxMilestonesBytes file' = raw' at hread ⊢
  match raw, raw', hread with
  | .error x, .error _, rfl => exact rfl
  | .ok _, .ok _, .none => exact .none
  | .ok _, .ok _, .some (a := document) (b := document') hsimilar =>
    simp only [bind, Except.bind]
    rcases hsimilar.asDict? with ⟨hd, hd'⟩ | ⟨entries, entries', hd, hd', hentries⟩
    · rw [hd, hd']
      exact rfl
    · rw [hd, hd']
      dsimp only
      rw [← (hentries.field hversion).asStr?_eq]
      split
      · exact rfl
      · exact .some hentries

end

/-! ### Requests -/

/-- Two backends answer a call alike, in every control database. -/
def AnsweredAlike (b b' : Backend) (e : ApiOp) : Prop := ∀ s, b.answer e s = b'.answer e s

/-- Backends that differ in the data platform and in the files only. -/
structure SameStore (b b' : Backend) : Prop where
  clock : b.clock = b'.clock
  failing : b.failing = b'.failing

/-- Two tasks on two backends, from one control database: they return related values or raise the
same exception, and leave the same control database. -/
def InStep {α β : Type} (b b' : Backend) (p : ApiTask α) (p' : ApiTask β) (V : α → β → Prop)
    (s : ControlState) : Prop :=
  Task.Coupled b.answer b'.answer (fun _ => True) (· = ·) p p' V s s

section

variable {b b' : Backend} {s : ControlState} {α β γ δ : Type}

theorem SameStore.transact_eq (h : SameStore b b') (t : Transaction)
    (result : Except PyExc (α × ControlState)) :
    b.transact t s result = b'.transact t s result := by
  unfold Backend.transact
  rw [h.failing]

theorem SameStore.getJob (h : SameStore b b') (jobId : String) :
    Task.Asks (AnsweredAlike b b') (ApiTask.getJob jobId) := by
  refine Task.Asks.bind (Task.Asks.ask fun t => h.transact_eq .read _) fun found => ?_
  cases found with
  | ok job => exact Task.Asks.pure job
  | error x => exact Task.Asks.throw (ApiExc.python x)

theorem SameStore.addEvent (h : SameStore b b') (event : JobEvent) :
    Task.Asks (AnsweredAlike b b') (ApiTask.addEvent event) := by
  refine Task.Asks.bind (Task.Asks.ask fun t => h.transact_eq .insertEvent _) fun added => ?_
  cases added with
  | ok added => exact Task.Asks.pure added
  | error x => exact Task.Asks.throw (ApiExc.python x)

theorem SameStore.now (h : SameStore b b') : Task.Asks (AnsweredAlike b b') ApiTask.now :=
  Task.Asks.ask fun t => congrArg (·, t) h.clock

namespace InStep

theorem self {p : ApiTask α} (h : p.Asks (AnsweredAlike b b')) (s : ControlState) :
    InStep b b' p p (· = ·) s := Task.Coupled.self h (fun _ he => ⟨trivial, he⟩) s

theorem pure {a : α} {a' : β} {V : α → β → Prop} (h : V a a') :
    InStep b b' (pure a) (pure a') V s := Task.Coupled.pure h rfl

theorem throw {V : α → β → Prop} (x : ApiExc) : InStep b b' (throw x) (throw x) V s :=
  Task.Coupled.throw x rfl

theorem bind {p : ApiTask α} {p' : ApiTask β} {f : α → ApiTask γ} {f' : β → ApiTask δ}
    {V : α → β → Prop} {W : γ → δ → Prop} (h : InStep b b' p p' V s)
    (hf : ∀ a a' t, V a a' → InStep b b' (f a) (f' a') W t) :
    InStep b b' (p >>= f) (p' >>= f') W s := by
  refine Task.Coupled.bind h ?_
  rintro a a' t _ hv rfl
  exact hf a a' t hv

/-- A query, which leaves the control database as it is. -/
theorem ask {e : ApiOp} {V : ApiAns e → ApiAns e → Prop} (hs : (b.answer e s).2 = s)
    (hs' : (b'.answer e s).2 = s) (hv : V (b.answer e s).1 (b'.answer e s).1) :
    InStep b b' (Task.ask e) (Task.ask e) V s := Task.Coupled.ask trivial hv (hs.trans hs'.symm)

theorem lift {V : α → β → Prop} {r : Except PyExc α} {r' : Except PyExc β} (h : Task.Both V r r') :
    InStep b b' (ApiTask.lift r) (ApiTask.lift r') V s := by
  match r, r', h with
  | .ok a, .ok a', hv => exact pure hv
  | .error x, .error _, rfl => exact throw (.python x)

end InStep

namespace RealRuntimeRepository

variable {repo : RealRuntimeRepository} {ctx : RequestContext} {jobId sessionId stepId : String}

theorem requireJob_asks (h : SameStore b b') :
    Task.Asks (AnsweredAlike b b') (requireJob ctx jobId) := by
  refine Task.Asks.bind (h.getJob jobId) fun found => ?_
  cases found with
  | none => exact Task.Asks.throw _
  | some job =>
    dsimp only
    split
    · exact Task.Asks.throw _
    · exact Task.Asks.pure job

theorem trusted_asks (result : Except PyExc α) :
    Task.Asks (AnsweredAlike b b') (trusted result) := by
  unfold trusted
  split
  · exact Task.Asks.throw _
  · cases result with
    | ok a => exact Task.Asks.pure a
    | error x => exact Task.Asks.throw (ApiExc.python x)

theorem queryFailed_asks (h : SameStore b b') (operation : String) :
    Task.Asks (AnsweredAlike b b') (repo.queryFailed jobId operation) :=
  Task.Asks.bind (h.getJob jobId) fun _ => Task.Asks.bind h.now fun _ => h.addEvent _

/-- A query whose answers are related. -/
theorem queried_inStep (h : SameStore b b') {operation : String} {V : α → β → Prop}
    {r : Except DataPlatformError α} {r' : Except DataPlatformError β} (hr : Task.Both V r r') :
    InStep b b' (repo.queried jobId operation r) (repo.queried jobId operation r') V s := by
  match r, r', hr with
  | .ok a, .ok a', hv => exact InStep.pure hv
  | .error x, .error _, rfl =>
    exact InStep.bind (InStep.self (queryFailed_asks h operation) s) fun _ _ _ _ => InStep.throw _

theorem getTrajectory_inStep {hidden : String → Bool} (h : SameStore b b')
    (hdata : Task.Both (Option.Rel (SimilarTrajectory hidden))
      (b.data.getTrajectory b.python jobId sessionId stepId)
      (b'.data.getTrajectory b'.python jobId sessionId stepId))
    (hsteps : b.data.getSteps b.python jobId sessionId =
      b'.data.getSteps b'.python jobId sessionId) :
    InStep b b' (repo.getTrajectory ctx jobId sessionId stepId)
      (repo.getTrajectory ctx jobId sessionId stepId) (SimilarTrajectory hidden) s := by
  refine InStep.bind (InStep.self (requireJob_asks h) s) fun _ _ t _ => ?_
  refine InStep.bind (InStep.ask rfl rfl hdata) fun answer answer' t hanswer => ?_
  refine InStep.bind (queried_inStep h hanswer) fun result result' t hresult => ?_
  cases hresult with
  | some ht => exact InStep.pure ht
  | none =>
    refine InStep.bind (V := (· = ·)) (InStep.ask rfl rfl hsteps) ?_
    rintro steps _ t rfl
    match steps with
    | .error _ => exact InStep.throw _
    | .ok none => exact InStep.throw _
    | .ok (some _) => exact InStep.throw _

theorem snapshotOf_inStep {hidden : String → Bool} (job : ControlJob)
    (hversion : hidden "schema_version" = false)
    (hfiles : ∀ path, SimilarFile hidden (b.files path jobId sessionId "milestones.json")
      (b'.files path jobId sessionId "milestones.json")) :
    InStep b b' (snapshotOf job jobId sessionId) (snapshotOf job jobId sessionId)
      (Option.Rel (SimilarEntries hidden)) s := by
  unfold snapshotOf
  split
  · exact InStep.pure .none
  · refine Task.Coupled.tryCatch ?_ ?_
    · refine InStep.bind (V := (· = ·)) (InStep.lift (Task.Both.refl (fun _ => rfl) _)) ?_
      rintro binding _ t rfl
      refine InStep.bind (InStep.ask rfl rfl (hfiles _)) fun file file' t hfile => ?_
      exact InStep.lift (hfile.snapshot hversion)
    · rintro x t _ rfl
      cases x with
      | domain error => exact InStep.throw _
      | python x =>
        dsimp only
        split
        · exact InStep.throw _
        · exact InStep.throw _

theorem withoutSnapshot_inStep (h : SameStore b b')
    (hdata : b.data.listSessionIds jobId = b'.data.listSessionIds jobId) (job : ControlJob) :
    InStep b b' (repo.withoutSnapshot job jobId sessionId)
      (repo.withoutSnapshot job jobId sessionId) (· = ·) s := by
  refine InStep.bind (V := (· = ·)) (InStep.ask rfl rfl hdata) ?_
  rintro answer _ t rfl
  refine InStep.bind (queried_inStep h (Task.Both.refl (fun _ => rfl) answer)) ?_
  rintro sessionIds _ t rfl
  dsimp only
  split
  · exact InStep.throw _
  · split
    · exact InStep.throw _
    · exact InStep.pure rfl

theorem getMilestones_inStep {hidden : String → Bool} (h : SameStore b b')
    (hversion : hidden "schema_version" = false)
    (hdata : b.data.listSessionIds jobId = b'.data.listSessionIds jobId)
    (hfiles : ∀ path, SimilarFile hidden (b.files path jobId sessionId "milestones.json")
      (b'.files path jobId sessionId "milestones.json")) :
    InStep b b' (repo.getMilestones ctx jobId sessionId)
      (repo.getMilestones ctx jobId sessionId) (SimilarMilestones hidden) s := by
  refine InStep.bind (InStep.self (requireJob_asks h) s) ?_
  rintro job _ t rfl
  refine InStep.bind (InStep.self (trusted_asks _) t) ?_
  rintro config _ t rfl
  cases config with
  | none => exact InStep.throw _
  | some config =>
    dsimp only
    split
    · exact InStep.throw _
    · split
      · exact InStep.throw _
      · refine InStep.bind (snapshotOf_inStep job hversion hfiles)
          fun snapshot snapshot' t hsnapshot => ?_
        cases hsnapshot with
        | some hentries => exact InStep.pure ⟨rfl, .some hentries⟩
        | none =>
          refine Task.Coupled.mono (withoutSnapshot_inStep h hdata job) ?_
          rintro m _ rfl
          refine ⟨rfl, ?_⟩
          cases m.snapshot with
          | none => exact .none
          | some entries => exact .some (.refl entries)

end RealRuntimeRepository

end

/-! ### What the service shows -/

theorem isSensitive_schemaVersion (u : Unicode) : isSensitive u "schema_version" = false := by
  have hlower : u.lowered "schema_version" = "schema_version" := by
    rw [Unicode.lowered, if_pos (by decide)]
    decide
  rw [isSensitive, hlower]
  decide

/-- `shown` is `entries` with the values of the hidden keys redacted, and with nothing else
changed. -/
structure ShownOf (hidden : String → Bool) (entries shown : Row) : Prop where
  similar : SimilarEntries hidden entries shown
  hides : redactEntries hidden shown = shown

namespace JobService

variable {service : JobService} {b b' : Backend} {ctx : RequestContext} {s s' : ControlState}
  {jobId sessionId stepId : String}

theorem redacted_shown (entries : Row) :
    ShownOf service.hidden entries (service.redacted entries) :=
  ⟨similar_redactEntries entries, redactEntries_redactEntries entries⟩

/-- Similar trajectories are shown alike. -/
theorem getTrajectory_eq
    (h : InStep b b' (service.runtime.getTrajectory ctx jobId sessionId stepId)
      (service.runtime.getTrajectory ctx jobId sessionId stepId)
      (SimilarTrajectory service.hidden) s) :
    (service.getTrajectory ctx jobId sessionId stepId).run b.answer s =
      (service.getTrajectory ctx jobId sessionId stepId).run b'.answer s := by
  refine Task.Coupled.run_eq (InStep.bind h fun t t' _ ht => InStep.pure ?_)
  rw [redacted, redacted, ht.trajectory.redact_eq, ht.rest]

theorem getMilestones_eq
    (h : InStep b b' (service.runtime.getMilestones ctx jobId sessionId)
      (service.runtime.getMilestones ctx jobId sessionId)
      (SimilarMilestones service.hidden) s) :
    (service.getMilestones ctx jobId sessionId).run b.answer s =
      (service.getMilestones ctx jobId sessionId).run b'.answer s := by
  refine Task.Coupled.run_eq (InStep.bind h fun m m' _ hm => InStep.pure ?_)
  have hsnapshot : m.snapshot.map service.redacted = m'.snapshot.map service.redacted := by
    have hsimilar := hm.snapshot
    generalize m.snapshot = snapshot, m'.snapshot = snapshot' at hsimilar ⊢
    cases hsimilar with
    | none => rfl
    | some hentries => exact congrArg some hentries.redact_eq
  rw [hsnapshot, hm.rest]

theorem getTrajectory_inv {shown : StepTrajectory}
    (h : (service.getTrajectory ctx jobId sessionId stepId).run b.answer s = (.ok shown, s')) :
    ∃ t, (service.runtime.getTrajectory ctx jobId sessionId stepId).run b.answer s = (.ok t, s') ∧
      shown = { t with trajectory := shown.trajectory } ∧
      ShownOf service.hidden t.trajectory shown.trajectory := by
  obtain ⟨t, s'', hrun, hreturn⟩ := Task.run_bind_inv h
  cases hreturn
  exact ⟨t, hrun, rfl, redacted_shown t.trajectory⟩

theorem getMilestones_inv {shown : SessionMilestones}
    (h : (service.getMilestones ctx jobId sessionId).run b.answer s = (.ok shown, s')) :
    ∃ m, (service.runtime.getMilestones ctx jobId sessionId).run b.answer s = (.ok m, s') ∧
      shown = { m with snapshot := shown.snapshot } ∧
      Option.Rel (ShownOf service.hidden) m.snapshot shown.snapshot := by
  obtain ⟨m, s'', hrun, hreturn⟩ := Task.run_bind_inv h
  cases hreturn
  refine ⟨m, hrun, rfl, ?_⟩
  cases m.snapshot with
  | none => exact .none
  | some entries => exact .some (redacted_shown entries)

end JobService

/-- The redaction hides what stands beneath a sensitive key in the rows or in the snapshot file, and
shows everything else as it is. -/
theorem redaction_exact (service : JobService) (b : Backend) (ctx : RequestContext)
    (jobId sessionId : String) (s : ControlState) :
    (∀ rows rows' stepId,
      List.Forall₂ (SimilarRow b.python service.hidden) rows rows' →
        (service.getTrajectory ctx jobId sessionId stepId).run
            { b with data := .serving rows }.answer s =
          (service.getTrajectory ctx jobId sessionId stepId).run
            { b with data := .serving rows' }.answer s) ∧
      (∀ files files' : String → String → String → String → SessionFile,
        (∀ path, SimilarFile service.hidden
          (files path jobId sessionId "milestones.json")
          (files' path jobId sessionId "milestones.json")) →
        (service.getMilestones ctx jobId sessionId).run { b with files := files }.answer s =
          (service.getMilestones ctx jobId sessionId).run { b with files := files' }.answer s) ∧
      (∀ stepId shown s',
        (service.getTrajectory ctx jobId sessionId stepId).run b.answer s = (.ok shown, s') →
        ∃ t, (service.runtime.getTrajectory ctx jobId sessionId stepId).run b.answer s =
            (.ok t, s') ∧
          shown = { t with trajectory := shown.trajectory } ∧
          ShownOf service.hidden t.trajectory shown.trajectory) ∧
      (∀ shown s',
        (service.getMilestones ctx jobId sessionId).run b.answer s = (.ok shown, s') →
        ∃ m, (service.runtime.getMilestones ctx jobId sessionId).run b.answer s = (.ok m, s') ∧
          shown = { m with snapshot := shown.snapshot } ∧
          Option.Rel (ShownOf service.hidden) m.snapshot shown.snapshot) ∧
      ∀ value, Similar service.hidden value (value.redact service.hidden) ∧
        (value.redact service.hidden).redact service.hidden = value.redact service.hidden := by
  refine ⟨?_, ?_, ?_, ?_, ?_⟩
  · intro rows rows' stepId h
    refine JobService.getTrajectory_eq
      (RealRuntimeRepository.getTrajectory_inStep ⟨rfl, rfl⟩ ?_ ?_)
    · dsimp only
      rw [SdkClient.getTrajectory_serving, SdkClient.getTrajectory_serving]
      exact trajectoryOf_similar h _
    · dsimp only
      rw [SdkClient.getSteps_serving, SdkClient.getSteps_serving]
      exact raiseFrom_congr (stepsOf_similar h)
  · intro files files' h
    exact JobService.getMilestones_eq (RealRuntimeRepository.getMilestones_inStep ⟨rfl, rfl⟩
      (isSensitive_schemaVersion _) rfl h)
  · exact fun stepId shown s' h => JobService.getTrajectory_inv h
  · exact fun shown s' h => JobService.getMilestones_inv h
  · exact fun value => ⟨similar_redact value, redact_redact value⟩

/-! Runs on concrete rows and files. -/

/-- A Job of the sample repository that runs with published files. -/
def boundState : ControlState :=
  ⟨⟨[{ newControlJob sampleJob 0 with
    status := .running, bindingJson := some sampleBinding.toJson }], by decide⟩, []⟩

def responseRow (response : Value) : Row :=
  [("step_id", .int 1), ("created_at", .int 1), ("response", response)]

/-- A snapshot file with a password in it. -/
def snapshotFile (password : String) (size : Nat) : SessionFile :=
  { present := .ok true, symlink := .ok false, isFile := .ok true, size := .ok size
    document := .ok (.dict [("schema_version", .str "agent-range.milestones/v1"),
      ("password", .str password)]) }

theorem isSensitive_password (u : Unicode) : isSensitive u "password" = true := by
  have hlower : u.lowered "password" = "password" := by
    rw [Unicode.lowered, if_pos (by decide)]
    decide
  rw [isSensitive, hlower]
  decide

theorem snapshotFile_document (u : Unicode) (password password' : String) (size size' : Nat) :
    Task.Both (Similar (isSensitive u)) (snapshotFile password size).document
      (snapshotFile password' size').document :=
  .dict (.cons (.same _) (.beneath (isSensitive_password u) .nil))

theorem responseRow_similar (py : Interpreter) {hidden : String → Bool} {response response' : Value}
    (h : Task.Both (Similar hidden) (jsonValue py response .null) (jsonValue py response' .null))
    (htest : response.truthy = response'.truthy) :
    SimilarRow py hidden (responseRow response) (responseRow response') where
  others name hname := by
    have hne : ("response" == name) = false := by
      refine beq_false_of_ne fun heq => hname ?_
      simp [← heq]
    unfold Row.field responseRow lookup
    simp only [List.find?_cons, hne]
  messages := .same _
  response := h
  responded := htest
  metadata := ⟨fun _ _ => rfl, rfl, .same _, fun _ _ => .same _⟩

/-- Two passwords, in a response and in a snapshot. -/
theorem redaction_exact_passwords :
    let service : JobService := ⟨sampleRepository⟩
    let ctx : RequestContext := { username := some "alice" }
    let rows (password : String) : List Row := [responseRow (.dict [("password", .str password)])]
    (service.getTrajectory ctx "job" "session" "1").run
        { sampleBackend with data := .serving (rows "a") }.answer boundState =
      (service.getTrajectory ctx "job" "session" "1").run
        { sampleBackend with data := .serving (rows "b") }.answer boundState ∧
    (service.getMilestones ctx "job" "session").run
        { sampleBackend with files := fun _ _ _ _ => snapshotFile "a" 64 }.answer boundState =
      (service.getMilestones ctx "job" "session").run
        { sampleBackend with files := fun _ _ _ _ => snapshotFile "b" 64 }.answer boundState := by
  intro service ctx rows
  have hexact := redaction_exact service sampleBackend ctx "job" "session" boundState
  refine ⟨hexact.1 (rows "a") (rows "b") "1" (.cons ?_ .nil), hexact.2.1 _ _ fun _ => ?_⟩
  · exact responseRow_similar _ (.dict (.beneath (isSensitive_password _) .nil)) rfl
  · exact ⟨rfl, rfl, rfl, Iff.rfl, snapshotFile_document _ "a" "b" 64 64⟩

/-- An interpreter that decodes the empty object and `null`. -/
def objectPython : Interpreter :=
  { plainPython with
    loads := fun s => if s = "\x7b\x7d" then .ok (.dict []) else
      if s = "null" then .ok .null else .error .valueError
    loads_empty := rfl }

/-- A snapshot file that `json.loads` refuses, as one whose password is an integer of 5000
digits. -/
def refusedFile : SessionFile :=
  { snapshotFile "a" 5064 with document := .error .unreadable }

/-- A step whose metadata hold a request. -/
def requestRow (request : Value) : Row :=
  responseRow (.str "done") ++ [("meta_json", .dict [("request", request)])]

/-- A password may take a snapshot over the bound, or be an integer that `json.loads` refuses; an
empty response shows if it is text, and so does a request that is null. -/
theorem sensitive_size_shows :
    let service : JobService := ⟨sampleRepository⟩
    let ctx : RequestContext := { username := some "alice" }
    let milestones (file : SessionFile) := ((service.getMilestones ctx "job" "session").run
      { sampleBackend with files := fun _ _ _ _ => file }.answer boundState).1
    let trajectory (row : Row) := ((service.getTrajectory ctx "job" "session" "1").run
      { sampleBackend with python := objectPython, data := .serving [row] }.answer boundState).1
    let long := String.ofList (List.replicate maxMilestonesBytes 'a')
    (Task.Both (Similar service.hidden) (snapshotFile "a" 64).document
        (snapshotFile long (63 + maxMilestonesBytes)).document ∧
      milestones (snapshotFile "a" 64) ≠ milestones (snapshotFile long (63 + maxMilestonesBytes))) ∧
    milestones (snapshotFile "a" 64) ≠ milestones refusedFile ∧
    (Landing.jsonValue objectPython (.str "\x7b\x7d") .null =
        Landing.jsonValue objectPython (.dict []) .null ∧
      trajectory (responseRow (.str "\x7b\x7d")) ≠ trajectory (responseRow (.dict []))) ∧
    Landing.jsonValue objectPython .null .null =
        Landing.jsonValue objectPython (.str "null") (.str "null") ∧
      trajectory (requestRow .null) ≠ trajectory (requestRow (.str "null")) := by
  intro service ctx milestones trajectory long
  refine ⟨⟨snapshotFile_document _ _ _ _ _, ?_⟩, ?_, ⟨rfl, ?_⟩, rfl, ?_⟩
  · clear_value long
    intro h
    have : (milestones (snapshotFile "a" 64)).toOption.isSome =
      (milestones (snapshotFile long (63 + maxMilestonesBytes))).toOption.isSome := by rw [h]
    cases this
  · intro h
    have : (milestones (snapshotFile "a" 64)).toOption.isSome =
      (milestones refusedFile).toOption.isSome := by rw [h]
    cases this
  · intro h
    have : (trajectory (responseRow (.str "\x7b\x7d"))).toOption.isSome =
      (trajectory (responseRow (.dict []))).toOption.isSome := by rw [h]
    cases this
  · intro h
    have : (trajectory (requestRow .null)).toOption.map (·.trajectory.length) =
      (trajectory (requestRow (.str "null"))).toOption.map (·.trajectory.length) := by
      rw [h]
    cases this

end SafactoryServer
