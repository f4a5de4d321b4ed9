import SafactoryServer.Backend

/-! The result of a Session, as `get_result` merges it from the data platform, the status of the Job
and the artifact of the environment. -/

namespace SafactoryServer

open Effect

/-- What a result of the data platform promises, in either protocol. -/
structure WellReported (result : SessionResult) : Prop where
  score : result.score.isSome ↔ result.resultStatus = .succeeded
  finite : ∀ score, result.score = some score → score.isFinite = true ∧ result.completedAt.isSome
  noRetry : result.retryAfterSeconds = none
  noPayload : result.result = none
  noError : result.error = none

namespace Landing

variable {py : Interpreter} {sessionId : String}

theorem finiteFloat_ok {value : Value} {score : PyFloat} (h : finiteFloat py value = .ok score) :
    score.isFinite = true := by
  have hread : ∀ {x : Except PyExc PyFloat}, (do
      let result ← x
      if !result.isFinite then throw PyExc.valueError
      return result) = .ok score → score.isFinite = true := by
    intro x h
    obtain ⟨result, -, h⟩ := bind_ok h
    cases hf : result.isFinite with
    | false =>
      rw [hf] at h
      cases h
    | true =>
      rw [hf] at h
      cases h
      exact hf
  cases value with
  | bool b => cases h
  | null | int | float | str | datetime | list | dict | object => exact hread h

theorem succeededResult_wellReported {final : Row} {result : SessionResult}
    (h : succeededResult py sessionId final = .ok result) : WellReported result := by
  obtain ⟨score, hscore, h⟩ := bind_ok h
  obtain ⟨completedAt, -, h⟩ := bind_ok h
  cases completedAt with
  | none => cases h
  | some completedAt =>
    cases h
    refine ⟨by simp, ?_, rfl, rfl, rfl⟩
    rintro _ ⟨⟩
    exact ⟨finiteFloat_ok hscore, rfl⟩

theorem failedResult_wellReported {final : Row} {result : SessionResult}
    (h : failedResult py sessionId final = .ok result) : WellReported result := by
  obtain ⟨completedAt, -, h⟩ := bind_ok h
  cases h
  exact ⟨by simp, by simp, rfl, rfl, rfl⟩

theorem resultOf_wellReported {rows : List Row} {result : SessionResult}
    (h : resultOf py sessionId rows = .ok (some result)) : WellReported result := by
  unfold resultOf at h
  split at h
  · cases h
  · obtain ⟨rewarded, -, h⟩ := bind_ok h
    cases rewarded with
    | some final =>
      obtain ⟨result', hresult, h⟩ := bind_ok h
      cases h
      exact succeededResult_wellReported hresult
    | none =>
      obtain ⟨completed, -, h⟩ := bind_ok h
      cases completed with
      | some final =>
        obtain ⟨result', hresult, h⟩ := bind_ok h
        cases h
        exact failedResult_wellReported hresult
      | none =>
        cases h
        exact ⟨by simp [runningResult], by simp [runningResult], rfl, rfl, rfl⟩

end Landing

namespace Legacy

variable {py : Interpreter} {sessionId : String}

/-- The checks of `get_result` on a status, a score and a time of completion. -/
theorem checked_wellReported {result : SessionResult} {status : ResultStatus}
    (score : Except PyExc (Option PyFloat)) {completedAt : Except PyExc (Option Datetime)}
    (h : (show Except PyExc (Option SessionResult) from do
      let score ← score
      if score.any fun x => !x.isFinite then throw .valueError
      let completedAt ← completedAt
      if status = .succeeded ∧ (score.isNone ∨ completedAt.isNone) then throw .valueError
      if status ≠ .succeeded ∧ score.isSome then throw .valueError
      return some { sessionId := sessionId, resultStatus := status, score := score,
                    completedAt := completedAt }) = .ok (some result)) :
    WellReported result := by
  obtain ⟨score, -, h⟩ := bind_ok h
  dsimp only at h
  split at h
  · cases h
  · next hfinite =>
    obtain ⟨completedAt, -, h⟩ := bind_ok h
    split at h
    · cases h
    · next hcomplete =>
      split at h
      · cases h
      · next hscore =>
        cases h
        refine ⟨?_, ?_, rfl, rfl, rfl⟩
        · cases score with
          | none => simpa using fun hs => hcomplete ⟨hs, .inl rfl⟩
          | some score => simpa using hscore
        · rintro score rfl
          have hs : status = .succeeded := by simpa using hscore
          constructor
          · simpa using hfinite
          · have hsome := fun hc => hcomplete ⟨hs, .inr hc⟩
            simpa [Option.isSome_iff_ne_none] using hsome

theorem resultOf_wellReported {row : Value} {result : SessionResult}
    (h : resultOf py sessionId row = .ok (some result)) : WellReported result := by
  unfold resultOf at h
  cases hnone : row.isNone with
  | true =>
    simp only [hnone, if_true] at h
    cases h
  | false =>
    by_cases hid : (row.field "session_id").asStr? = some sessionId
    · simp only [hnone, hid, Bool.false_eq_true, ne_eq, not_true_eq_false, if_false] at h
      obtain ⟨text, -, h⟩ := bind_ok h
      cases hstatus : ResultStatus.ofStr? text with
      | none =>
        rw [hstatus] at h
        cases h
      | some status =>
        rw [hstatus] at h
        dsimp only at h
        split at h
        · cases h
        · exact checked_wellReported (pure none) h
        · exact checked_wellReported _ h
    · simp only [hnone, hid, Bool.false_eq_true, ne_eq, not_false_eq_true, if_true, if_false] at h
      cases h

end Legacy

theorem SdkClient.getResult_wellReported {client : SdkClient} {py : Interpreter}
    {jobId sessionId : String} {result : SessionResult}
    (h : client.getResult py jobId sessionId = .ok (some result)) : WellReported result := by
  have h := raiseFrom_ok.mp h
  cases client with
  | gateway queryData =>
    obtain ⟨rows, -, h⟩ := bind_ok h
    exact Landing.resultOf_wellReported h
  | legacy listSessions getSessionResult listSteps getStepTrajectory =>
    obtain ⟨row, -, h⟩ := bind_ok h
    exact Legacy.resultOf_wellReported h

/-! ### The merge with the Job -/

/-- What `_reconcile_result_with_job` returns for a result of the data platform. -/
structure Reconciled (reported result : SessionResult) (status : JobStatus) : Prop where
  score : result.score.isSome ↔ result.resultStatus = .succeeded
  finite : ∀ score, result.score = some score → score.isFinite = true ∧ result.completedAt.isSome
  noRetry : result.retryAfterSeconds = none
  noPayload : result.result = none
  unfinished : result.resultStatus = .pending ∨ result.resultStatus = .running →
    status ≠ .succeeded ∧ status ≠ .failed ∧ status ≠ .closed ∧
      (result.resultStatus = .pending → status = .queued ∨ status = .preparing)
  kept : reported.resultStatus = .succeeded ∨ reported.resultStatus = .failed →
    result.resultStatus = reported.resultStatus
  error : result.error.isSome → result.resultStatus = .failed ∧
    (reported.resultStatus = .pending ∨ reported.resultStatus = .running) ∧
      (status = .succeeded ∨ status = .failed ∨ status = .closed)

theorem reconcile_reconciled {reported : SessionResult} (h : WellReported reported)
    (status : JobStatus) :
    Reconciled reported (reconcileResultWithJob reported status) status := by
  obtain ⟨hscore, hfinite, hretry, hpayload, herror⟩ := h
  unfold reconcileResultWithJob
  split
  · next hdone =>
    refine ⟨hscore, hfinite, hretry, hpayload, ?_, fun _ => rfl, ?_⟩
    · rintro (hp | hr)
      · exact absurd hp hdone.1
      · exact absurd hr hdone.2
    · rw [herror]
      intro h
      cases h
  · next hopen =>
    have hopen : reported.resultStatus = .pending ∨ reported.resultStatus = .running := by
      by_contra hnot
      exact hopen (not_or.mp hnot)
    have hkept : ¬ (reported.resultStatus = .succeeded ∨ reported.resultStatus = .failed) := by
      rcases hopen with hs | hs <;> simp [hs]
    cases status <;>
    · refine ⟨by simp, by simp, hretry, rfl, by simp, fun hd => absurd hd hkept, ?_⟩
      simp [hopen]

/-! ### What the calls of `get_result` return -/

section

variable {α : Type} {b : Backend} {s s' : ControlState}

theorem lift_inv {result : Except PyExc α} {a : α}
    (h : (ApiTask.lift result).run b.answer s = (.ok a, s')) : result = .ok a ∧ s' = s := by
  cases result with
  | ok a' =>
    cases h
    exact ⟨rfl, rfl⟩
  | error x => cases h

theorem getJob_inv {jobId : String} {job : Option ControlJob}
    (h : (ApiTask.getJob jobId).run b.answer s = (.ok job, s')) :
    job = s.jobs.find jobId ∧ s' = s := by
  obtain ⟨r, t, hr, h⟩ := Task.run_bind_inv h
  obtain ⟨rfl, rfl⟩ := lift_inv h
  have hread : b.transact .read s (.ok (s.jobs.find jobId, s)) = (.ok job, s') :=
    Task.run_ask_inv hr
  unfold Backend.transact at hread
  split at hread
  · cases hread
  · cases hread
  · next heq =>
    cases heq
    cases hread
    exact ⟨rfl, rfl⟩

namespace RealRuntimeRepository

variable {repo : RealRuntimeRepository} {ctx : RequestContext} {jobId sessionId : String}

theorem requireJob_inv {job : ControlJob}
    (h : (requireJob ctx jobId).run b.answer s = (.ok job, s')) :
    s.jobs.find jobId = some job ∧ s' = s := by
  obtain ⟨found, t, hget, h⟩ := Task.run_bind_inv h
  obtain ⟨rfl, rfl⟩ := getJob_inv hget
  cases hf : t.jobs.find jobId with
  | none =>
    rw [hf] at h
    cases h
  | some row =>
    rw [hf] at h
    dsimp only at h
    split at h
    · cases h
    · cases h
      exact ⟨rfl, rfl⟩

theorem trusted_inv {result : Except PyExc α} {a : α}
    (h : (trusted result).run b.answer s = (.ok a, s')) : result = .ok a ∧ s' = s := by
  unfold trusted at h
  split at h
  · cases h
  · exact lift_inv h

theorem queried_inv {operation : String} {answer : Except DataPlatformError α} {a : α}
    (h : (repo.queried jobId operation answer).run b.answer s = (.ok a, s')) :
    answer = .ok a ∧ s' = s := by
  cases answer with
  | ok a' =>
    cases h
    exact ⟨rfl, rfl⟩
  | error x =>
    obtain ⟨_, _, _, h⟩ := Task.run_bind_inv h
    cases h

/-- The range has one group, whose artifact it is. -/
theorem resultArtifact_inv {rangeId : String} {name : Option String}
    (h : (repo.resultArtifact rangeId).run b.answer s = (.ok name, s')) :
    (∃ config group, repo.catalog.resolveRange rangeId = .ok (some config) ∧
      config.groups = [group] ∧ name = group.resultArtifact) ∧ s' = s := by
  obtain ⟨config, t, hresolve, h⟩ := Task.run_bind_inv h
  obtain ⟨hconfig, rfl⟩ := trusted_inv hresolve
  cases config with
  | none => cases h
  | some config =>
    dsimp only at h
    split at h
    · next group hgroups =>
      cases h
      exact ⟨⟨config, group, hconfig, hgroups, rfl⟩, rfl⟩
    · cases h

end RealRuntimeRepository

theorem SessionFile.bounded_ok {error : String} {maxBytes : Nat} {file : SessionFile} {raw : Value}
    (h : file.bounded error maxBytes = .ok raw) :
    file.document = .ok raw ∧ ∃ size ≤ maxBytes, file.size = .ok size := by
  unfold bounded at h
  cases hfile : file.isFile with
  | error x =>
    rw [hfile] at h
    cases h
  | ok isFile =>
    cases hsize : file.size with
    | error x =>
      rw [hfile, hsize] at h
      cases isFile <;> cases h
    | ok size =>
      rw [hfile, hsize] at h
      by_cases hlarge : maxBytes < size
      · simp only [bind, Except.bind, hlarge, if_true] at h
        cases isFile <;> cases h
      · simp only [bind, Except.bind, hlarge, if_false] at h
        cases isFile with
        | false => cases h
        | true => exact ⟨h, size, not_lt.mp hlarge, rfl⟩

/-- A file that is read gives the document of its text, and is within the bound. -/
theorem readSessionFile_ok {error : String} {maxBytes : Nat} {file : SessionFile} {raw : Value}
    (h : readSessionFile error maxBytes file = .ok (some raw)) :
    file.document = .ok raw ∧ ∃ size ≤ maxBytes, file.size = .ok size := by
  obtain ⟨present, -, h⟩ := bind_ok h
  cases present with
  | false => cases h
  | true =>
    obtain ⟨symlink, -, h⟩ := bind_ok h
    cases symlink with
    | true => cases h
    | false =>
      cases hread : file.bounded error maxBytes with
      | ok document =>
        rw [hread] at h
        cases h
        exact SessionFile.bounded_ok hread
      | error x =>
        rw [hread] at h
        cases x <;> cases h

/-- An artifact is the object that its file holds. -/
theorem readResultArtifact_ok {file : SessionFile} {entries : Row}
    (h : readResultArtifact file = .ok (some entries)) : file.document = .ok (.dict entries) := by
  obtain ⟨raw, hraw, h⟩ := bind_ok h
  cases raw with
  | none => cases h
  | some raw =>
    dsimp only at h
    cases hdict : raw.asDict? with
    | none =>
      rw [hdict] at h
      cases h
    | some entries' =>
      rw [hdict] at h
      cases h
      rw [(readSessionFile_ok hraw).1, Value.asDict?_some hdict]

namespace RealRuntimeRepository

variable {repo : RealRuntimeRepository} {ctx : RequestContext} {jobId sessionId : String}

/-- A `try` clause around a Session's file that returned has read a file. -/
theorem boundFile_inv {error name : String} {code : ErrorCode} {document : Json}
    {read : SessionFile → Except PyExc (Option Row)} {payload : Option Row}
    (h : (boundFile error code read document jobId sessionId name).run b.answer s =
      (.ok payload, s')) :
    (∃ path, read (b.files path jobId sessionId name) = .ok payload) ∧ s' = s := by
  rcases Task.run_tryCatch_inv h with h | ⟨x, t, -, h⟩
  · obtain ⟨binding, t, hbinding, hrest⟩ := Task.run_bind_inv h
    obtain ⟨-, rfl⟩ := lift_inv hbinding
    obtain ⟨file, t', hfile, hlast⟩ := Task.run_bind_inv hrest
    have hanswer : (b.files binding.resultLocalPath jobId sessionId name, t) = (file, t') :=
      Task.run_ask_inv hfile
    cases hanswer
    obtain ⟨hread, rfl⟩ := lift_inv hlast
    exact ⟨⟨_, hread⟩, rfl⟩
  · cases x with
    | domain error => cases h
    | python x =>
      dsimp only at h
      split at h
      · cases h
      · cases h

/-- The result with an artifact: its payload is the object of the file, if there is one, and there
is one for a succeeded Session. -/
theorem withArtifact_inv {job : ControlJob} {name : String} {result merged : SessionResult}
    (h : (withArtifact job jobId sessionId name result).run b.answer s = (.ok merged, s')) :
    ∃ payload, merged = { result with result := payload } ∧
      (result.resultStatus = .succeeded → payload.isSome) ∧
      ∀ entries, payload = some entries →
        ∃ path, (b.files path jobId sessionId name).document = .ok (.dict entries) := by
  unfold withArtifact at h
  cases hsafe : safeName sessionId with
  | false =>
    rw [hsafe] at h
    cases h
  | true =>
    rw [hsafe] at h
    obtain ⟨payload, t, hpayload, h⟩ := Task.run_bind_inv h
    have hfile : ∀ entries, payload = some entries →
        ∃ path, (b.files path jobId sessionId name).document = .ok (.dict entries) := by
      rintro entries rfl
      unfold artifactOf at hpayload
      split at hpayload
      · cases hpayload
      · obtain ⟨⟨path, hread⟩, -⟩ := boundFile_inv hpayload
        exact ⟨path, readResultArtifact_ok hread⟩
    dsimp only at h
    split at h
    · cases h
    · next hpresent =>
      cases h
      refine ⟨payload, rfl, fun hs => ?_, hfile⟩
      cases payload with
      | none => exact absurd ⟨rfl, hs⟩ hpresent
      | some entries => rfl

end RealRuntimeRepository

end

/-- What `get_result` promises of the result that it returns for a Session whose Job is `job`, whose
environment is `group`, and of which the data platform reported `reported`. -/
structure ResultContract (b : Backend) (jobId sessionId : String) (job : ControlJob)
    (group : RangeGroupConfig) (reported result : SessionResult) : Prop where
  score : result.score.isSome ↔ result.resultStatus = .succeeded
  finite : ∀ score, result.score = some score → score.isFinite = true ∧ result.completedAt.isSome
  retry : result.resultStatus = .pending ∨ result.resultStatus = .running ↔
    result.retryAfterSeconds.isSome
  unfinished : result.resultStatus = .pending ∨ result.resultStatus = .running →
    job.status ≠ .succeeded ∧ job.status ≠ .failed ∧ job.status ≠ .closed ∧
      (result.resultStatus = .pending → job.status = .queued ∨ job.status = .preparing)
  kept : reported.resultStatus = .succeeded ∨ reported.resultStatus = .failed →
    result.resultStatus = reported.resultStatus
  error : result.error.isSome → result.resultStatus = .failed ∧
    (reported.resultStatus = .pending ∨ reported.resultStatus = .running) ∧
      (job.status = .succeeded ∨ job.status = .failed ∨ job.status = .closed)
  artifact : ∀ name, group.resultArtifact = some name → result.resultStatus = .succeeded →
    ∃ path entries, result.result = some entries ∧
      (b.files path jobId sessionId name).document = .ok (.dict entries)
  noArtifact : group.resultArtifact = none → result.result = none

/-- The end of `get_result` sets the time to retry after, and keeps the rest. -/
theorem Reconciled.contract {b : Backend} {jobId sessionId : String} {job : ControlJob}
    {group : RangeGroupConfig} {reported result : SessionResult} {payload : Option Row}
    {retryAfter : Int} (h : Reconciled reported result job.status)
    (hartifact : ∀ name, group.resultArtifact = some name → result.resultStatus = .succeeded →
      ∃ path entries, payload = some entries ∧
        (b.files path jobId sessionId name).document = .ok (.dict entries))
    (hnone : group.resultArtifact = none → payload = none) :
    ResultContract b jobId sessionId job group reported
      (if result.resultStatus = .pending ∨ result.resultStatus = .running then
        { result with result := payload, retryAfterSeconds := some retryAfter }
      else { result with result := payload }) := by
  split
  · next hopen =>
    exact ⟨h.score, h.finite, ⟨fun _ => rfl, fun _ => hopen⟩, h.unfinished, h.kept, h.error,
      hartifact, hnone⟩
  · next hopen =>
    refine ⟨h.score, h.finite, ⟨fun ho => absurd ho hopen, fun hs => ?_⟩, h.unfinished, h.kept,
      h.error, hartifact, hnone⟩
    rw [h.noRetry] at hs
    cases hs

/-- The result of a Session, end to end: whatever the data platform answers, in either protocol,
whatever the status of the Job, the range and the files. -/
theorem result_contract (repo : RealRuntimeRepository) (b : Backend) (ctx : RequestContext)
    (jobId sessionId : String) (s s' : ControlState) (result : SessionResult)
    (h : (repo.getResult ctx jobId sessionId).run b.answer s = (.ok result, s')) :
    ∃ job reported config group, s.jobs.find jobId = some job ∧
      b.data.getResult b.python jobId sessionId = .ok (some reported) ∧
      repo.catalog.resolveRange job.rangeId = .ok (some config) ∧ config.groups = [group] ∧
      ResultContract b jobId sessionId job group reported result := by
  obtain ⟨job, t, hjob, hquery⟩ := Task.run_bind_inv h
  obtain ⟨hfind, rfl⟩ := RealRuntimeRepository.requireJob_inv hjob
  obtain ⟨answer, t', hasked, hmerge⟩ := Task.run_bind_inv hquery
  have hanswer : (b.data.getResult b.python jobId sessionId, t) = (answer, t') :=
    Task.run_ask_inv hasked
  cases hanswer
  obtain ⟨reported, t', hqueried, hrest⟩ := Task.run_bind_inv hmerge
  obtain ⟨hreported, rfl⟩ := RealRuntimeRepository.queried_inv hqueried
  cases reported with
  | none => cases hrest
  | some reported =>
    have hreconciled := reconcile_reconciled (SdkClient.getResult_wellReported hreported) job.status
    obtain ⟨name, t', hname, hlast⟩ := Task.run_bind_inv hrest
    obtain ⟨⟨config, group, hconfig, hgroups, rfl⟩, rfl⟩ :=
      RealRuntimeRepository.resultArtifact_inv hname
    refine ⟨job, reported, config, group, hfind, hreported, hconfig, hgroups, ?_⟩
    have hend : ∀ {merged : SessionResult} {t' : ControlState},
        (show ApiTask SessionResult from
          if merged.resultStatus = .pending ∨ merged.resultStatus = .running then
            return { merged with retryAfterSeconds := some repo.retryAfterSeconds }
          else return merged).run b.answer t' = (.ok result, s') →
        result = if merged.resultStatus = .pending ∨ merged.resultStatus = .running then
            { merged with retryAfterSeconds := some repo.retryAfterSeconds }
          else merged := by
      intro merged t' h
      split at h
      · next hopen =>
        cases h
        rw [if_pos hopen]
      · next hopen =>
        cases h
        rw [if_neg hopen]
    cases hartifact : group.resultArtifact with
    | none =>
      rw [hartifact] at hlast
      rw [hend hlast]
      have hpayload : reconcileResultWithJob reported job.status =
          { reconcileResultWithJob reported job.status with result := none } := by
        rw [← hreconciled.noPayload]
      rw [hpayload]
      refine hreconciled.contract ?_ fun _ => rfl
      intro name hname
      rw [hartifact] at hname
      cases hname
    | some name =>
      rw [hartifact] at hlast
      obtain ⟨merged, t', hmerged, hreturn⟩ := Task.run_bind_inv hlast
      obtain ⟨payload, rfl, hpresent, hfile⟩ := RealRuntimeRepository.withArtifact_inv hmerged
      rw [hend hreturn]
      refine hreconciled.contract ?_ ?_
      · intro name' hname' hs
        rw [hartifact] at hname'
        cases hname'
        obtain ⟨entries, hentries⟩ := Option.isSome_iff_exists.mp (hpresent hs)
        obtain ⟨path, hpath⟩ := hfile entries hentries
        exact ⟨path, entries, hentries, hpath⟩
      · rw [hartifact]
        intro hnone
        cases hnone

/-- A Session that ended with a reward and wrote its artifact. -/
theorem result_contract_succeeded :
    let job := { newControlJob sampleJob 0 with
      status := .running, bindingJson := some sampleBinding.toJson }
    let final : Row := [("is_session_completed", .bool true), ("reward", .int 1),
      ("created_at", .datetime ⟨0, some 0⟩)]
    let b := { sampleBackend with
      data := .serving [final]
      files := fun _ _ _ _ => { present := .ok true, symlink := .ok false, isFile := .ok true
                                size := .ok 2, document := .ok (.dict []) } }
    ∃ reported result, ResultContract b "job" "session" job sampleGroup reported result ∧
      result.resultStatus = .succeeded := by
  intro job final b
  obtain ⟨job', reported, config, group, hfind, -, hconfig, hgroups, hcontract⟩ :=
    result_contract sampleRepository b { username := some "alice" } "job" "session"
      ⟨⟨[job], by decide⟩, []⟩ _ _ rfl
  cases hfind
  cases hconfig
  cases hgroups
  exact ⟨reported, _, hcontract, rfl⟩

end SafactoryServer
