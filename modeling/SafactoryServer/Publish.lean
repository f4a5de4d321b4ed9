import SafactoryServer.Backend
import SafactoryServer.Rendering

/-! The input directory of a Job appears whole or not at all, whatever fails and wherever `bind` is
cut off; and a Job that has one keeps it. -/

namespace SafactoryServer

open Effect FileTree FileTree.Tree FileTask

/-- A rendering that returned `b`, from an empty staging directory on, has left `t` there, with the
document of `b`. -/
structure RenderedBy (m : SharedFileManager) (jobId rangeId : String) (b : JobFileBinding)
    (t : Files) (name : String) (config : RangeConfig) (s s' : Files) : Prop where
  range : config.rangeId = rangeId
  available : config.available = true
  empty : s.under (stagingPath m.root name) = emptyDir
  exec : Exec (storage m.root .any jobId)
    (m.renderBinding (stagingPath m.root name) (m.root ++ [jobId]) jobId config) s (.ok b) s'
  tree : t = (s'.under (stagingPath m.root name)).put [".binding.json"] (.file (.json b.toJson))

/-- All that a rendering which returned `b` has written, and a `.binding.json` that parses to
`b`. -/
structure Complete (m : SharedFileManager) (jobId rangeId : String) (b : JobFileBinding)
    (t : Files) : Prop where
  rendered : ∃ name config s s', RenderedBy m jobId rangeId b t name config s s'
  files : RenderedFiles m b t
  binding : ∃ document, t [".binding.json"] = some (.file (.json document)) ∧
    JobFileBinding.fromJson document = .ok b
  jobId_eq : b.jobId = jobId
  rangeId_eq : b.rangeId = rangeId

/-- The results of no Job are kept in the input directory of `jobId` or in a staging directory. -/
structure Separate (m : SharedFileManager) (jobId : String) : Prop where
  root : m.resultsRoot ≠ m.root
  job : ¬ m.root ++ [jobId] <+: m.resultsRoot
  staging : ∀ name, ¬ stagingPath m.root name <+: m.resultsRoot

section

variable {m : SharedFileManager} {jobId : String}

theorem Separate.results (h : Separate m jobId) {child : String}
    (hchild : ¬ m.root ++ [child] <+: m.resultsRoot) (other : String) :
    ¬ m.root ++ [child] <+: m.resultsRoot ++ [other] := by
  intro hp
  rcases prefix_child hp with hp | heq
  · exact hchild hp
  · exact h.root (List.append_inj_left' heq rfl).symm

/-- A staging directory is no input directory: the ID of a Job starts with a letter or a digit. -/
theorem staging_apart (hsafe : safeName jobId = true) (name : String) :
    Apart (stagingPath m.root name) (m.root ++ [jobId]) := by
  refine Apart.siblings (fun heq => ?_) m.root
  have hdot : safeName (".input-" ++ name) = false := by
    unfold safeName
    rw [String.toList_append]
    rfl
  rw [heq, hsafe] at hdot
  cases hdot

/-- What is put beside the files of a binding leaves them. -/
theorem RenderedFiles.put {b : JobFileBinding} {t : Files} {node : Node FileContent}
    (h : RenderedFiles m b t) : RenderedFiles m b (t.put [".binding.json"] node) := by
  have hother : ∀ c sub, c ≠ ".binding.json" →
      t.put [".binding.json"] node (c :: sub) = t (c :: sub) := by
    intro c sub hc
    exact if_neg fun heq => hc (List.cons.inj heq).1
  refine ⟨?_, ?_, ?_, ?_⟩
  · rw [hother _ _ (by decide)]
    exact h.agent
  · rw [hother _ _ (by decide)]
    exact h.gateway
  · rw [hother _ _ (by decide)]
    exact h.launcher
  · intro group hgroup
    rw [hother _ _ (by decide), hother _ _ (by decide)]
    exact h.groups group hgroup

theorem RenderedBy.complete {rangeId name : String} {b : JobFileBinding} {t s s' : Files}
    {config : RangeConfig} (h : RenderedBy m jobId rangeId b t name config s s') :
    Complete m jobId rangeId b t := by
  obtain ⟨group, source, environment, rendered, hbinding⟩ := renderBinding_exec h.exec
  refine ⟨⟨name, config, s, s', h⟩, h.tree ▸ hbinding.files.put, ⟨b.toJson, ?_, ?_⟩,
    congrArg JobFileBinding.jobId hbinding.binding,
    (congrArg JobFileBinding.rangeId hbinding.binding).trans h.range⟩
  · simp [h.tree, FileTree.Tree.put]
  · exact JobFileBinding.fromJson_toJson b

theorem Complete.present {rangeId : String} {b : JobFileBinding} {t : Files}
    (h : Complete m jobId rangeId b t) : t ≠ absent ∧ t ≠ emptyDir := by
  obtain ⟨document, hfile, -⟩ := h.binding
  refine ⟨fun ht => ?_, fun ht => ?_⟩
  · rw [ht] at hfile
    cases hfile
  · rw [ht] at hfile
    cases hfile

variable {W : Surroundings}

/-- A rendering and the write of its document, as `publish` does them. -/
theorem staged_complete {name : String} {config : RangeConfig} {b : JobFileBinding}
    {s s₁ s₂ : Files} (havailable : config.available = true)
    (hempty : s.under (stagingPath m.root name) = emptyDir)
    (hrender : Exec (storage m.root W jobId)
      (m.renderBinding (stagingPath m.root name) (m.root ++ [jobId]) jobId config) s (.ok b) s₁)
    (hwrite : Exec (storage m.root W jobId)
      (writeJson (stagingPath m.root name ++ [".binding.json"]) b.toJson) s₁ (.ok ()) s₂) :
    Complete m jobId config.rangeId b (s₂.under (stagingPath m.root name)) := by
  have hany : Exec (storage m.root .any jobId)
      (m.renderBinding (stagingPath m.root name) (m.root ++ [jobId]) jobId config) s (.ok b) s₁ :=
    hrender.mono (fun _ _ h => h) fun _ _ _ _ h => performs_any h
  exact RenderedBy.complete ⟨rfl, havailable, hempty, hany, written_under (writeJson_ok hwrite).2⟩

end

/-! ### Runs -/

/-- The input directory of a Job is absent or complete. -/
def Intact (m : SharedFileManager) (jobId : String) (t : Files) : Prop :=
  t = absent ∨ ∃ rangeId b, Complete m jobId rangeId b t

/-- The state that `bind` reports as a partial input binding. -/
def IsPartial (t : Files) : Prop := (t []).isSome = true ∧ (t [".binding.json"]).isSome = false

/-- The contract of `bind`: it touches the input directory only to rename a complete staging
directory to it, and never one that was there at first, when it was `t₀`. -/
def publishing (m : SharedFileManager) (jobId : String) (t₀ : Files) : Contract FileOp Files where
  inv s := Intact m jobId (s.under (m.root ++ [jobId])) ∧
    (t₀ ≠ absent → s.under (m.root ++ [jobId]) = t₀)
  idle _ := True
  allowed s e := Spares (m.root ++ [jobId]) e ∨
    ∃ name rangeId b, e = .replace (stagingPath m.root name) (m.root ++ [jobId]) ∧
      Complete m jobId rangeId b (s.under (stagingPath m.root name))

section

variable {m : SharedFileManager} {W : Surroundings} {jobId : String} {t₀ : Files}

theorem Intact.not_isPartial {t : Files} (h : Intact m jobId t) : ¬ IsPartial t := by
  rintro ⟨hpresent, hmissing⟩
  rcases h with rfl | ⟨_, _, hcomplete⟩
  · cases hpresent
  · obtain ⟨document, hfile, -⟩ := hcomplete.binding
    rw [hfile] at hmissing
    cases hmissing

/-- What an allowed call leaves of the input directory. -/
theorem publishing_answer {s₀ s s' : Files} {e : FileOp} {r : FileAns e}
    (ha : (publishing m jobId t₀).allowed s₀ e) (hw : (storage m.root W jobId).Waits s₀ s)
    (hi : (publishing m jobId t₀).inv s) (hp : performs W e s r s') :
    (publishing m jobId t₀).inv s' := by
  rcases ha with hspares | ⟨name, rangeId, b, rfl, hcomplete⟩
  · simp only [publishing, performs_under hspares hp]
    exact hi
  · cases r with
    | error x =>
      obtain rfl : s' = s := hp
      exact hi
    | ok =>
      obtain ⟨-, hvacant, rfl⟩ := hp
      refine ⟨.inr ⟨rangeId, b, ?_⟩, fun hpresent => ?_⟩
      · rw [under_move_dst, (waits_under hw).2 name]
        exact hcomplete
      · -- a rename to a complete directory does not succeed
        rcases hi.1 with habsent | ⟨_, _, hthere⟩
        · exact absurd ((hi.2 hpresent).symm.trans habsent) hpresent
        · rcases hvacant with hvacant | hvacant
          · exact absurd hvacant hthere.present.1
          · exact absurd hvacant hthere.present.2

theorem publishing_kept :
    (publishing m jobId t₀).Kept (storage m.root W jobId) fun _ _ _ => True where
  interference hi hstep _ := by
    simp only [publishing, hstep.1]
    exact hi
  idle _ _ _ := trivial
  answer _ ha hw hi hp _ := publishing_answer ha hw hi hp
  crash hi hcrash _ := by
    obtain rfl : _ = _ := hcrash
    exact ⟨hi, trivial⟩
  lost _ ha hw hi hp hcrash _ := by
    obtain rfl : _ = _ := hcrash
    exact ⟨publishing_answer ha hw hi hp, trivial⟩

/-- A task whose calls are allowed by the contract, with no more said of its end. -/
abbrev Abides {α : Type} (m : SharedFileManager) (W : Surroundings) (jobId : String) (t₀ : Files)
    (p : FileTask α) (s : Files) : Prop :=
  p.Safe (storage m.root W jobId) (publishing m jobId t₀) (fun _ _ => True) (fun _ _ => True) s

theorem abides_of_asks {α : Type} {p : FileTask α} {s : Files}
    (h : p.Asks (Spares (m.root ++ [jobId]))) : Abides m W jobId t₀ p s :=
  (h.safe (fun _ _ he => Or.inl he) s).mono (fun _ _ _ => trivial) fun _ _ _ => trivial

theorem abides_bind {α β : Type} {p : FileTask α} {f : α → FileTask β} {s : Files}
    (h : p.Asks (Spares (m.root ++ [jobId]))) (hf : ∀ a s', Abides m W jobId t₀ (f a) s') :
    Abides m W jobId t₀ (p >>= f) s :=
  Task.Safe.bind (abides_of_asks h) (fun a s' _ => hf a s') fun _ _ _ => trivial

theorem discard_asks {P : FileOp → Prop} {staging : Path} (h : P (.rmtree staging))
    (x : BindExc) : (SharedFileManager.discard staging x).Asks P := by
  cases x with
  | fileBinding message => exact .bind (.ask h) fun _ => .throw _
  | fault x =>
    rw [SharedFileManager.discard]
    split
    · exact .bind (.ask h) fun _ => .throw _
    · exact .throw _

theorem bindAgain_asks {P : FileOp → Prop} {path : Path} {job rangeId : String}
    (h : P (.readText path)) : (SharedFileManager.bindAgain path job rangeId).Asks P := by
  refine .bind (.bind (.ask h) attempt_asks) fun document => ?_
  split
  · exact .throw _
  · exact .throw _
  · split
    · exact .throw _
    · exact .pure _

/-- What a rendering spares. -/
theorem renderBinding_spares {name job : String} {finalInput area : Path} {config : RangeConfig}
    (hapart : Apart (stagingPath m.root name) area) (hresults : ¬ area <+: m.resultsRoot ++ [job]) :
    (m.renderBinding (stagingPath m.root name) finalInput job config).Asks (Spares area) :=
  (renderBinding_asks _ _ _).mono fun _ he => he.spares hapart hresults

/-- The `try` clause of `bind` renames the staging directory only when it is complete. -/
theorem publish_abides (hsafe : safeName jobId = true) (hsep : Separate m jobId) {name job : String}
    {config : RangeConfig} {s : Files} (havailable : config.available = true)
    (hempty : s.under (stagingPath m.root name) = emptyDir) :
    Abides m W jobId t₀ (m.publish (stagingPath m.root name) (m.root ++ [job]) job config) s := by
  have hapart : Apart (stagingPath m.root name) (m.root ++ [jobId]) := staging_apart hsafe name
  refine Task.Safe.bind ((renderBinding_spares hapart (hsep.results hsep.job job)).safe
    (fun _ _ he => Or.inl he) s) (fun b s₁ hrender => ?_) fun _ _ _ => trivial
  refine Task.Safe.bind ((writeJson_asks (P := Spares (m.root ++ [jobId]))
    (hapart.symm.below _).symm).safe (fun _ _ he => Or.inl he) s₁)
    (fun _ s₂ hwrite => ?_) fun _ _ _ => trivial
  have hallowed : (publishing m jobId t₀).allowed s₂
      (.replace (stagingPath m.root name) (m.root ++ [job])) := by
    by_cases hjob : job = jobId
    · subst hjob
      exact .inr ⟨name, config.rangeId, b, rfl,
        staged_complete havailable hempty hrender hwrite⟩
    · exact .inl ⟨hapart, Apart.siblings hjob m.root⟩
  have hreplace : Abides m W jobId t₀ (replace (stagingPath m.root name) (m.root ++ [job])) s₂ :=
    Task.Safe.bind (R := fun _ _ => True) (F := fun _ _ => True)
      (Task.Safe.ask hallowed fun _ _ _ _ _ _ _ => trivial)
      (fun r _ _ => abides_of_asks (attempt_asks r)) fun _ _ _ => trivial
  exact Task.Safe.bind hreplace (fun _ _ _ => trivial) fun _ _ _ => trivial

theorem bindFresh_abides (hsafe : safeName jobId = true) (hsep : Separate m jobId) {job : String}
    {config : RangeConfig} (havailable : config.available = true) (s : Files) :
    Abides m W jobId t₀ (m.bindFresh (m.root ++ [job]) job config) s := by
  refine abides_bind (mkdirs_asks fun h => ?_) fun _ s₁ => ?_
  · simpa using h.length_le
  refine Task.Safe.bind ((mkdtemp_asks (staging_apart hsafe)).safe (fun _ _ he => Or.inl he) s₁)
    (fun staging s₂ hexec => ?_) fun _ _ _ => trivial
  obtain ⟨⟨_, hx⟩, -⟩ | ⟨name, hname, -, hempty, -⟩ := mkdtemp_exec hexec
  · cases hx
  obtain rfl := Except.ok.inj hname
  refine Task.Safe.tryCatch (publish_abides hsafe hsep havailable hempty) fun x s₃ _ => ?_
  exact abides_of_asks (discard_asks (staging_apart hsafe name) x)

theorem bindInput_abides (hsafe : safeName jobId = true) (hsep : Separate m jobId)
    (job rangeId : String) {config : RangeConfig} (havailable : config.available = true)
    (s : Files) : Abides m W jobId t₀ (m.bindInput job rangeId config) s := by
  refine abides_bind (.ask trivial) fun published s₁ => ?_
  split
  · exact abides_of_asks (bindAgain_asks trivial)
  · refine abides_bind (.ask trivial) fun present s₂ => ?_
    split
    · exact abides_of_asks (.throw _)
    · exact bindFresh_abides hsafe hsep havailable s₂

theorem bind_abides (hsafe : safeName jobId = true) (hsep : Separate m jobId)
    (job rangeId : String) (s : Files) : Abides m W jobId t₀ (m.bind job rangeId) s := by
  unfold SharedFileManager.bind
  split
  · exact abides_of_asks (.throw _)
  · refine abides_bind (.ask trivial) fun catalog s₁ => ?_
    split
    · exact abides_of_asks (.throw _)
    · exact abides_of_asks (.throw _)
    · next config _ =>
      dsimp only
      split
      · exact abides_of_asks (.throw _)
      · next havailable =>
        exact bindInput_abides hsafe hsep job rangeId (by simpa using havailable) s₁

/-- In a run that serves one call of `bind` after another, wherever it crashes, the input directory
of the Job is absent or complete, and one that is there stays as it is. -/
theorem intact_ofReaches (hsafe : safeName jobId = true) (hsep : Separate m jobId)
    {c₀ c : Config FileOp FileAns Files (Except BindExc JobFileBinding)}
    (h₀ : c₀.program = none) (hintact : Intact m jobId (c₀.state.under (m.root ++ [jobId])))
    (h : Reaches (storage m.root W jobId) m.serve (fun _ => True) (fun _ _ _ => True) c₀ c) :
    Intact m jobId (c.state.under (m.root ++ [jobId])) ∧
      ¬ IsPartial (c.state.under (m.root ++ [jobId])) ∧
      (c₀.state.under (m.root ++ [jobId]) ≠ absent →
        c.state.under (m.root ++ [jobId]) = c₀.state.under (m.root ++ [jobId])) := by
  have hserve : ∀ s, Abides m W jobId (c₀.state.under (m.root ++ [jobId])) m.serve s :=
    fun s => abides_bind (.ask trivial) fun _ s₁ => bind_abides hsafe hsep _ _ s₁
  have hkept := (Contract.Attends.ofReaches publishing_kept (fun s _ _ => hserve s)
    (fun _ _ _ _ _ _ => trivial) ⟨hintact, fun _ => rfl⟩ (by rw [h₀]; exact trivial) h).1
  exact ⟨hkept.1, hkept.1.not_isPartial, hkept.2⟩

end

/-! ### One call of `bind` -/

/-- The call changes nothing. -/
def ReadsOnly : FileOp → Prop
  | .catalog | .readYaml _ | .readBytes _ | .isFileBeside _ _ | .iterdirBeside _ | .exists _
  | .readText _ => True
  | _ => False

/-- The contract of a program that only reads. -/
def reading : Contract FileOp Files where
  inv _ := True
  idle _ := True
  allowed _ e := ReadsOnly e

section

variable {m : SharedFileManager} {W : Surroundings} {jobId rangeId : String} {s s' : Files}
  {r : Except BindExc JobFileBinding} {config : RangeConfig}

/-- The range can be bound. -/
def Resolves (catalog : RealCatalog) (rangeId : String) (config : RangeConfig) : Prop :=
  catalog.resolveRange rangeId = .ok (some config) ∧ config.available = true

/-- A `bind` raises at once, or goes on with a range that is available. -/
theorem bind_cases (h : Exec (storage m.root W jobId) (m.bind jobId rangeId) s r s') :
    (∃ x, r = .error x ∧ (storage m.root W jobId).Waits s s' ∧ (safeName jobId = true →
        ∃ catalog, W.catalogs catalog ∧ ¬ ∃ config, Resolves catalog rangeId config)) ∨
      ∃ catalog config s₁, Resolves catalog rangeId config ∧
        (storage m.root W jobId).Waits s s₁ ∧
        Exec (storage m.root W jobId) (m.bindInput jobId rangeId config) s₁ r s' := by
  unfold SharedFileManager.bind at h
  split at h
  · next hrefused =>
    cases h
    exact .inl ⟨_, rfl, .refl, fun hsafe => by simp [hsafe] at hrefused⟩
  · obtain ⟨catalog, _, s₁, hw, ⟨hcatalog, rfl⟩, hrest⟩ := Exec.ask_bind_inv h
    split at hrest
    · next hresolve =>
      cases hrest
      exact .inl ⟨_, rfl, hw, fun _ => ⟨catalog, hcatalog, by simp [Resolves, hresolve]⟩⟩
    · next hresolve =>
      cases hrest
      exact .inl ⟨_, rfl, hw, fun _ => ⟨catalog, hcatalog, by simp [Resolves, hresolve]⟩⟩
    · next config hresolve =>
      dsimp only at hrest
      split at hrest
      · next hunavailable =>
        cases hrest
        refine .inl ⟨_, rfl, hw, fun _ => ⟨catalog, hcatalog, ?_⟩⟩
        simpa [Resolves, hresolve] using hunavailable
      · next havailable =>
        exact .inr ⟨catalog, config, s₁, ⟨hresolve, by simpa using havailable⟩, hw, hrest⟩

/-- Which way `bind` goes is decided by what the input directory holds. -/
theorem bindInput_cases
    (h : Exec (storage m.root W jobId) (m.bindInput jobId rangeId config) s r s') :
    ∃ s₁, (storage m.root W jobId).Waits s s₁ ∧
      (((s.under (m.root ++ [jobId])) [".binding.json"]).isSome = true ∧
          Exec (storage m.root W jobId) (SharedFileManager.bindAgain
            (m.root ++ [jobId] ++ [".binding.json"]) jobId rangeId) s₁ r s' ∨
        ((s.under (m.root ++ [jobId])) [".binding.json"]).isSome = false ∧
          (((s.under (m.root ++ [jobId])) []).isSome = true ∧ (∃ x, r = .error x) ∧ s' = s₁ ∨
            ((s.under (m.root ++ [jobId])) []).isSome = false ∧
              Exec (storage m.root W jobId) (m.bindFresh (m.root ++ [jobId]) jobId config)
                s₁ r s')) := by
  obtain ⟨published, _, s₁, hw, ⟨hpublished, rfl⟩, hrest⟩ := Exec.ask_bind_inv h
  rw [← (waits_under hw).1]
  cases published with
  | true => exact ⟨s₁, hw, .inl ⟨hpublished.symm, hrest⟩⟩
  | false =>
    obtain ⟨present, _, s₂, hw', ⟨hpresent, rfl⟩, hrest⟩ := Exec.ask_bind_inv hrest
    refine ⟨s₂, hw.trans hw', .inr ⟨hpublished.symm, ?_⟩⟩
    rw [← (waits_under hw').1]
    cases present with
    | true =>
      cases hrest
      exact .inl ⟨by simpa [under] using hpresent.symm, ⟨_, rfl⟩, rfl⟩
    | false => exact .inr ⟨by simpa [under] using hpresent.symm, hrest⟩

/-- A rename happens, or changes nothing. -/
theorem replace_exec {src dst : Path} {result : Except BindExc Unit}
    (h : Exec (storage m.root W jobId) (replace src dst) s result s') :
    ∃ s₁, (storage m.root W jobId).Waits s s₁ ∧
      ((∃ x, result = .error x) ∧ s' = s₁ ∨ result = .ok () ∧ s' = s₁.move src dst) := by
  obtain ⟨answer, s₁, s₂, hw, hperform, hattempt⟩ := Exec.ask_bind_inv h
  obtain ⟨rfl, rfl⟩ := attempt_exec hattempt
  cases answer with
  | error x => exact ⟨s₁, hw, .inl ⟨⟨_, rfl⟩, hperform⟩⟩
  | ok => exact ⟨s₁, hw, .inr ⟨rfl, hperform.2.2⟩⟩

/-- A `try` clause that returned has published what it rendered. -/
theorem publish_ok {name : String} {b : JobFileBinding}
    (havailable : config.available = true) (hempty : s.under (stagingPath m.root name) = emptyDir)
    (h : Exec (storage m.root W jobId)
      (m.publish (stagingPath m.root name) (m.root ++ [jobId]) jobId config) s (.ok b) s') :
    Complete m jobId config.rangeId b (s'.under (m.root ++ [jobId])) := by
  obtain ⟨_, s₁, hrender, hrest⟩ := h.task_bind_inv
  obtain ⟨_, s₂, hwrite, hrest⟩ := hrest.task_bind_inv
  obtain ⟨_, s₃, hreplace, hreturn⟩ := hrest.task_bind_inv
  cases hreturn
  obtain ⟨s₄, hw, ⟨⟨_, hx⟩, -⟩ | ⟨-, rfl⟩⟩ := replace_exec hreplace
  · cases hx
  · rw [under_move_dst, (waits_under hw).2 name]
    exact staged_complete havailable hempty hrender hwrite

/-- A binding that was published has no integer that is too long for its text. -/
theorem publish_prints {staging finalInput : Path} {b : JobFileBinding}
    (h : Exec (storage m.root W jobId) (m.publish staging finalInput jobId config) s (.ok b) s') :
    ∀ n ∈ b.toJson.ints, Json.Prints n := by
  obtain ⟨_, s₁, -, hrest⟩ := h.task_bind_inv
  obtain ⟨_, s₂, hwrite, hrest⟩ := hrest.task_bind_inv
  obtain ⟨_, s₃, -, hreturn⟩ := hrest.task_bind_inv
  cases hreturn
  exact (writeJson_ok hwrite).1

/-- A `try` clause that raised has changed its staging directory only. -/
theorem publish_error {name : String} {area : Path} {x : BindExc} (hkept : Kept m.root jobId area)
    (hapart : Apart (stagingPath m.root name) area) (hresults : ¬ area <+: m.resultsRoot ++ [jobId])
    (h : Exec (storage m.root W jobId)
      (m.publish (stagingPath m.root name) (m.root ++ [jobId]) jobId config) s (.error x) s') :
    s'.under area = s.under area := by
  have hrender : (m.renderBinding (stagingPath m.root name) (m.root ++ [jobId]) jobId config).Asks
      (Spares area) := renderBinding_spares hapart hresults
  obtain ⟨_, -, hfirst⟩ | ⟨b, s₁, hfirst, hrest⟩ := h.task_inv
  · exact hkept.exec hrender hfirst
  have hwrite : (writeJson (stagingPath m.root name ++ [".binding.json"]) b.toJson).Asks
      (Spares area) := writeJson_asks (hapart.symm.below _).symm
  rw [← hkept.exec hrender hfirst]
  obtain ⟨_, -, hsecond⟩ | ⟨_, s₂, hsecond, hrest⟩ := hrest.task_inv
  · exact hkept.exec hwrite hsecond
  rw [← hkept.exec hwrite hsecond]
  obtain ⟨_, -, hthird⟩ | ⟨_, s₃, -, hreturn⟩ := hrest.task_inv
  · obtain ⟨s₃, hw, ⟨-, rfl⟩ | ⟨hok, -⟩⟩ := replace_exec hthird
    · exact hkept.waits hw
    · cases hok
  · cases hreturn

/-- The `except` clauses raise, and leave no staging directory behind a `FileBindingError`. -/
theorem discard_exec {name : String} {x : BindExc} (h : Exec (storage m.root W jobId)
      (SharedFileManager.discard (stagingPath m.root name) x) s r s') :
    ∃ y, r = .error y ∧ (W.cleans → (∃ message, y = .fileBinding message) →
      s'.under (stagingPath m.root name) = absent) := by
  unfold SharedFileManager.discard at h
  split at h
  · obtain ⟨_, s₁, s₂, -, hperform, hraise⟩ := Exec.ask_bind_inv h
    cases hraise
    exact ⟨_, rfl, fun hcleans _ => hperform.2.2 hcleans⟩
  · split at h
    · obtain ⟨_, s₁, s₂, -, hperform, hraise⟩ := Exec.ask_bind_inv h
      cases hraise
      exact ⟨_, rfl, fun hcleans _ => hperform.2.2 hcleans⟩
    · cases h
      exact ⟨_, rfl, fun _ ⟨_, hx⟩ => by cases hx⟩

/-- The names of staging directories tell them apart. -/
theorem stagingPath_apart {root : Path} {name other : String} (h : name ≠ other) :
    Apart (stagingPath root name) (stagingPath root other) :=
  Apart.siblings (fun heq => h (by simpa using heq)) root

/-- `bindFresh` comes to its `try` clause with an empty staging directory, or raises before. -/
theorem bindFresh_cases (h : Exec (storage m.root W jobId)
      (m.bindFresh (m.root ++ [jobId]) jobId config) s r s') :
    ∃ s₁, (∀ area, Kept m.root jobId area → ¬ area <+: m.root → s₁.under area = s.under area) ∧
      ((∃ x, r = .error x) ∧ s' = s₁ ∨
        ∃ name s₂, s₁.under (stagingPath m.root name) = absent ∧
          s₂.under (stagingPath m.root name) = emptyDir ∧
          (∀ area, Kept m.root jobId area → Apart (stagingPath m.root name) area →
            s₂.under area = s₁.under area) ∧
          Exec (storage m.root W jobId) (tryCatch
            (m.publish (stagingPath m.root name) (m.root ++ [jobId]) jobId config)
            (SharedFileManager.discard (stagingPath m.root name)) : FileTask JobFileBinding)
            s₂ r s') := by
  have hmkdirs : ∀ result s₁, Exec (storage m.root W jobId) (mkdirs m.root true) s result s₁ →
      ∀ area, Kept m.root jobId area → ¬ area <+: m.root → s₁.under area = s.under area :=
    fun result s₁ hexec area hkept hroot =>
      hkept.exec (mkdirs_asks hroot) hexec
  obtain ⟨x, rfl, hfirst⟩ | ⟨_, s₁, hfirst, hrest⟩ := h.task_inv
  · exact ⟨s', hmkdirs _ _ hfirst, .inl ⟨⟨x, rfl⟩, rfl⟩⟩
  · obtain ⟨x, rfl, hsecond⟩ | ⟨staging, s₂, hsecond, htry⟩ := hrest.task_inv
    · obtain ⟨-, hw⟩ | ⟨_, hok, -⟩ := mkdtemp_exec hsecond
      · refine ⟨s', fun area hkept hroot => ?_, .inl ⟨⟨x, rfl⟩, rfl⟩⟩
        exact (hkept.waits hw).trans (hmkdirs _ _ hfirst area hkept hroot)
      · cases hok
    · obtain ⟨⟨_, hx⟩, -⟩ | ⟨name, hname, habsent, hempty, hothers⟩ := mkdtemp_exec hsecond
      · cases hx
      · obtain rfl := Except.ok.inj hname
        exact ⟨s₁, hmkdirs _ _ hfirst, .inr ⟨name, s₂, habsent, hempty, hothers, htry⟩⟩

/-- A `bindFresh` that returned has published what it rendered. -/
theorem bindFresh_ok {b : JobFileBinding} (havailable : config.available = true)
    (h : Exec (storage m.root W jobId) (m.bindFresh (m.root ++ [jobId]) jobId config) s
      (.ok b) s') :
    Complete m jobId config.rangeId b (s'.under (m.root ++ [jobId])) := by
  obtain ⟨s₁, -, ⟨⟨_, hx⟩, -⟩ | ⟨name, s₂, -, hempty, -, htry⟩⟩ := bindFresh_cases h
  · cases hx
  rcases htry.tryCatch_inv with ⟨_, hok, hpublish⟩ | ⟨x, s₃, -, hdiscard⟩
  · obtain rfl := Except.ok.inj hok
    exact publish_ok havailable hempty hpublish
  · obtain ⟨_, hy, -⟩ := discard_exec hdiscard
    cases hy

theorem bindFresh_prints {b : JobFileBinding}
    (h : Exec (storage m.root W jobId) (m.bindFresh (m.root ++ [jobId]) jobId config) s
      (.ok b) s') : ∀ n ∈ b.toJson.ints, Json.Prints n := by
  obtain ⟨s₁, -, ⟨⟨_, hx⟩, -⟩ | ⟨name, s₂, -, -, -, htry⟩⟩ := bindFresh_cases h
  · cases hx
  rcases htry.tryCatch_inv with ⟨_, hok, hpublish⟩ | ⟨x, s₃, -, hdiscard⟩
  · obtain rfl := Except.ok.inj hok
    exact publish_prints hpublish
  · obtain ⟨_, hy, -⟩ := discard_exec hdiscard
    cases hy

/-- A `bindFresh` that raised leaves the input directory as it was. -/
theorem bindFresh_error {x : BindExc} (hsafe : safeName jobId = true) (hsep : Separate m jobId)
    (h : Exec (storage m.root W jobId) (m.bindFresh (m.root ++ [jobId]) jobId config) s
      (.error x) s') :
    s'.under (m.root ++ [jobId]) = s.under (m.root ++ [jobId]) ∧
      (W.cleans → (∃ message, x = .fileBinding message) → ∀ name,
        s'.under (stagingPath m.root name) = s.under (stagingPath m.root name)) := by
  have hbelow : ∀ child, ¬ m.root ++ [child] <+: m.root := fun child h => by simpa using h.length_le
  obtain ⟨s₁, hfirst, ⟨-, rfl⟩ | ⟨name, s₂, habsent, hempty, hothers, htry⟩⟩ := bindFresh_cases h
  · exact ⟨hfirst _ .input (hbelow _), fun _ _ name => hfirst _ (.temporary name) (hbelow _)⟩
  rcases htry.tryCatch_inv with ⟨b, hok, -⟩ | ⟨y, s₃, hpublish, hdiscard⟩
  · cases hok
  · obtain ⟨_, hx, hclean⟩ := discard_exec hdiscard
    cases hx
    -- but for the staging directory, all is as before
    have hspared : ∀ area, Kept m.root jobId area → ¬ area <+: m.root →
        Apart (stagingPath m.root name) area → ¬ area <+: m.resultsRoot ++ [jobId] →
        s'.under area = s.under area := by
      intro area hkept hroot hapart hresults
      rw [hkept.exec (discard_asks hapart y) hdiscard,
        publish_error hkept hapart hresults hpublish, hothers area hkept hapart,
        hfirst area hkept hroot]
    refine ⟨hspared _ .input (hbelow _) (staging_apart hsafe name)
      (hsep.results hsep.job jobId), fun hcleans hhandled other => ?_⟩
    by_cases hother : name = other
    · subst hother
      rw [hclean hcleans hhandled, ← habsent]
      exact hfirst _ (.temporary name) (hbelow _)
    · exact hspared _ (.temporary other) (hbelow _) (stagingPath_apart hother)
        (hsep.results (hsep.staging other) jobId)

/-- `bind` of a Job without a binding. -/
theorem bindInput_absent (habsent : s.under (m.root ++ [jobId]) = absent)
    (h : Exec (storage m.root W jobId) (m.bindInput jobId rangeId config) s r s') :
    ∃ s₁, (storage m.root W jobId).Waits s s₁ ∧
      Exec (storage m.root W jobId) (m.bindFresh (m.root ++ [jobId]) jobId config) s₁ r s' := by
  obtain ⟨s₁, hw, ⟨hpublished, -⟩ | ⟨-, ⟨hpresent, -⟩ | ⟨-, hfresh⟩⟩⟩ := bindInput_cases h
  · rw [habsent] at hpublished
    cases hpublished
  · rw [habsent] at hpresent
    cases hpresent
  · exact ⟨s₁, hw, hfresh⟩

/-- `bindAgain` returns the binding that it reads, if it is one of the range. -/
theorem bindAgain_reads {b : JobFileBinding} {bound : String}
    (hcomplete : Complete m jobId bound b (s.under (m.root ++ [jobId]))) :
    (SharedFileManager.bindAgain (m.root ++ [jobId] ++ [".binding.json"]) jobId rangeId).Safe
      (storage m.root W jobId) reading (fun b' _ => bound = rangeId ∧ b' = b)
      (fun _ _ => bound ≠ rangeId) s := by
  obtain ⟨document, hfile, hparse⟩ := hcomplete.binding
  have hread : (readText (m.root ++ [jobId] ++ [".binding.json"])).Safe (storage m.root W jobId)
      reading (fun read _ => read = document) (fun _ _ => False) s := by
    refine Task.Safe.bind (R := fun answer _ => answer = .ok document) (F := fun _ _ => False)
      (Task.Safe.ask trivial fun s' hw _ answer _ hp _ => ?_) ?_ fun _ _ h => h
    · rw [← (waits_under hw).1] at hfile
      exact hp.1 document hfile
    · rintro _ s' rfl
      exact rfl
  refine Task.Safe.bind hread ?_ fun _ _ h => h.elim
  rintro _ s' rfl
  simp only [hparse, hcomplete.jobId_eq, hcomplete.rangeId_eq, ne_eq, not_true_eq_false,
    false_or, ite_not]
  split
  · next heq => exact Task.Safe.pure ⟨heq, rfl⟩
  · next hne => exact Task.Safe.throw hne

/-- `bind` of a Job with a binding only reads, and returns that binding or raises. -/
theorem bind_reads {b : JobFileBinding} {bound : String} (hsafe : safeName jobId = true)
    (hcomplete : Complete m jobId bound b (s.under (m.root ++ [jobId]))) :
    (m.bind jobId rangeId).Safe (storage m.root W jobId) reading
      (fun b' _ => bound = rangeId ∧ b' = b)
      (fun _ _ => bound ≠ rangeId ∨
        ∃ catalog, W.catalogs catalog ∧ ¬ ∃ config, Resolves catalog rangeId config) s := by
  obtain ⟨document, hfile, -⟩ := hcomplete.binding
  unfold SharedFileManager.bind
  rw [if_neg (by simp [hsafe])]
  refine Task.Safe.bind (R := fun catalog s₁ => W.catalogs catalog ∧
      s₁.under (m.root ++ [jobId]) = s.under (m.root ++ [jobId])) (F := fun _ _ => False)
    (Task.Safe.ask trivial ?_) ?_ fun _ _ h => h.elim
  · rintro s₁ hw - catalog _ ⟨hcatalog, rfl⟩ -
    exact ⟨hcatalog, (waits_under hw).1⟩
  rintro catalog s₁ ⟨hcatalog, hsame⟩
  split
  · next hresolve => exact Task.Safe.throw (.inr ⟨catalog, hcatalog, by simp [Resolves, hresolve]⟩)
  · next hresolve => exact Task.Safe.throw (.inr ⟨catalog, hcatalog, by simp [Resolves, hresolve]⟩)
  · next config hresolve =>
    dsimp only
    split
    · next hunavailable =>
      refine Task.Safe.throw (.inr ⟨catalog, hcatalog, ?_⟩)
      simpa [Resolves, hresolve] using hunavailable
    · -- the binding is there
      refine Task.Safe.bind (R := fun published s₂ => published = true ∧
          s₂.under (m.root ++ [jobId]) = s.under (m.root ++ [jobId])) (F := fun _ _ => False)
        (Task.Safe.ask trivial ?_) ?_ fun _ _ h => h.elim
      · rintro s₂ hw - published _ ⟨hpublished, rfl⟩ -
        have hunder := (waits_under hw).1.trans hsame
        refine ⟨?_, hunder⟩
        rw [← hunder] at hfile
        exact hpublished.trans (congrArg Option.isSome hfile)
      · rintro _ s₂ ⟨rfl, hunder⟩
        rw [← hunder] at hcomplete
        exact (bindAgain_reads hcomplete).mono (fun _ _ h => h) fun _ _ h => .inl h

end

/-- What `bind` promises of the Job `jobId`.  In every run its input directory is absent or
complete, never partial, and once it is there it stays as it is.  A call that fails changes nothing
of it, and leaves no staging directory behind a `FileBindingError`.  Without an input directory,
`bind` renders one, and what it returns is published; with one, `bind` only reads: it returns the
binding for the range that is bound, and raises for another. -/
structure Publishes (m : SharedFileManager) (W : Surroundings) (jobId : String) : Prop where
  intact {c₀ c : Config FileOp FileAns Files (Except BindExc JobFileBinding)} :
    c₀.program = none → Intact m jobId (c₀.state.under (m.root ++ [jobId])) →
    Reaches (storage m.root W jobId) m.serve (fun _ => True) (fun _ _ _ => True) c₀ c →
    Intact m jobId (c.state.under (m.root ++ [jobId])) ∧
      ¬ IsPartial (c.state.under (m.root ++ [jobId])) ∧
      (c₀.state.under (m.root ++ [jobId]) ≠ absent →
        c.state.under (m.root ++ [jobId]) = c₀.state.under (m.root ++ [jobId]))
  fails {rangeId : String} {s s' : Files} {x : BindExc} :
    Exec (storage m.root W jobId) (m.bind jobId rangeId) s (.error x) s' →
    s'.under (m.root ++ [jobId]) = s.under (m.root ++ [jobId]) ∧
      (W.cleans → (∃ message, x = .fileBinding message) → ∀ name,
        s'.under (stagingPath m.root name) = s.under (stagingPath m.root name))
  fresh {rangeId : String} {s s' : Files} {r : Except BindExc JobFileBinding} :
    s.under (m.root ++ [jobId]) = absent →
    (∀ catalog, W.catalogs catalog → ∃ config, Resolves catalog rangeId config) →
    Exec (storage m.root W jobId) (m.bind jobId rangeId) s r s' →
    ∃ catalog config s₁, Resolves catalog rangeId config ∧
      (storage m.root W jobId).Waits s s₁ ∧
      Exec (storage m.root W jobId) (m.bindFresh (m.root ++ [jobId]) jobId config) s₁ r s'
  published {rangeId : String} {s s' : Files} {b : JobFileBinding} :
    s.under (m.root ++ [jobId]) = absent →
    Exec (storage m.root W jobId) (m.bind jobId rangeId) s (.ok b) s' →
    Complete m jobId rangeId b (s'.under (m.root ++ [jobId]))
  again {rangeId : String} {s : Files} {b : JobFileBinding} :
    Complete m jobId rangeId b (s.under (m.root ++ [jobId])) →
    (∀ catalog, W.catalogs catalog → ∃ config, Resolves catalog rangeId config) →
    (m.bind jobId rangeId).Safe (storage m.root W jobId) reading (fun b' _ => b' = b)
      (fun _ _ => False) s
  other {bound rangeId : String} {s : Files} {b : JobFileBinding} :
    Complete m jobId bound b (s.under (m.root ++ [jobId])) → bound ≠ rangeId →
    (m.bind jobId rangeId).Safe (storage m.root W jobId) reading (fun _ _ => False)
      (fun _ _ => True) s

section

variable {m : SharedFileManager} {W : Surroundings} {jobId rangeId : String} {s s' : Files}

theorem bind_fails {x : BindExc} (hsafe : safeName jobId = true) (hsep : Separate m jobId)
    (h : Exec (storage m.root W jobId) (m.bind jobId rangeId) s (.error x) s') :
    s'.under (m.root ++ [jobId]) = s.under (m.root ++ [jobId]) ∧
      (W.cleans → (∃ message, x = .fileBinding message) → ∀ name,
        s'.under (stagingPath m.root name) = s.under (stagingPath m.root name)) := by
  rcases bind_cases h with ⟨_, -, hw, -⟩ | ⟨catalog, config, s₁, hresolves, hw, hinput⟩
  · exact ⟨(waits_under hw).1, fun _ _ => (waits_under hw).2⟩
  obtain ⟨s₂, hw', hrest⟩ := bindInput_cases hinput
  have hwaits := waits_under (hw.trans hw')
  rcases hrest with ⟨-, hagain⟩ | ⟨-, ⟨-, -, rfl⟩ | ⟨-, hfresh⟩⟩
  · have hspared : ∀ area, Kept m.root jobId area → s'.under area = s₂.under area :=
      fun area hkept => hkept.exec (bindAgain_asks trivial) hagain
    exact ⟨(hspared _ .input).trans hwaits.1,
      fun _ _ name => (hspared _ (.temporary name)).trans (hwaits.2 name)⟩
  · exact ⟨hwaits.1, fun _ _ => hwaits.2⟩
  · obtain ⟨hsame, hclean⟩ := bindFresh_error hsafe hsep hfresh
    exact ⟨hsame.trans hwaits.1, fun hcleans hhandled name =>
      (hclean hcleans hhandled name).trans (hwaits.2 name)⟩

theorem bind_fresh {r : Except BindExc JobFileBinding} (hsafe : safeName jobId = true)
    (habsent : s.under (m.root ++ [jobId]) = absent)
    (hresolvable : ∀ catalog, W.catalogs catalog → ∃ config, Resolves catalog rangeId config)
    (h : Exec (storage m.root W jobId) (m.bind jobId rangeId) s r s') :
    ∃ catalog config s₁, Resolves catalog rangeId config ∧
      (storage m.root W jobId).Waits s s₁ ∧
      Exec (storage m.root W jobId) (m.bindFresh (m.root ++ [jobId]) jobId config) s₁ r s' := by
  rcases bind_cases h with ⟨_, -, -, hnone⟩ | ⟨catalog, config, s₁, hresolves, hw, hinput⟩
  · obtain ⟨catalog, hcatalog, hunresolved⟩ := hnone hsafe
    exact absurd (hresolvable catalog hcatalog) hunresolved
  · rw [← (waits_under hw).1] at habsent
    obtain ⟨s₂, hw', hfresh⟩ := bindInput_absent habsent hinput
    exact ⟨catalog, config, s₂, hresolves, hw.trans hw', hfresh⟩

theorem bind_published {b : JobFileBinding} (habsent : s.under (m.root ++ [jobId]) = absent)
    (h : Exec (storage m.root W jobId) (m.bind jobId rangeId) s (.ok b) s') :
    Complete m jobId rangeId b (s'.under (m.root ++ [jobId])) := by
  rcases bind_cases h with ⟨_, herror, -⟩ | ⟨catalog, config, s₁, hresolves, hw, hinput⟩
  · cases herror
  rw [← (waits_under hw).1] at habsent
  obtain ⟨s₂, -, hfresh⟩ := bindInput_absent habsent hinput
  have hcomplete := bindFresh_ok hresolves.2 hfresh
  rwa [RealCatalog.resolveRange_rangeId hresolves.1] at hcomplete

theorem bind_again {b : JobFileBinding} (hsafe : safeName jobId = true)
    (hcomplete : Complete m jobId rangeId b (s.under (m.root ++ [jobId])))
    (hresolvable : ∀ catalog, W.catalogs catalog → ∃ config, Resolves catalog rangeId config) :
    (m.bind jobId rangeId).Safe (storage m.root W jobId) reading (fun b' _ => b' = b)
      (fun _ _ => False) s := by
  refine (bind_reads hsafe hcomplete).mono (fun _ _ h => h.2) ?_
  rintro _ _ (hne | ⟨catalog, hcatalog, hnone⟩)
  · exact hne rfl
  · exact hnone (hresolvable catalog hcatalog)

theorem bind_other {bound : String} {b : JobFileBinding} (hsafe : safeName jobId = true)
    (hcomplete : Complete m jobId bound b (s.under (m.root ++ [jobId])))
    (hother : bound ≠ rangeId) :
    (m.bind jobId rangeId).Safe (storage m.root W jobId) reading (fun _ _ => False)
      (fun _ _ => True) s :=
  (bind_reads hsafe hcomplete).mono (fun _ _ h => hother h.1) fun _ _ _ => trivial

end

/-- `bind` is atomic and idempotent for every Job but those whose input directory holds the results
of Jobs; an unsafe ID is refused. -/
theorem bind_atomic {m : SharedFileManager} {jobId : String} (hsep : Separate m jobId)
    (W : Surroundings) :
    (safeName jobId = true → Publishes m W jobId) ∧
      (safeName jobId = false → ∀ rangeId,
        m.bind jobId rangeId = fail "job_id is not safe for storage") := by
  constructor
  · intro hsafe
    exact {
      intact := intact_ofReaches hsafe hsep
      fails := bind_fails hsafe hsep
      fresh := bind_fresh hsafe
      published := bind_published
      again := bind_again hsafe
      other := bind_other hsafe }
  · intro hrefused rangeId
    unfold SharedFileManager.bind
    rw [if_pos (by simp [hrefused])]
    rfl

/-- The storage of the default settings. -/
def sampleStorage : SharedFileManager :=
  { root := ["mnt", "safactory"]
    rjobRoot := "/mnt/safactory"
    resultsRoot := ["mnt", "safactory", "results"]
    resultsRjobRoot := "/mnt/safactory/results"
    python := plainPython
    safeDump := fun _ => .ok []
    sha256 := fun _ => "sum"
    decode := fun _ => none }

theorem bind_atomic_default : Publishes sampleStorage .any "job" := by
  have hsep : Separate sampleStorage "job" := by
    refine ⟨by decide, by decide, fun name => ?_⟩
    have hapart : Apart (stagingPath sampleStorage.root name) (sampleStorage.root ++ ["results"]) :=
      staging_apart rfl name
    exact hapart.left
  exact (bind_atomic hsep .any).1 rfl

/-- The agent config of a range with one environment. -/
def sampleAgent : Value :=
  .dict [("environments", .list [.dict [("env_name", .str "env"), ("env_image", .str "image"),
    ("env_num", .int 1), ("env_params", .dict [])]])]

/-- The results of a Job named "results" are kept in its input directory: a rendering that fails has
made it, and no file in it. -/
theorem results_partial :
    let W : Surroundings := ⟨fun _ => True, True⟩
    let run := Exec (storage sampleStorage.root W "results") (sampleStorage.bind "results" "range")
    SharedFileManager.init { root := ["mnt", "safactory"] } plainPython (fun _ => .ok [])
        (fun _ => "sum") (fun _ => none) = .ok sampleStorage ∧
      safeName "results" = true ∧
      (∃ s, run absent (.error (.fileBinding "dataset.jsonl is unavailable or invalid")) s ∧
        IsPartial (s.under (sampleStorage.root ++ ["results"]))) ∧
      ¬ Publishes sampleStorage W "results" := by
  intro W run
  let s₁ : Files := absent.makeDirs ["mnt", "safactory"]
  let s₂ : Files := s₁.put ["mnt", "safactory", ".input-x"] .dir
  let s₃ : Files := s₂.makeDirs ["mnt", "safactory", "results", "results"]
  let s₄ : Files := s₃.graft ["mnt", "safactory", ".input-x"] absent
  have hcall {α : Type} (e : FileOp) (s' : Files) {k : FileAns e → Program FileOp FileAns α}
      {s t : Files} {a : α} (r : FileAns e) (hp : performs W e s r s')
      (hk : Exec (storage sampleStorage.root W "results") (k r) s' a t) :
      Exec (storage sampleStorage.root W "results") (.call e k) s a t := .call .refl hp hk
  have hexec :
      run absent (.error (.fileBinding "dataset.jsonl is unavailable or invalid")) s₄ := by
    refine hcall .catalog absent sampleRepository.catalog ⟨trivial, rfl⟩ ?_
    refine hcall (.exists _) absent false ⟨rfl, rfl⟩ ?_
    refine hcall (.exists _) absent false ⟨rfl, rfl⟩ ?_
    refine hcall (.mkdirs _ _) s₁ (.ok ()) ?_ ?_
    · exact ⟨fun _ _ => .inl rfl, nofun, rfl⟩
    refine hcall (.mkdtemp _) s₂ (.ok ["mnt", "safactory", ".input-x"]) ?_ ?_
    · exact ⟨⟨"x", rfl⟩, rfl, under_makeDirs (by decide), rfl⟩
    refine hcall (.readYaml _) s₂ (.ok sampleAgent) rfl ?_
    -- the directory of the results of the Job, below its input directory
    refine hcall (.mkdirs _ _) s₃ (.ok ()) ?_ ?_
    · refine ⟨fun p _ => ?_, nofun, rfl⟩
      simp only [s₂, s₁, put, makeDirs, absent, Option.getD_none]
      split
      · exact .inr rfl
      · split
        · exact .inr rfl
        · exact .inl rfl
    refine hcall (.readBytes _) s₃ (.error .os) rfl ?_
    refine hcall (.rmtree _) s₄ () ?_ (.done _ _)
    refine ⟨fun p hp => if_neg hp, fun p => ?_, fun _ => under_graft_self⟩
    by_cases hp : ["mnt", "safactory", ".input-x"] <+: p
    · exact .inr (if_pos hp)
    · exact .inl (if_neg hp)
  have hpartial : IsPartial (s₄.under (sampleStorage.root ++ ["results"])) := ⟨rfl, rfl⟩
  refine ⟨rfl, rfl, ⟨s₄, hexec, hpartial⟩, fun h => ?_⟩
  have hsame := (h.fails hexec).1
  rw [hsame] at hpartial
  cases hpartial.1

end SafactoryServer
