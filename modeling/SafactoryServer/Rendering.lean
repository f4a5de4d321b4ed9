import SafactoryServer.Storage

/-! `_render_binding` writes below its staging directory only, but for the result directory of the
Job; what a rendering that returns has left there. -/

namespace SafactoryServer

open Effect FileTree FileTree.Tree FileTask Landing

/-- The call reads a source, or writes at or below `dir`. -/
def WritesBelow (dir : Path) : FileOp → Prop
  | .mkdirs path _ | .mkdir path | .write path _ | .copytree path _ => dir <+: path
  | .readYaml _ | .readBytes _ | .isFileBeside _ _ | .iterdirBeside _ => True
  | _ => False

/-- The call of a rendering: it reads, writes below the staging directory, or makes the result
directory. -/
def Renders (staging results : Path) (e : FileOp) : Prop :=
  WritesBelow staging e ∨ e = .mkdirs results true

section

variable {dir area staging results : Path} {e : FileOp}

theorem WritesBelow.mono {sub : Path} (h : WritesBelow (dir ++ sub) e) : WritesBelow dir e := by
  have hprefix : dir <+: dir ++ sub := List.prefix_append dir sub
  cases e with
  | mkdirs | mkdir | write | copytree => exact hprefix.trans h
  | readYaml | readBytes | isFileBeside | iterdirBeside => trivial
  | request | catalog | «exists» | readText | mkdtemp | replace | rmtree => exact h

theorem WritesBelow.spares (h : WritesBelow dir e) (ha : Apart dir area) : Spares area e := by
  have hbelow : ∀ path, dir <+: path → Apart path area := by
    rintro _ ⟨rest, rfl⟩
    exact (ha.symm.below rest).symm
  cases e with
  | mkdirs path existOk => exact (hbelow path h).right
  | mkdir path => exact hbelow path h
  | write path content => exact hbelow path h
  | copytree path tree => exact hbelow path h
  | readYaml | readBytes | isFileBeside | iterdirBeside => trivial
  | request | catalog | «exists» | readText | mkdtemp | replace | rmtree => exact h.elim

theorem Renders.spares (h : Renders staging results e) (ha : Apart staging area)
    (hr : ¬ area <+: results) : Spares area e := by
  rcases h with h | rfl
  · exact h.spares ha
  · exact hr

end

/-! ### The calls of a rendering -/

section

variable {m : SharedFileManager} {dir staging results : Path} {α : Type}

theorem attempt_asks {P : FileOp → Prop} (r : Except Fault α) : (attempt r).Asks P := by
  cases r with
  | ok a => exact .pure a
  | error x => exact .throw _

theorem checked_asks {P : FileOp → Prop} (r : Except String α) : (checked r).Asks P := by
  cases r with
  | ok a => exact .pure a
  | error message => exact .throw _

theorem write_asks {P : FileOp → Prop} {path : Path} {content : FileContent}
    (h : P (.write path content)) : (write path content).Asks P :=
  .bind (.ask h) attempt_asks

theorem writeJson_asks {P : FileOp → Prop} {path : Path} {document : Json}
    (h : P (.write path (.json document))) : (writeJson path document).Asks P :=
  .bind (attempt_asks _) fun _ => write_asks h

theorem copytree_asks {P : FileOp → Prop} {path : Path} {tree : Files}
    (h : P (.copytree path tree)) : (copytree path tree).Asks P :=
  .bind (.ask h) attempt_asks

theorem mkdirs_asks {P : FileOp → Prop} {path : Path} {existOk : Bool}
    (h : P (.mkdirs path existOk)) : (mkdirs path existOk).Asks P :=
  .bind (.ask h) attempt_asks

theorem mkdir_asks {P : FileOp → Prop} {path : Path} (h : P (.mkdir path)) :
    (mkdir path).Asks P :=
  .bind (.ask h) attempt_asks

theorem mkdtemp_asks {P : FileOp → Prop} {path : Path} (h : P (.mkdtemp path)) :
    (mkdtemp path).Asks P :=
  .bind (.ask h) attempt_asks

theorem readYaml_asks (source : String) : (readYaml source).Asks (WritesBelow dir) := by
  refine .bind (.ask trivial) fun r => ?_
  split
  · exact .throw _
  · exact .throw _
  · exact .throw _
  · exact .throw _
  · split
    · exact .throw _
    · exact .pure _

theorem readDataset_asks (source : String) : (m.readDataset source).Asks (WritesBelow dir) := by
  refine .bind (.ask trivial) fun r => ?_
  split
  · exact .throw _
  · exact .throw _
  · exact .throw _
  · exact .throw _
  · split
    · exact .throw _
    · exact .throw _
    · exact .pure _

theorem validateRunnerEntrypoint_asks (document : Row) (startConfig : String) :
    (m.validateRunnerEntrypoint document startConfig).Asks (WritesBelow dir) := by
  unfold SharedFileManager.validateRunnerEntrypoint
  dsimp only
  split
  · exact .throw _
  · split
    · exact .throw _
    · split
      · split
        · exact .throw _
        · split
          · exact .throw _
          · split
            · refine .bind (.bind (.ask trivial) attempt_asks) fun found => ?_
              split
              · exact .throw _
              · exact .pure _
            · exact .pure _
      · exact .pure _

theorem copyItem_asks (target : Path) (item : SourceItem) :
    (copyItem target item).Asks (WritesBelow target) := by
  have hbelow : target <+: target ++ [item.name] := List.prefix_append _ _
  unfold copyItem
  split
  · exact .pure _
  · split
    · exact copytree_asks hbelow
    · exact write_asks hbelow
    · exact .pure _

theorem copyEnvironmentFiles_asks (source : String) (target : Path) :
    (copyEnvironmentFiles source target).Asks (WritesBelow target) := by
  refine .bind (mkdirs_asks (List.prefix_refl target)) fun _ => ?_
  refine .bind (.bind (.ask trivial) attempt_asks) fun items => ?_
  exact .forM fun item _ => copyItem_asks target item

theorem renderGroup_asks (resultSource : String) (group : RangeGroupConfig) (environment : Row) :
    (m.renderGroup staging resultSource group environment).Asks
      (WritesBelow (staging ++ ["groups", group.envName])) := by
  have hbelow : ∀ name, staging ++ ["groups", group.envName] <+:
      staging ++ ["groups", group.envName] ++ [name] := fun name => List.prefix_append _ _
  refine .bind (checked_asks _) fun fields => ?_
  refine .bind (readDataset_asks _) fun dataset => ?_
  refine .bind (readYaml_asks _) fun startDocument => ?_
  refine .bind (checked_asks _) fun _ => ?_
  refine .bind (validateRunnerEntrypoint_asks _ _) fun _ => ?_
  refine .bind (copyEnvironmentFiles_asks _ _) fun _ => ?_
  refine .bind (write_asks (hbelow _)) fun _ => ?_
  refine .bind (attempt_asks _) fun start => ?_
  exact .bind (write_asks (hbelow _)) fun _ => .pure _

theorem renderGroups_asks (resultSource : String) (groups : List RangeGroupConfig)
    (environments : List (String × Row)) (bindings : List EnvironmentBinding) (total : Int) :
    (m.renderGroups staging resultSource groups environments bindings total).Asks
      (WritesBelow (staging ++ ["groups"])) := by
  induction groups generalizing environments bindings total with
  | nil => exact .pure _
  | cons group rest ih =>
    have hgroup : ∀ e, WritesBelow (staging ++ ["groups", group.envName]) e →
        WritesBelow (staging ++ ["groups"]) e := by
      intro e he
      rw [List.append_cons] at he
      exact he.mono
    unfold SharedFileManager.renderGroups
    split
    · exact .bind ((renderGroup_asks _ _ _).mono hgroup) fun rendered => ih _ _ _
    · exact .throw _

theorem renderLauncher_asks (config : RangeConfig) :
    (m.renderLauncher staging config).Asks (WritesBelow (staging ++ ["launcher.rjob.yaml"])) := by
  unfold SharedFileManager.renderLauncher
  split
  · exact .pure _
  · refine .bind (readYaml_asks _) fun document => ?_
    refine .bind (checked_asks _) fun _ => ?_
    refine .bind (attempt_asks _) fun content => ?_
    exact .bind (write_asks (List.prefix_refl _)) fun _ => .pure _

/-- A rendering writes below its staging directory, and makes the result directory of the Job. -/
theorem renderBinding_asks (finalInput : Path) (jobId : String) (config : RangeConfig) :
    (m.renderBinding staging finalInput jobId config).Asks
      (Renders staging (m.resultsRoot ++ [jobId])) := by
  have hbelow : ∀ e, WritesBelow staging e → Renders staging (m.resultsRoot ++ [jobId]) e :=
    fun e he => .inl he
  have hwrite : ∀ name rest content,
      Renders staging (m.resultsRoot ++ [jobId]) (.write (staging ++ name :: rest) content) :=
    fun name rest content => .inl (List.prefix_append _ _)
  unfold SharedFileManager.renderBinding
  refine .bind ((readYaml_asks _).mono hbelow) fun agentDocument => ?_
  refine .bind (checked_asks _) fun environments => ?_
  split
  · refine .bind ((renderLauncher_asks config).mono fun e he => hbelow e he.mono) fun launcher => ?_
    refine .bind (mkdirs_asks (.inr rfl)) fun _ => ?_
    refine .bind ((renderGroups_asks _ _ _ _ _).mono fun e he => hbelow e he.mono)
      fun rendered => ?_
    refine .bind (attempt_asks _) fun agent => ?_
    refine .bind (write_asks (hwrite _ _ _)) fun _ => ?_
    refine .bind (attempt_asks _) fun gateway => ?_
    refine .bind (mkdir_asks (.inl (List.prefix_append _ _))) fun _ => ?_
    exact .bind (write_asks (hwrite _ _ _)) fun _ => .pure _
  · exact .throw _

end

/-! ### What a rendering leaves -/

/-- The directory of the Job or a staging directory, or a path below: the rest of the world changes
nothing there. -/
inductive Kept (root : Path) (jobId : String) : Path → Prop
  | job (sub : Path) : Kept root jobId (root ++ [jobId] ++ sub)
  | staging (name : String) (sub : Path) : Kept root jobId (stagingPath root name ++ sub)

/-- The files that a binding tells of, with their checksums. -/
structure RenderedFiles (m : SharedFileManager) (b : JobFileBinding) (t : Files) : Prop where
  agent : ∃ data, t ["config.yaml"] = some (.file (.bytes data)) ∧
    m.sha256 data = b.agentConfigChecksum
  gateway : ∃ data, t ("gateway" :: m.gatewayConfigFilename) = some (.file (.bytes data)) ∧
    m.sha256 data = b.gatewayConfigChecksum
  launcher : b.launcherRjobConfigPath.isSome →
    ∃ data, t ["launcher.rjob.yaml"] = some (.file (.bytes data)) ∧
      m.sha256 data = b.launcherRjobConfigChecksum
  groups : ∀ group ∈ b.groups, ∃ dataset start,
    t ["groups", group.envName, "dataset.jsonl"] = some (.file (.bytes dataset)) ∧
      m.sha256 dataset = group.datasetChecksum ∧
    t ["groups", group.envName, "start.rjob.yaml"] = some (.file (.bytes start)) ∧
      m.sha256 start = group.startConfigChecksum

/-- What is rendered of a group: its environment, its binding, and the files that the binding tells
of, whatever else was copied beside them. -/
structure RenderedGroup (m : SharedFileManager) (resultSource : String) (group : RangeGroupConfig)
    (environment : Row) (rendered : Row × EnvironmentBinding) (t : Files) : Prop where
  name : rendered.2.envName = group.envName
  fields : ∃ envParams, m.environmentFields group.envName environment =
      .ok (rendered.2.envImage, rendered.2.envNum, envParams) ∧
    rendered.1 = assign "env_params"
      (.dict (assign "safactory_results_root" (.str m.resultTarget) envParams))
      (assign "dataset" (.str (m.inputTarget ++ "/groups/" ++ group.envName ++ "/dataset.jsonl"))
        environment)
  dataset : ∃ data records,
    t ["groups", rendered.2.envName, "dataset.jsonl"] = some (.file (.bytes data)) ∧
    m.sha256 data = rendered.2.datasetChecksum ∧ m.datasetRecords data = .ok records ∧
    rendered.2.datasetRecords = records
  start : ∃ document data,
    t ["groups", rendered.2.envName, "start.rjob.yaml"] = some (.file (.bytes data)) ∧
    m.sha256 data = rendered.2.startConfigChecksum ∧
    validateStartConfig document group.envName m.resultTarget = .ok () ∧
    m.safeDump (.dict (m.renderStart document resultSource)) = .ok data

/-- What a rendering of `config` returns and leaves: `source` is the agent config, `environment` its
only environment, and `rendered` what is made of it. -/
structure RenderedBinding (m : SharedFileManager) (finalInput : Path) (jobId : String)
    (config : RangeConfig) (b : JobFileBinding) (t : Files) (group : RangeGroupConfig)
    (source environment : Row) (rendered : Row × EnvironmentBinding) : Prop where
  groups : config.groups = [group]
  environments : source.field "environments" = .list [.dict environment]
  named : environment.field "env_name" = .str group.envName
  written : RenderedGroup m (joinSource m.resultsRjobRoot jobId) group environment rendered t
  launcher : b.launcherRjobConfigPath = none ∨
    b.launcherRjobConfigPath = some (m.inputTarget ++ "/launcher.rjob.yaml") ∧
      ∃ data, t ["launcher.rjob.yaml"] = some (.file (.bytes data)) ∧
        m.sha256 data = b.launcherRjobConfigChecksum
  agent : ∃ data, t ["config.yaml"] = some (.file (.bytes data)) ∧
    m.sha256 data = b.agentConfigChecksum ∧
    m.safeDump (.dict (assign "environments" (.list [.dict rendered.1]) source)) = .ok data
  gateway : ∃ data, t ("gateway" :: m.gatewayConfigFilename) = some (.file (.bytes data)) ∧
    m.sha256 data = b.gatewayConfigChecksum ∧ m.safeDump (.dict m.gatewayConfig) = .ok data
  binding : b = { b with
    jobId := jobId
    rangeId := config.rangeId
    inputLocalPath := finalInput.str
    inputSource := joinSource m.rjobRoot jobId
    inputTarget := m.inputTarget
    resultSource := joinSource m.resultsRjobRoot jobId
    agentConfigPath := m.inputTarget ++ "/config.yaml"
    agentStartConfigPath := m.inputTarget ++ "/groups/" ++ group.envName ++ "/start.rjob.yaml"
    groups := [rendered.2]
    totalEpisodes := rendered.2.datasetRecords * rendered.2.envNum
    gatewayConfigSource := joinSource (joinSource m.rjobRoot jobId) "gateway"
    gatewayConfigPath := (m.gatewayConfigMountDir ++ m.gatewayConfigFilename).str }

theorem RenderedBinding.files {m : SharedFileManager} {finalInput : Path} {jobId : String}
    {config : RangeConfig} {b : JobFileBinding} {t : Files} {group : RangeGroupConfig}
    {source environment : Row} {rendered : Row × EnvironmentBinding}
    (h : RenderedBinding m finalInput jobId config b t group source environment rendered) :
    RenderedFiles m b t := by
  refine ⟨?_, ?_, fun hsome => ?_, fun g hg => ?_⟩
  · obtain ⟨data, hfile, hsum, -⟩ := h.agent
    exact ⟨data, hfile, hsum⟩
  · obtain ⟨data, hfile, hsum, -⟩ := h.gateway
    exact ⟨data, hfile, hsum⟩
  · rcases h.launcher with hnone | ⟨-, hfile⟩
    · rw [hnone] at hsome
      cases hsome
    · exact hfile
  · rw [h.binding] at hg
    obtain rfl := List.mem_singleton.mp hg
    obtain ⟨dataset, _, hdataset, hsum, -⟩ := h.written.dataset
    obtain ⟨_, start, hstart, hssum, -⟩ := h.written.start
    exact ⟨dataset, start, hdataset, hsum, hstart, hssum⟩

/-- The files of a group are found again in any tree that has the same under `groups`. -/
theorem RenderedGroup.congr {m : SharedFileManager} {resultSource : String}
    {group : RangeGroupConfig} {environment : Row} {rendered : Row × EnvironmentBinding}
    {t t' : Files} (h : RenderedGroup m resultSource group environment rendered t)
    (hsame : ∀ sub, t' ("groups" :: sub) = t ("groups" :: sub)) :
    RenderedGroup m resultSource group environment rendered t' := by
  refine ⟨h.name, h.fields, ?_, ?_⟩
  · rw [hsame]
    exact h.dataset
  · rw [hsame]
    exact h.start

section

variable {m : SharedFileManager} {root : Path} {W : Surroundings} {jobId : String} {s s' : Files}
  {area : Path} {α : Type}

theorem Kept.input : Kept root jobId (root ++ [jobId]) :=
  List.append_nil (root ++ [jobId]) ▸ .job []

theorem Kept.temporary (name : String) : Kept root jobId (stagingPath root name) :=
  List.append_nil (stagingPath root name) ▸ .staging name []

theorem Kept.waits (h : Kept root jobId area) (hw : (storage root W jobId).Waits s s') :
    s'.under area = s.under area := by
  cases h with
  | job sub => rw [under_append s' _ sub, under_append s _ sub, (waits_under hw).1]
  | staging name sub => rw [under_append s' _ sub, under_append s _ sub, (waits_under hw).2 name]

/-- A program that spares such a part leaves it as it was. -/
theorem Kept.exec {p : FileTask α} {r : Except BindExc α} (h : Kept root jobId area)
    (hp : p.Asks (Spares area)) (hexec : Exec (storage root W jobId) p s r s') :
    s'.under area = s.under area :=
  Program.Asks.exec hp (fun _ _ hw => h.waits hw)
    (fun _ _ _ _ he hperform => performs_under he hperform) hexec

theorem attempt_exec {result : Except Fault α} {r : Except BindExc α}
    (h : Exec (storage root W jobId) (attempt result) s r s') :
    s' = s ∧ r = result.mapError .fault := by
  cases result <;> cases h <;> exact ⟨rfl, rfl⟩

theorem attempt_ok {result : Except Fault α} {a : α}
    (h : Exec (storage root W jobId) (attempt result) s (.ok a) s') : s' = s ∧ result = .ok a := by
  cases result <;> cases h
  exact ⟨rfl, rfl⟩

theorem checked_exec {result : Except String α} {a : α}
    (h : Exec (storage root W jobId) (checked result) s (.ok a) s') : result = .ok a := by
  cases result <;> cases h
  rfl

theorem readDataset_exec {source : String} {content : Bytes × Nat}
    (h : Exec (storage root W jobId) (m.readDataset source) s (.ok content) s') :
    m.datasetRecords content.1 = .ok content.2 := by
  obtain ⟨answer, s₁, s₂, -, -, hrest⟩ := Exec.ask_bind_inv h
  split at hrest
  · cases hrest
  · cases hrest
  · cases hrest
  · cases hrest
  · split at hrest
    · cases hrest
    · cases hrest
    · next hrecords =>
      cases hrest
      exact hrecords

/-- Making directories keeps what stands in a part that the rest of the world leaves alone. -/
theorem mkdirs_exec {path sub : Path} {existOk : Bool} {node : Node FileContent}
    (harea : Kept root jobId area)
    (h : Exec (storage root W jobId) (mkdirs path existOk) s (.ok ()) s')
    (hnode : s (area ++ sub) = some node) : s' (area ++ sub) = some node := by
  obtain ⟨answer, s₁, s₂, hw, hperform, hattempt⟩ := Exec.ask_bind_inv h
  obtain ⟨rfl, rfl⟩ := attempt_ok hattempt
  obtain ⟨-, -, rfl⟩ := hperform
  have hthere : s₁ (area ++ sub) = some node := by
    rw [← hnode]
    exact congrFun (harea.waits hw) sub
  unfold makeDirs
  rw [hthere, ite_eq_right_iff]
  exact fun _ => rfl

/-- A write that returned. -/
theorem write_exec {path : Path} {content : FileContent}
    (h : Exec (storage root W jobId) (write path content) s (.ok ()) s') :
    s' path = some (.file content) := by
  obtain ⟨answer, s₁, s₂, -, hperform, hattempt⟩ := Exec.ask_bind_inv h
  obtain ⟨rfl, rfl⟩ := attempt_ok hattempt
  obtain ⟨-, -, rfl⟩ := hperform
  simp [put]

/-- A staging directory was made, or nothing. -/
theorem mkdtemp_exec {result : Except BindExc Path}
    (h : Exec (storage root W jobId) (mkdtemp root) s result s') :
    (∃ x, result = .error x) ∧ (storage root W jobId).Waits s s' ∨
      ∃ name, result = .ok (stagingPath root name) ∧ s.under (stagingPath root name) = absent ∧
        s'.under (stagingPath root name) = emptyDir ∧ ∀ area, Kept root jobId area →
          Apart (stagingPath root name) area → s'.under area = s.under area := by
  obtain ⟨answer, s₁, s₂, hw, hperform, hattempt⟩ := Exec.ask_bind_inv h
  obtain ⟨rfl, rfl⟩ := attempt_exec hattempt
  cases answer with
  | error x =>
    obtain rfl : s' = s₁ := hperform
    exact .inl ⟨⟨_, rfl⟩, hw⟩
  | ok _ =>
    obtain ⟨⟨name, rfl⟩, -, habsent, rfl⟩ := hperform
    refine .inr ⟨name, rfl, (waits_under hw).2 name ▸ habsent, ?_, fun area hkept hapart => ?_⟩
    · have hput : (s₁.put (stagingPath root name) .dir).under (stagingPath root name) =
          (s₁.under (stagingPath root name)).put [] .dir := by
        rw [← under_put_below, List.append_nil]
      rw [hput, habsent]
      funext p
      cases p <;> rfl
    · exact (under_put hapart.right).trans (hkept.waits hw)

/-- What such a write leaves of a staging directory. -/
theorem written_under {name : String} {sub : Path} {content : FileContent}
    (h : Exec (storage root W jobId) (write (stagingPath root name ++ sub) content) s (.ok ()) s') :
    s'.under (stagingPath root name) =
      (s.under (stagingPath root name)).put sub (.file content) := by
  obtain ⟨answer, s₁, s₂, hw, hperform, hattempt⟩ := Exec.ask_bind_inv h
  obtain ⟨rfl, rfl⟩ := attempt_ok hattempt
  obtain ⟨-, -, rfl⟩ := hperform
  rw [under_put_below, (waits_under hw).2 name]

/-- A document that was written has no integer that is too long. -/
theorem writeJson_ok {path : Path} {document : Json}
    (h : Exec (storage root W jobId) (writeJson path document) s (.ok ()) s') :
    (∀ n ∈ document.ints, Json.Prints n) ∧
      Exec (storage root W jobId) (write path (.json document)) s (.ok ()) s' := by
  obtain ⟨_, s₁, hprints, hwrite⟩ := h.task_bind_inv
  obtain ⟨rfl, hshort⟩ := attempt_ok hprints
  refine ⟨?_, hwrite⟩
  by_contra hlong
  rw [if_neg hlong] at hshort
  cases hshort

/-- What is written below one entry of a staging directory leaves the other entries. -/
theorem below_exec {p : FileTask α} {name c d : String} {sub : Path} {r : Except BindExc α}
    (hp : p.Asks (WritesBelow (stagingPath root name ++ [d]))) (hne : c ≠ d)
    (hexec : Exec (storage root W jobId) p s r s') :
    s' (stagingPath root name ++ c :: sub) = s (stagingPath root name ++ c :: sub) := by
  have hunder := (Kept.staging name [c]).exec
    (hp.mono fun e he => he.spares (Apart.siblings hne.symm _)) hexec
  have happ := congrFun hunder sub
  simpa [under] using happ

theorem renderLauncher_exec {staging : Path} {config : RangeConfig}
    {launcher : Option String × String}
    (h : Exec (storage root W jobId) (m.renderLauncher staging config) s (.ok launcher) s') :
    launcher.1 = none ∨ launcher.1 = some (m.inputTarget ++ "/launcher.rjob.yaml") ∧
      ∃ data, s' (staging ++ ["launcher.rjob.yaml"]) = some (.file (.bytes data)) ∧
        m.sha256 data = launcher.2 := by
  unfold SharedFileManager.renderLauncher at h
  split at h
  · cases h
    exact .inl rfl
  · obtain ⟨document, s₁, -, hchecks⟩ := h.task_bind_inv
    obtain ⟨_, s₂, -, hdump⟩ := hchecks.task_bind_inv
    obtain ⟨content, s₃, -, hwrite⟩ := hdump.task_bind_inv
    obtain ⟨_, s₄, hfile, hreturn⟩ := hwrite.task_bind_inv
    cases hreturn
    exact .inr ⟨rfl, content, write_exec hfile, rfl⟩

theorem renderGroup_exec {name resultSource : String} {group : RangeGroupConfig}
    {environment : Row} {rendered : Row × EnvironmentBinding}
    (h : Exec (storage root W jobId)
      (m.renderGroup (stagingPath root name) resultSource group environment) s (.ok rendered) s') :
    RenderedGroup m resultSource group environment rendered
      (s'.under (stagingPath root name)) := by
  obtain ⟨fields, s₁, hfields, hdata⟩ := h.task_bind_inv
  obtain ⟨dataset, s₂, hread, hyaml⟩ := hdata.task_bind_inv
  obtain ⟨startDocument, s₃, -, hcheck⟩ := hyaml.task_bind_inv
  obtain ⟨_, s₄, hvalid, hrunner⟩ := hcheck.task_bind_inv
  obtain ⟨_, s₅, -, hcopy⟩ := hrunner.task_bind_inv
  obtain ⟨_, s₆, -, hwrites⟩ := hcopy.task_bind_inv
  obtain ⟨_, s₇, hdataset, hdump⟩ := hwrites.task_bind_inv
  obtain ⟨start, s₈, hattempt, hlast⟩ := hdump.task_bind_inv
  obtain ⟨_, s₉, hstart, hreturn⟩ := hlast.task_bind_inv
  cases hreturn
  obtain ⟨rfl, hdumped⟩ := attempt_ok hattempt
  -- both files are written after the files of the environment, the start config last
  have hkept : s'.under (stagingPath root name ++ ["groups", group.envName] ++ ["dataset.jsonl"]) =
      s₈.under (stagingPath root name ++ ["groups", group.envName] ++ ["dataset.jsonl"]) := by
    rw [List.append_assoc]
    refine (Kept.staging name _).exec (write_asks ?_) hstart
    rw [← List.append_assoc]
    exact Apart.siblings (by decide) _
  have hdata := (congrFun hkept []).trans (by simpa [under] using write_exec hdataset)
  refine ⟨rfl, ⟨fields.2.2, checked_exec hfields, rfl⟩,
    ⟨dataset.1, dataset.2, ?_, rfl, readDataset_exec hread, rfl⟩,
    ⟨startDocument, start, ?_, rfl, checked_exec hvalid, hdumped⟩⟩
  · simpa [under] using hdata
  · simpa [under] using write_exec hstart

/-- The loop over one group. -/
theorem renderGroups_exec {staging : Path} {resultSource : String} {group : RangeGroupConfig}
    {environments : List (String × Row)}
    {result : List (String × Row) × List EnvironmentBinding × Int}
    (h : Exec (storage root W jobId)
      (m.renderGroups staging resultSource [group] environments [] 0) s (.ok result) s') :
    ∃ environment rendered, lookup group.envName environments = some environment ∧
      Exec (storage root W jobId) (m.renderGroup staging resultSource group environment) s
        (.ok rendered) s' ∧
      result = (assign group.envName rendered.1 environments, [rendered.2],
        rendered.2.datasetRecords * rendered.2.envNum) := by
  unfold SharedFileManager.renderGroups at h
  split at h
  · next environment hlookup =>
    obtain ⟨rendered, s₁, hgroup, hreturn⟩ := h.task_bind_inv
    cases hreturn
    refine ⟨environment, rendered, hlookup, hgroup, ?_⟩
    rw [Int.zero_add, List.nil_append]
  · cases h

/-- The environments by their names: all of them, each under its own name. -/
theorem nameEnvironments_ok {items : List Value} {named result : List (String × Row)}
    (h : nameEnvironments items named = .ok result) (hnodup : (named.map (·.1)).Nodup) :
    ∃ more, result = named ++ more ∧ items = more.map (fun p => .dict p.2) ∧
      (∀ p ∈ more, p.2.field "env_name" = .str p.1) ∧ (result.map (·.1)).Nodup := by
  induction items generalizing named with
  | nil =>
    cases h
    exact ⟨[], (List.append_nil _).symm, rfl, nofun, hnodup⟩
  | cons item rest ih =>
    unfold nameEnvironments at h
    split at h
    · cases h
    · next fields hfields =>
      split at h
      · cases h
      · next name hname =>
        split at h
        · cases h
        · split at h
          · cases h
          · next hnew =>
            have hnodup' : ((named ++ [(name, fields)]).map (·.1)).Nodup := by
              rw [List.map_append, List.nodup_append]
              refine ⟨hnodup, List.nodup_singleton _, ?_⟩
              intro k hk k' hk' heq
              obtain ⟨p, hp, rfl⟩ := List.mem_map.mp hk
              rw [List.map_singleton, List.mem_singleton] at hk'
              exact hnew (List.any_eq_true.mpr ⟨p, hp, decide_eq_true (heq.trans hk')⟩)
            obtain ⟨more, hresult, hrest, hnames, hkeys⟩ := ih h hnodup'
            refine ⟨(name, fields) :: more, ?_, ?_, ?_, hkeys⟩
            · rw [hresult, List.append_assoc, List.singleton_append]
            · rw [hrest, List.map_cons, Value.asDict?_some hfields]
            · intro p hp
              rcases List.mem_cons.mp hp with rfl | hp
              · exact Value.asStr?_some hname
              · exact hnames p hp

/-- The environments of an agent config that matches its only group. -/
theorem matchEnvironments_ok {agentDocument : Row} {group : RangeGroupConfig}
    {environments : List (String × Row)}
    (h : SharedFileManager.matchEnvironments agentDocument [group] = .ok environments) :
    ∃ environment, environments = [(group.envName, environment)] ∧
      agentDocument.field "environments" = .list [.dict environment] ∧
      environment.field "env_name" = .str group.envName := by
  unfold SharedFileManager.matchEnvironments at h
  split at h
  · cases h
  · cases h
  · next items hne hitems =>
    obtain ⟨named, hnamed, hmatch⟩ := bind_ok h
    obtain ⟨more, rfl, rfl, hnames, hnodup⟩ := nameEnvironments_ok hnamed List.nodup_nil
    dsimp only at hmatch
    split at hmatch
    · cases hmatch
    · next hsame =>
      cases hmatch
      simp only [List.map_cons, List.map_nil, List.all_cons, List.all_nil, Bool.and_true,
        Bool.not_eq_true', Bool.and_eq_true, Bool.not_eq_false,
        List.all_eq_true, List.contains_iff_mem, List.mem_singleton, List.any_eq_true,
        decide_eq_true_eq] at hsame
      obtain ⟨hdeclared, p, hp, hname⟩ := hsame
      match environments, hp with
      | [q], hp =>
        obtain rfl := List.mem_singleton.mp hp
        refine ⟨p.2, ?_, Value.asList?_some hitems, ?_⟩
        · rw [← hname]
        · rw [← hname]
          exact hnames p hp
      | q :: q' :: rest, _ =>
        have hq := hdeclared q List.mem_cons_self
        have hq' := hdeclared q' (List.mem_cons_of_mem _ List.mem_cons_self)
        have hne : q.1 ∉ q'.1 :: rest.map (·.1) := (List.nodup_cons.mp hnodup).1
        rw [hq, hq'] at hne
        exact absurd List.mem_cons_self hne

/-- A rendering that returns has written every file of its binding. -/
theorem renderBinding_exec {name job : String} {finalInput : Path} {config : RangeConfig}
    {b : JobFileBinding} (h : Exec (storage root W jobId)
      (m.renderBinding (stagingPath root name) finalInput job config) s (.ok b) s') :
    ∃ group source environment rendered, RenderedBinding m finalInput job config b
      (s'.under (stagingPath root name)) group source environment rendered := by
  obtain ⟨agentDocument, s₁, -, hmatch⟩ := h.task_bind_inv
  obtain ⟨environments, s₂, hchecked, hgroups⟩ := hmatch.task_bind_inv
  split at hgroups
  · next onlyGroup honly =>
    rw [honly] at hgroups hchecked
    obtain ⟨environment, rfl, hsource, hnamed⟩ := matchEnvironments_ok (checked_exec hchecked)
    obtain ⟨launcher, s₃, hlauncher, hafter⟩ := hgroups.task_bind_inv
    obtain ⟨_, s₄, hmkdirs, hloop⟩ := hafter.task_bind_inv
    obtain ⟨rendered, s₅, hrender, hdump⟩ := hloop.task_bind_inv
    obtain ⟨agent, s₆, hagent, hwrite⟩ := hdump.task_bind_inv
    obtain ⟨_, s₇, hconfig, hdumpGateway⟩ := hwrite.task_bind_inv
    obtain ⟨gateway, s₈, hattempt, hdirectory⟩ := hdumpGateway.task_bind_inv
    obtain ⟨_, s₉, hmkdir, hlast⟩ := hdirectory.task_bind_inv
    obtain ⟨_, s₁₀, hgateway, hreturn⟩ := hlast.task_bind_inv
    cases hreturn
    obtain ⟨rfl, hagentDump⟩ := attempt_ok hagent
    obtain ⟨rfl, hgatewayDump⟩ := attempt_ok hattempt
    obtain ⟨environment', group, hlookup, hgroup, rfl⟩ := renderGroups_exec hrender
    rw [lookup_cons, if_pos rfl] at hlookup
    obtain rfl := Option.some.inj hlookup
    -- the gateway directory and `config.yaml` come after the groups, and these after the launcher
    have hafterConfig : ∀ c sub, c ≠ "gateway" →
        s' (stagingPath root name ++ c :: sub) = s₈ (stagingPath root name ++ c :: sub) := by
      intro c sub hc
      refine (below_exec (write_asks ?_) hc hgateway).trans
        (below_exec (mkdir_asks (List.prefix_refl _)) hc hmkdir)
      exact ⟨m.gatewayConfigFilename, by simp⟩
    have hafterGroups : ∀ c sub, c ≠ "gateway" → c ≠ "config.yaml" →
        s' (stagingPath root name ++ c :: sub) = s₆ (stagingPath root name ++ c :: sub) :=
      fun c sub hc hne => (hafterConfig c sub hc).trans
        (below_exec (write_asks (List.prefix_refl _)) hne hconfig)
    refine ⟨onlyGroup, agentDocument, environment, group, honly, hsource, hnamed, ?_, ?_, ?_, ?_,
      rfl⟩
    · exact (renderGroup_exec hgroup).congr fun sub =>
        hafterGroups "groups" sub (by decide) (by decide)
    · refine (renderLauncher_exec hlauncher).imp_right fun ⟨hpath, data, hdata, hsum⟩ =>
        ⟨hpath, data, (hafterGroups "launcher.rjob.yaml" [] (by decide) (by decide)).trans ?_, hsum⟩
      have hloop : s₆ (stagingPath root name ++ ["launcher.rjob.yaml"]) =
          s₄ (stagingPath root name ++ ["launcher.rjob.yaml"]) :=
        below_exec (renderGroups_asks _ _ _ _ _) (by decide) hrender
      exact hloop.trans (mkdirs_exec (.temporary name) hmkdirs hdata)
    · have hagent := (hafterConfig "config.yaml" [] (by decide)).trans (write_exec hconfig)
      refine ⟨agent, hagent, rfl, ?_⟩
      have hone : (assign onlyGroup.envName group.1 [(onlyGroup.envName, environment)]).map
          (fun p => Value.dict p.2) = [.dict group.1] := by
        simp [assign]
      rw [hone] at hagentDump
      exact hagentDump
    · have hfile := write_exec hgateway
      exact ⟨gateway, hfile, rfl, hgatewayDump⟩
  · cases hgroups

end

end SafactoryServer
