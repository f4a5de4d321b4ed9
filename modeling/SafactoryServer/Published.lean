import Mathlib.Data.List.TakeWhile
import SafactoryServer.Disk
import SafactoryServer.Publish

/-! The published files are those that the binding tells of: its paths in the container, on the
platform and on the server name the same files. -/

namespace SafactoryServer

open Effect FileTree FileTree.Tree FileTask Landing

/-- The path in a container below `target` is that of a file in `t` with this checksum. -/
def MountedFile (m : SharedFileManager) (target : String) (t : Files) (path checksum : String) :
    Prop :=
  ∃ r data, path = target ++ Path.str r ∧ t r = some (.file (.bytes data)) ∧
    m.sha256 data = checksum

/-- An environment of the published agent config and a group of the binding. -/
structure DescribedGroup (m : SharedFileManager) (b : JobFileBinding) (t : Files)
    (group : EnvironmentBinding) (environment : Row) : Prop where
  name : environment.field "env_name" = .str group.envName
  image : environment.field "env_image" = .str group.envImage
  num : environment.field "env_num" = .int group.envNum
  dataset : ∃ path, environment.field "dataset" = .str path ∧
    MountedFile m b.inputTarget t path group.datasetChecksum
  start : MountedFile m b.inputTarget t b.agentStartConfigPath group.startConfigChecksum
  /-- The dataset is one that was read, with the records of the group. -/
  records : ∃ data records,
    t ["groups", group.envName, "dataset.jsonl"] = some (.file (.bytes data)) ∧
    m.sha256 data = group.datasetChecksum ∧
    m.datasetRecords data = .ok records ∧ group.datasetRecords = records
  /-- The start config is one that was rendered. -/
  rendered : ∃ document data,
    t ["groups", group.envName, "start.rjob.yaml"] = some (.file (.bytes data)) ∧
    m.sha256 data = group.startConfigChecksum ∧
    validateStartConfig document group.envName m.resultTarget = .ok () ∧
    m.safeDump (.dict (m.renderStart document b.resultSource)) = .ok data

/-- The binding of `jobId` describes the files in its input directory `t`. -/
structure Describes (m : SharedFileManager) (jobId : String) (b : JobFileBinding) (t : Files) :
    Prop where
  input : b.inputLocalPath = (m.root ++ [jobId]).str
  agent : MountedFile m b.inputTarget t b.agentConfigPath b.agentConfigChecksum
  launcher : ∀ path ∈ b.launcherRjobConfigPath,
    MountedFile m b.inputTarget t path b.launcherRjobConfigChecksum
  gateway : ∃ r data, b.gatewayConfigPath = (m.gatewayConfigMountDir ++ r).str ∧
    t ("gateway" :: r) = some (.file (.bytes data)) ∧ m.sha256 data = b.gatewayConfigChecksum
  gatewaySource : b.gatewayConfigSource = b.inputSource ++ "/gateway"
  /-- The agent config is one that was read, with its only environment replaced, and the binding has
  one group, which describes it. -/
  groups : ∃ (source original environment : Row) (data : Bytes) (group : EnvironmentBinding),
    source.field "environments" = .list [.dict original] ∧
    original.field "env_name" = .str group.envName ∧
    t ["config.yaml"] = some (.file (.bytes data)) ∧
    m.safeDump (.dict (assign "environments" (.list [.dict environment]) source)) = .ok data ∧
    b.groups = [group] ∧ DescribedGroup m b t group environment
  total : b.totalEpisodes = episodes b.groups

section

variable {m : SharedFileManager} {jobId : String} {b : JobFileBinding} {t t' : Files}

/-- The fields of an environment that has passed the checks of the loop. -/
theorem environmentFields_ok {envName envImage : String} {envNum : Int}
    {environment envParams : Row}
    (h : m.environmentFields envName environment = .ok (envImage, envNum, envParams)) :
    environment.field "env_image" = .str envImage ∧ environment.field "env_num" = .int envNum := by
  unfold SharedFileManager.environmentFields at h
  split at h
  · cases h
  · next himage =>
    split at h
    · cases h
    · split at h
      · next hnum =>
        split at h
        · cases h
        · split at h
          · cases h
          · cases h
            exact ⟨Value.asStr?_some himage, hnum⟩
      · cases h

/-- The path of a file of a group, as it is put together. -/
theorem groupPath (target envName suffix file : String) (h : suffix = "/" ++ file) :
    target ++ "/groups/" ++ envName ++ suffix =
      target ++ Path.str ["groups", envName, file] := by
  have hgroups : "/groups/" = "/" ++ "groups" ++ "/" := by decide
  rw [h, hgroups]
  simp only [Path.str, String.intercalate_cons_cons, String.intercalate_singleton,
    String.append_assoc]

/-- No character of a safe name is a slash. -/
theorem safeName_noSlash (h : safeName jobId = true) : '/' ∉ jobId.toList := by
  unfold safeName at h
  split at h
  · cases h
  · next c rest hchars =>
    simp only [Bool.and_eq_true, List.all_eq_true] at h
    obtain ⟨⟨⟨-, hfirst⟩, -⟩, hrest⟩ := h
    rw [hchars]
    intro hmem
    rcases List.mem_cons.mp hmem with rfl | hmem
    · exact absurd hfirst (by decide)
    · exact absurd (hrest _ hmem).2 (by decide)

theorem safeName_ne (h : safeName jobId = true) : jobId.toList ≠ [] := by
  intro hnil
  simp [safeName, hnil] at h

/-- The source of a Job ends in its ID, and this in no slash. -/
theorem joinSource_gateway {root : String} (h : safeName jobId = true) :
    joinSource (joinSource root jobId) "gateway" = joinSource root jobId ++ "/gateway" := by
  have hslash := safeName_noSlash h
  have hlast : jobId.toList.getLast (safeName_ne h) ∉ ['/'] := by
    intro hmem
    rw [← List.mem_singleton.mp hmem] at hslash
    exact hslash (List.getLast_mem _)
  have hjob : lstrip ['/'] jobId = jobId := by
    rw [lstrip, List.dropWhile_eq_self_iff.mpr, String.ofList_toList]
    intro hpos hhead
    rw [← List.mem_singleton.mp (List.contains_iff_mem.mp hhead)] at hslash
    exact hslash (List.getElem_mem hpos)
  have hsource : rstrip ['/'] (joinSource root jobId) = joinSource root jobId := by
    have hends : (joinSource root jobId).toList = (rstrip ['/'] root ++ "/").toList ++
        jobId.toList.dropLast ++ [jobId.toList.getLast (safeName_ne h)] := by
      rw [joinSource, hjob, String.toList_append, List.append_assoc, List.dropLast_append_getLast]
    exact rstrip_eq hends hlast
  have hgateway : "/" ++ lstrip ['/'] "gateway" = "/gateway" := by decide
  rw [joinSource.eq_def (joinSource root jobId), hsource, String.append_assoc, hgateway]

/-- A group that was rendered is described by its binding. -/
theorem RenderedGroup.described {resultSource : String} {group : RangeGroupConfig}
    {environment : Row} {rendered : Row × EnvironmentBinding}
    (h : RenderedGroup m resultSource group environment rendered t)
    (hnamed : environment.field "env_name" = .str group.envName)
    (htarget : b.inputTarget = m.inputTarget) (hresult : b.resultSource = resultSource)
    (hstart : b.agentStartConfigPath =
      m.inputTarget ++ "/groups/" ++ group.envName ++ "/start.rjob.yaml") :
    DescribedGroup m b t rendered.2 rendered.1 := by
  obtain ⟨envParams, hfields, hrow⟩ := h.fields
  obtain ⟨himage, hnum⟩ := environmentFields_ok hfields
  have hkept : ∀ k, k ≠ "env_params" → k ≠ "dataset" →
      rendered.1.field k = environment.field k := fun k hparams hdataset => by
    rw [hrow, field_assign_of_ne hparams, field_assign_of_ne hdataset]
  refine ⟨?_, ?_, ?_, ?_, ?_, ?_, ?_⟩
  · rw [hkept _ (by decide) (by decide), hnamed, h.name]
  · rw [hkept _ (by decide) (by decide), himage]
  · rw [hkept _ (by decide) (by decide), hnum]
  · obtain ⟨data, records, hfile, hsum, -⟩ := h.dataset
    refine ⟨m.inputTarget ++ "/groups/" ++ group.envName ++ "/dataset.jsonl", ?_,
      ["groups", rendered.2.envName, "dataset.jsonl"], data, ?_, hfile, hsum⟩
    · rw [hrow, field_assign_of_ne (by decide), field_assign_self]
    · rw [htarget, h.name]
      exact groupPath m.inputTarget group.envName "/dataset.jsonl" "dataset.jsonl" (by decide)
  · obtain ⟨document, data, hfile, hsum, -⟩ := h.start
    refine ⟨["groups", rendered.2.envName, "start.rjob.yaml"], data, ?_, hfile, hsum⟩
    rw [hstart, htarget, h.name]
    exact groupPath m.inputTarget group.envName "/start.rjob.yaml" "start.rjob.yaml" (by decide)
  · exact h.dataset
  · obtain ⟨document, data, hfile, hsum, hvalid, hdump⟩ := h.start
    exact ⟨document, data, hfile, hsum, h.name ▸ hvalid, hresult ▸ hdump⟩

/-- What is put beside the files of a rendering leaves them. -/
theorem RenderedBinding.put {finalInput : Path} {config : RangeConfig} {group : RangeGroupConfig}
    {source environment : Row} {rendered : Row × EnvironmentBinding} {node : Node FileContent}
    (h : RenderedBinding m finalInput jobId config b t group source environment rendered) :
    RenderedBinding m finalInput jobId config b (t.put [".binding.json"] node) group source
      environment rendered := by
  have hother : ∀ c sub, c ≠ ".binding.json" →
      t.put [".binding.json"] node (c :: sub) = t (c :: sub) := by
    intro c sub hc
    exact if_neg fun heq => hc (List.cons.inj heq).1
  refine ⟨h.groups, h.environments, h.named, h.written.congr fun sub => hother _ sub (by decide),
    ?_, ?_, ?_, h.binding⟩
  · rw [hother _ _ (by decide)]
    exact h.launcher
  · rw [hother _ _ (by decide)]
    exact h.agent
  · rw [hother _ _ (by decide)]
    exact h.gateway

/-- A rendering is described by its binding. -/
theorem RenderedBinding.describes {config : RangeConfig} {group : RangeGroupConfig}
    {source environment : Row} {rendered : Row × EnvironmentBinding} (hsafe : safeName jobId = true)
    (h : RenderedBinding m (m.root ++ [jobId]) jobId config b t group source environment rendered) :
    Describes m jobId b t := by
  have hb := h.binding
  refine ⟨?_, ?_, ?_, ?_, ?_, ?_, ?_⟩
  · rw [hb]
  · obtain ⟨data, hfile, hsum, -⟩ := h.agent
    refine ⟨["config.yaml"], data, ?_, hfile, hsum⟩
    rw [hb]
    rfl
  · intro path hpath
    rcases h.launcher with hnone | ⟨hsome, data, hfile, hsum⟩
    · rw [hnone] at hpath
      cases hpath
    · rw [hsome] at hpath
      obtain rfl := Option.some.inj hpath
      refine ⟨["launcher.rjob.yaml"], data, ?_, hfile, hsum⟩
      rw [hb]
      rfl
  · obtain ⟨data, hfile, hsum, -⟩ := h.gateway
    exact ⟨m.gatewayConfigFilename, data, by rw [hb], hfile, hsum⟩
  · rw [hb]
    exact joinSource_gateway hsafe
  · obtain ⟨data, hfile, hsum, hdump⟩ := h.agent
    refine ⟨source, environment, rendered.1, data, rendered.2, h.environments, ?_, hfile, hdump,
      by rw [hb], h.written.described h.named (by rw [hb]) (by rw [hb]) (by rw [hb])⟩
    rw [h.named, h.written.name]
  · rw [hb]
    simp [episodes]

end

/-- A fresh `bind` that returns has rendered its binding into the directory of the Job. -/
theorem bound_rendering {m : SharedFileManager} {W : Surroundings} {jobId rangeId : String}
    {s s' : Files} {b : JobFileBinding} (habsent : s.under (m.root ++ [jobId]) = absent)
    (h : Exec (storage m.root W jobId) (m.bind jobId rangeId) s (.ok b) s') :
    safeName jobId = true ∧ ∃ config group source environment rendered,
      RenderedBinding m (m.root ++ [jobId]) jobId config b (s'.under (m.root ++ [jobId])) group
        source environment rendered := by
  have hsafe : safeName jobId = true := by
    by_contra hrefused
    unfold SharedFileManager.bind at h
    rw [if_pos (by simp [hrefused])] at h
    cases h
  obtain ⟨name, config, s₁, s₂, hrendered⟩ := (bind_published habsent h).rendered
  obtain ⟨group, source, environment, rendered, hbinding⟩ := renderBinding_exec hrendered.exec
  rw [hrendered.tree]
  exact ⟨hsafe, config, group, source, environment, rendered, hbinding.put⟩

/-- A fresh `bind` that returns has published the files that its binding describes. -/
theorem published_described {m : SharedFileManager} {W : Surroundings} {jobId rangeId : String}
    {s s' : Files} {b : JobFileBinding} (habsent : s.under (m.root ++ [jobId]) = absent)
    (h : Exec (storage m.root W jobId) (m.bind jobId rangeId) s (.ok b) s') :
    Describes m jobId b (s'.under (m.root ++ [jobId])) := by
  obtain ⟨hsafe, _, _, _, _, _, hrendering⟩ := bound_rendering habsent h
  exact hrendering.describes hsafe

/-! A storage and a disk for a whole run. -/

def sampleStartConfig : Value :=
  .dict [("agent_name", .str "env"),
    ("container", .dict [("runner_entrypoint", .dict [("command", .str "run")])]),
    ("rjob", .dict [("mount_config", .list [.str "/mnt/old:/app/results"])])]

def sampleDataset : Bytes := [0x7B, 0x7D, 0x0A]

/-- The YAML documents of the run, as `yaml.safe_dump` writes them, with their digests. -/
def sampleDocuments : List (String × String) :=
  [("\x7b\x7d\n", "ca3d163bab055381827226140568f3bef7eaac187cebd76878e0b63e9e442356"),
    ("agent_name: env\ncontainer:\n  runner_entrypoint:\n    command: run\n" ++
      "rjob:\n  mount_config:\n  - /mnt/safactory/results/job:/app/results\n",
      "e7489d7f56b798286246bdf1a0348d675a08e2d2c53a654f43b17704819a2330"),
    ("environments:\n- env_name: env\n  env_image: image\n  env_num: 1\n  env_params:\n" ++
      "    safactory_results_root: /app/results\n" ++
      "  dataset: /mnt/safactory-job/groups/env/dataset.jsonl\n",
      "731db37fc49cdd5c4b0e692ba6abec79e549bf16ad42c47aedadbb87fd59ed6f")]

def sampleDump : Value → Except Fault Bytes
  | .dict [] => .ok sampleDataset
  | .dict (("agent_name", _) :: _) => .ok ((sampleDocuments.getD 1 ("", "")).1.toUTF8.toList)
  | .dict (("environments", _) :: _) => .ok ((sampleDocuments.getD 2 ("", "")).1.toUTF8.toList)
  | _ => .error .yaml

/-- The default storage, with libraries that know the documents of the run. -/
def sampleManager : SharedFileManager :=
  { sampleStorage with
    python :=
      { plainPython with
        loads := fun text => if text = "\x7b\x7d" then .ok (.dict []) else .error .valueError
        loads_empty := rfl }
    safeDump := sampleDump
    sha256 := fun data =>
      ((sampleDocuments.find? fun p => p.1.toUTF8.toList == data).map (·.2)).getD ""
    decode := fun data => if data = sampleDataset then some "\x7b\x7d\n" else none }

/-- An environment whose directory holds a file of the name of the dataset. -/
def sampleDisk : Disk :=
  { catalog := sampleRepository.catalog
    readYaml := fun source => .ok (if source = "start.yaml" then sampleStartConfig else sampleAgent)
    readBytes := fun _ => .ok sampleDataset
    isFileBeside := fun _ _ => .ok false
    iterdirBeside := fun _ => .ok [⟨"dataset.jsonl", false, .file (.bytes [])⟩]
    temporary := fun _ _ => "x"
    takes := fun name => !name.toList.contains (Char.ofNat 0) }

theorem sample_bound : ∃ b s,
    Task.run sampleDisk.answer (sampleManager.bind "job" "range") absent = (.ok b, s) := by
  let staging : Path := ["mnt", "safactory", ".input-x"]
  let group : Path := staging ++ ["groups", "env"]
  let start := (sampleDocuments.getD 1 ("", "")).1.toUTF8.toList
  let agent := (sampleDocuments.getD 2 ("", "")).1.toUTF8.toList
  let s₁ : Files := absent.makeDirs ["mnt", "safactory"]
  let s₂ : Files := s₁.put staging .dir
  let s₃ : Files := s₂.makeDirs ["mnt", "safactory", "results", "job"]
  let s₄ : Files := s₃.makeDirs group
  let s₅ : Files := s₄.put (group ++ ["dataset.jsonl"]) (.file (.bytes []))
  let s₆ : Files := s₅.put (group ++ ["dataset.jsonl"]) (.file (.bytes sampleDataset))
  let s₇ : Files := s₆.put (group ++ ["start.rjob.yaml"]) (.file (.bytes start))
  let s₈ : Files := s₇.put (staging ++ ["config.yaml"]) (.file (.bytes agent))
  let s₉ : Files := s₈.put (staging ++ ["gateway"]) .dir
  let s₁₀ : Files := s₉.put (staging ++ ["gateway", "gateway.yaml"]) (.file (.bytes sampleDataset))
  have hcall {α ε : Type} (e : FileOp) (s' : Files)
      {k : FileAns e → Program FileOp FileAns (Except ε α)} {s : Files} (r : FileAns e)
      (ha : sampleDisk.answer e s = (r, s'))
      (hk : ∃ a t, (k r).run sampleDisk.answer s' = (.ok a, t)) :
      ∃ a t, (Program.call e k).run sampleDisk.answer s = (.ok a, t) := by
    rw [Program.run, ha]
    exact hk
  have hopen (s : Files) (path : Path) (h : ∀ p ∈ path.inits, s p = none ∨ s p = some .dir) :
      ∀ p, p <+: path → s p = none ∨ s p = some .dir :=
    fun p hp => h p ((List.mem_inits p path).mpr hp)
  refine hcall .catalog absent sampleRepository.catalog rfl ?_
  refine hcall (.exists _) absent false rfl ?_
  refine hcall (.exists _) absent false rfl ?_
  refine hcall (.mkdirs _ _) s₁ (.ok ()) (Disk.attempts_pos ⟨⟨?_, rfl⟩, nofun⟩) ?_
  · exact fun _ _ => .inl rfl
  refine hcall (.mkdtemp _) s₂ (.ok staging) (Disk.attempts_pos ⟨rfl, ?_, by decide +kernel⟩) ?_
  · exact under_makeDirs (by decide)
  refine hcall (.readYaml _) s₂ (.ok sampleAgent) rfl ?_
  refine hcall (.mkdirs _ _) s₃ (.ok ()) (Disk.attempts_pos ⟨⟨hopen _ _ ?_, rfl⟩, nofun⟩) ?_
  · rintro p (_ | ⟨_, _ | ⟨_, _ | ⟨_, _ | ⟨_, _ | ⟨_, ⟨⟩⟩⟩⟩⟩⟩)
    exacts [.inr rfl, .inr rfl, .inr rfl, .inl rfl, .inl rfl]
  refine hcall (.readBytes _) s₃ (.ok sampleDataset) rfl ?_
  refine hcall (.readYaml _) s₃ (.ok sampleStartConfig) rfl ?_
  refine hcall (.mkdirs _ _) s₄ (.ok ()) (Disk.attempts_pos ⟨⟨hopen _ _ ?_, rfl⟩, fun _ => rfl⟩) ?_
  · rintro p (_ | ⟨_, _ | ⟨_, _ | ⟨_, _ | ⟨_, _ | ⟨_, _ | ⟨_, ⟨⟩⟩⟩⟩⟩⟩⟩)
    exacts [.inr rfl, .inr rfl, .inr rfl, .inr rfl, .inl rfl, .inl rfl]
  refine hcall (.iterdirBeside _) s₄ (.ok _) rfl ?_
  refine hcall (.write _ _) s₅ (.ok ()) (Disk.attempts_pos ⟨rfl, nofun, rfl⟩) ?_
  refine hcall (.write _ _) s₆ (.ok ()) (Disk.attempts_pos ⟨rfl, nofun, rfl⟩) ?_
  refine hcall (.write _ _) s₇ (.ok ()) (Disk.attempts_pos ⟨rfl, nofun, rfl⟩) ?_
  refine hcall (.write _ _) s₈ (.ok ()) (Disk.attempts_pos ⟨rfl, nofun, rfl⟩) ?_
  refine hcall (.mkdir _) s₉ (.ok ()) (Disk.attempts_pos ⟨rfl, rfl, rfl⟩) ?_
  refine hcall (.write _ _) s₁₀ (.ok ()) (Disk.attempts_pos ⟨rfl, nofun, rfl⟩) ?_
  refine hcall (.write _ _) _ (.ok ()) (Disk.attempts_pos ⟨rfl, nofun, rfl⟩) ?_
  refine hcall (.replace _ _) _ (.ok ()) (Disk.attempts_pos ⟨rfl, .inl ?_⟩) ?_
  · exact funext fun p => rfl
  exact ⟨_, _, rfl⟩

theorem published_described_sample : ∃ b s,
    Exec (storage sampleManager.root .any "job") (sampleManager.bind "job" "range") absent
        (.ok b) s ∧
      Describes sampleManager "job" b (s.under (sampleManager.root ++ ["job"])) := by
  obtain ⟨b, s, hrun⟩ := sample_bound
  have hexec : Exec (storage sampleManager.root .any "job") (sampleManager.bind "job" "range")
      absent (.ok b) s := Disk.exec trivial hrun
  exact ⟨b, s, hexec, published_described rfl hexec⟩

end SafactoryServer
