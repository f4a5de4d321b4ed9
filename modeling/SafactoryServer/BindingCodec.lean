import SafactoryServer.Binding
import SafactoryServer.JsonLoads.RoundTrip
import SafactoryServer.Publish

/-! The texts of bindings, and those that older servers wrote, which lack keys that `from_json`
fills in. -/

namespace SafactoryServer

/-- The keys for which `from_json` has a default. -/
def optionalKeys : List String :=
  ["input_local_path", "result_local_path", "launcher_rjob_config_path",
    "launcher_rjob_config_checksum", "gateway_config_source", "gateway_config_path",
    "gateway_config_checksum", "agent_start_config_path"]

/-- The entries without the deleted keys. -/
def without (deleted : String → Bool) (entries : List (String × Json)) : List (String × Json) :=
  entries.filter fun entry => !deleted entry.1

/-- The entries of the document of a binding. -/
def JobFileBinding.entries (b : JobFileBinding) : List (String × Json) :=
  (b.toJson.asObj?).getD []

/-- `b` with the defaults of the deleted keys, and `path` for the start config. -/
def JobFileBinding.filled (b : JobFileBinding) (deleted : String → Bool) (path : String) :
    JobFileBinding :=
  { b with
    inputLocalPath := if deleted "input_local_path" then b.inputSource else b.inputLocalPath
    resultLocalPath := if deleted "result_local_path" then b.resultSource else b.resultLocalPath
    launcherRjobConfigPath :=
      if deleted "launcher_rjob_config_path" then none else b.launcherRjobConfigPath
    launcherRjobConfigChecksum :=
      if deleted "launcher_rjob_config_checksum" then "" else b.launcherRjobConfigChecksum
    gatewayConfigSource :=
      if deleted "gateway_config_source" then joinSource b.inputSource "gateway"
      else b.gatewayConfigSource
    gatewayConfigPath :=
      if deleted "gateway_config_path" then "/app/runtime-config/gateway.yaml"
      else b.gatewayConfigPath
    gatewayConfigChecksum :=
      if deleted "gateway_config_checksum" then "" else b.gatewayConfigChecksum
    agentStartConfigPath := path }

/-- The start config that `from_json` reads, or the one it derives from the only group. -/
def JobFileBinding.startConfigPath (b : JobFileBinding) (deleted : String → Bool) :
    Except PyExc String :=
  if deleted "agent_start_config_path" then
    match b.groups with
    | [group] => .ok (b.inputTarget ++ "/groups/" ++ group.envName ++ "/start.rjob.yaml")
    | _ => .error .fileBindingError
  else .ok b.agentStartConfigPath

section

variable {deleted : String → Bool} {entries : List (String × Json)} {key : String}

theorem lookup_without : lookup key (without deleted entries) =
    if deleted key then none else lookup key entries := by
  induction entries with
  | nil => simp [without, lookup]
  | cons entry rest ih =>
    unfold without at ih ⊢
    by_cases hentry : entry.1 = key
    · by_cases hkey : deleted key = true
      · rw [List.filter_cons_of_neg (by simp [hentry, hkey]), ih, if_pos hkey, if_pos hkey]
      · rw [List.filter_cons_of_pos (by simp [hentry, hkey]), lookup_cons, lookup_cons,
          if_pos hentry, if_pos hentry, if_neg hkey]
    · rw [lookup_cons, if_neg hentry, ← ih, List.filter_cons]
      split
      · rw [lookup_cons, if_neg hentry]
      · rfl

theorem field_without {α : Type} {missing : PyExc} {read : Json → Option α}
    (hkept : deleted key = false) :
    field missing read key (without deleted entries) = field missing read key entries := by
  rw [field, field, lookup_without, hkept]
  rfl

theorem fieldD_without {α : Type} {read : Json → Option α} {default value : α}
    (h : fieldD read key default entries = .ok value) :
    fieldD read key default (without deleted entries) =
      .ok (if deleted key then default else value) := by
  cases hkey : deleted key with
  | true =>
    rw [fieldD, lookup_without, hkey]
    rfl
  | false =>
    rw [fieldD, lookup_without, hkey]
    exact h

theorem lookup_congr {α : Type} {k : String} {value value' : α} {rest rest' : List (String × α)}
    (hvalue : k = key → value' = value) (hrest : lookup key rest' = lookup key rest) :
    lookup key ((k, value') :: rest') = lookup key ((k, value) :: rest) := by
  rw [lookup_cons, lookup_cons, hrest]
  split
  · next hk => rw [hvalue hk]
  · rfl

end

namespace JobFileBinding

variable {b c : JobFileBinding} {deleted : String → Bool}

theorem agentStartConfigPathOf_without (hkept : deleted "input_target" = false) :
    agentStartConfigPathOf (without deleted b.entries) b.groups = b.startConfigPath deleted := by
  have htarget : field .keyError Json.asStr? "input_target" (without deleted b.entries) =
      .ok b.inputTarget := (field_without hkept).trans rfl
  unfold agentStartConfigPathOf startConfigPath legacyStartConfigPath
  rw [lookup_without, htarget]
  cases deleted "agent_start_config_path" <;> rfl

/-- What `from_json` makes of a document of `b` that lacks optional keys. -/
theorem fromJson_without (h : ∀ key, deleted key = true → key ∈ optionalKeys) :
    fromJson (.obj (without deleted b.entries)) =
      (b.startConfigPath deleted).map (b.filled deleted) := by
  have hread {α : Type} {missing : PyExc} {read : Json → Option α} (key : String) {value : α}
      (hvalue : field missing read key b.entries = .ok value) (hkey : key ∉ optionalKeys) :
      field missing read key (without deleted b.entries) = .ok value := by
    refine (field_without ?_).trans hvalue
    by_contra hdeleted
    exact hkey (h key (by simpa using hdeleted))
  have htext (key value : String) (hvalue : field .typeError Json.asStr? key b.entries = .ok value)
      (hkey : key ∉ optionalKeys) :
      field .typeError Json.asStr? key (without deleted b.entries) = .ok value :=
    hread key hvalue hkey
  have hdefault (key default value : String)
      (hvalue : fieldD Json.asStr? key default b.entries = .ok value) :
      fieldD Json.asStr? key default (without deleted b.entries) =
        .ok (if deleted key then default else value) := fieldD_without hvalue
  have htarget : deleted "input_target" = false := by
    by_contra hdeleted
    exact absurd (h "input_target" (by simpa using hdeleted)) (by decide)
  have hknown : ¬ (without deleted b.entries).any (fun entry => decide (entry.1 ∉
      ["agent_config_checksum", "agent_config_path", "agent_start_config_path",
        "gateway_config_checksum", "gateway_config_path", "gateway_config_source", "groups",
        "input_local_path", "input_source", "input_target", "job_id",
        "launcher_rjob_config_checksum", "launcher_rjob_config_path", "range_id",
        "result_local_path", "result_source", "result_target", "total_episodes"])) = true := by
    rw [List.any_eq_true]
    rintro ⟨entry, hentry, hunknown⟩
    have hall : b.entries.any (fun entry => decide (entry.1 ∉ _)) = true :=
      List.any_eq_true.mpr ⟨entry, List.mem_of_mem_filter hentry, hunknown⟩
    exact absurd (hall.symm.trans (show _ = false from rfl)) (by decide)
  have hlauncher : fieldD Json.asOptionalStr? "launcher_rjob_config_path" none b.entries =
      .ok b.launcherRjobConfigPath := by
    obtain ⟨_, _, _, _, _, _, _, _, _, _, _, _, _, launcher, _, _, _, _⟩ := b
    cases launcher <;> rfl
  unfold fromJson
  simp only [Json.asObj?]
  rw [hread "groups" (show field .keyError _ _ _ = .ok (b.groups.map (·.toJson)) from rfl)
    (by decide)]
  show Except.bind ((b.groups.map (·.toJson)).mapM EnvironmentBinding.fromJson) _ = _
  rw [EnvironmentBinding.mapM_fromJson_toJson]
  show Except.bind (field .keyError _ "input_source" _) _ = _
  rw [hread "input_source" (show field .keyError _ _ _ = .ok b.inputSource from rfl) (by decide)]
  show Except.bind (field .keyError _ "result_source" _) _ = _
  rw [hread "result_source" (show field .keyError _ _ _ = .ok b.resultSource from rfl) (by decide)]
  show Except.bind (agentStartConfigPathOf _ b.groups) _ = _
  rw [agentStartConfigPathOf_without htarget]
  cases b.startConfigPath deleted with
  | error x => rfl
  | ok path =>
    show (if _ then _ else _) = _
    rw [if_neg hknown, htext "job_id" b.jobId rfl (by decide),
      htext "range_id" b.rangeId rfl (by decide),
      hdefault "input_local_path" b.inputSource b.inputLocalPath rfl,
      htext "input_target" b.inputTarget rfl (by decide),
      hdefault "result_local_path" b.resultSource b.resultLocalPath rfl,
      htext "result_target" b.resultTarget rfl (by decide),
      htext "agent_config_path" b.agentConfigPath rfl (by decide),
      htext "agent_config_checksum" b.agentConfigChecksum rfl (by decide),
      hread "total_episodes" (show field .typeError _ _ _ = .ok b.totalEpisodes from rfl)
        (by decide),
      fieldD_without hlauncher,
      hdefault "launcher_rjob_config_checksum" "" b.launcherRjobConfigChecksum rfl,
      hdefault "gateway_config_source" (joinSource b.inputSource "gateway") b.gatewayConfigSource
        rfl,
      hdefault "gateway_config_path" "/app/runtime-config/gateway.yaml" b.gatewayConfigPath rfl,
      hdefault "gateway_config_checksum" "" b.gatewayConfigChecksum rfl]
    rfl

theorem startConfigPath_raises {x : PyExc} (h : b.startConfigPath deleted = .error x) :
    x = .fileBindingError := by
  unfold startConfigPath at h
  split at h
  · split at h <;> cases h
    rfl
  · cases h

theorem startConfigPath_error :
    (b.startConfigPath deleted).map (b.filled deleted) = .error .fileBindingError ↔
      deleted "agent_start_config_path" = true ∧ b.groups.length ≠ 1 := by
  unfold startConfigPath
  cases deleted "agent_start_config_path" with
  | false => exact ⟨nofun, nofun⟩
  | true =>
    match hgroups : b.groups with
    | [] => exact ⟨fun _ => ⟨rfl, by decide⟩, fun _ => rfl⟩
    | [group] => exact ⟨nofun, fun h => absurd rfl h.2⟩
    | _ :: _ :: _ => exact ⟨fun _ => ⟨rfl, by simp⟩, fun _ => rfl⟩

/-- `filled` changes no entry that was kept. -/
theorem lookup_filled {path : String} (hpath : b.startConfigPath deleted = .ok path)
    {key : String} (hkept : deleted key = false) :
    lookup key (b.filled deleted path).entries = lookup key b.entries := by
  have kept {α : Type} {k : String} (hk : k = key) (default value : α) :
      (if deleted k then default else value) = value := by
    rw [hk, hkept]
    rfl
  have hstart (hk : "agent_start_config_path" = key) : path = b.agentStartConfigPath := by
    rw [startConfigPath, hk, hkept] at hpath
    cases hpath
    rfl
  refine lookup_congr (fun _ => rfl) (lookup_congr (fun _ => rfl) (lookup_congr (fun hk => ?_) ?_))
  · rw [← hstart hk]
    rfl
  refine lookup_congr (fun hk => congrArg Json.str (kept hk _ _)) ?_
  refine lookup_congr (fun hk => congrArg Json.str (kept hk _ _)) ?_
  refine lookup_congr (fun hk => congrArg Json.str (kept hk _ _)) ?_
  refine lookup_congr (fun _ => rfl) ?_
  refine lookup_congr (fun hk => congrArg Json.str (kept hk _ _)) ?_
  refine lookup_congr (fun _ => rfl) (lookup_congr (fun _ => rfl) (lookup_congr (fun _ => rfl) ?_))
  refine lookup_congr (fun hk => congrArg Json.str (kept hk _ _)) ?_
  refine lookup_congr (fun hk => congrArg (Option.elim · Json.null Json.str) (kept hk _ _)) ?_
  refine lookup_congr (fun _ => rfl) ?_
  refine lookup_congr (fun hk => congrArg Json.str (kept hk _ _)) ?_
  rfl

end JobFileBinding

/-! ### The texts -/

namespace JobFileBinding

/-- `JobFileBinding.to_json`. -/
def toText (digits : ℚ → String) (b : JobFileBinding) : Except PyExc String :=
  b.toJson.dumpsSpaced digits

/-- `JobFileBinding.from_json`. -/
def fromText (r : JsonReader) (text : String) : Except PyExc JobFileBinding := do
  fromJson (← loads r text)

/-- `int.__repr__` raises for no integer of the binding. -/
structure Prints (b : JobFileBinding) : Prop where
  totalEpisodes : Json.Prints b.totalEpisodes
  envNum : ∀ group ∈ b.groups, Json.Prints group.envNum
  datasetRecords : ∀ group ∈ b.groups, Json.Prints group.datasetRecords

variable {b c : JobFileBinding} {deleted : String → Bool} {r : JsonReader} {digits : ℚ → String}

theorem ints_groups {n : Int} {groups : List EnvironmentBinding} :
    n ∈ Json.intsItems (groups.map (·.toJson)) ↔
      ∃ group ∈ groups, n = group.datasetRecords ∨ n = group.envNum := by
  induction groups with
  | nil => simp [Json.intsItems]
  | cons group rest ih =>
    rw [List.map_cons, Json.intsItems, List.mem_append, ih]
    simp [EnvironmentBinding.toJson, Json.ints, Json.intsEntries]

theorem ints_entries {n : Int} : n ∈ Json.intsEntries b.entries ↔
    n = b.totalEpisodes ∨ ∃ group ∈ b.groups, n = group.datasetRecords ∨ n = group.envNum := by
  have hlauncher : (b.launcherRjobConfigPath.elim Json.null .str).ints = [] := by
    cases b.launcherRjobConfigPath <;> rfl
  rw [← ints_groups]
  simp [entries, toJson, Json.asObj?, Json.intsEntries, Json.ints, hlauncher, or_comm]

/-- The binding prints if and only if the integers of its document do. -/
theorem prints_iff : b.Prints ↔ ∀ n ∈ b.toJson.ints, Json.Prints n := by
  have hints : b.toJson.ints = Json.intsEntries b.entries := rfl
  simp only [hints, ints_entries]
  constructor
  · rintro h n (rfl | ⟨group, hgroup, rfl | rfl⟩)
    · exact h.totalEpisodes
    · exact h.datasetRecords group hgroup
    · exact h.envNum group hgroup
  · intro h
    exact ⟨h _ (.inl rfl), fun group hgroup => h _ (.inr ⟨group, hgroup, .inr rfl⟩),
      fun group hgroup => h _ (.inr ⟨group, hgroup, .inl rfl⟩)⟩

theorem group_readable {f : FloatTexts} {group : EnvironmentBinding}
    (hnum : Json.Prints group.envNum) (hrecords : Json.Prints group.datasetRecords) :
    group.toJson.Readable f := by
  have hkeys : ["dataset_checksum", "dataset_records", "env_image", "env_name", "env_num",
      "start_config_checksum"].Nodup := by decide
  simp only [EnvironmentBinding.toJson, Json.Readable, Json.readableEntries_iff,
    List.forall_mem_cons]
  exact ⟨hkeys, trivial, hrecords, trivial, trivial, hnum, trivial, List.forall_mem_nil _⟩

theorem entries_readable {f : FloatTexts} (h : b.Prints) : ∀ e ∈ b.entries, e.2.Readable f := by
  have hgroups : (Json.arr (b.groups.map (·.toJson))).Readable f := by
    rw [Json.Readable, Json.readableItems_iff, List.forall_mem_map]
    exact fun group hgroup => group_readable (h.envNum group hgroup) (h.datasetRecords group hgroup)
  have hlauncher : (b.launcherRjobConfigPath.elim Json.null .str).Readable f := by
    cases b.launcherRjobConfigPath <;> trivial
  simp only [entries, toJson, Json.asObj?, Option.getD_some, List.forall_mem_cons]
  exact ⟨trivial, trivial, trivial, trivial, trivial, trivial, hgroups, trivial, trivial, trivial,
    trivial, trivial, hlauncher, trivial, trivial, trivial, trivial, h.totalEpisodes,
    List.forall_mem_nil _⟩

theorem entries_nodup : (b.entries.map (·.1)).Nodup := by
  show ["agent_config_checksum", "agent_config_path", "agent_start_config_path",
    "gateway_config_checksum", "gateway_config_path", "gateway_config_source", "groups",
    "input_local_path", "input_source", "input_target", "job_id", "launcher_rjob_config_checksum",
    "launcher_rjob_config_path", "range_id", "result_local_path", "result_source", "result_target",
    "total_episodes"].Nodup
  decide

theorem depth_groups (groups : List EnvironmentBinding) :
    Json.depthItems (groups.map (·.toJson)) ≤ 1 := by
  induction groups with
  | nil => exact Nat.zero_le _
  | cons group rest ih =>
    rw [List.map_cons, Json.depthItems]
    exact Nat.max_le.mpr ⟨Nat.le_refl _, ih⟩

theorem depth_entries : ∀ e ∈ b.entries, e.2.depth ≤ 2 := by
  have hlauncher : (b.launcherRjobConfigPath.elim Json.null .str).depth ≤ 2 := by
    cases b.launcherRjobConfigPath <;> exact Nat.zero_le _
  simp only [entries, toJson, Json.asObj?, Option.getD_some, List.forall_mem_cons]
  simp [Json.depth, depth_groups, hlauncher]

/-- A document of a binding that prints, with or without optional keys, is written and read. -/
theorem loads_without (deleted : String → Bool) (hopen : ∀ d ≤ 3, r.tooDeep d = false)
    (h : b.Prints) :
    ∃ text, (Json.obj (without deleted b.entries)).dumpsSpaced digits = .ok text ∧
      loads r text = .ok (.obj (without deleted b.entries)) := by
  have hkept : without deleted b.entries ⊆ b.entries := List.filter_sublist.subset
  refine Json.loads_dumpsSpaced ?_ (fun f => ?_) fun d hd => hopen d ?_
  · intro n hn
    obtain ⟨e, he, hn⟩ := Json.mem_intsEntries.mp hn
    exact prints_iff.mp h n (Json.mem_intsEntries.mpr ⟨e, hkept he, hn⟩)
  · rw [Json.Readable, Json.readableEntries_iff]
    exact ⟨(List.filter_sublist.map _).nodup entries_nodup,
      fun e he => entries_readable h e (hkept he)⟩
  · refine Nat.le_trans hd (Nat.succ_le_succ ?_)
    exact Json.depthEntries_le fun e he => depth_entries e (hkept he)

theorem fromText_toText (hopen : ∀ d ≤ 3, r.tooDeep d = false) (h : b.Prints) :
    ∃ text, b.toText digits = .ok text ∧ fromText r text = .ok b := by
  have hall : without (fun _ => false) b.entries = b.entries :=
    List.filter_eq_self.mpr fun _ _ => rfl
  obtain ⟨text, htext, hloads⟩ := loads_without (fun _ => false) hopen h
  rw [hall] at htext hloads
  refine ⟨text, htext, ?_⟩
  rw [fromText, hloads]
  exact fromJson_toJson b

/-- The binding that `bind` has just published has a text, which reads back as the binding. -/
theorem published_text {m : SharedFileManager} {W : Surroundings} {jobId : String}
    {config : RangeConfig} {s s' : Files} (hopen : ∀ d ≤ 3, r.tooDeep d = false)
    (h : Effect.Exec (storage m.root W jobId) (m.bindFresh (m.root ++ [jobId]) jobId config) s
      (.ok b) s') : ∃ text, b.toText digits = .ok text ∧ fromText r text = .ok b :=
  fromText_toText hopen (prints_iff.mpr (bindFresh_prints h))

end JobFileBinding

open JobFileBinding

/-- The text of a binding reads back as the binding, and there is one unless an integer is too long
for it; the text of a document that lacks optional keys reads as a binding with the same entries
under the other keys, whose own text reads back, except that it is refused if it lacks the start
config and the binding does not have exactly one group. -/
theorem binding_codec (digits : ℚ → String) (r : JsonReader)
    (hopen : ∀ d ≤ 3, r.tooDeep d = false) (b : JobFileBinding) :
    (b.Prints →
      (∃ text, b.toText digits = .ok text ∧ fromText r text = .ok b) ∧
      ∀ deleted : String → Bool, (∀ key, deleted key = true → key ∈ optionalKeys) →
        (∃ legacy, (Json.obj (without deleted b.entries)).dumpsSpaced digits = .ok legacy ∧
          loads r legacy = .ok (.obj (without deleted b.entries))) ∧
        ∀ legacy, loads r legacy = .ok (.obj (without deleted b.entries)) →
          ((∃ c, fromText r legacy = .ok c ∧
              (∀ key, deleted key = false → lookup key c.entries = lookup key b.entries) ∧
              ∃ text, c.toText digits = .ok text ∧ fromText r text = .ok c) ∨
            fromText r legacy = .error .fileBindingError) ∧
          (fromText r legacy = .error .fileBindingError ↔
            deleted "agent_start_config_path" = true ∧ b.groups.length ≠ 1)) ∧
    (¬ b.Prints → b.toText digits = .error .valueError) := by
  constructor
  · intro h
    refine ⟨fromText_toText hopen h, fun deleted hdeleted => ⟨loads_without deleted hopen h, ?_⟩⟩
    intro legacy hlegacy
    have hread : fromText r legacy = (b.startConfigPath deleted).map (b.filled deleted) := by
      rw [fromText, hlegacy]
      exact fromJson_without hdeleted
    rw [hread]
    refine ⟨?_, startConfigPath_error⟩
    cases hpath : b.startConfigPath deleted with
    | ok path =>
      have hfilled : (b.filled deleted path).Prints := ⟨h.1, h.2, h.3⟩
      exact .inl ⟨b.filled deleted path, rfl, fun key => lookup_filled hpath,
        fromText_toText hopen hfilled⟩
    | error x =>
      rw [startConfigPath_raises hpath]
      exact .inr rfl
  · exact fun h => if_neg fun hints => h (prints_iff.mpr hints)

/-- A reader that opens at most 1000 containers. -/
def thousandDeep : JsonReader := { floatOf := fun _ => .nan, tooDeep := (1000 < ·) }

theorem thousandDeep_opens : ∀ d ≤ 3, thousandDeep.tooDeep d = false := by
  intro d hd
  exact decide_eq_false (by omega)

theorem sampleBinding_prints : sampleBinding.Prints where
  totalEpisodes := by decide
  envNum := by decide
  datasetRecords := by decide

/-- A binding of an older server, without the path of its start config. -/
theorem binding_codec_legacy :
    ∃ legacy c, fromText thousandDeep legacy = .ok c ∧
      lookup "input_source" c.entries = some (.str "storage/inputs/job") := by
  obtain ⟨⟨legacy, -, hlegacy⟩, hread⟩ :=
    ((binding_codec (fun _ => "") thousandDeep thousandDeep_opens sampleBinding).1
      sampleBinding_prints).2 (· = "agent_start_config_path") (by
        intro key hkey
        rw [of_decide_eq_true hkey]
        decide)
  obtain ⟨h, herror⟩ := hread legacy hlegacy
  rcases h with ⟨c, hc, hkept, -⟩ | h
  · exact ⟨legacy, c, hc, (hkept "input_source" (by decide)).trans rfl⟩
  · exact absurd rfl (herror.mp h).2

/-- A binding of `10 ^ 4300` episodes has no text. -/
theorem long_total_raises :
    ¬ ∀ b : JobFileBinding, ∃ text, b.toText (fun _ => "") = .ok text ∧
      fromText thousandDeep text = .ok b := by
  intro h
  let episodes : Nat := 10 ^ 4300
  obtain ⟨text, htext, -⟩ := h { sampleBinding with totalEpisodes := episodes }
  rw [toText, Json.dumpsSpaced, if_neg] at htext
  · cases htext
  · intro hprints
    have hshort := (prints_iff.mpr hprints).totalEpisodes
    rw [Json.Prints, Int.natAbs_natCast] at hshort
    exact Nat.lt_irrefl _ ((Nat.length_repr_le_iff (by decide)).mp hshort)

end SafactoryServer
