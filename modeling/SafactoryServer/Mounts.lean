import SafactoryServer.Publish
import Mathlib.Data.List.DropRight

/-! The result mount of a rendered start config. -/

namespace SafactoryServer

open Landing

/-- The mapping `rjob` of a start config. -/
def rjobOf (document : Row) : Row := ((document.field "rjob").asDict?).getD []

/-- The entries of `rjob.mount_config`. -/
def mountsOf (document : Row) : List Value :=
  (((rjobOf document).field "mount_config").asList?).getD []

/-- The source of a mount, as `_mount_target` reads its target. -/
def mountSource : Value → Option String
  | .str s =>
    if s.toList.contains ':' then
      some (String.ofList ((s.toList.reverse.dropWhile (· ≠ ':')).drop 1).reverse)
    else none
  | .dict fields => (Row.field fields "source").asStr?
  | _ => none

/-- The container directory of the mount is `directory`, but for trailing slashes. -/
def mountedOn (directory : String) (mount : Value) : Bool :=
  (mountTarget mount).any (mountDirectory · = directory)

/-- The start config as it is rendered has one mount on the result target: the last, from
`resultSource`; all else is as before, and rendering it again changes nothing. -/
structure MountedOnce (m : SharedFileManager) (document : Row) (resultSource : String) : Prop where
  once : (mountsOf (m.renderStart document resultSource)).countP (mountedOn m.resultTarget) = 1
  last : ∃ mount, (mountsOf (m.renderStart document resultSource)).getLast? = some mount ∧
    mountedOn m.resultTarget mount = true ∧ mountSource mount = some resultSource
  others : (mountsOf (m.renderStart document resultSource)).filter
      (fun mount => !mountedOn m.resultTarget mount) =
    (mountsOf document).filter fun mount => !mountedOn m.resultTarget mount
  rjob : ∀ key ≠ "mount_config",
    lookup key (rjobOf (m.renderStart document resultSource)) = lookup key (rjobOf document)
  outside : ∀ key ≠ "rjob",
    lookup key (m.renderStart document resultSource) = lookup key document
  again : m.renderStart (m.renderStart document resultSource) resultSource =
    m.renderStart document resultSource

/-! ### Directories -/

theorem rstrip_idem (chars : List Char) (s : String) :
    rstrip chars (rstrip chars s) = rstrip chars s := by
  rw [rstrip, rstrip, String.toList_ofList]
  exact congrArg String.ofList (List.rdropWhile_idempotent (chars.contains ·) s.toList)

theorem mountDirectory_idem (s : String) :
    mountDirectory (mountDirectory s) = mountDirectory s := by
  unfold mountDirectory
  split
  · rfl
  · next h => rw [rstrip_idem, if_neg h]

theorem mem_mountDirectory {c : Char} {s : String} (h : c ∈ (mountDirectory s).toList) :
    c = '/' ∨ c ∈ s.toList := by
  unfold mountDirectory at h
  split at h
  · exact .inl (List.mem_singleton.mp h)
  · rw [rstrip, String.toList_ofList] at h
    have hkept := List.rdropWhile_prefix (['/'].contains ·) s.toList
    exact .inr (hkept.subset h)

theorem SharedFileManager.init_resultTarget {settings : StorageSettings} {python : Interpreter}
    {safeDump : Value → Except Fault Bytes} {sha256 : Bytes → String}
    {decode : Bytes → Option String} {m : SharedFileManager}
    (h : SharedFileManager.init settings python safeDump sha256 decode = .ok m) :
    mountDirectory m.resultTarget = m.resultTarget := by
  unfold SharedFileManager.init at h
  split at h
  · cases h
  · cases h
    dsimp only
    exact mountDirectory_idem settings.resultTarget

/-! ### The mount that is appended -/

section

variable {source target : String}

theorem mount_reverse (source target : String) :
    (source ++ ":" ++ target).toList.reverse =
      target.toList.reverse ++ ':' :: source.toList.reverse := by
  rw [String.toList_append, String.toList_append, List.reverse_append, List.reverse_append]
  rfl

theorem mount_colon (source target : String) :
    (source ++ ":" ++ target).toList.contains ':' = true := by
  rw [List.contains_iff_mem, ← List.mem_reverse, mount_reverse]
  exact List.mem_append_right _ List.mem_cons_self

theorem colon_free (h : ':' ∉ target.toList) :
    ∀ c ∈ target.toList.reverse, decide (c ≠ ':') = true := by
  intro c hc
  refine decide_eq_true fun heq => h ?_
  rw [← heq]
  exact List.mem_reverse.mp hc

theorem mountTarget_mount (h : ':' ∉ target.toList) :
    mountTarget (.str (source ++ ":" ++ target)) = some target := by
  rw [mountTarget, if_pos (mount_colon source target), mount_reverse,
    List.takeWhile_append_of_pos (colon_free h), List.takeWhile_cons_of_neg (by decide),
    List.append_nil, List.reverse_reverse, String.ofList_toList]

theorem mountSource_mount (h : ':' ∉ target.toList) :
    mountSource (.str (source ++ ":" ++ target)) = some source := by
  rw [mountSource, if_pos (mount_colon source target), mount_reverse,
    List.dropWhile_append_of_pos (colon_free h), List.dropWhile_cons_of_neg (by decide),
    List.drop_one, List.tail_cons, List.reverse_reverse, String.ofList_toList]

/-- No text that `_mount_target` reads from a string has a colon. -/
theorem mountTarget_str {s t : String} (h : mountTarget (.str s) = some t) : ':' ∉ t.toList := by
  rw [mountTarget] at h
  split at h
  · cases h
    rw [String.toList_ofList, List.mem_reverse]
    intro hmem
    exact absurd (List.mem_takeWhile_imp hmem) (by decide)
  · cases h

end

/-! ### The rendered config -/

namespace SharedFileManager

variable {m : SharedFileManager} {document : Row} {resultSource : String}

/-- The mounts that are rendered. -/
def renderedMounts (m : SharedFileManager) (document : Row) (resultSource : String) : List Value :=
  (mountsOf document).filter (fun mount => mountTarget mount ≠ some m.resultTarget) ++
    [.str (resultSource ++ ":" ++ m.resultTarget)]

theorem renderStart_eq : m.renderStart document resultSource =
    assign "rjob" (.dict (assign "mount_config" (.list (m.renderedMounts document resultSource))
      (rjobOf document))) document := rfl

theorem rjobOf_render : rjobOf (m.renderStart document resultSource) =
    assign "mount_config" (.list (m.renderedMounts document resultSource)) (rjobOf document) := by
  rw [rjobOf, renderStart_eq, Row.field, lookup_assign_self]
  rfl

theorem mountsOf_render : mountsOf (m.renderStart document resultSource) =
    m.renderedMounts document resultSource := by
  rw [mountsOf, rjobOf_render, Row.field, lookup_assign_self]
  rfl

/-- A target without a colon is found in the mount that is appended. -/
theorem renderStart_again (h : ':' ∉ m.resultTarget.toList) :
    m.renderStart (m.renderStart document resultSource) resultSource =
      m.renderStart document resultSource := by
  have hmounts : m.renderedMounts (m.renderStart document resultSource) resultSource =
      m.renderedMounts document resultSource := by
    rw [renderedMounts, mountsOf_render, renderedMounts, List.filter_append, List.filter_filter,
      List.filter_singleton, mountTarget_mount h]
    simp
  have hagain : m.renderStart (m.renderStart document resultSource) resultSource = _ :=
    renderStart_eq
  rw [hagain, hmounts, rjobOf_render, assign_assign, renderStart_eq, assign_assign]

theorem mountedOn_appended (h : ':' ∉ m.resultTarget.toList)
    (htarget : mountDirectory m.resultTarget = m.resultTarget) :
    mountedOn m.resultTarget (.str (resultSource ++ ":" ++ m.resultTarget)) = true := by
  rw [mountedOn, mountTarget_mount h]
  simpa using htarget

theorem mountedOn_colon (h : mountedOn m.resultTarget (.str resultSource) = true) :
    ':' ∉ m.resultTarget.toList := by
  obtain ⟨target, htarget, hdirectory⟩ := (Option.any_eq_true _ _).mp h
  intro hcolon
  rw [← of_decide_eq_true hdirectory] at hcolon
  rcases mem_mountDirectory hcolon with heq | hmem
  · exact absurd heq (by decide)
  · exact mountTarget_str htarget hmem

/-- A mount whose target is the result target is on its directory. -/
theorem mountedOn_of_target {mount : Value} (h : mountTarget mount = some m.resultTarget)
    (htarget : mountDirectory m.resultTarget = m.resultTarget) :
    mountedOn m.resultTarget mount = true := by
  rw [mountedOn, h]
  simpa using htarget

end SharedFileManager

open SharedFileManager

/-- A start config is rendered with one result mount exactly if the result target has no colon and
every mount on its directory spells the result target as the settings do, without a slash at its
end. -/
theorem mounted_once_iff {settings : StorageSettings} {python : Interpreter}
    {safeDump : Value → Except Fault Bytes} {sha256 : Bytes → String}
    {decode : Bytes → Option String} {m : SharedFileManager}
    (hinit : SharedFileManager.init settings python safeDump sha256 decode = .ok m)
    (document : Row) (jobId : String) :
    MountedOnce m document (joinSource m.resultsRjobRoot jobId) ↔
      ':' ∉ m.resultTarget.toList ∧ ∀ mount ∈ mountsOf document,
        mountedOn m.resultTarget mount = true → mountTarget mount = some m.resultTarget := by
  have htarget := init_resultTarget hinit
  constructor
  · intro h
    obtain ⟨mount, hlast, hon, -⟩ := h.last
    rw [mountsOf_render, renderedMounts, List.getLast?_concat, Option.some_inj] at hlast
    have honce := h.once
    rw [mountsOf_render, renderedMounts, List.countP_append, List.countP_singleton, hlast, hon,
      if_pos rfl, Nat.add_eq_right, List.countP_eq_zero] at honce
    refine ⟨mountedOn_colon (hlast ▸ hon), fun other hmem hother => ?_⟩
    by_contra hne
    exact honce other (List.mem_filter.mpr ⟨hmem, decide_eq_true hne⟩) hother
  · rintro ⟨hcolon, hspelled⟩
    have hon : mountedOn m.resultTarget
        (.str (joinSource m.resultsRjobRoot jobId ++ ":" ++ m.resultTarget)) = true :=
      mountedOn_appended hcolon htarget
    refine ⟨?_, ⟨_, ?_, hon, mountSource_mount hcolon⟩, ?_, fun key hkey => ?_,
      fun key hkey => ?_, renderStart_again hcolon⟩
    · rw [mountsOf_render, renderedMounts, List.countP_append, List.countP_singleton, if_pos hon,
        Nat.add_eq_right, List.countP_eq_zero]
      intro mount hmem hmounted
      obtain ⟨hmem, hne⟩ := List.mem_filter.mp hmem
      exact of_decide_eq_true hne (hspelled mount hmem hmounted)
    · rw [mountsOf_render, renderedMounts, List.getLast?_concat]
    · rw [mountsOf_render, renderedMounts, List.filter_append, List.filter_filter,
        List.filter_singleton, hon, Bool.not_true, cond_false, List.append_nil]
      refine List.filter_congr fun mount _ => ?_
      by_cases hsame : mountTarget mount = some m.resultTarget
      · rw [mountedOn_of_target hsame htarget, Bool.not_true, Bool.false_and]
      · rw [decide_eq_true hsame, Bool.and_true]
    · rw [rjobOf_render, lookup_assign_of_ne hkey]
    · rw [renderStart_eq, lookup_assign_of_ne hkey]

/-- The start config of the environment "env" with these mounts. -/
def sampleStart (mounts : List Value) : Row :=
  [("agent_name", .str "env"), ("container", .dict [("runner_entrypoint", .dict [])]),
    ("rjob", .dict [("mount_config", .list mounts)])]

theorem mounted_once_default :
    MountedOnce sampleStorage (sampleStart [.str "storage/results:/app/results", .null])
      (joinSource sampleStorage.resultsRjobRoot "job") :=
  (@mounted_once_iff { root := ["mnt", "safactory"] } plainPython (fun _ => .ok [])
    (fun _ => "sum") (fun _ => none) sampleStorage rfl _ "job").mpr
    ⟨by decide, fun mount hmem => by
      rcases List.mem_cons.mp hmem with rfl | hmem
      · exact fun _ => by decide
      · rw [List.mem_singleton.mp hmem]
        nofun⟩

/-- A mount on "/app/results/" stays beside the result mount. -/
theorem slash_mount_stays :
    validateStartConfig
        (sampleStart [.str "storage/a:/app/results", .str "storage/b:/app/results/"])
        "env" sampleStorage.resultTarget = .ok () ∧
      ¬ MountedOnce sampleStorage
        (sampleStart [.str "storage/a:/app/results", .str "storage/b:/app/results/"])
        (joinSource sampleStorage.resultsRjobRoot "job") := by
  refine ⟨by decide, fun h => ?_⟩
  have honce := h.once
  revert honce
  decide

end SafactoryServer
