import SafactoryServer.Script
import Mathlib.Data.Bool.AllAny
import Mathlib.Data.List.DropRight
import Mathlib.Tactic.IntervalCases

/-! The names under which the platform knows the RJobs of the Jobs. -/

namespace SafactoryServer

/-- `uuid4`, from 16 random bytes. -/
def uuid4 (random : BitVec 128) : BitVec 128 :=
  let variant := random &&& ~~~(0xc000#128 <<< 48) ||| 0x8000#128 <<< 48
  variant &&& ~~~(0xf000#128 <<< 64) ||| 4#128 <<< 76

/-- `RandomIdentifierFactory.new`. -/
def newIdentifier (kind : String) (random : BitVec 128) : String :=
  kind ++ "_" ++ Unicode.hex 32 (uuid4 random).toNat

def newJobId (random : BitVec 128) : String := newIdentifier "job" random

/-- The characters that `_safe_rjob_name` keeps. -/
def rjobNameChar (c : Char) : Bool :=
  ('a' ≤ c && c ≤ 'z') || c.isDigit || c == '.' || c == '-'

/-- The characters that `_safe_rjob_name` strips. -/
def rjobSeparator (c : Char) : Bool := ['-', '.'].contains c

/-- `value` as `_safe_rjob_name` substitutes it, without the separators before it. -/
def rjobNameBody (u : Unicode) (value : String) : List Char :=
  (dashRuns rjobNameChar false (u.lowered value).toList).dropWhile rjobSeparator

/-- The RJobs of a Job. -/
inductive RJobRole
  | gateway
  | controller
deriving DecidableEq

namespace RealJobOrchestrator

variable (o : RealJobOrchestrator)

def namePrefix : RJobRole → String
  | .gateway => o.settings.gatewayNamePrefix
  | .controller => o.settings.safactoryNamePrefix

def rjobName (role : RJobRole) (jobId : String) : String :=
  safeRjobName o.unicode (o.namePrefix role ++ "-" ++ jobId)

end RealJobOrchestrator

/-- The Gateway RJob of a Job is submitted under its name. -/
theorem gatewaySpec_rjobName {o : RealJobOrchestrator} {job : ControlJob} {binding : JobFileBinding}
    {spec : RJobSpec} (h : o.gatewaySpec job binding = .ok spec) :
    spec.name = o.rjobName .gateway job.jobId :=
  (o.gatewaySpec_ok h).2.2.1

theorem safactorySpec_rjobName {o : RealJobOrchestrator} {job : ControlJob}
    {binding : JobFileBinding} {spec : RJobSpec} (h : o.safactorySpec job binding = .ok spec) :
    spec.name = o.rjobName .controller job.jobId :=
  (o.safactorySpec_ok h).2.2.1

/-- 1 to 49 characters of `[a-z0-9.-]`, alphanumeric at both ends. -/
structure ValidRjobName (name : String) : Prop where
  length : 1 ≤ name.length ∧ name.length ≤ 49
  kept : ∀ c ∈ name.toList, rjobNameChar c = true
  first : ∀ c ∈ name.toList.head?, rjobSeparator c = false
  last : ∀ c ∈ name.toList.getLast?, rjobSeparator c = false

/-- The names tell the role and the Job, and are valid. -/
def RealJobOrchestrator.NamesIdentify (o : RealJobOrchestrator) : Prop :=
  (∀ role role' random random', (role, newJobId random) ≠ (role', newJobId random') →
    o.rjobName role (newJobId random) ≠ o.rjobName role' (newJobId random')) ∧
  ∀ role random, ValidRjobName (o.rjobName role (newJobId random))

/-- An ASCII text behind a hyphen and the text before it are lowered apart: `str.lower` looks beyond
one character only for a sigma, and not beyond a hyphen. -/
def Unicode.LowersApart (u : Unicode) : Prop :=
  ∀ s t : String, t.toList.all Unicode.isAscii = true →
    u.lowered (s ++ "-" ++ t) = u.lowered s ++ u.lowered ("-" ++ t)

/-! ### Job IDs -/

theorem mem_hex {width n : Nat} :
    ∀ c ∈ (Unicode.hex width n).toList, c ∈ "0123456789abcdef".toList := by
  induction width generalizing n with
  | zero => nofun
  | succ width ih =>
    intro c hc
    rw [Unicode.hex, String.toList_append, String.toList_singleton] at hc
    rcases List.mem_append.mp hc with hc | hc
    · exact ih c hc
    · have hd : n % 16 < 16 := Nat.mod_lt _ (by omega)
      rw [List.mem_singleton.mp hc]
      interval_cases n % 16 <;> decide

theorem length_hex (width n : Nat) : (Unicode.hex width n).toList.length = width := by
  induction width generalizing n with
  | zero => rfl
  | succ width ih =>
    rw [Unicode.hex, String.toList_append, List.length_append, ih, String.toList_singleton]
    rfl

/-- A Job ID as an RJob name has it. -/
def jobIdName (random : BitVec 128) : List Char :=
  "job-".toList ++ (Unicode.hex 32 (uuid4 random).toNat).toList

theorem length_jobIdName (random : BitVec 128) : (jobIdName random).length = 36 := by
  rw [jobIdName, List.length_append, length_hex]
  rfl

theorem newJobId_inj {random random' : BitVec 128} (h : jobIdName random = jobIdName random') :
    newJobId random = newJobId random' := by
  have hHex := String.toList_inj.mp ((List.append_right_inj _).mp h)
  rw [newJobId, newJobId, newIdentifier, newIdentifier, hHex]

theorem jobIdName_zero : jobIdName 0 = "job-0000000000004000800000000000000".toList ++ ['0'] := by
  decide +kernel

theorem jobIdName_one : jobIdName 1 = "job-0000000000004000800000000000000".toList ++ ['1'] := by
  decide +kernel

theorem newJobId_zero_ne_one : newJobId 0 ≠ newJobId 1 := by decide +kernel

theorem jobIdName_last (random : BitVec 128) :
    ∃ before c, jobIdName random = before ++ [c] ∧ rjobSeparator c = false := by
  have hhex : (Unicode.hex 32 (uuid4 random).toNat).toList ≠ [] :=
    List.ne_nil_of_length_pos (by rw [length_hex]; omega)
  refine ⟨"job-".toList ++ (Unicode.hex 32 (uuid4 random).toNat).toList.dropLast,
    (Unicode.hex 32 (uuid4 random).toNat).toList.getLast hhex, ?_, ?_⟩
  · rw [List.append_assoc, List.dropLast_concat_getLast, jobIdName]
  · have hkept : ∀ c ∈ "0123456789abcdef".toList, rjobSeparator c = false :=
      List.all_iff_forall_prop.mp (by decide)
    exact hkept _ (mem_hex _ (List.getLast_mem hhex))

/-! ### The substitution -/

theorem dashRuns_append_dash (before after : List Char) (inRun : Bool) :
    dashRuns rjobNameChar inRun (before ++ '-' :: after) =
      dashRuns rjobNameChar inRun before ++ '-' :: dashRuns rjobNameChar false after := by
  induction before generalizing inRun with
  | nil => cases inRun <;> rfl
  | cons c rest ih =>
    rw [List.cons_append, dashRuns, dashRuns]
    split
    · rw [ih, List.cons_append]
    · split
      · exact ih true
      · rw [ih, List.cons_append]

theorem dashRuns_kept {text : List Char} (h : ∀ c ∈ text, rjobNameChar c = true) (inRun : Bool) :
    dashRuns rjobNameChar inRun text = text := by
  induction text generalizing inRun with
  | nil => rfl
  | cons c rest ih =>
    rw [dashRuns, if_pos (h c List.mem_cons_self), ih fun d hd => h d (List.mem_cons_of_mem c hd)]

theorem mem_dashRuns {text : List Char} {inRun : Bool} {c : Char}
    (h : c ∈ dashRuns rjobNameChar inRun text) : rjobNameChar c = true := by
  induction text generalizing inRun with
  | nil => nomatch h
  | cons d rest ih =>
    rw [dashRuns] at h
    split at h
    · next hd => exact (List.mem_cons.mp h).elim (fun hc => hc ▸ hd) ih
    · split at h
      · exact ih h
      · exact (List.mem_cons.mp h).elim (fun hc => hc ▸ rfl) ih

theorem dashRuns_jobId (random : BitVec 128) :
    dashRuns rjobNameChar false (newJobId random).toList = jobIdName random := by
  have hkept : ∀ c ∈ "0123456789abcdef".toList, rjobNameChar c = true :=
    List.all_iff_forall_prop.mp (by decide)
  rw [newJobId, newIdentifier, String.toList_append, jobIdName]
  show 'j' :: 'o' :: 'b' :: '-' ::
    dashRuns rjobNameChar true (Unicode.hex 32 (uuid4 random).toNat).toList = _
  rw [dashRuns_kept fun c hc => hkept c (mem_hex c hc)]
  rfl

theorem lowered_jobId (u : Unicode) (random : BitVec 128) :
    u.lowered ("-" ++ newJobId random) = "-" ++ newJobId random := by
  have hchars : ∀ c ∈ ("-" ++ newJobId random).toList,
      Unicode.isAscii c = true ∧ c.toLower = c := by
    have hdigits : ∀ c ∈ "0123456789abcdef".toList, Unicode.isAscii c = true ∧ c.toLower = c :=
      List.all_iff_forall_prop.mp (by decide)
    have hjob : ∀ c ∈ "-job_".toList, Unicode.isAscii c = true ∧ c.toLower = c :=
      List.all_iff_forall_prop.mp (by decide)
    intro c hc
    have heq : ("-" ++ newJobId random).toList =
        "-job_".toList ++ (Unicode.hex 32 (uuid4 random).toNat).toList := by
      rw [newJobId, newIdentifier, String.toList_append, String.toList_append]
      rfl
    rw [heq] at hc
    exact (List.mem_append.mp hc).elim (hjob c) fun hc => hdigits c (mem_hex c hc)
  rw [Unicode.lowered, if_pos (List.all_eq_true.mpr fun c hc => (hchars c hc).1),
    List.map_congr_left fun c hc => (hchars c hc).2, List.map_id', String.ofList_toList]

/-! ### The name -/

/-- What `_safe_rjob_name` truncates. -/
def normalizedName (u : Unicode) (value : String) : List Char :=
  let text := (rjobNameBody u value).rdropWhile rjobSeparator
  if text = [] then "safactory".toList else text

theorem safeRjobName_toList (u : Unicode) (value : String) :
    (safeRjobName u value).toList =
      ((normalizedName u value).take 49).rdropWhile rjobSeparator := by
  have hbody : rstrip ['-', '.'] (lstrip ['-', '.'] (String.ofList
      (dashRuns rjobNameChar false (u.lowered value).toList))) =
      String.ofList ((rjobNameBody u value).rdropWhile rjobSeparator) := by
    rw [rstrip, lstrip, String.toList_ofList, String.toList_ofList]
    rfl
  show (rstrip ['-', '.'] (String.ofList ((if rstrip ['-', '.'] (lstrip ['-', '.'] (String.ofList
      (dashRuns rjobNameChar false (u.lowered value).toList))) = "" then "safactory" else
      rstrip ['-', '.'] (lstrip ['-', '.'] (String.ofList
        (dashRuns rjobNameChar false (u.lowered value).toList)))).toList.take 49))).toList = _
  rw [hbody, normalizedName, rstrip, String.toList_ofList, String.toList_ofList]
  simp only [String.ofList_eq_empty_iff]
  split <;> simp only [String.toList_ofList, List.rdropWhile] <;> rfl

/-- A name begins with what is truncated, and the first character stays. -/
theorem normalizedName_cons (u : Unicode) (value : String) :
    ∃ c rest, normalizedName u value = c :: rest ∧ rjobSeparator c = false ∧
      ∀ d ∈ c :: rest, rjobNameChar d = true := by
  unfold normalizedName
  simp only
  split
  · exact ⟨'s', "afactory".toList, rfl, rfl, List.all_iff_forall_prop.mp (by decide)⟩
  · next hne =>
    obtain ⟨tail, htail⟩ := List.rdropWhile_prefix rjobSeparator (rjobNameBody u value)
    obtain ⟨c, rest, hcons⟩ := List.exists_cons_of_ne_nil hne
    rw [hcons] at htail ⊢
    refine ⟨c, rest, rfl, ?_, fun d hd => ?_⟩
    · have hfirst := List.head?_dropWhile_not rjobSeparator
        (dashRuns rjobNameChar false (u.lowered value).toList)
      have hhead : (rjobNameBody u value).head? = some c := by rw [← htail]; rfl
      rw [rjobNameBody] at hhead
      rw [hhead] at hfirst
      exact hfirst
    · have hbody : d ∈ rjobNameBody u value := htail ▸ List.mem_append_left tail hd
      exact mem_dashRuns (List.dropWhile_subset rjobSeparator hbody)

/-- What is left of a truncated name. -/
theorem trimmed_cons {c : Char} (hc : rjobSeparator c = false) (rest : List Char) :
    ∃ left, (c :: rest).rdropWhile rjobSeparator = c :: left ∧ left <+: rest ∧
      rjobSeparator ((c :: left).getLast (List.cons_ne_nil c left)) = false := by
  have hne : (c :: rest).rdropWhile rjobSeparator ≠ [] := by
    rw [ne_eq, List.rdropWhile_eq_nil_iff]
    intro h
    exact absurd (h c List.mem_cons_self) (by simp [hc])
  obtain ⟨d, left, hcons⟩ := List.exists_cons_of_ne_nil hne
  have hprefix := List.rdropWhile_prefix rjobSeparator (c :: rest)
  have hlast := List.rdropWhile_last_not rjobSeparator (c :: rest) hne
  simp only [hcons] at hprefix hlast
  obtain ⟨rfl, hleft⟩ := List.cons_prefix_cons.mp hprefix
  exact ⟨left, hcons, hleft, by simpa using hlast⟩

/-- `_safe_rjob_name` gives valid names only. -/
theorem safeRjobName_valid (u : Unicode) (value : String) :
    ValidRjobName (safeRjobName u value) := by
  obtain ⟨c, rest, hname, hc, hkept⟩ := normalizedName_cons u value
  obtain ⟨left, htrimmed, hleft, hlast⟩ := trimmed_cons hc (rest.take 48)
  have htext : (safeRjobName u value).toList = c :: left := by
    rw [safeRjobName_toList, hname, List.take_succ_cons, htrimmed]
  refine ⟨?_, fun d hd => ?_, fun d hd => ?_, fun d hd => ?_⟩
  · have hlength := hleft.length_le
    rw [List.length_take] at hlength
    rw [← String.length_toList, htext, List.length_cons]
    omega
  · rw [htext] at hd
    have hsub : c :: left <+: c :: rest.take 48 := List.cons_prefix_cons.mpr ⟨rfl, hleft⟩
    exact hkept d (List.mem_of_mem_take (i := 49) (hsub.subset hd))
  · rw [htext] at hd
    exact Option.some.inj hd ▸ hc
  · rw [htext, List.getLast?_eq_some_getLast (List.cons_ne_nil c left)] at hd
    exact Option.some.inj hd ▸ hlast

namespace RealJobOrchestrator

variable {o : RealJobOrchestrator} {role role' : RJobRole} {random random' : BitVec 128}

/-- The prefix of a role as it stands in a name. -/
def prefixBody (o : RealJobOrchestrator) (role : RJobRole) : List Char :=
  rjobNameBody o.unicode (o.namePrefix role)

/-- What stands before the Job ID in a name. -/
def leading (o : RealJobOrchestrator) (role : RJobRole) : List Char :=
  if o.prefixBody role = [] then [] else o.prefixBody role ++ ['-']

theorem normalizedName_eq (hlower : o.unicode.LowersApart) :
    normalizedName o.unicode (o.namePrefix role ++ "-" ++ newJobId random) =
      o.leading role ++ jobIdName random := by
  have hascii : (newJobId random).toList.all Unicode.isAscii = true := by
    have hdigits : ∀ c ∈ "0123456789abcdef".toList, Unicode.isAscii c = true :=
      List.all_iff_forall_prop.mp (by decide)
    rw [newJobId, newIdentifier, String.toList_append, List.all_append, Bool.and_eq_true]
    exact ⟨rfl, List.all_eq_true.mpr fun c hc => hdigits c (mem_hex c hc)⟩
  have hruns : dashRuns rjobNameChar false
      (o.unicode.lowered (o.namePrefix role ++ "-" ++ newJobId random)).toList =
      dashRuns rjobNameChar false (o.unicode.lowered (o.namePrefix role)).toList ++
        '-' :: jobIdName random := by
    rw [hlower _ _ hascii, lowered_jobId, String.toList_append, String.toList_append]
    show dashRuns _ false (_ ++ '-' :: (newJobId random).toList) = _
    rw [dashRuns_append_dash, dashRuns_jobId]
  have hbody : rjobNameBody o.unicode (o.namePrefix role ++ "-" ++ newJobId random) =
      o.leading role ++ jobIdName random := by
    rw [rjobNameBody, hruns, List.dropWhile_append, leading, prefixBody, rjobNameBody]
    simp only [List.isEmpty_iff]
    split
    · rfl
    · rw [List.append_assoc, List.singleton_append]
  obtain ⟨before, c, hlast, hc⟩ := jobIdName_last random
  have hkept : (o.leading role ++ jobIdName random).rdropWhile rjobSeparator =
      o.leading role ++ jobIdName random := by
    rw [hlast, ← List.append_assoc, List.rdropWhile_concat_neg _ _ _ (by simp [hc])]
  rw [normalizedName, hbody, hkept]
  exact if_neg (by rw [hlast]; simp)

theorem rjobName_toList (hlower : o.unicode.LowersApart) :
    (o.rjobName role (newJobId random)).toList =
      ((o.leading role ++ jobIdName random).take 49).rdropWhile rjobSeparator := by
  rw [rjobName, safeRjobName_toList, normalizedName_eq hlower]

theorem leading_length : (o.leading role).length ≤ 13 ↔ (o.prefixBody role).length ≤ 12 := by
  unfold leading
  split
  · next h => simp [h]
  · rw [List.length_append, List.length_singleton]
    omega

/-- A name with a short prefix has the whole Job ID. -/
theorem rjobName_whole (hlower : o.unicode.LowersApart) (h : (o.prefixBody role).length ≤ 12) :
    (o.rjobName role (newJobId random)).toList = o.leading role ++ jobIdName random := by
  obtain ⟨before, c, hlast, hc⟩ := jobIdName_last random
  rw [rjobName_toList hlower, List.take_of_length_le, hlast, ← List.append_assoc,
    List.rdropWhile_concat_neg _ _ _ (by simp [hc])]
  rw [List.length_append, length_jobIdName]
  have := leading_length.mpr h
  omega

/-- A name with a long prefix lacks the last digit of the Job ID. -/
theorem rjobName_cut (hlower : o.unicode.LowersApart) (h : 12 < (o.prefixBody role).length)
    {common : List Char} {c d : Char} (hc : jobIdName random = common ++ [c])
    (hd : jobIdName random' = common ++ [d]) :
    o.rjobName role (newJobId random) = o.rjobName role (newJobId random') := by
  have hleading : 13 < (o.leading role).length :=
    Nat.lt_of_not_le fun hle => absurd (leading_length.mp hle) (Nat.not_le_of_lt h)
  have hcommon : common.length = 35 := by
    have := length_jobIdName random
    rw [hc, List.length_append, List.length_singleton] at this
    omega
  have hcut (e : Char) :
      (o.leading role ++ (common ++ [e])).take 49 = (o.leading role ++ common).take 49 := by
    rw [← List.append_assoc, List.take_append_of_le_length]
    rw [List.length_append]
    omega
  apply String.toList_inj.mp
  rw [rjobName_toList hlower, rjobName_toList hlower, hc, hd, hcut, hcut]

theorem leading_inj (h : o.leading role = o.leading role') :
    o.prefixBody role = o.prefixBody role' := by
  unfold leading at h
  split at h <;> split at h
  · next h₁ h₂ => rw [h₁, h₂]
  · simp at h
  · simp at h
  · exact List.append_cancel_right h

/-- Prefixes with the same text before a Job ID have the same name. -/
theorem safeRjobName_prefix (h : o.prefixBody role = o.prefixBody role') :
    safeRjobName o.unicode (o.namePrefix role) = safeRjobName o.unicode (o.namePrefix role') := by
  apply String.toList_inj.mp
  rw [safeRjobName_toList, safeRjobName_toList, normalizedName, normalizedName]
  rw [prefixBody, prefixBody] at h
  rw [h]

end RealJobOrchestrator

open RealJobOrchestrator

/-- The names of two prefixes tell the role and the Job exactly if neither prefix, lower-cased and
substituted and without leading separators, is longer than 12 characters. -/
theorem names_identify_iff (o : RealJobOrchestrator) (hlower : o.unicode.LowersApart)
    (hnames : safeRjobName o.unicode o.settings.gatewayNamePrefix ≠
      safeRjobName o.unicode o.settings.safactoryNamePrefix) :
    o.NamesIdentify ↔ ∀ role, (o.prefixBody role).length ≤ 12 := by
  constructor
  · rintro ⟨happart, -⟩ role
    by_contra hlong
    -- the IDs of two random numbers that differ in the last bit
    exact happart role role 0 1 (fun heq => newJobId_zero_ne_one (Prod.mk.inj heq).2)
      (rjobName_cut hlower (by omega) jobIdName_zero jobIdName_one)
  · refine fun hshort => ⟨fun role role' random random' hne hname => hne ?_,
      fun role random => safeRjobName_valid _ _⟩
    have htext := congrArg String.toList hname
    rw [rjobName_whole hlower (hshort role), rjobName_whole hlower (hshort role')] at htext
    obtain ⟨hleading, hid⟩ := List.append_inj' htext (by simp only [length_jobIdName])
    have hsame := safeRjobName_prefix (leading_inj hleading)
    have hrole : role = role' := by
      cases role <;> cases role'
      · rfl
      · exact absurd hsame hnames
      · exact absurd hsame.symm hnames
      · rfl
    rw [hrole, newJobId_inj hid]

/-- Lower-casing character by character. -/
def plainLower : Unicode where
  isspace _ := false
  isalnum _ := false
  isprintable _ := false
  lower s := String.ofList (s.toList.map Char.toLower)

theorem plainLower_lowersApart : plainLower.LowersApart := by
  have hlowered (s : String) :
      plainLower.lowered s = String.ofList (s.toList.map Char.toLower) := by
    unfold Unicode.lowered
    split <;> rfl
  intro s t _
  simp only [hlowered, String.toList_append, List.map_append, String.ofList_append,
    String.append_assoc]

/-- An orchestrator with these prefixes. -/
def prefixedOrchestrator (gateway controller : String) : RealJobOrchestrator :=
  { sampleOrchestrator with
    settings := { gatewayNamePrefix := gateway, safactoryNamePrefix := controller }
    unicode := plainLower }

theorem names_identify_brief : (prefixedOrchestrator "Gateway" "job").NamesIdentify :=
  (names_identify_iff _ plainLower_lowersApart (by decide +kernel)).mpr fun role =>
    match role with
    | .gateway => by decide +kernel
    | .controller => by decide +kernel

/-- With the default prefixes, two Jobs have one name for their Gateways. -/
theorem gateway_names_collide :
    newJobId 0 ≠ newJobId 1 ∧
      (prefixedOrchestrator "safactory-gateway" "safactory").rjobName .gateway (newJobId 0) =
        (prefixedOrchestrator "safactory-gateway" "safactory").rjobName .gateway (newJobId 1) ∧
      ¬ (prefixedOrchestrator "safactory-gateway" "safactory").NamesIdentify := by
  have hname : (prefixedOrchestrator "safactory-gateway" "safactory").rjobName .gateway
      (newJobId 0) =
      (prefixedOrchestrator "safactory-gateway" "safactory").rjobName .gateway (newJobId 1) :=
    rjobName_cut plainLower_lowersApart (by decide +kernel) jobIdName_zero jobIdName_one
  refine ⟨newJobId_zero_ne_one, hname, fun ⟨hdistinct, _⟩ => ?_⟩
  exact hdistinct .gateway .gateway 0 1 (fun heq => newJobId_zero_ne_one (Prod.mk.inj heq).2) hname

end SafactoryServer
