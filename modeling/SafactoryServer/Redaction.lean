import SafactoryServer.Backend

/-! `_redact_sensitive_values`: the redaction of a document beneath some keys, and the documents
that differ beneath these keys only. -/

namespace SafactoryServer

namespace Value

mutual

/-- `_redact_sensitive_values`, for any set of hidden keys. -/
def redact (hidden : String → Bool) : Value → Value
  | .list items => .list (redactItems hidden items)
  | .dict entries => .dict (redactEntries hidden entries)
  | value => value

def redactItems (hidden : String → Bool) : List Value → List Value
  | [] => []
  | item :: rest => redact hidden item :: redactItems hidden rest

def redactEntries (hidden : String → Bool) : List (String × Value) → List (String × Value)
  | [] => []
  | (key, value) :: rest =>
    (key, if hidden key then .str "[REDACTED]" else redact hidden value) ::
      redactEntries hidden rest

end

mutual

/-- The two values are equal, save for what stands beneath hidden keys. -/
inductive Similar (hidden : String → Bool) : Value → Value → Prop
  | same (value : Value) : Similar hidden value value
  | list {items items' : List Value} :
      SimilarItems hidden items items' → Similar hidden (.list items) (.list items')
  | dict {entries entries' : List (String × Value)} :
      SimilarEntries hidden entries entries' → Similar hidden (.dict entries) (.dict entries')

inductive SimilarItems (hidden : String → Bool) : List Value → List Value → Prop
  | nil : SimilarItems hidden [] []
  | cons {item item' : Value} {rest rest' : List Value} : Similar hidden item item' →
      SimilarItems hidden rest rest' → SimilarItems hidden (item :: rest) (item' :: rest')

/-- The same keys in the same order, with similar values at those that are not hidden. -/
inductive SimilarEntries (hidden : String → Bool) :
    List (String × Value) → List (String × Value) → Prop
  | nil : SimilarEntries hidden [] []
  | beneath {key : String} {value value' : Value} {rest rest' : List (String × Value)} :
      hidden key = true → SimilarEntries hidden rest rest' →
      SimilarEntries hidden ((key, value) :: rest) ((key, value') :: rest')
  | cons {key : String} {value value' : Value} {rest rest' : List (String × Value)} :
      Similar hidden value value' → SimilarEntries hidden rest rest' →
      SimilarEntries hidden ((key, value) :: rest) ((key, value') :: rest')

end

section

variable {hidden : String → Bool}

/-! Similar values have the same redaction. -/

mutual

theorem Similar.redact_eq {value value' : Value} :
    Similar hidden value value' → value.redact hidden = value'.redact hidden
  | .same _ => rfl
  | .list h => by rw [redact, redact, h.redact_eq]
  | .dict h => by rw [redact, redact, h.redact_eq]

theorem SimilarItems.redact_eq {items items' : List Value} :
    SimilarItems hidden items items' → redactItems hidden items = redactItems hidden items'
  | .nil => rfl
  | .cons h hrest => by rw [redactItems, redactItems, h.redact_eq, hrest.redact_eq]

theorem SimilarEntries.redact_eq {entries entries' : List (String × Value)} :
    SimilarEntries hidden entries entries' →
      redactEntries hidden entries = redactEntries hidden entries'
  | .nil => rfl
  | .beneath hkey hrest => by
    rw [redactEntries, redactEntries, if_pos hkey, if_pos hkey, hrest.redact_eq]
  | .cons h hrest => by rw [redactEntries, redactEntries, h.redact_eq, hrest.redact_eq]

end

/-! A value is similar to its redaction: what is not beneath a hidden key stays. -/

mutual

theorem similar_redact : ∀ value : Value, Similar hidden value (value.redact hidden)
  | .list items => by rw [redact]; exact .list (similar_redactItems items)
  | .dict entries => by rw [redact]; exact .dict (similar_redactEntries entries)
  | .null | .bool _ | .int _ | .float _ | .str _ | .datetime _ | .object _ _ => by
    rw [redact]
    · exact .same _
    all_goals simp

theorem similar_redactItems :
    ∀ items : List Value, SimilarItems hidden items (redactItems hidden items)
  | [] => .nil
  | item :: rest => .cons (similar_redact item) (similar_redactItems rest)

theorem similar_redactEntries :
    ∀ entries : List (String × Value), SimilarEntries hidden entries (redactEntries hidden entries)
  | [] => .nil
  | (key, value) :: rest => by
    rw [redactEntries]
    by_cases hkey : hidden key = true
    · exact .beneath hkey (similar_redactEntries rest)
    · rw [if_neg hkey]
      exact .cons (similar_redact value) (similar_redactEntries rest)

end

/-- The second redaction finds nothing. -/
theorem redact_redact (value : Value) :
    (value.redact hidden).redact hidden = value.redact hidden :=
  (similar_redact value).redact_eq.symm

theorem redactEntries_redactEntries (entries : List (String × Value)) :
    redactEntries hidden (redactEntries hidden entries) = redactEntries hidden entries :=
  (similar_redactEntries entries).redact_eq.symm

theorem SimilarEntries.refl (entries : List (String × Value)) :
    SimilarEntries hidden entries entries := by
  induction entries with
  | nil => exact .nil
  | cons entry rest ih => exact .cons (.same _) ih

theorem SimilarEntries.append {entries entries' rest rest' : List (String × Value)}
    (h : SimilarEntries hidden entries entries') (hrest : SimilarEntries hidden rest rest') :
    SimilarEntries hidden (entries ++ rest) (entries' ++ rest') := by
  induction entries generalizing entries' with
  | nil =>
    cases h
    exact hrest
  | cons entry entries ih =>
    cases h with
    | beneath hkey h => exact .beneath hkey (ih h)
    | cons hv h => exact .cons hv (ih h)

/-- Similar objects have similar values at a key that is not hidden. -/
theorem SimilarEntries.field {entries entries' : Row} (h : SimilarEntries hidden entries entries')
    {name : String} (hname : hidden name = false) :
    Similar hidden (Row.field entries name) (Row.field entries' name) := by
  induction entries generalizing entries' with
  | nil =>
    cases h
    exact .same _
  | cons entry entries ih =>
    have hstep : ∀ {key : String} {value value' : Value} {rest' : Row},
        (key = name → Similar hidden value value') → SimilarEntries hidden entries rest' →
        Similar hidden (Row.field ((key, value) :: entries) name)
          (Row.field ((key, value') :: rest') name) := by
      intro key value value' rest' hv h
      unfold Row.field
      rw [lookup_cons, lookup_cons]
      split
      · next hkey => exact hv hkey
      · exact ih h
    cases h with
    | beneath hkey h =>
      refine hstep (fun heq => ?_) h
      rw [heq, hname] at hkey
      cases hkey
    | cons hv h => exact hstep (fun _ => hv) h

/-- Similar values test alike. -/
theorem Similar.truthy_eq {value value' : Value} (h : Similar hidden value value') :
    value.truthy = value'.truthy := by
  cases h with
  | same => rfl
  | list h => cases h <;> rfl
  | dict h => cases h <;> rfl

theorem Similar.asStr?_eq {value value' : Value} (h : Similar hidden value value') :
    value.asStr? = value'.asStr? := by
  cases h <;> rfl

/-- Similar values are both objects, with similar entries, or neither is. -/
theorem Similar.asDict? {value value' : Value} (h : Similar hidden value value') :
    value.asDict? = none ∧ value'.asDict? = none ∨
      ∃ entries entries', value.asDict? = some entries ∧ value'.asDict? = some entries' ∧
        SimilarEntries hidden entries entries' := by
  cases h with
  | same =>
    cases hd : value.asDict? with
    | none => exact .inl ⟨rfl, rfl⟩
    | some entries => exact .inr ⟨entries, entries, rfl, rfl, .refl entries⟩
  | list h => exact .inl ⟨rfl, rfl⟩
  | dict h => exact .inr ⟨_, _, rfl, rfl, h⟩

end

end Value

/-- `SENSITIVE_TRAJECTORY_KEYS`. -/
def sensitiveTrajectoryKeys : List String :=
  ["access_token", "api_key", "authorization", "credential", "credential_ref", "host_path",
    "mount_source", "password", "refresh_token", "secret"]

/-- A key in lower case, with `_` for `-`, is sensitive. -/
def isSensitive (u : Unicode) (key : String) : Bool :=
  sensitiveTrajectoryKeys.contains (replaceChar '-' "_" (u.lowered key))

/-- `JobService` in front of the repository. -/
structure JobService where
  runtime : RealRuntimeRepository

namespace JobService

variable (service : JobService) (ctx : RequestContext)

/-- The keys that the service hides. -/
def hidden : String → Bool := isSensitive service.runtime.unicode

/-- The redaction of an object. -/
def redacted (entries : Row) : Row := Value.redactEntries service.hidden entries

/-- `JobService.get_milestones`. -/
def getMilestones (jobId sessionId : String) : ApiTask SessionMilestones := do
  let result ← service.runtime.getMilestones ctx jobId sessionId
  return { result with snapshot := result.snapshot.map service.redacted }

/-- `JobService.get_trajectory`. -/
def getTrajectory (jobId sessionId stepId : String) : ApiTask StepTrajectory := do
  let result ← service.runtime.getTrajectory ctx jobId sessionId stepId
  return { result with trajectory := service.redacted result.trajectory }

end JobService

end SafactoryServer
