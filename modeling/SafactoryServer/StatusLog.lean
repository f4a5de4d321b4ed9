import SafactoryServer.Payload
import SafactoryServer.Regex

/-! `_safe_log_value`: the SDK's status structs in the debug log, without the values of sensitive
keys. -/

namespace SafactoryServer

open Regex

/-- The letter for which `re.IGNORECASE` takes a character. -/
def caseFolded (c : Char) : Char :=
  if c = 'İ' ∨ c = 'ı' then 'i'
  else if c = 'ſ' then 's'
  else if c.toNat = 0x212A then 'k'
  else c.toLower

/-- `_SENSITIVE_LOG_KEY`. -/
def sensitiveLogKey : Pattern :=
  let word (text : String) : Pattern := .folded caseFolded text.toList
  let parted (text : String) : Pattern :=
    .seq (word text) (.seq (.optional (.char fun c => c == '_' || c == '-')) (word "key"))
  .oneOf [word "authorization", word "credential", word "password", word "secret", word "token",
    parted "api", parted "access"]

/-- `_SENSITIVE_LOG_KEY.search(str(key))`. -/
def isSensitiveLogKey (key : String) : Bool := sensitiveLogKey.search key.toList

example : isSensitiveLogKey "X-API_Key" = true := by decide

example : isSensitiveLogKey "apikind" = false := by decide

/-- What `_safe_log_value` carries along: `_visited`, and how many dictionaries it has built. -/
structure LogState where
  visited : List Nat
  built : Nat

def LogState.visit (s : LogState) (id : Nat) : LogState := { s with visited := id :: s.visited }

section

variable (alloc : Allocator)

mutual

/-- `_safe_log_value`, with the identities that are alive around it. -/
def safeLogValue (live : List Nat) (depth : Nat) : SdkValue → LogState → Json × LogState
  | .null, s => (.null, s)
  | .bool b, s => (.bool b, s)
  | .int n, s => (.int n, s)
  | .float x, s => (.float x, s)
  | .str text, s => (.str text, s)
  | .bytes length, s => (.str ("<bytes:" ++ toString length ++ ">"), s)
  | .list id items, s =>
    if 12 ≤ depth then (.str "<max-depth>", s)
    else if s.visited.contains id then (.str "<cycle>", s)
    else
      let (items, s) := safeLogItems live (depth + 1) items (s.visit id)
      (.arr items, s)
  | .dict id entries, s =>
    if 12 ≤ depth then (.str "<max-depth>", s)
    else if s.visited.contains id then (.str "<cycle>", s)
    else
      let (entries, s) := safeLogEntries live (depth + 1) (fun _ => true) entries (s.visit id)
      (.obj entries, s)
  | .object id attributes, s =>
    if 12 ≤ depth then (.str "<max-depth>", s)
    else if s.visited.contains id then (.str "<cycle>", s)
    else
      let s := s.visit id
      let vars := alloc.next s.built live
      let s := { s with built := s.built + 1 }
      if 12 ≤ depth + 1 then (.str "<max-depth>", s)
      else if s.visited.contains vars then (.str "<cycle>", s)
      else
        let (entries, s) :=
          safeLogEntries (vars :: live) (depth + 2) isPublic attributes (s.visit vars)
        (.obj entries, s)

def safeLogItems (live : List Nat) (depth : Nat) :
    List SdkValue → LogState → List Json × LogState
  | [], s => ([], s)
  | item :: rest, s =>
    let (item, s) := safeLogValue live depth item s
    let (rest, s) := safeLogItems live depth rest s
    (item :: rest, s)

def safeLogEntries (live : List Nat) (depth : Nat) (shown : String → Bool) :
    List (String × SdkValue) → LogState → List (String × Json) × LogState
  | [], s => ([], s)
  | (key, value) :: rest, s =>
    if shown key then
      let (value, s) :=
        if isSensitiveLogKey key then (.str "<redacted>", s) else safeLogValue live depth value s
      let (rest, s) := safeLogEntries live depth shown rest s
      ((key, value) :: rest, s)
    else safeLogEntries live depth shown rest s

end

/-- `_safe_log_value(value)`. -/
def safeLog (value : SdkValue) : Json := (safeLogValue alloc value.ids 0 value ⟨[], 0⟩).1

end

/-! ### The log of a document -/

mutual

/-- The document in the log: the values of sensitive keys and what lies too deep are marked. -/
def redactedLog (depth : Nat) : SdkValue → Json
  | .null => .null
  | .bool b => .bool b
  | .int n => .int n
  | .float x => .float x
  | .str text => .str text
  | .bytes length => .str ("<bytes:" ++ toString length ++ ">")
  | .list _ items =>
    if 12 ≤ depth then .str "<max-depth>" else .arr (redactedItems (depth + 1) items)
  | .dict _ entries | .object _ entries =>
    if 12 ≤ depth then .str "<max-depth>" else .obj (redactedEntries (depth + 1) entries)

def redactedItems (depth : Nat) : List SdkValue → List Json
  | [] => []
  | item :: rest => redactedLog depth item :: redactedItems depth rest

def redactedEntries (depth : Nat) : List (String × SdkValue) → List (String × Json)
  | [] => []
  | (key, value) :: rest =>
    (key, if isSensitiveLogKey key then .str "<redacted>" else redactedLog depth value) ::
      redactedEntries depth rest

end

mutual

/-- The two values are equal, save for their identities and what stands beneath hidden keys. -/
inductive LogSimilar (hidden : String → Bool) : SdkValue → SdkValue → Prop
  | same (value : SdkValue) : LogSimilar hidden value value
  | list {id id' : Nat} {items items' : List SdkValue} :
      LogSimilarItems hidden items items' → LogSimilar hidden (.list id items) (.list id' items')
  | dict {id id' : Nat} {entries entries' : List (String × SdkValue)} :
      LogSimilarEntries hidden entries entries' →
      LogSimilar hidden (.dict id entries) (.dict id' entries')

inductive LogSimilarItems (hidden : String → Bool) : List SdkValue → List SdkValue → Prop
  | nil : LogSimilarItems hidden [] []
  | cons {item item' : SdkValue} {rest rest' : List SdkValue} : LogSimilar hidden item item' →
      LogSimilarItems hidden rest rest' → LogSimilarItems hidden (item :: rest) (item' :: rest')

inductive LogSimilarEntries (hidden : String → Bool) :
    List (String × SdkValue) → List (String × SdkValue) → Prop
  | nil : LogSimilarEntries hidden [] []
  | beneath {key : String} {value value' : SdkValue} {rest rest' : List (String × SdkValue)} :
      hidden key = true → LogSimilarEntries hidden rest rest' →
      LogSimilarEntries hidden ((key, value) :: rest) ((key, value') :: rest')
  | cons {key : String} {value value' : SdkValue} {rest rest' : List (String × SdkValue)} :
      LogSimilar hidden value value' → LogSimilarEntries hidden rest rest' →
      LogSimilarEntries hidden ((key, value) :: rest) ((key, value') :: rest')

end

/-- The value at a path of keys and indices. -/
def SdkValue.at? : SdkValue → List (String ⊕ Nat) → Option SdkValue
  | value, [] => some value
  | .dict _ entries, .inl key :: path => (lookup key entries).bind (·.at? path)
  | .list _ items, .inr index :: path => items[index]?.bind (·.at? path)
  | _, _ :: _ => none

/-- The document at a path of keys and indices. -/
def Json.at? : Json → List (String ⊕ Nat) → Option Json
  | value, [] => some value
  | .obj entries, .inl key :: path => (lookup key entries).bind (·.at? path)
  | .arr items, .inr index :: path => items[index]?.bind (·.at? path)
  | _, _ :: _ => none

/-- The log shows a value at this depth: a container with all its keys or places, until it lies too
deep. -/
def LogShows (depth : Nat) : SdkValue → Json → Prop
  | .list _ items, shown => if depth < 12 then ∃ items', shown = .arr items' ∧
      items'.length = items.length else shown = .str "<max-depth>"
  | .dict _ entries, shown => if depth < 12 then ∃ entries', shown = .obj entries' ∧
      entries'.map (·.1) = entries.map (·.1) else shown = .str "<max-depth>"
  | value, shown => shown = redactedLog depth value

section

variable {alloc : Allocator} {live : List Nat} {depth : Nat} {s s' : LogState}

open SdkValue

/-! Similar documents have the same log. -/

mutual

theorem LogSimilar.log_eq {value value' : SdkValue} (depth : Nat) :
    LogSimilar isSensitiveLogKey value value' → redactedLog depth value = redactedLog depth value'
  | .same _ => rfl
  | .list h => by rw [redactedLog, redactedLog, h.log_eq (depth + 1)]
  | .dict h => by rw [redactedLog, redactedLog, h.log_eq (depth + 1)]

theorem LogSimilarItems.log_eq {items items' : List SdkValue} (depth : Nat) :
    LogSimilarItems isSensitiveLogKey items items' →
      redactedItems depth items = redactedItems depth items'
  | .nil => rfl
  | .cons h hrest => by rw [redactedItems, redactedItems, h.log_eq depth, hrest.log_eq depth]

theorem LogSimilarEntries.log_eq {entries entries' : List (String × SdkValue)} (depth : Nat) :
    LogSimilarEntries isSensitiveLogKey entries entries' →
      redactedEntries depth entries = redactedEntries depth entries'
  | .nil => rfl
  | .beneath hkey hrest => by
    rw [redactedEntries, redactedEntries, if_pos hkey, if_pos hkey, hrest.log_eq depth]
  | .cons h hrest => by
    rw [redactedEntries, redactedEntries, h.log_eq depth, hrest.log_eq depth]

end

/-! The walk over a document whose containers are all new logs it. -/

/-- The identities that a walk has visited are those from before and those of the value. -/
def VisitsOnly (ids : List Nat) (s s' : LogState) : Prop :=
  ∀ id ∈ s'.visited, id ∈ s.visited ∨ id ∈ ids

theorem VisitsOnly.still_new {ids ids' : List Nat} (h : VisitsOnly ids s s')
    (hnodup : (ids ++ ids').Nodup) (hnew : ∀ id ∈ ids ++ ids', id ∉ s.visited) :
    ∀ id ∈ ids', id ∉ s'.visited := by
  intro id hid hvisited
  rcases h id hvisited with hold | hold
  · exact hnew id (List.mem_append_right _ hid) hold
  · exact (List.nodup_append.mp hnodup).2.2 id hold id hid rfl

theorem VisitsOnly.append {ids ids' : List Nat} {s'' : LogState} (h : VisitsOnly ids s s')
    (h' : VisitsOnly ids' s' s'') : VisitsOnly (ids ++ ids') s s'' := by
  intro id hid
  rcases h' id hid with hid | hid
  · exact (h id hid).imp_right (List.mem_append_left _)
  · exact .inr (List.mem_append_right _ hid)

theorem VisitsOnly.container {id : Nat} {ids : List Nat} (h : VisitsOnly ids (s.visit id) s') :
    VisitsOnly (id :: ids) s s' := by
  intro other hother
  rcases h other hother with hvisit | hother
  · rcases List.mem_cons.mp hvisit with rfl | hold
    · exact .inr List.mem_cons_self
    · exact .inl hold
  · exact .inr (List.mem_cons_of_mem _ hother)

theorem LogState.new_visit {id : Nat} {ids : List Nat} (hnodup : (id :: ids).Nodup)
    (hnew : ∀ other ∈ id :: ids, other ∉ s.visited) :
    ∀ other ∈ ids, other ∉ (s.visit id).visited := by
  intro other hother hvisited
  rcases List.mem_cons.mp hvisited with rfl | hvisited
  · exact (List.nodup_cons.mp hnodup).1 hother
  · exact hnew other (List.mem_cons_of_mem _ hother) hvisited

mutual

theorem safeLogValue_json : ∀ {value : SdkValue} (depth : Nat) {s : LogState},
    value.isJson = true → value.ids.Nodup → (∀ id ∈ value.ids, id ∉ s.visited) →
    (safeLogValue alloc live depth value s).1 = redactedLog depth value ∧
      VisitsOnly value.ids s (safeLogValue alloc live depth value s).2
  | .null, _, _, _, _, _ | .bool _, _, _, _, _, _ | .int _, _, _, _, _, _
  | .float _, _, _, _, _, _ | .str _, _, _, _, _, _ => ⟨rfl, fun _ hid => .inl hid⟩
  | .list id items, depth, s, hjson, hnodup, hnew => by
    have hid : ¬ s.visited.contains id = true := by simpa using hnew id List.mem_cons_self
    rw [safeLogValue, redactedLog]
    split
    · exact ⟨rfl, fun _ hid => .inl hid⟩
    · obtain ⟨hlog, honly⟩ := safeLogItems_json (depth + 1) hjson (List.nodup_cons.mp hnodup).2
        (LogState.new_visit hnodup hnew)
      exact ⟨congrArg Json.arr hlog, honly.container⟩
  | .dict id entries, depth, s, hjson, hnodup, hnew => by
    have hid : ¬ s.visited.contains id = true := by simpa using hnew id List.mem_cons_self
    rw [safeLogValue, redactedLog]
    split
    · exact ⟨rfl, fun _ hid => .inl hid⟩
    · obtain ⟨hlog, honly⟩ := safeLogEntries_json (depth + 1) hjson (List.nodup_cons.mp hnodup).2
        (LogState.new_visit hnodup hnew)
      exact ⟨congrArg Json.obj hlog, honly.container⟩

theorem safeLogItems_json : ∀ {items : List SdkValue} (depth : Nat) {s : LogState},
    jsonItems items = true → (idsItems items).Nodup → (∀ id ∈ idsItems items, id ∉ s.visited) →
    (safeLogItems alloc live depth items s).1 = redactedItems depth items ∧
      VisitsOnly (idsItems items) s (safeLogItems alloc live depth items s).2
  | [], _, _, _, _, _ => ⟨rfl, fun _ hid => .inl hid⟩
  | item :: rest, depth, s, hjson, hnodup, hnew => by
    obtain ⟨hitem, hrest⟩ := Bool.and_eq_true_iff.mp hjson
    obtain ⟨hleft, hright, -⟩ := List.nodup_append.mp hnodup
    obtain ⟨hlog, honly⟩ := safeLogValue_json depth hitem hleft fun id hid =>
      hnew id (List.mem_append_left _ hid)
    obtain ⟨hlogs, honlys⟩ := safeLogItems_json depth hrest hright (honly.still_new hnodup hnew)
    exact ⟨congrArg₂ List.cons hlog hlogs, honly.append honlys⟩

theorem safeLogEntries_json : ∀ {entries : List (String × SdkValue)} (depth : Nat)
    {s : LogState}, jsonEntries entries = true → (idsEntries entries).Nodup →
    (∀ id ∈ idsEntries entries, id ∉ s.visited) →
    (safeLogEntries alloc live depth (fun _ => true) entries s).1 = redactedEntries depth entries ∧
      VisitsOnly (idsEntries entries) s
        (safeLogEntries alloc live depth (fun _ => true) entries s).2
  | [], _, _, _, _, _ => ⟨rfl, fun _ hid => .inl hid⟩
  | (key, value) :: rest, depth, s, hjson, hnodup, hnew => by
    obtain ⟨hvalue, hrest⟩ := Bool.and_eq_true_iff.mp hjson
    obtain ⟨hleft, hright, -⟩ := List.nodup_append.mp hnodup
    rw [safeLogEntries, if_pos rfl, redactedEntries]
    by_cases hkey : isSensitiveLogKey key = true
    · rw [if_pos hkey, if_pos hkey]
      obtain ⟨hlogs, honlys⟩ := safeLogEntries_json depth hrest hright fun id hid =>
        hnew id (List.mem_append_right _ hid)
      exact ⟨congrArg _ hlogs, fun id hid => (honlys id hid).imp_right (List.mem_append_right _)⟩
    · rw [if_neg hkey, if_neg hkey]
      obtain ⟨hlog, honly⟩ := safeLogValue_json depth hvalue hleft fun id hid =>
        hnew id (List.mem_append_left _ hid)
      obtain ⟨hlogs, honlys⟩ := safeLogEntries_json depth hrest hright (honly.still_new hnodup hnew)
      exact ⟨congrArg₂ (fun shown rest => (key, shown) :: rest) hlog hlogs, honly.append honlys⟩

end

theorem safeLog_json {value : SdkValue} (hjson : value.isJson = true) (hunshared : value.Unshared) :
    safeLog alloc value = redactedLog 0 value :=
  (safeLogValue_json 0 hjson hunshared fun _ _ => List.not_mem_nil).1

theorem redactedItems_eq (items : List SdkValue) :
    redactedItems depth items = items.map (redactedLog depth) := by
  induction items with
  | nil => rfl
  | cons item rest ih => rw [redactedItems, ih, List.map_cons]

theorem map_redactedEntries (entries : List (String × SdkValue)) :
    (redactedEntries depth entries).map (·.1) = entries.map (·.1) := by
  induction entries with
  | nil => rfl
  | cons entry rest ih => rw [redactedEntries, List.map_cons, List.map_cons, ih]

theorem lookup_redactedEntries (key : String) (entries : List (String × SdkValue)) :
    lookup key (redactedEntries depth entries) = (lookup key entries).map fun value =>
      if isSensitiveLogKey key then .str "<redacted>" else redactedLog depth value := by
  induction entries with
  | nil => rfl
  | cons entry rest ih =>
    rw [redactedEntries, lookup_cons, lookup_cons, ih]
    by_cases hkey : entry.1 = key
    · rw [if_pos hkey, if_pos hkey, hkey]
      rfl
    · rw [if_neg hkey, if_neg hkey]

theorem shows_redactedLog {value : SdkValue} (hjson : value.isJson = true) :
    LogShows depth value (redactedLog depth value) := by
  cases value with
  | null | bool | int | float | str => rfl
  | bytes | object => cases hjson
  | list id items =>
    rw [LogShows, redactedLog]
    by_cases hdepth : depth < 12
    · rw [if_pos hdepth, if_neg (by omega), redactedItems_eq]
      exact ⟨_, rfl, List.length_map _⟩
    · rw [if_neg hdepth, if_pos (by omega)]
  | dict id entries =>
    rw [LogShows, redactedLog]
    by_cases hdepth : depth < 12
    · rw [if_pos hdepth, if_neg (by omega)]
      exact ⟨_, rfl, map_redactedEntries entries⟩
    · rw [if_neg hdepth, if_pos (by omega)]

theorem jsonItems_of_mem {items : List SdkValue} (h : jsonItems items = true) :
    ∀ item ∈ items, item.isJson = true := by
  induction items with
  | nil => exact nofun
  | cons item rest ih =>
    obtain ⟨hitem, hrest⟩ := Bool.and_eq_true_iff.mp h
    exact List.forall_mem_cons.mpr ⟨hitem, ih hrest⟩

theorem json_of_lookup {entries : List (String × SdkValue)} (h : jsonEntries entries = true)
    {key : String} {value : SdkValue} (hfind : lookup key entries = some value) :
    value.isJson = true := by
  induction entries with
  | nil => cases hfind
  | cons entry rest ih =>
    obtain ⟨hentry, hrest⟩ := Bool.and_eq_true_iff.mp h
    rw [lookup_cons] at hfind
    split at hfind
    · cases hfind
      exact hentry
    · exact ih hrest hfind

/-- At a path without sensitive keys that is not too long, the log shows the value there. -/
theorem redactedLog_at {path : List (String ⊕ Nat)} {value part : SdkValue} {depth : Nat}
    (hjson : value.isJson = true) (hpart : value.at? path = some part)
    (hkeys : ∀ key, .inl key ∈ path → isSensitiveLogKey key = false)
    (hdepth : depth + path.length ≤ 12) : part.isJson = true ∧
    (redactedLog depth value).at? path = some (redactedLog (depth + path.length) part) := by
  induction path generalizing value depth with
  | nil =>
    rw [SdkValue.at?] at hpart
    cases hpart
    exact ⟨hjson, by rw [Json.at?]; rfl⟩
  | cons step path ih =>
    have hrest := fun key hkey => hkeys key (List.mem_cons_of_mem _ hkey)
    have hlen : depth + 1 + path.length ≤ 12 := by rw [List.length_cons] at hdepth; omega
    have hadd : depth + (step :: path).length = depth + 1 + path.length := by
      rw [List.length_cons]
      omega
    rw [hadd]
    cases value with
    | null | bool | int | float | str => simp [SdkValue.at?] at hpart
    | bytes | object => cases hjson
    | list id items =>
      cases step with
      | inl key => simp [SdkValue.at?] at hpart
      | inr index =>
        rw [SdkValue.at?] at hpart
        obtain ⟨item, hitem, hpart⟩ := Option.bind_eq_some_iff.mp hpart
        have hmem := jsonItems_of_mem hjson item (List.mem_of_getElem? hitem)
        rw [redactedLog, if_neg (by omega), Json.at?, redactedItems_eq, List.getElem?_map, hitem]
        exact ih hmem hpart hrest hlen
    | dict id entries =>
      cases step with
      | inr index => simp [SdkValue.at?] at hpart
      | inl key =>
        rw [SdkValue.at?] at hpart
        obtain ⟨entry, hentry, hpart⟩ := Option.bind_eq_some_iff.mp hpart
        have hkey := hkeys key List.mem_cons_self
        rw [redactedLog, if_neg (by omega), Json.at?, lookup_redactedEntries, hentry, hkey]
        exact ih (json_of_lookup hjson hentry) hpart hrest hlen

/-- A text in the log that is no mark stands at the same path of the document. -/
theorem text_of_redactedLog {path : List (String ⊕ Nat)} {value : SdkValue} {depth : Nat}
    {text : String} (hjson : value.isJson = true)
    (hshown : (redactedLog depth value).at? path = some (.str text))
    (hredacted : text ≠ "<redacted>") (hdeep : text ≠ "<max-depth>") :
    value.at? path = some (.str text) := by
  induction path generalizing value depth with
  | nil =>
    rw [Json.at?] at hshown
    cases value with
    | null | bool | int | float | str => cases hshown <;> rfl
    | bytes | object => cases hjson
    | list | dict =>
      rw [redactedLog] at hshown
      split at hshown
      · cases hshown
        exact absurd rfl hdeep
      · cases hshown
  | cons step path ih =>
    cases value with
    | null | bool | int | float | str => simp [redactedLog, Json.at?] at hshown
    | bytes | object => cases hjson
    | list id items =>
      rw [redactedLog] at hshown
      split at hshown
      · simp [Json.at?] at hshown
      · cases step with
        | inl key => simp [Json.at?] at hshown
        | inr index =>
          rw [Json.at?, redactedItems_eq, List.getElem?_map] at hshown
          obtain ⟨shown, hmap, hshown⟩ := Option.bind_eq_some_iff.mp hshown
          obtain ⟨item, hitem, rfl⟩ := Option.map_eq_some_iff.mp hmap
          rw [SdkValue.at?, hitem]
          exact ih (jsonItems_of_mem hjson item (List.mem_of_getElem? hitem)) hshown
    | dict id entries =>
      rw [redactedLog] at hshown
      split at hshown
      · simp [Json.at?] at hshown
      · cases step with
        | inr index => simp [Json.at?] at hshown
        | inl key =>
          rw [Json.at?, lookup_redactedEntries] at hshown
          obtain ⟨shown, hmap, hshown⟩ := Option.bind_eq_some_iff.mp hshown
          obtain ⟨entry, hentry, rfl⟩ := Option.map_eq_some_iff.mp hmap
          rw [SdkValue.at?, hentry]
          split at hshown
          · -- nothing but the mark stands beneath a sensitive key
            cases path with
            | nil =>
              rw [Json.at?] at hshown
              cases hshown
              exact absurd rfl hredacted
            | cons => simp [Json.at?] at hshown
          · exact ih (json_of_lookup hjson hentry) hshown

/-- The log of a document: it is the same for documents that differ beneath sensitive keys only, it
shows what lies at a path without such keys down to the depth limit, and it marks no cycle. -/
theorem status_log_redacted (alloc alloc' : Allocator) (value : SdkValue)
    (hjson : value.isJson = true) (hunshared : value.Unshared) :
    (∀ value' : SdkValue, value'.isJson = true → value'.Unshared →
      LogSimilar isSensitiveLogKey value value' → safeLog alloc value = safeLog alloc' value') ∧
    (∀ path part, value.at? path = some part → path.length ≤ 12 →
      (∀ key, .inl key ∈ path → isSensitiveLogKey key = false) →
      ∃ shown, (safeLog alloc value).at? path = some shown ∧ LogShows path.length part shown) ∧
    ∀ path, (safeLog alloc value).at? path = some (.str "<cycle>") →
      value.at? path = some (.str "<cycle>") := by
  rw [safeLog_json hjson hunshared]
  refine ⟨fun value' hjson' hunshared' hsimilar => ?_, fun path part hpart hlen hkeys => ?_,
    fun path hshown => ?_⟩
  · rw [safeLog_json hjson' hunshared']
    exact hsimilar.log_eq 0
  · have hdepth : 0 + path.length ≤ 12 := by omega
    obtain ⟨hpartjson, hat⟩ := redactedLog_at hjson hpart hkeys hdepth
    rw [Nat.zero_add] at hat
    exact ⟨_, hat, shows_redactedLog hpartjson⟩
  · exact text_of_redactedLog hjson hshown (by decide) (by decide)

/-- A status with a token, as a client saw it before and after the token changed. -/
def sampleTokenStatus (id : Nat) (token : String) : SdkValue :=
  .dict id [("phase", .str "Running"), ("env", .list (id + 1) [.dict (id + 2)
    [("name", .str "A"), ("Access-Key", .str token)]])]

theorem status_log_redacted_token :
    safeLog stackAllocator (sampleTokenStatus 1 "old") =
      safeLog stackAllocator (sampleTokenStatus 5 "new") :=
  (status_log_redacted stackAllocator stackAllocator (sampleTokenStatus 1 "old") (by decide)
    (by rw [Unshared]; decide)).1 (sampleTokenStatus 5 "new") (by decide)
    (by rw [Unshared]; decide)
    (.dict (.cons (.same _) (.cons (.list (.cons (.dict (.cons (.same _)
      (.beneath (by decide) .nil))) .nil)) .nil)))

end

end SafactoryServer
