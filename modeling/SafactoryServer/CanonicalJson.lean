import SafactoryServer.JsonLoads.RoundTrip
import SafactoryServer.Ranking
import SafactoryServer.Yaml
import Mathlib.Algebra.Order.Ring.Rat
import Mathlib.Data.List.Sort
import Mathlib.Data.String.Basic

/-! `canonical_json` of a YAML document: when there is a text, and when `json.loads` makes an equal
document of it. -/

namespace SafactoryServer

/-- `<` of two floats. -/
def PyFloat.lt : PyFloat → PyFloat → Bool
  | .finite a, .finite b => a < b
  | .finite _, .infinity negative => !negative
  | .infinity negative, .finite _ => negative
  | .infinity a, .infinity b => a && !b
  | _, _ => false

namespace YamlValue

/-- The value of a number; a `bool` is one. -/
def number? : YamlValue → Option PyFloat
  | .bool b => some (.finite (if b then 1 else 0))
  | .int n => some (.finite n)
  | .float x => some x
  | _ => none

/-- `<` of two strings or two numbers.  Dates, bytes and tuples can be compared as well, but are no
keys of a JSON text: their `TypeError` comes here or with the first key. -/
def keyLt? : YamlValue → YamlValue → Option Bool
  | .str s, .str t => some (s < t)
  | a, b => do return (← a.number?).lt (← b.number?)

/-- `sorted(dct.items())`: no two keys are equal. -/
def sortItems {α : Type} (items : List (YamlValue × α)) : Except PyExc (List (YamlValue × α)) :=
  if items.Pairwise fun a b => (keyLt? a.1 b.1).isSome = true then
    .ok (items.insertionSort fun a b => keyLt? b.1 a.1 ≠ some true)
  else .error .typeError

section

variable (digits : ℚ → String)

/-- The text of a key. -/
def keyText : YamlValue → Except PyExc String
  | .str s => .ok s
  | .float x => .ok (String.ofList (encodeFloat digits x))
  | .bool b => .ok (if b then "true" else "false")
  | .null => .ok "null"
  | .int n => strInt n
  | _ => .error .typeError

/-- One item of a dict, its value already written or refused. -/
def encodeItem (item : YamlValue × Except PyExc (List Char)) : Except PyExc (List Char) := do
  let key ← keyText digits item.1
  let text ← item.2
  return encodeString key ++ ':' :: text

mutual

/-- `json.dumps(value, ensure_ascii=False, sort_keys=True, separators=(",", ":"))`. -/
def encode : YamlValue → Except PyExc (List Char)
  | .null => .ok "null".toList
  | .bool b => .ok (if b then "true".toList else "false".toList)
  | .int n => do return (← strInt n).toList
  | .float x => .ok (encodeFloat digits x)
  | .str s => .ok (encodeString s)
  | .list items | .tuple items => do
    let texts ← encodeItems items
    return '[' :: (joined .compact texts ++ [']'])
  | .dict entries => do
    let items ← sortItems (encodeEntries entries)
    let texts ← items.mapM (encodeItem digits)
    return '\x7b' :: (joined .compact texts ++ ['\x7d'])
  | _ => .error .typeError

def encodeItems : List YamlValue → Except PyExc (List (List Char))
  | [] => .ok []
  | item :: rest => do return (← encode item) :: (← encodeItems rest)

def encodeEntries : List (YamlValue × YamlValue) → List (YamlValue × Except PyExc (List Char))
  | [] => []
  | (key, value) :: rest => (key, encode value) :: encodeEntries rest

end

/-- `canonical_json`. -/
def canonicalJson (value : YamlValue) : Except PyExc String := do
  return String.ofList (← encode digits value)

end

mutual

/-- `==` with a document that `json.loads` made. -/
def equals : YamlValue → Json → Bool
  | .null, .null => true
  | .str s, .str t => s == t
  | .list items, .arr others => equalsItems items others
  | .dict entries, .obj others => entries.length == others.length && equalsEntries entries others
  | .bool a, .bool b => a == b
  | .bool a, .int n => (if a then 1 else 0) == n
  | .bool a, .float x => .finite (if a then 1 else 0) == x
  | .int m, .bool b => m == if b then 1 else 0
  | .int m, .int n => m == n
  | .int m, .float x => .finite m == x
  | .float x, .bool b => x == .finite (if b then 1 else 0)
  | .float x, .int n => x == .finite n
  | .float x, .float y => x == y && x != .nan
  | _, _ => false

def equalsItems : List YamlValue → List Json → Bool
  | [], [] => true
  | item :: rest, other :: others => equals item other && equalsItems rest others
  | _, _ => false

/-- Every entry is an entry of the object. -/
def equalsEntries : List (YamlValue × YamlValue) → List (String × Json) → Bool
  | [], _ => true
  | (key, value) :: rest, others =>
    (match key with
      | .str key =>
        match lookup key others with
        | some other => equals value other
        | none => false
      | _ => false) && equalsEntries rest others

end

/-- `isinstance(value, str)`. -/
def isStr : YamlValue → Bool
  | .str _ => true
  | _ => false

mutual

/-- The value is a JSON document: no bytes, dates, tuples or sets in it, only strings as keys, no
NaN, and no integer that is too long for `str`. -/
def isJson : YamlValue → Bool
  | .null | .bool _ | .str _ => true
  | .int n => (Nat.repr n.natAbs).length ≤ maxStrDigits
  | .float x => x ≠ .nan
  | .list items => isJsonItems items
  | .dict entries => isJsonEntries entries
  | _ => false

def isJsonItems : List YamlValue → Bool
  | [] => true
  | item :: rest => isJson item && isJsonItems rest

def isJsonEntries : List (YamlValue × YamlValue) → Bool
  | [] => true
  | (key, value) :: rest => isStr key && isJson value && isJsonEntries rest

end

mutual

/-- What Python sees to: no dict has a key twice, and the floats are floats. -/
def Valid (f : FloatTexts) : YamlValue → Prop
  | .float (.finite value) => f.isFloat value = true
  | .list items | .tuple items | .set items => ValidItems f items
  | .dict entries => (entries.map (·.1)).Nodup ∧ ValidEntries f entries
  | _ => True

def ValidItems (f : FloatTexts) : List YamlValue → Prop
  | [] => True
  | item :: rest => Valid f item ∧ ValidItems f rest

def ValidEntries (f : FloatTexts) : List (YamlValue × YamlValue) → Prop
  | [] => True
  | (_, value) :: rest => Valid f value ∧ ValidEntries f rest

end

mutual

/-- The document that `json.loads` makes of the text of a JSON document. -/
def toJson : YamlValue → Json
  | .bool b => .bool b
  | .int n => .int n
  | .float x => .float x
  | .str s => .str s
  | .list items => .arr (toJsonItems items)
  | .dict entries => .obj ((toJsonEntries entries).insertionSort fun a b => a.1 ≤ b.1)
  | _ => .null

def toJsonItems : List YamlValue → List Json
  | [] => []
  | item :: rest => toJson item :: toJsonItems rest

def toJsonEntries : List (YamlValue × YamlValue) → List (String × Json)
  | (.str key, value) :: rest => (key, toJson value) :: toJsonEntries rest
  | _ => []

end

section

variable {f : FloatTexts} {digits : ℚ → String} {value : YamlValue}

@[simp] theorem isJsonItems_iff (items : List YamlValue) :
    isJsonItems items = true ↔ ∀ item ∈ items, item.isJson = true := by
  induction items with
  | nil => simp [isJsonItems]
  | cons item rest ih => rw [isJsonItems, Bool.and_eq_true, ih, List.forall_mem_cons]

theorem isStr_iff : value.isStr = true ↔ ∃ s, value = .str s := by
  cases value <;> simp [isStr]

@[simp] theorem isJsonEntries_iff (entries : List (YamlValue × YamlValue)) :
    isJsonEntries entries = true ↔
      ∀ e ∈ entries, (∃ key, e.1 = .str key) ∧ e.2.isJson = true := by
  induction entries with
  | nil => simp [isJsonEntries]
  | cons e rest ih =>
    rw [isJsonEntries, Bool.and_eq_true, Bool.and_eq_true, ih, List.forall_mem_cons, isStr_iff]

@[simp] theorem validItems_iff (items : List YamlValue) :
    ValidItems f items ↔ ∀ item ∈ items, item.Valid f := by
  induction items with
  | nil => simp [ValidItems]
  | cons item rest ih => rw [ValidItems, ih, List.forall_mem_cons]

@[simp] theorem validEntries_iff (entries : List (YamlValue × YamlValue)) :
    ValidEntries f entries ↔ ∀ e ∈ entries, e.2.Valid f := by
  induction entries with
  | nil => simp [ValidEntries]
  | cons e rest ih => rw [ValidEntries, ih, List.forall_mem_cons]

@[simp] theorem encodeEntries_eq (entries : List (YamlValue × YamlValue)) :
    encodeEntries digits entries = entries.map fun e => (e.1, e.2.encode digits) := by
  induction entries with
  | nil => rfl
  | cons e rest ih => rw [encodeEntries, ih, List.map_cons]

@[simp] theorem toJsonItems_eq (items : List YamlValue) :
    toJsonItems items = items.map toJson := by
  induction items with
  | nil => rfl
  | cons item rest ih => rw [toJsonItems, ih, List.map_cons]

/-- The entries of a dict with only strings as keys. -/
theorem exists_entries {entries : List (YamlValue × YamlValue)}
    (h : ∀ e ∈ entries, ∃ key, e.1 = .str key) :
    ∃ named : List (String × YamlValue), entries = named.map fun e => (.str e.1, e.2) := by
  induction entries with
  | nil => exact ⟨[], rfl⟩
  | cons e rest ih =>
    obtain ⟨⟨key, hkey⟩, hrest⟩ := List.forall_mem_cons.mp h
    obtain ⟨named, rfl⟩ := ih hrest
    exact ⟨(key, e.2) :: named, by rw [List.map_cons, ← hkey]⟩

theorem toJsonEntries_named (named : List (String × YamlValue)) :
    toJsonEntries (named.map fun e => (.str e.1, e.2)) =
      named.map fun e => (e.1, e.2.toJson) := by
  induction named with
  | nil => rfl
  | cons e rest ih => rw [List.map_cons, toJsonEntries, ih, List.map_cons]

/-! ### The text -/

theorem encodeItems_eq (items : List YamlValue) :
    encodeItems digits items = items.mapM (encode digits) := by
  induction items with
  | nil => rfl
  | cons item rest ih =>
    rw [encodeItems, ih, List.mapM_cons]

theorem mapM_map {α β : Type} {g : α → Except PyExc β} {out : α → β} {items : List α}
    (h : ∀ item ∈ items, g item = .ok (out item)) : items.mapM g = .ok (items.map out) :=
  Ranking.mapM_ok.mpr (List.forall₂_map_right_iff.mpr (List.forall₂_same.mpr h))

theorem encodeItems_ok {out : YamlValue → List Char} {items : List YamlValue}
    (h : ∀ item ∈ items, item.encode digits = .ok (out item)) :
    encodeItems digits items = .ok (items.map out) := by
  rw [encodeItems_eq]
  exact mapM_map h

/-- Strings are sorted by their characters. -/
theorem sortItems_named {α β : Type} (g : α → β) (named : List (String × α)) :
    sortItems (named.map fun e => (.str e.1, g e.2)) =
      .ok ((named.insertionSort fun a b => a.1 ≤ b.1).map fun e => (.str e.1, g e.2)) := by
  have hcomparable : (named.map fun e => ((.str e.1 : YamlValue), g e.2)).Pairwise
      fun a b => (keyLt? a.1 b.1).isSome = true := by
    rw [List.pairwise_map]
    exact List.pairwise_of_forall fun _ _ => rfl
  rw [sortItems, if_pos hcomparable]
  congr 1
  refine (List.map_insertionSort _ _ _ _ fun a _ b _ => ?_).symm
  simp only [keyLt?, ne_eq, Option.some.injEq, decide_eq_true_eq, not_lt]

theorem encode_isJson (h : value.isJson = true) :
    value.encode digits = .ok (value.toJson.encode .compact digits) := by
  induction value using byParts with
  | null | bool b | float x | str s => rfl
  | bytes | date | datetime | tuple items | set items => cases h
  | int n =>
    have hsmall : ¬ maxStrDigits < (Nat.repr n.natAbs).length := by
      simpa [isJson] using h
    rw [encode, strInt, if_neg hsmall]
    rfl
  | list items ih =>
    simp only [isJson, isJsonItems_iff] at h
    rw [encode, encodeItems_ok fun item hitem => ih item hitem (h item hitem)]
    simp only [toJson, toJsonItems_eq, Json.encode, Json.encodeItems_eq, List.map_map]
    rfl
  | dict entries ih =>
    simp only [isJson, isJsonEntries_iff] at h
    obtain ⟨named, rfl⟩ := exists_entries fun e he => (h e he).1
    let written (item : Json) : Except PyExc (List Char) := .ok (item.encode .compact digits)
    have hentries : encodeEntries digits (named.map fun e => (.str e.1, e.2)) =
        (named.map fun e => (e.1, e.2.toJson)).map fun e => (.str e.1, written e.2) := by
      rw [encodeEntries_eq, List.map_map, List.map_map]
      refine List.map_congr_left fun e he => ?_
      have hmem := List.mem_map_of_mem (f := fun e => ((.str e.1 : YamlValue), e.2)) he
      exact Prod.ext rfl (ih _ hmem (h _ hmem).2)
    have htexts (sorted : List (String × Json)) :
        (sorted.map fun e => (.str e.1, written e.2)).mapM (encodeItem digits) =
          .ok (sorted.map (Json.encodeEntry .compact digits)) := by
      rw [List.mapM_map]
      exact mapM_map fun e _ => rfl
    rw [encode, hentries, sortItems_named, toJson, toJsonEntries_named, Json.encode,
      Json.encodeEntries_eq]
    change (do
      let texts ← List.mapM (encodeItem digits) _
      return '\x7b' :: (joined .compact texts ++ ['\x7d'])) = _
    rw [htexts]
    rfl

/-! ### The document read back -/

@[simp] theorem equalsEntries_iff {entries : List (YamlValue × YamlValue)}
    {others : List (String × Json)} :
    equalsEntries entries others = true ↔ ∀ e ∈ entries, ∃ key other, e.1 = .str key ∧
      lookup key others = some other ∧ e.2.equals other = true := by
  induction entries with
  | nil => simp [equalsEntries]
  | cons e rest ih =>
    obtain ⟨key, value⟩ := e
    rw [List.forall_mem_cons, ← ih]
    cases key with
    | str key => cases hlookup : lookup key others <;> simp [equalsEntries, hlookup]
    | _ => simp [equalsEntries]

theorem equalsItems_map {g : YamlValue → Json} {items : List YamlValue}
    (h : ∀ item ∈ items, item.equals (g item) = true) :
    equalsItems items (items.map g) = true := by
  induction items with
  | nil => rfl
  | cons item rest ih =>
    obtain ⟨hitem, hrest⟩ := List.forall_mem_cons.mp h
    rw [List.map_cons, equalsItems, hitem, ih hrest, Bool.true_and]

theorem exists_equals {items : List YamlValue} {others : List Json}
    (h : equalsItems items others = true) :
    ∀ item ∈ items, ∃ other, item.equals other = true := by
  induction items generalizing others with
  | nil => exact fun _ hmem => nomatch hmem
  | cons item rest ih =>
    cases others with
    | nil => cases h
    | cons other others =>
      rw [equalsItems, Bool.and_eq_true] at h
      exact List.forall_mem_cons.mpr ⟨⟨other, h.1⟩, ih h.2⟩

/-- The entries of a dict that is a JSON document, sorted. -/
theorem sorted_keys_nodup {named : List (String × YamlValue)}
    (h : ((named.map fun e => ((.str e.1 : YamlValue), e.2)).map (·.1)).Nodup) :
    (((named.map fun e => (e.1, e.2.toJson)).insertionSort fun a b => a.1 ≤ b.1).map
      (·.1)).Nodup := by
  have hkeys : (named.map (·.1)).Nodup := by
    rw [List.map_map] at h
    refine List.Nodup.of_map (fun key => (.str key : YamlValue)) ?_
    rwa [List.map_map]
  have hperm := (List.perm_insertionSort (fun a b : String × Json => a.1 ≤ b.1)
    (named.map fun e => (e.1, e.2.toJson))).map (·.1)
  refine hperm.nodup_iff.mpr ?_
  rwa [List.map_map]

theorem toJson_readable (hjson : value.isJson = true) (hvalid : value.Valid f) :
    value.toJson.Readable f := by
  induction value using byParts with
  | null | bool b | str s => exact trivial
  | bytes | date | datetime | tuple items | set items => cases hjson
  | int n => simpa [isJson, toJson, Json.Readable] using hjson
  | float x =>
    cases x with
    | finite q => exact hvalid
    | infinity negative => exact trivial
    | nan => exact trivial
  | list items ih =>
    simp only [isJson, isJsonItems_iff] at hjson
    simp only [Valid, validItems_iff] at hvalid
    simp only [toJson, toJsonItems_eq, Json.Readable, Json.readableItems_iff, List.forall_mem_map]
    exact fun item hitem => ih item hitem (hjson item hitem) (hvalid item hitem)
  | dict entries ih =>
    simp only [isJson, isJsonEntries_iff] at hjson
    simp only [Valid, validEntries_iff] at hvalid
    obtain ⟨named, rfl⟩ := exists_entries fun e he => (hjson e he).1
    rw [toJson, toJsonEntries_named, Json.Readable, Json.readableEntries_iff]
    refine ⟨sorted_keys_nodup hvalid.1, fun e he => ?_⟩
    rw [List.mem_insertionSort, List.mem_map] at he
    obtain ⟨e, he, rfl⟩ := he
    have hmem := List.mem_map_of_mem (f := fun e => ((.str e.1 : YamlValue), e.2)) he
    exact ih _ hmem (hjson _ hmem).2 (hvalid.2 _ hmem)

theorem equals_toJson (hjson : value.isJson = true) (hvalid : value.Valid f) :
    value.equals value.toJson = true := by
  induction value using byParts with
  | null => rfl
  | bool b | str s | int n => simp [toJson, equals]
  | bytes | date | datetime | tuple items | set items => cases hjson
  | float x => simpa [toJson, equals, isJson] using hjson
  | list items ih =>
    simp only [isJson, isJsonItems_iff] at hjson
    simp only [Valid, validItems_iff] at hvalid
    rw [toJson, toJsonItems_eq, equals]
    exact equalsItems_map fun item hitem => ih item hitem (hjson item hitem) (hvalid item hitem)
  | dict entries ih =>
    simp only [isJson, isJsonEntries_iff] at hjson
    simp only [Valid, validEntries_iff] at hvalid
    obtain ⟨named, rfl⟩ := exists_entries fun e he => (hjson e he).1
    rw [toJson, toJsonEntries_named, equals, Bool.and_eq_true, equalsEntries_iff,
      List.length_insertionSort, List.length_map, List.length_map]
    refine ⟨beq_self_eq_true _, List.forall_mem_map.mpr fun e he => ?_⟩
    have hmem := List.mem_map_of_mem (f := fun e => ((.str e.1 : YamlValue), e.2)) he
    refine ⟨e.1, e.2.toJson, rfl, lookup_of_mem (sorted_keys_nodup hvalid.1) ?_,
      ih _ hmem (hjson _ hmem).2 (hvalid.2 _ hmem)⟩
    rw [List.mem_insertionSort]
    exact List.mem_map_of_mem he

/-! ### What a text and an equal document ask for -/

theorem mapM_inv {α β : Type} {g : α → Except PyExc β} {items : List α} {outs : List β}
    (h : items.mapM g = .ok outs) : ∀ item ∈ items, ∃ out, g item = .ok out := by
  have hall := Ranking.mapM_ok.mp h
  clear h
  induction hall with
  | nil => exact fun _ hmem => nomatch hmem
  | cons hout _ ih => exact List.forall_mem_cons.mpr ⟨⟨_, hout⟩, ih⟩

theorem encodeItems_inv {items : List YamlValue} {texts : List (List Char)}
    (h : encodeItems digits items = .ok texts) :
    ∀ item ∈ items, ∃ text, item.encode digits = .ok text := by
  rw [encodeItems_eq] at h
  exact mapM_inv h

theorem encode_dict_inv {entries : List (YamlValue × YamlValue)} {text : List Char}
    (h : (dict entries).encode digits = .ok text) :
    ∀ e ∈ entries, ∃ text, e.2.encode digits = .ok text := by
  intro e he
  rw [encode, encodeEntries_eq] at h
  obtain ⟨items, hitems, h⟩ := bind_ok h
  obtain ⟨texts, htexts, -⟩ := bind_ok h
  unfold sortItems at hitems
  split at hitems
  · cases hitems
    obtain ⟨out, hout⟩ := mapM_inv htexts (e.1, e.2.encode digits) (by
      rw [List.mem_insertionSort]
      exact List.mem_map_of_mem he)
    obtain ⟨key, -, hout⟩ := bind_ok hout
    obtain ⟨text, htext, -⟩ := bind_ok hout
    exact ⟨text, htext⟩
  · cases hitems

theorem isJson_of_equals {text : List Char} {other : Json}
    (htext : value.encode digits = .ok text) (hequal : value.equals other = true) :
    value.isJson = true := by
  induction value using byParts generalizing text other with
  | null | bool b | str s => rfl
  | bytes | date | datetime | tuple items | set items => cases other <;> cases hequal
  | int n =>
    rw [encode, strInt] at htext
    split at htext
    · cases htext
    · next hsmall => simpa [isJson] using hsmall
  | float x =>
    cases x with
    | nan => cases other <;> simp [equals] at hequal
    | finite q => rfl
    | infinity negative => rfl
  | list items ih =>
    rw [encode] at htext
    obtain ⟨texts, htexts, -⟩ := bind_ok htext
    rw [isJson, isJsonItems_iff]
    cases other with
    | arr others =>
      intro item hitem
      obtain ⟨text, htext⟩ := encodeItems_inv htexts item hitem
      obtain ⟨other, hother⟩ := exists_equals hequal item hitem
      exact ih item hitem htext hother
    | _ => cases hequal
  | dict entries ih =>
    rw [isJson, isJsonEntries_iff]
    cases other with
    | obj others =>
      rw [equals, Bool.and_eq_true, equalsEntries_iff] at hequal
      intro e he
      obtain ⟨text, htext⟩ := encode_dict_inv htext e he
      obtain ⟨key, other, hkey, -, hother⟩ := hequal.2 e he
      exact ⟨⟨key, hkey⟩, ih e he htext hother⟩
    | _ => cases hequal

/-- `canonical_json` writes the value, and `json.loads` reads an equal document. -/
def RoundTrips (f : FloatTexts) (value : YamlValue) : Prop :=
  ∃ text document, canonicalJson f.digits value = .ok text ∧
    loads f.reader text = .ok document ∧ value.equals document = true

/-- Just the JSON documents come back. -/
theorem roundTrips_iff (hvalid : value.Valid f) : RoundTrips f value ↔ value.isJson = true := by
  constructor
  · rintro ⟨text, document, htext, -, hequal⟩
    obtain ⟨written, hwritten, -⟩ := bind_ok htext
    exact isJson_of_equals hwritten hequal
  · intro hjson
    refine ⟨_, value.toJson, ?_,
      loads_encode .compact (toJson_readable hjson hvalid) fun _ _ => rfl,
      equals_toJson hjson hvalid⟩
    rw [canonicalJson, encode_isJson hjson]
    rfl

end

end YamlValue

end SafactoryServer
