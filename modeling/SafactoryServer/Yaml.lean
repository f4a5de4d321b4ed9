import SafactoryServer.Value

/-! The documents that `yaml.safe_load` makes, and their strings. -/

namespace SafactoryServer

/-- A value of `yaml.safe_load`.  Tuples stand in the lists of `!!omap` and `!!pairs`; a set has its
items in the order of its iteration, and a dict its entries in the order of insertion. -/
inductive YamlValue
  | null
  | bool (b : Bool)
  | int (n : Int)
  | float (x : PyFloat)
  | str (s : String)
  | bytes (content : List UInt8)
  | date (days : Int)
  | datetime (d : Datetime)
  | list (items : List YamlValue)
  | tuple (items : List YamlValue)
  | set (items : List YamlValue)
  | dict (entries : List (YamlValue × YamlValue))

namespace YamlValue

/-- `isinstance(value, dict)`. -/
def isDict : YamlValue → Bool
  | .dict _ => true
  | _ => false

/-- Induction over the parts of a value; the keys of a dict are no parts. -/
@[elab_as_elim]
theorem byParts {motive : YamlValue → Prop} (null : motive .null) (bool : ∀ b, motive (.bool b))
    (int : ∀ n, motive (.int n)) (float : ∀ x, motive (.float x)) (str : ∀ s, motive (.str s))
    (bytes : ∀ content, motive (.bytes content)) (date : ∀ days, motive (.date days))
    (datetime : ∀ d, motive (.datetime d))
    (list : ∀ items, (∀ item ∈ items, motive item) → motive (.list items))
    (tuple : ∀ items, (∀ item ∈ items, motive item) → motive (.tuple items))
    (set : ∀ items, (∀ item ∈ items, motive item) → motive (.set items))
    (dict : ∀ entries, (∀ e ∈ entries, motive e.2) → motive (.dict entries))
    (value : YamlValue) : motive value :=
  @YamlValue.rec motive (fun items => ∀ item ∈ items, motive item)
    (fun entries => ∀ e ∈ entries, motive e.2) (fun e => motive e.2) null bool int float str bytes
    date datetime list tuple set dict (fun _ h => nomatch h)
    (fun _ _ h hrest => List.forall_mem_cons.mpr ⟨h, hrest⟩) (fun _ h => nomatch h)
    (fun _ _ h hrest => List.forall_mem_cons.mpr ⟨h, hrest⟩) (fun _ _ _ h => h) value

/-! ### The strings of a document -/

mutual

/-- The document with every string replaced; the keys of the dicts stay. -/
def mapStrings (f : String → String) : YamlValue → YamlValue
  | .str s => .str (f s)
  | .list items => .list (mapItems f items)
  | .tuple items => .tuple (mapItems f items)
  | .set items => .set (mapItems f items)
  | .dict entries => .dict (mapEntries f entries)
  | value => value

def mapItems (f : String → String) : List YamlValue → List YamlValue
  | [] => []
  | item :: rest => mapStrings f item :: mapItems f rest

def mapEntries (f : String → String) : List (YamlValue × YamlValue) → List (YamlValue × YamlValue)
  | [] => []
  | (key, value) :: rest => (key, mapStrings f value) :: mapEntries f rest

end

mutual

/-- The strings of a document that are no keys. -/
def strings : YamlValue → List String
  | .str s => [s]
  | .list items | .tuple items | .set items => itemStrings items
  | .dict entries => entryStrings entries
  | _ => []

def itemStrings : List YamlValue → List String
  | [] => []
  | item :: rest => strings item ++ itemStrings rest

def entryStrings : List (YamlValue × YamlValue) → List String
  | [] => []
  | (_, value) :: rest => strings value ++ entryStrings rest

end

mutual

/-- The strings that only lists and dicts enclose. -/
def freeStrings : YamlValue → List String
  | .str s => [s]
  | .list items => freeItemStrings items
  | .dict entries => freeEntryStrings entries
  | _ => []

def freeItemStrings : List YamlValue → List String
  | [] => []
  | item :: rest => freeStrings item ++ freeItemStrings rest

def freeEntryStrings : List (YamlValue × YamlValue) → List String
  | [] => []
  | (_, value) :: rest => freeStrings value ++ freeEntryStrings rest

end

mutual

/-- The strings inside a tuple or a set. -/
def boxedStrings : YamlValue → List String
  | .list items => boxedItemStrings items
  | .tuple items | .set items => itemStrings items
  | .dict entries => boxedEntryStrings entries
  | _ => []

def boxedItemStrings : List YamlValue → List String
  | [] => []
  | item :: rest => boxedStrings item ++ boxedItemStrings rest

def boxedEntryStrings : List (YamlValue × YamlValue) → List String
  | [] => []
  | (_, value) :: rest => boxedStrings value ++ boxedEntryStrings rest

end

section

variable {f g : String → String}

@[simp] theorem mapItems_eq (f : String → String) (items : List YamlValue) :
    mapItems f items = items.map (mapStrings f) := by
  induction items with
  | nil => rfl
  | cons item rest ih => rw [mapItems, ih, List.map_cons]

@[simp] theorem mapEntries_eq (f : String → String) (entries : List (YamlValue × YamlValue)) :
    mapEntries f entries = entries.map fun e => (e.1, mapStrings f e.2) := by
  induction entries with
  | nil => rfl
  | cons e rest ih => rw [mapEntries, ih, List.map_cons]

@[simp] theorem itemStrings_eq (items : List YamlValue) :
    itemStrings items = items.flatMap strings := by
  induction items with
  | nil => rfl
  | cons item rest ih => rw [itemStrings, ih, List.flatMap_cons]

@[simp] theorem entryStrings_eq (entries : List (YamlValue × YamlValue)) :
    entryStrings entries = entries.flatMap fun e => strings e.2 := by
  induction entries with
  | nil => rfl
  | cons e rest ih => rw [entryStrings, ih, List.flatMap_cons]

@[simp] theorem freeItemStrings_eq (items : List YamlValue) :
    freeItemStrings items = items.flatMap freeStrings := by
  induction items with
  | nil => rfl
  | cons item rest ih => rw [freeItemStrings, ih, List.flatMap_cons]

@[simp] theorem freeEntryStrings_eq (entries : List (YamlValue × YamlValue)) :
    freeEntryStrings entries = entries.flatMap fun e => freeStrings e.2 := by
  induction entries with
  | nil => rfl
  | cons e rest ih => rw [freeEntryStrings, ih, List.flatMap_cons]

@[simp] theorem boxedItemStrings_eq (items : List YamlValue) :
    boxedItemStrings items = items.flatMap boxedStrings := by
  induction items with
  | nil => rfl
  | cons item rest ih => rw [boxedItemStrings, ih, List.flatMap_cons]

@[simp] theorem boxedEntryStrings_eq (entries : List (YamlValue × YamlValue)) :
    boxedEntryStrings entries = entries.flatMap fun e => boxedStrings e.2 := by
  induction entries with
  | nil => rfl
  | cons e rest ih => rw [boxedEntryStrings, ih, List.flatMap_cons]

/-- Every string is free or inside a tuple or a set. -/
theorem mem_strings {s : String} {value : YamlValue} :
    s ∈ value.strings ↔ s ∈ value.freeStrings ∨ s ∈ value.boxedStrings := by
  induction value using byParts with
  | null | bool | int | float | bytes | date | datetime => simp [strings, freeStrings, boxedStrings]
  | str text => simp [strings, freeStrings, boxedStrings]
  | tuple items | set items => simp [strings, freeStrings, boxedStrings]
  | list items ih =>
    simp only [strings, freeStrings, boxedStrings, itemStrings_eq, freeItemStrings_eq,
      boxedItemStrings_eq, List.mem_flatMap]
    grind
  | dict entries ih =>
    simp only [strings, freeStrings, boxedStrings, entryStrings_eq, freeEntryStrings_eq,
      boxedEntryStrings_eq, List.mem_flatMap]
    grind

theorem mapStrings_congr {value : YamlValue} (h : ∀ s ∈ value.strings, f s = g s) :
    value.mapStrings f = value.mapStrings g := by
  induction value using byParts with
  | null | bool | int | float | bytes | date | datetime => rfl
  | str text => exact congrArg str (h text (List.mem_singleton_self text))
  | list items ih | tuple items ih | set items ih =>
    simp only [strings, itemStrings_eq, List.mem_flatMap] at h
    simp only [mapStrings, mapItems_eq]
    congr 1
    exact List.map_congr_left fun item hitem => ih item hitem fun s hs => h s ⟨item, hitem, hs⟩
  | dict entries ih =>
    simp only [strings, entryStrings_eq, List.mem_flatMap] at h
    simp only [mapStrings, mapEntries_eq]
    congr 1
    exact List.map_congr_left fun e he => by rw [ih e he fun s hs => h s ⟨e, he, hs⟩]

theorem map_eq_self {α : Type} {f : α → α} {l : List α} : l.map f = l ↔ ∀ a ∈ l, f a = a := by
  induction l with
  | nil => simp
  | cons a l ih => simp [ih]

theorem mapStrings_eq_self {value : YamlValue} :
    value.mapStrings f = value ↔ ∀ s ∈ value.strings, f s = s := by
  induction value using byParts with
  | null | bool | int | float | bytes | date | datetime => simp [mapStrings, strings]
  | str text => simp [mapStrings, strings]
  | list items ih | tuple items ih | set items ih =>
    simp only [mapStrings, mapItems_eq, strings, itemStrings_eq, List.mem_flatMap, list.injEq,
      tuple.injEq, set.injEq, map_eq_self]
    constructor
    · rintro h s ⟨item, hitem, hs⟩
      exact (ih item hitem).mp (h item hitem) s hs
    · intro h item hitem
      exact (ih item hitem).mpr fun s hs => h s ⟨item, hitem, hs⟩
  | dict entries ih =>
    simp only [mapStrings, mapEntries_eq, strings, entryStrings_eq, List.mem_flatMap, dict.injEq,
      map_eq_self]
    constructor
    · rintro h s ⟨e, he, hs⟩
      exact (ih e he).mp (congrArg Prod.snd (h e he)) s hs
    · intro h e he
      exact Prod.ext rfl ((ih e he).mpr fun s hs => h s ⟨e, he, hs⟩)

end

end YamlValue

end SafactoryServer
