import SafactoryServer.Python

/-! The values that the RJob SDK returns, with the identities of their containers, and the
identities that the interpreter gives to what the adapter builds while it walks over them. -/

namespace SafactoryServer

/-- A value of the SDK.  A container has the identity that `id` gives of it; a `list` may be a tuple
or a set.  An `object` has attributes only: it is no data class, and has none of the methods
`model_dump`, `dict` and `to_dict`. -/
inductive SdkValue
  | null
  | bool (b : Bool)
  | int (n : Int)
  | float (x : PyFloat)
  | str (s : String)
  | bytes (length : Nat)
  | list (id : Nat) (items : List SdkValue)
  | dict (id : Nat) (entries : List (String × SdkValue))
  | object (id : Nat) (attributes : List (String × SdkValue))

namespace SdkValue

mutual

/-- The identities of the containers in a value, one for each place. -/
def ids : SdkValue → List Nat
  | .list id items => id :: idsItems items
  | .dict id entries => id :: idsEntries entries
  | .object id attributes => id :: idsEntries attributes
  | _ => []

def idsItems : List SdkValue → List Nat
  | [] => []
  | item :: rest => ids item ++ idsItems rest

def idsEntries : List (String × SdkValue) → List Nat
  | [] => []
  | (_, value) :: rest => ids value ++ idsEntries rest

end

/-- No container is shared between two places. -/
def Unshared (value : SdkValue) : Prop := value.ids.Nodup

mutual

/-- The value is made of dicts, lists, strings, numbers and null. -/
def isJson : SdkValue → Bool
  | .list _ items => jsonItems items
  | .dict _ entries => jsonEntries entries
  | .object _ _ | .bytes _ => false
  | _ => true

def jsonItems : List SdkValue → Bool
  | [] => true
  | item :: rest => isJson item && jsonItems rest

def jsonEntries : List (String × SdkValue) → Bool
  | [] => true
  | (_, value) :: rest => isJson value && jsonEntries rest

end

/-- Induction over the parts of a value. -/
@[elab_as_elim]
theorem byParts {motive : SdkValue → Prop} (null : motive .null) (bool : ∀ b, motive (.bool b))
    (int : ∀ n, motive (.int n)) (float : ∀ x, motive (.float x)) (str : ∀ s, motive (.str s))
    (bytes : ∀ n, motive (.bytes n))
    (list : ∀ id items, (∀ item ∈ items, motive item) → motive (.list id items))
    (dict : ∀ id entries, (∀ e ∈ entries, motive e.2) → motive (.dict id entries))
    (object : ∀ id attributes, (∀ e ∈ attributes, motive e.2) → motive (.object id attributes))
    (value : SdkValue) : motive value :=
  @SdkValue.rec motive (fun items => ∀ item ∈ items, motive item)
    (fun entries => ∀ e ∈ entries, motive e.2) (fun e => motive e.2) null bool int float str bytes
    list dict object (fun _ h => nomatch h) (fun _ _ h hrest => List.forall_mem_cons.mpr ⟨h, hrest⟩)
    (fun _ h => nomatch h) (fun _ _ h hrest => List.forall_mem_cons.mpr ⟨h, hrest⟩)
    (fun _ _ h => h) value

/-- The items of a list under their indices. -/
def indexed (index : Nat) : List SdkValue → List (String × SdkValue)
  | [] => []
  | item :: rest => (toString index, item) :: indexed (index + 1) rest

theorem forall_indexed {motive : SdkValue → Prop} {items : List SdkValue}
    (h : ∀ item ∈ items, motive item) (index : Nat) : ∀ e ∈ indexed index items, motive e.2 := by
  induction items generalizing index with
  | nil => exact fun _ h => nomatch h
  | cons item rest ih =>
    obtain ⟨hitem, hrest⟩ := List.forall_mem_cons.mp h
    exact List.forall_mem_cons.mpr ⟨hitem, ih hrest (index + 1)⟩

theorem idsItems_eq (index : Nat) (items : List SdkValue) :
    idsItems items = idsEntries (indexed index items) := by
  induction items generalizing index with
  | nil => rfl
  | cons item rest ih => rw [idsItems, indexed, idsEntries, ih (index + 1)]

end SdkValue

/-- `not str(key).startswith("_")`. -/
def isPublic (key : String) : Bool := key.toList.head? != some '_'

/-- The identities of the dictionaries that a walk builds: the `n`-th one gets an identity that
nothing alive has. -/
structure Allocator where
  next : (n : Nat) → (live : List Nat) → Nat
  fresh : ∀ n live, next n live ∉ live

/-- One more than every identity that is alive. -/
def above (live : List Nat) : Nat := live.foldr max 0 + 1

theorem le_above {live : List Nat} {id : Nat} (h : id ∈ live) : id < above live := by
  induction live with
  | nil => cases h
  | cons a live ih =>
    rw [above, List.foldr_cons]
    rcases List.mem_cons.mp h with rfl | h
    · omega
    · have := ih h
      rw [above] at this
      omega

/-- The allocator that gives out the identity after the greatest one alive, and so gives it out
again as soon as its owner is gone. -/
def stackAllocator : Allocator where
  next _ live := above live
  fresh _ _ h := Nat.lt_irrefl _ (le_above h)

end SafactoryServer
