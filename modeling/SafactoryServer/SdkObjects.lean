import SafactoryServer.Addresses

/-! The search of `_extract_rjob_ips` in objects: what it finds there under every assignment of
identities, beside what it finds in the same tree of dicts. -/

namespace SafactoryServer

namespace SdkValue

mutual

/-- The tree with the dict of its attributes for every object, each container with an identity of
its own from `n` on, and the next identity. -/
def dictsFrom (n : Nat) : SdkValue → SdkValue × Nat
  | .list _ items =>
    let (items, next) := dictsItems (n + 1) items
    (.list n items, next)
  | .dict _ entries | .object _ entries =>
    let (entries, next) := dictsEntries (n + 1) entries
    (.dict n entries, next)
  | value => (value, n)

def dictsItems (n : Nat) : List SdkValue → List SdkValue × Nat
  | [] => ([], n)
  | item :: rest =>
    let (item, next) := dictsFrom n item
    let (rest, last) := dictsItems next rest
    (item :: rest, last)

def dictsEntries (n : Nat) : List (String × SdkValue) → List (String × SdkValue) × Nat
  | [] => ([], n)
  | (key, value) :: rest =>
    let (value, next) := dictsFrom n value
    let (rest, last) := dictsEntries next rest
    ((key, value) :: rest, last)

end

/-- The dict tree of a payload. -/
def dictTree (payload : SdkValue) : SdkValue := (dictsFrom 0 payload).1

mutual

/-- The value is made of objects, dicts, lists, strings, numbers and null, and no attribute starts
with an underscore. -/
def isPlain : SdkValue → Bool
  | .list _ items => plainItems items
  | .dict _ entries => plainEntries (fun _ => true) entries
  | .object _ attributes => plainEntries isPublic attributes
  | .bytes _ => false
  | _ => true

def plainItems : List SdkValue → Bool
  | [] => true
  | item :: rest => isPlain item && plainItems rest

def plainEntries (shown : String → Bool) : List (String × SdkValue) → Bool
  | [] => true
  | (key, value) :: rest => shown key && isPlain value && plainEntries shown rest

end

mutual

/-- No visit of the value from this depth on is cut off: the attributes of an object stand one
level below its dictionary. -/
def fits (depth : Nat) : SdkValue → Bool
  | .list _ items => depth ≤ 12 && fitsItems (depth + 1) items
  | .dict _ entries => depth ≤ 12 && fitsEntries (depth + 1) entries
  | .object _ attributes => depth + 1 ≤ 12 && fitsEntries (depth + 2) attributes
  | _ => depth ≤ 12

def fitsItems (depth : Nat) : List SdkValue → Bool
  | [] => true
  | item :: rest => fits depth item && fitsItems depth rest

def fitsEntries (depth : Nat) : List (String × SdkValue) → Bool
  | [] => true
  | (_, value) :: rest => fits depth value && fitsEntries depth rest

end

end SdkValue

/-- The best rank under which an address stands in `matches`. -/
def bestRank (found : List (Nat × Nat × String)) (address : String) : Option Nat :=
  ((found.filter (·.2.2 == address)).map (·.1)).max?

/-- The search finds in the payload what it finds in its dict tree, with the same best ranks. -/
def SearchedAlike (u : Unicode) (alloc : Allocator) (payload : SdkValue) : Prop :=
  ∀ address, bestRank (ipMatches u alloc payload) address =
    bestRank (ipMatches u alloc payload.dictTree) address

/-! ### What no assignment of identities hides -/

/-- The places of a payload in the order of the search: the containers met so far, whether an object
has been left, and the strings that every search finds. -/
structure SureWalk where
  seen : List Nat
  left : Bool
  places : List (List String × String)

namespace SureWalk

def start : SureWalk := ⟨[], false, []⟩

/-- The walk at a container. -/
def meet (w : SureWalk) (id : Nat) : SureWalk := { w with seen := id :: w.seen }

end SureWalk

mutual

/-- The walk over a value.  A string is sure if each container on its path is met there for the
first time, and if its path leads out of each object through one of the attributes that the search
looks up, or before any object has been left. -/
def sureWalk (sure : Bool) (path : List String) : SdkValue → SureWalk → SureWalk
  | .str text, w => if sure then { w with places := w.places ++ [(path, text)] } else w
  | .list id items, w => sureItems (sure && !w.seen.contains id) path 0 items (w.meet id)
  | .dict id entries, w => sureEntries (sure && !w.seen.contains id) path entries (w.meet id)
  | .object id attributes, w =>
    let sure := sure && !w.seen.contains id
    let w := ipAttributes.foldl (fun w name => sureAttribute sure path name attributes w)
      (w.meet id)
    { sureEntries (sure && !w.left) path attributes w with left := true }
  | _, w => w

def sureItems (sure : Bool) (path : List String) (index : Nat) :
    List SdkValue → SureWalk → SureWalk
  | [], w => w
  | item :: rest, w =>
    sureItems sure path (index + 1) rest (sureWalk sure (path ++ [toString index]) item w)

def sureEntries (sure : Bool) (path : List String) :
    List (String × SdkValue) → SureWalk → SureWalk
  | [], w => w
  | (key, value) :: rest, w =>
    sureEntries sure path rest (sureWalk sure (path ++ [key]) value w)

def sureAttribute (sure : Bool) (path : List String) (name : String) :
    List (String × SdkValue) → SureWalk → SureWalk
  | [], w => w
  | (key, value) :: rest, w =>
    if key = name then sureWalk sure (path ++ [name]) value w
    else sureAttribute sure path name rest w

end

/-- The strings that every search of the payload finds. -/
def surePlaces (payload : SdkValue) : List (List String × String) :=
  (sureWalk true [] payload .start).places

/-- No address of the payload is hidden: one of its places of the best rank is sure. -/
def NoneHidden (u : Unicode) (payload : SdkValue) : Prop :=
  ∀ m ∈ (payload.texts []).flatMap (rankedIn u),
    ∃ m' ∈ (surePlaces payload).flatMap (rankedIn u), m'.2 = m.2 ∧ m.1 ≤ m'.1

/-! ### Lists as dicts, attributes by their names -/

section

variable {u : Unicode} {alloc : Allocator} {own live : List Nat} {sure : Bool}
variable {path : List String} {depth : Nat} {w w' w'' : SureWalk} {s s' s'' : IpSearch}

open SdkValue IpSearch

theorem visitItems_eq (index : Nat) (items : List SdkValue) (s : IpSearch) :
    visitItems u alloc live path depth index items s =
      visitEntries u alloc live path depth (fun _ => true) (indexed index items) s := by
  induction items generalizing index s with
  | nil => rfl
  | cons item rest ih => rw [visitItems, indexed, visitEntries, ih, if_pos rfl]

theorem sureItems_eq (index : Nat) (items : List SdkValue) (w : SureWalk) :
    sureItems sure path index items w = sureEntries sure path (indexed index items) w := by
  induction items generalizing index w with
  | nil => rfl
  | cons item rest ih => rw [sureItems, indexed, sureEntries, ih]

theorem textsItems_eq (index : Nat) (items : List SdkValue) :
    textsItems path index items = textsEntries path (indexed index items) := by
  induction items generalizing index with
  | nil => rfl
  | cons item rest ih => rw [textsItems, indexed, textsEntries, ih]

theorem fitsItems_eq (index : Nat) (items : List SdkValue) :
    fitsItems depth items = fitsEntries depth (indexed index items) := by
  induction items generalizing index with
  | nil => rfl
  | cons item rest ih => rw [fitsItems, indexed, fitsEntries, ih (index + 1)]

theorem plainItems_eq (index : Nat) (items : List SdkValue) :
    plainItems items = plainEntries (fun _ => true) (indexed index items) := by
  induction items generalizing index with
  | nil => rfl
  | cons item rest ih => rw [plainItems, indexed, plainEntries, ih (index + 1), Bool.true_and]

theorem visitAttribute_eq (name : String) (attributes : List (String × SdkValue)) (s : IpSearch) :
    visitAttribute u alloc live path depth name attributes s =
      (lookup name attributes).elim s fun value =>
        visit u alloc live (path ++ [name]) depth value s := by
  induction attributes with
  | nil => rfl
  | cons e rest ih =>
    rw [visitAttribute, lookup_cons, ih]
    split <;> rfl

theorem sureAttribute_eq (name : String) (attributes : List (String × SdkValue)) (w : SureWalk) :
    sureAttribute sure path name attributes w =
      (lookup name attributes).elim w fun value => sureWalk sure (path ++ [name]) value w := by
  induction attributes with
  | nil => rfl
  | cons e rest ih =>
    rw [sureAttribute, lookup_cons, ih]
    split <;> rfl

theorem mem_of_lookup {α : Type} {key : String} {entries : List (String × α)} {value : α}
    (h : lookup key entries = some value) : (key, value) ∈ entries := by
  obtain ⟨e, he, rfl⟩ := Option.map_eq_some_iff.mp h
  have hkey : e.1 = key := by simpa using List.find?_some he
  exact hkey ▸ List.mem_of_find?_eq_some he

theorem mem_idsEntries {entries : List (String × SdkValue)} {e : String × SdkValue}
    (he : e ∈ entries) {id : Nat} (hid : id ∈ e.2.ids) : id ∈ idsEntries entries := by
  induction entries with
  | nil => cases he
  | cons first rest ih =>
    rcases List.mem_cons.mp he with rfl | he
    · exact List.mem_append_left _ hid
    · exact List.mem_append_right _ (ih he)

theorem mem_textsEntries {entries : List (String × SdkValue)} {e : String × SdkValue}
    (he : e ∈ entries) {place : List String × String} (hplace : place ∈ e.2.texts (path ++ [e.1])) :
    place ∈ textsEntries path entries := by
  induction entries with
  | nil => cases he
  | cons first rest ih =>
    rcases List.mem_cons.mp he with rfl | he
    · exact List.mem_append_left _ hplace
    · exact List.mem_append_right _ (ih he)

theorem fits_of_mem {entries : List (String × SdkValue)} (h : fitsEntries depth entries = true) :
    ∀ e ∈ entries, e.2.fits depth = true := by
  induction entries with
  | nil => exact fun _ h => nomatch h
  | cons e rest ih =>
    obtain ⟨he, hrest⟩ := Bool.and_eq_true_iff.mp h
    exact List.forall_mem_cons.mpr ⟨he, ih hrest⟩

theorem plain_of_mem {shown : String → Bool} {entries : List (String × SdkValue)}
    (h : plainEntries shown entries = true) :
    ∀ e ∈ entries, shown e.1 = true ∧ e.2.isPlain = true := by
  induction entries with
  | nil => exact fun _ h => nomatch h
  | cons e rest ih =>
    obtain ⟨he, hrest⟩ := Bool.and_eq_true_iff.mp h
    exact List.forall_mem_cons.mpr ⟨Bool.and_eq_true_iff.mp he, ih hrest⟩

/-! ### The walk -/

/-- A walk over containers with these identities: it forgets nothing, and keeps nothing more where
nothing is sure. -/
structure WalkGrows (sure : Bool) (ids : List Nat) (w w' : SureWalk) : Prop where
  seen : ∀ id ∈ w.seen, id ∈ w'.seen
  only : ∀ id ∈ w'.seen, id ∈ w.seen ∨ id ∈ ids
  left : w.left = true → w'.left = true
  places : ∀ place ∈ w.places, place ∈ w'.places
  idle : sure = false → w'.places = w.places

theorem WalkGrows.refl (ids : List Nat) : WalkGrows sure ids w w :=
  ⟨fun _ h => h, fun _ h => .inl h, id, fun _ h => h, fun _ => rfl⟩

theorem WalkGrows.trans {ids : List Nat} (h : WalkGrows sure ids w w')
    (h' : WalkGrows sure ids w' w'') : WalkGrows sure ids w w'' where
  seen id hid := h'.seen id (h.seen id hid)
  only id hid := (h'.only id hid).elim (h.only id) .inr
  left hleft := h'.left (h.left hleft)
  places place hplace := h'.places place (h.places place hplace)
  idle hsure := (h'.idle hsure).trans (h.idle hsure)

theorem WalkGrows.mono {sure' : Bool} {ids ids' : List Nat} (h : WalkGrows sure ids w w')
    (hsure : sure' = false → sure = false) (hids : ∀ id ∈ ids, id ∈ ids') :
    WalkGrows sure' ids' w w' where
  seen := h.seen
  only id hid := (h.only id hid).imp_right (hids id)
  left := h.left
  places := h.places
  idle hsure' := h.idle (hsure hsure')

theorem sureEntries_grows {ids : List Nat} {entries : List (String × SdkValue)}
    (h : ∀ e ∈ entries, ∀ path w, WalkGrows sure ids w (sureWalk sure path e.2 w))
    (path : List String) (w : SureWalk) :
    WalkGrows sure ids w (sureEntries sure path entries w) := by
  induction entries generalizing w with
  | nil => exact .refl ids
  | cons e rest ih =>
    obtain ⟨he, hrest⟩ := List.forall_mem_cons.mp h
    exact (he _ w).trans (ih hrest _)

theorem sureAttributes_grows {ids : List Nat} {attributes : List (String × SdkValue)}
    (h : ∀ e ∈ attributes, ∀ path w, WalkGrows sure ids w (sureWalk sure path e.2 w))
    (path : List String) (names : List String) :
    WalkGrows sure ids w
      (names.foldl (fun w name => sureAttribute sure path name attributes w) w) := by
  induction names generalizing w with
  | nil => exact .refl ids
  | cons name names ih =>
    have hstep : WalkGrows sure ids w (sureAttribute sure path name attributes w) := by
      rw [sureAttribute_eq]
      cases hfind : lookup name attributes with
      | none => exact .refl ids
      | some value => exact h _ (mem_of_lookup hfind) _ w
    exact hstep.trans ih

/-- The walk over the attributes of an object. -/
def sureObject (sure : Bool) (path : List String) (attributes : List (String × SdkValue))
    (w : SureWalk) : SureWalk :=
  let named := ipAttributes.foldl (fun w name => sureAttribute sure path name attributes w) w
  { sureEntries (sure && !named.left) path attributes named with left := true }

/-- A walk that is surer still forgets nothing. -/
theorem WalkGrows.surer {sure' : Bool} {ids : List Nat} (h : WalkGrows (sure && sure') ids w w') :
    WalkGrows sure ids w w' :=
  h.mono (fun hsure => by rw [hsure]; rfl) fun _ hid => hid

theorem sureObject_grows {ids : List Nat} {attributes : List (String × SdkValue)}
    (h : ∀ sure, ∀ e ∈ attributes, ∀ path w, WalkGrows sure ids w (sureWalk sure path e.2 w))
    (path : List String) (w : SureWalk) :
    WalkGrows sure ids w (sureObject sure path attributes w) := by
  have hnamed := sureAttributes_grows (w := w) (h sure) path ipAttributes
  unfold sureObject
  generalize ipAttributes.foldl _ w = named at hnamed ⊢
  have hrest := (sureEntries_grows (h (sure && !named.left)) path named).surer
  exact hnamed.trans ⟨hrest.seen, hrest.only, fun _ => rfl, hrest.places, hrest.idle⟩

theorem WalkGrows.container {id : Nat} {ids : List Nat} (h : WalkGrows sure ids (w.meet id) w') :
    WalkGrows sure (id :: ids) w w' where
  seen other hother := h.seen other (List.mem_cons_of_mem _ hother)
  only other hother := by
    rcases h.only other hother with hmeet | hmeet
    · rcases List.mem_cons.mp hmeet with rfl | hmeet
      · exact .inr List.mem_cons_self
      · exact .inl hmeet
    · exact .inr (List.mem_cons_of_mem _ hmeet)
  left := h.left
  places := h.places
  idle := h.idle

theorem sureWalk_grows (value : SdkValue) :
    ∀ sure path w, WalkGrows sure value.ids w (sureWalk sure path value w) := by
  induction value using SdkValue.byParts with
  | null | bool | int | float | bytes => exact fun _ _ _ => .refl _
  | str text =>
    intro sure path w
    rw [sureWalk]
    split
    · next hsure =>
      exact ⟨fun _ h => h, fun _ h => .inl h, id, fun _ h => List.mem_append_left _ h,
        fun hnot => absurd hsure (by simp [hnot])⟩
    · exact .refl _
  | list id items ih =>
    intro sure path w
    have hparts := forall_indexed ih 0
    rw [sureWalk, ids, idsItems_eq 0, sureItems_eq]
    exact (sureEntries_grows (fun e he path w =>
      (hparts e he _ path w).mono (fun h => h) fun _ hid => mem_idsEntries he hid)
        path _).container.surer
  | dict id entries ih =>
    intro sure path w
    rw [sureWalk, ids]
    exact (sureEntries_grows (fun e he path w =>
      (ih e he _ path w).mono (fun h => h) fun _ hid => mem_idsEntries he hid)
        path _).container.surer
  | object id attributes ih =>
    intro sure path w
    rw [sureWalk, ids]
    have hparts (sure : Bool) (e) (he : e ∈ attributes) (path : List String) (w : SureWalk) :
        WalkGrows sure (idsEntries attributes) w (sureWalk sure path e.2 w) :=
      (ih e he sure path w).mono (fun h => h) fun _ hid => mem_idsEntries he hid
    exact (sureObject_grows hparts path _).container.surer

theorem sureParts_grow (entries : List (String × SdkValue)) (sure : Bool) :
    ∀ e ∈ entries, ∀ path w,
      WalkGrows sure (idsEntries entries) w (sureWalk sure path e.2 w) := fun e he path w =>
  (sureWalk_grows e.2 sure path w).mono (fun h => h) fun _ hid => mem_idsEntries he hid

/-! ### Every search finds the sure places -/

/-- The search has visited no container that the walk has not met, and before an object has been
left, nothing but what is alive. -/
structure SearchAgrees (own live : List Nat) (w : SureWalk) (s : IpSearch) : Prop where
  seen : ∀ id ∈ s.visited, id ∈ own → id ∈ w.seen
  live : w.left = false → ∀ id ∈ s.visited, id ∈ live

/-- The search goes on beside the walk: it notes the strings that the walk is sure of, and none but
strings at `places`. -/
structure SearchFollows (u : Unicode) (own live : List Nat) (places : List (List String × String))
    (w w' : SureWalk) (s s' : IpSearch) : Prop where
  agrees : SearchAgrees own live w' s'
  noted : ∃ noted, Notes u noted s s' ∧ (∀ place ∈ w'.places, place ∈ w.places ∨ place ∈ noted) ∧
    ∀ place ∈ noted, place ∈ places

theorem SearchAgrees.mono {ids : List Nat} (h : SearchAgrees own live w s)
    (hgrows : WalkGrows sure ids w w') : SearchAgrees own live w' s where
  seen id hid hown := hgrows.seen id (h.seen id hid hown)
  live hleft := h.live (Bool.eq_false_iff.mpr fun hw => by simp [hgrows.left hw] at hleft)

/-- Both enter a container. -/
theorem SearchAgrees.meet {id : Nat} (h : SearchAgrees own live w s) (hlive : id ∈ live) :
    SearchAgrees own live (w.meet id) (s.visit id) := by
  refine ⟨fun other hother hown => ?_, fun hleft other hother => ?_⟩
  · rcases List.mem_cons.mp hother with rfl | hother
    · exact List.mem_cons_self
    · exact List.mem_cons_of_mem _ (h.seen other hother hown)
  · rcases List.mem_cons.mp hother with rfl | hother
    · exact hlive
    · exact h.live hleft other hother

/-- The search enters a dictionary that it has built. -/
theorem SearchAgrees.enter {vars built : Nat} (h : SearchAgrees own live w s)
    (hlive : ∀ id ∈ own, id ∈ live) (hfresh : vars ∉ live) :
    SearchAgrees own (vars :: live) w (IpSearch.visit { s with built := built } vars) := by
  refine ⟨fun id hid hown => ?_, fun hleft id hid => ?_⟩
  · rcases List.mem_cons.mp hid with rfl | hid
    · exact absurd (hlive _ hown) hfresh
    · exact h.seen id hid hown
  · rcases List.mem_cons.mp hid with rfl | hid
    · exact List.mem_cons_self
    · exact List.mem_cons_of_mem _ (h.live hleft id hid)

/-- A search that does not go where the walk is not sure. -/
theorem SearchFollows.idle {ids : List Nat} {places : List (List String × String)}
    (h : SearchAgrees own live w s) (hgrows : WalkGrows false ids w w') :
    SearchFollows u own live places w w' s s :=
  ⟨h.mono hgrows, [], .none rfl rfl, fun _ hplace => .inl (hgrows.idle rfl ▸ hplace), nofun⟩

theorem SearchFollows.trans {places : List (List String × String)}
    (h : SearchFollows u own live places w w' s s')
    (h' : SearchFollows u own live places w' w'' s' s'') :
    SearchFollows u own live places w w'' s s'' := by
  obtain ⟨noted, hnotes, hsure, hplaces⟩ := h.noted
  obtain ⟨noted', hnotes', hsure', hplaces'⟩ := h'.noted
  refine ⟨h'.agrees, noted ++ noted', hnotes.trans hnotes', fun place hplace => ?_,
    fun place hplace => (List.mem_append.mp hplace).elim (hplaces place) (hplaces' place)⟩
  rcases hsure' place hplace with hplace | hplace
  · exact (hsure place hplace).imp_right (List.mem_append_left _)
  · exact .inr (List.mem_append_right _ hplace)

theorem SearchFollows.places {places places' : List (List String × String)}
    (h : SearchFollows u own live places w w' s s') (hplaces : ∀ place ∈ places, place ∈ places') :
    SearchFollows u own live places' w w' s s' := by
  obtain ⟨noted, hnotes, hsure, hnoted⟩ := h.noted
  exact ⟨h.agrees, noted, hnotes, hsure, fun place hplace => hplaces place (hnoted place hplace)⟩

/-- What a search of a value from any state has to do. -/
def Searches (u : Unicode) (alloc : Allocator) (own : List Nat) (value : SdkValue) : Prop :=
  ∀ (live : List Nat) (sure : Bool) (path : List String) (depth : Nat) {w : SureWalk}
    {s : IpSearch}, (∀ id ∈ own, id ∈ live) → (∀ id ∈ value.ids, id ∈ own) →
    value.isPlain = true → value.fits depth = true → SearchAgrees own live w s →
    SearchFollows u own live (value.texts path) w (sureWalk sure path value w) s
      (visit u alloc live path depth value s)

theorem visitEntries_follows (path : List String) (sure : Bool) {shown : String → Bool}
    {entries : List (String × SdkValue)} (h : ∀ e ∈ entries, Searches u alloc own e.2)
    (hlive : ∀ id ∈ own, id ∈ live) (hown : ∀ id ∈ idsEntries entries, id ∈ own)
    (hplain : plainEntries shown entries = true)
    (hfits : fitsEntries depth entries = true) (hagrees : SearchAgrees own live w s) :
    SearchFollows u own live (textsEntries path entries) w (sureEntries sure path entries w) s
      (visitEntries u alloc live path depth shown entries s) := by
  induction entries generalizing w s with
  | nil => exact .idle hagrees (.refl [])
  | cons e rest ih =>
    obtain ⟨he, hrest⟩ := List.forall_mem_cons.mp h
    obtain ⟨hshown, hplainrest⟩ := Bool.and_eq_true_iff.mp hplain
    obtain ⟨hshown, hplain⟩ := Bool.and_eq_true_iff.mp hshown
    obtain ⟨hfits, hfitsrest⟩ := Bool.and_eq_true_iff.mp hfits
    rw [sureEntries, visitEntries, if_pos hshown]
    have hfirst := he live sure (path ++ [e.1]) depth hlive
      (fun id hid => hown id (List.mem_append_left _ hid)) hplain hfits hagrees
    have hothers := ih hrest (fun id hid => hown id (List.mem_append_right _ hid)) hplainrest
      hfitsrest hfirst.agrees
    exact (hfirst.places fun _ => List.mem_append_left _).trans
      (hothers.places fun _ => List.mem_append_right _)

theorem visitAttributes_follows (path : List String) (sure : Bool)
    {attributes : List (String × SdkValue)} (h : ∀ e ∈ attributes, Searches u alloc own e.2)
    (hlive : ∀ id ∈ own, id ∈ live)
    (hown : ∀ id ∈ idsEntries attributes, id ∈ own)
    (hplain : plainEntries isPublic attributes = true)
    (hfits : fitsEntries depth attributes = true) (names : List String)
    (hagrees : SearchAgrees own live w s) :
    SearchFollows u own live (textsEntries path attributes) w
      (names.foldl (fun w name => sureAttribute sure path name attributes w) w) s
      (names.foldl (fun s name => visitAttribute u alloc live path depth name attributes s) s) := by
  induction names generalizing w s with
  | nil => exact .idle hagrees (.refl [])
  | cons name names ih =>
    have hstep : SearchFollows u own live (textsEntries path attributes) w
        (sureAttribute sure path name attributes w) s
        (visitAttribute u alloc live path depth name attributes s) := by
      rw [sureAttribute_eq, visitAttribute_eq]
      cases hfind : lookup name attributes with
      | none => exact .idle hagrees (.refl [])
      | some value =>
        have hmem := mem_of_lookup hfind
        exact (h _ hmem live sure (path ++ [name]) depth hlive
          (fun id hid => hown id (mem_idsEntries hmem hid)) (plain_of_mem hplain _ hmem).2
          (fits_of_mem hfits _ hmem) hagrees).places fun _ => mem_textsEntries hmem
    exact hstep.trans (ih hstep.agrees)

/-- A container that the search has visited is one that the walk has met; one that it has not is
entered by both. -/
theorem SearchFollows.container {places : List (List String × String)} {id : Nat} {ids : List Nat}
    (hdepth : depth ≤ 12) (hid : id ∈ own) (hlive : id ∈ live) (hagrees : SearchAgrees own live w s)
    (hgrows : WalkGrows (sure && !w.seen.contains id) ids (w.meet id) w')
    (h : SearchAgrees own live (w.meet id) (s.visit id) →
      SearchFollows u own live places (w.meet id) w' (s.visit id) s') :
    SearchFollows u own live places w w' s (if s.enters depth id then s' else s) := by
  by_cases hvisited : id ∈ s.visited
  · have hnot : s.enters depth id = false := enters_visited hvisited
    have hseen : w.seen.contains id = true := by simpa using hagrees.seen id hvisited hid
    rw [hseen, Bool.not_true, Bool.and_false] at hgrows
    rw [hnot, if_neg Bool.false_ne_true]
    exact .idle hagrees hgrows.container
  · have henters : s.enters depth id = true := enters_new hdepth hvisited
    rw [henters, if_pos rfl]
    obtain ⟨hagrees', noted, hnotes, hsure, hplaces⟩ := h (hagrees.meet hlive)
    exact ⟨hagrees', noted, ⟨hnotes.found, hnotes.sequence⟩, hsure, hplaces⟩

/-- `visit` of the attributes of an object. -/
def visitObject (u : Unicode) (alloc : Allocator) (live : List Nat) (path : List String)
    (depth : Nat) (attributes : List (String × SdkValue)) (s : IpSearch) : IpSearch :=
  let named := ipAttributes.foldl
    (fun s name => visitAttribute u alloc live path (depth + 1) name attributes s) s
  let vars := alloc.next named.built live
  let named := { named with built := named.built + 1 }
  if named.enters (depth + 1) vars then
    visitEntries u alloc (vars :: live) path (depth + 2) isPublic attributes (named.visit vars)
  else named

theorem fitsEntries_mono {entries : List (String × SdkValue)} {depth depth' : Nat}
    (h : ∀ e ∈ entries, e.2.fits depth' = true → e.2.fits depth = true)
    (hfits : fitsEntries depth' entries = true) : fitsEntries depth entries = true := by
  induction entries with
  | nil => rfl
  | cons e rest ih =>
    obtain ⟨he, hrest⟩ := List.forall_mem_cons.mp h
    obtain ⟨hfits, hfitsrest⟩ := Bool.and_eq_true_iff.mp hfits
    exact Bool.and_eq_true_iff.mpr ⟨he hfits, ih hrest hfitsrest⟩

theorem fits_mono (value : SdkValue) : ∀ {depth depth' : Nat}, depth ≤ depth' →
    value.fits depth' = true → value.fits depth = true := by
  induction value using SdkValue.byParts with
  | null | bool | int | float | str | bytes =>
    intro depth depth' hle hfits
    have hfits := of_decide_eq_true hfits
    exact decide_eq_true (Nat.le_trans hle hfits)
  | list id items ih =>
    intro depth depth' hle hfits
    have hparts := forall_indexed ih 0
    simp only [fits, fitsItems_eq 0, Bool.and_eq_true, decide_eq_true_eq] at hfits ⊢
    exact ⟨Nat.le_trans hle hfits.1,
      fitsEntries_mono (fun e he => hparts e he (Nat.succ_le_succ hle)) hfits.2⟩
  | dict id entries ih =>
    intro depth depth' hle hfits
    simp only [fits, Bool.and_eq_true, decide_eq_true_eq] at hfits ⊢
    exact ⟨Nat.le_trans hle hfits.1,
      fitsEntries_mono (fun e he => ih e he (Nat.succ_le_succ hle)) hfits.2⟩
  | object id attributes ih =>
    intro depth depth' hle hfits
    simp only [fits, Bool.and_eq_true, decide_eq_true_eq] at hfits ⊢
    exact ⟨by omega, fitsEntries_mono (fun e he => ih e he (by omega)) hfits.2⟩

theorem visitObject_follows {attributes : List (String × SdkValue)}
    (h : ∀ e ∈ attributes, Searches u alloc own e.2) (hlive : ∀ id ∈ own, id ∈ live)
    (hown : ∀ id ∈ idsEntries attributes, id ∈ own)
    (hplain : plainEntries isPublic attributes = true) (hdepth : depth + 1 ≤ 12)
    (hfits : fitsEntries (depth + 2) attributes = true) (hagrees : SearchAgrees own live w s) :
    SearchFollows u own live (textsEntries path attributes) w (sureObject sure path attributes w) s
      (visitObject u alloc live path depth attributes s) := by
  have hnamed := visitAttributes_follows path sure h hlive hown hplain
    (fitsEntries_mono (fun e _ => fits_mono e.2 (Nat.le_succ (depth + 1))) hfits) ipAttributes
    hagrees
  unfold sureObject visitObject
  dsimp only
  generalize ipAttributes.foldl _ w = w1 at hnamed ⊢
  generalize ipAttributes.foldl _ s = s1 at hnamed ⊢
  have hfresh : alloc.next s1.built live ∉ live := alloc.fresh s1.built live
  generalize alloc.next s1.built live = vars at hfresh ⊢
  refine hnamed.trans ?_
  by_cases hvisited : vars ∈ s1.visited
  · -- an object has been left, and its dictionary had this identity
    have hleft : w1.left = true := by
      by_contra hnot
      exact hfresh (hnamed.agrees.live (by simpa using hnot) vars hvisited)
    have hgrows := sureEntries_grows (sureParts_grow attributes false) path w1
    have hnot : IpSearch.enters { s1 with built := s1.built + 1 } (depth + 1) vars = false :=
      enters_visited hvisited
    rw [hleft, hnot, if_neg Bool.false_ne_true, Bool.not_true, Bool.and_false]
    refine ⟨⟨fun id hid hown => hgrows.seen id (hnamed.agrees.seen id hid hown), nofun⟩, [],
      .none rfl rfl, fun place hplace => .inl ?_, nofun⟩
    rw [← hgrows.idle rfl]
    exact hplace
  · have henters : IpSearch.enters { s1 with built := s1.built + 1 } (depth + 1) vars = true :=
      enters_new hdepth hvisited
    rw [henters, if_pos rfl]
    have hagrees1 : SearchAgrees own (vars :: live) w1
        (IpSearch.visit { s1 with built := s1.built + 1 } vars) := hnamed.agrees.enter hlive hfresh
    obtain ⟨hagrees2, noted, hnotes, hsure, hplaces⟩ := visitEntries_follows path
      (sure && !w1.left) h (fun id hid => List.mem_cons_of_mem vars (hlive id hid)) hown
      hplain hfits hagrees1
    exact ⟨⟨hagrees2.seen, nofun⟩, noted, ⟨hnotes.found, hnotes.sequence⟩, hsure, hplaces⟩

/-- Under every allocator, the search of a value goes on beside the walk. -/
theorem visit_follows (u : Unicode) (alloc : Allocator) (value : SdkValue) :
    Searches u alloc own value := by
  induction value using SdkValue.byParts with
  | null | bool | int | float | bytes =>
    intro live sure path depth w s _ _ _ _ hagrees
    rw [visit]
    exact .idle hagrees (.refl [])
  | str text =>
    intro live sure path depth w s _ _ _ hfits hagrees
    have hdepth : depth ≤ 12 := of_decide_eq_true hfits
    rw [visit, if_neg (by omega), sureWalk, texts, add_eq]
    refine ⟨?_, [(path, text)], ⟨by simp, by simp⟩, fun place hplace => ?_, fun _ h => h⟩
    · split
      · exact ⟨hagrees.seen, hagrees.live⟩
      · exact ⟨hagrees.seen, hagrees.live⟩
    · split at hplace
      · exact List.mem_append.mp hplace
      · exact .inl hplace
  | list id items ih =>
    intro live sure path depth w s hlive hown hplain hfits hagrees
    have hparts := forall_indexed ih 0
    have hid := hown id List.mem_cons_self
    rw [fits, Bool.and_eq_true, decide_eq_true_eq, fitsItems_eq 0] at hfits
    rw [ids, idsItems_eq 0] at hown
    rw [isPlain, plainItems_eq 0] at hplain
    rw [visit, sureWalk, texts, visitItems_eq, sureItems_eq, textsItems_eq]
    exact .container hfits.1 hid (hlive id hid) hagrees
      (sureEntries_grows (sureParts_grow _ _) path _)
      (visitEntries_follows path _ hparts hlive
        (fun id hid => hown id (List.mem_cons_of_mem _ hid)) hplain hfits.2)
  | dict id entries ih =>
    intro live sure path depth w s hlive hown hplain hfits hagrees
    have hid := hown id List.mem_cons_self
    rw [fits, Bool.and_eq_true, decide_eq_true_eq] at hfits
    rw [visit, sureWalk, texts]
    exact .container hfits.1 hid (hlive id hid) hagrees
      (sureEntries_grows (sureParts_grow _ _) path _)
      (visitEntries_follows path _ ih hlive
        (fun id hid => hown id (List.mem_cons_of_mem _ hid)) hplain hfits.2)
  | object id attributes ih =>
    intro live sure path depth w s hlive hown hplain hfits hagrees
    have hid := hown id List.mem_cons_self
    rw [fits, Bool.and_eq_true, decide_eq_true_eq] at hfits
    exact .container (Nat.le_of_succ_le hfits.1) hid (hlive id hid)
      hagrees (sureObject_grows (sureParts_grow attributes) path _)
      (visitObject_follows ih hlive (fun id hid => hown id (List.mem_cons_of_mem _ hid)) hplain
        hfits.1 hfits.2)

/-! ### The dict tree -/

/-- A relabelled tree: identities of its own between two numbers, and the texts as before. -/
structure Relabelled (n : Nat) (value : SdkValue) (r : SdkValue × Nat) : Prop where
  le : n ≤ r.2
  bounds : ∀ id ∈ r.1.ids, n ≤ id ∧ id < r.2
  nodup : r.1.ids.Nodup
  json : value.isPlain = true → r.1.isJson = true
  texts : ∀ path, r.1.texts path = value.texts path

/-- The same of the entries of a container. -/
structure RelabelledEntries (n : Nat) (entries : List (String × SdkValue))
    (r : List (String × SdkValue) × Nat) : Prop where
  le : n ≤ r.2
  bounds : ∀ id ∈ idsEntries r.1, n ≤ id ∧ id < r.2
  nodup : (idsEntries r.1).Nodup
  json : ∀ shown, plainEntries shown entries = true → jsonEntries r.1 = true
  texts : ∀ path, textsEntries path r.1 = textsEntries path entries

theorem nodup_parts {ids ids' : List Nat} {n m l : Nat} (h : ids.Nodup) (h' : ids'.Nodup)
    (hlow : ∀ id ∈ ids, n ≤ id ∧ id < m) (hhigh : ∀ id ∈ ids', m ≤ id ∧ id < l) :
    (ids ++ ids').Nodup :=
  List.nodup_append.mpr ⟨h, h', fun a ha b hb hab => by
    have := (hlow a ha).2
    have := (hhigh b hb).1
    omega⟩

theorem nodup_above {ids : List Nat} {n m : Nat} (h : ids.Nodup)
    (hbounds : ∀ id ∈ ids, n + 1 ≤ id ∧ id < m) : (n :: ids).Nodup :=
  List.nodup_cons.mpr ⟨fun hmem => Nat.lt_irrefl n (hbounds n hmem).1, h⟩

theorem bounds_above {ids : List Nat} {n m : Nat} (hle : n + 1 ≤ m)
    (hbounds : ∀ id ∈ ids, n + 1 ≤ id ∧ id < m) : ∀ id ∈ n :: ids, n ≤ id ∧ id < m :=
  List.forall_mem_cons.mpr ⟨⟨Nat.le_refl n, hle⟩,
    fun id hid => ⟨Nat.le_of_succ_le (hbounds id hid).1, (hbounds id hid).2⟩⟩

theorem dictsEntries_relabelled {entries : List (String × SdkValue)}
    (h : ∀ e ∈ entries, ∀ n, Relabelled n e.2 (dictsFrom n e.2)) (n : Nat) :
    RelabelledEntries n entries (dictsEntries n entries) := by
  induction entries generalizing n with
  | nil => exact ⟨Nat.le_refl n, nofun, .nil, fun _ _ => rfl, fun _ => rfl⟩
  | cons e rest ih =>
    obtain ⟨he, hrest⟩ := List.forall_mem_cons.mp h
    have he := he n
    have hrest := ih hrest (dictsFrom n e.2).2
    refine ⟨Nat.le_trans he.le hrest.le, fun id hid => ?_, ?_, fun shown hplain => ?_,
      fun path => ?_⟩
    · rcases List.mem_append.mp hid with hid | hid
      · have := he.bounds id hid
        exact ⟨this.1, Nat.lt_of_lt_of_le this.2 hrest.le⟩
      · have := hrest.bounds id hid
        exact ⟨Nat.le_trans he.le this.1, this.2⟩
    · exact nodup_parts he.nodup hrest.nodup he.bounds hrest.bounds
    · obtain ⟨hfirst, hothers⟩ := Bool.and_eq_true_iff.mp hplain
      exact Bool.and_eq_true_iff.mpr
        ⟨he.json (Bool.and_eq_true_iff.mp hfirst).2, hrest.json shown hothers⟩
    · rw [dictsEntries, textsEntries, textsEntries, he.texts, hrest.texts]

theorem dictsItems_eq (index : Nat) (items : List SdkValue) (n : Nat) :
    indexed index (dictsItems n items).1 = (dictsEntries n (indexed index items)).1 ∧
      (dictsItems n items).2 = (dictsEntries n (indexed index items)).2 := by
  induction items generalizing index n with
  | nil => exact ⟨rfl, rfl⟩
  | cons item rest ih =>
    obtain ⟨hitems, hnext⟩ := ih (index + 1) (dictsFrom n item).2
    exact ⟨congrArg _ hitems, hnext⟩

theorem jsonItems_eq (index : Nat) (items : List SdkValue) :
    jsonItems items = jsonEntries (indexed index items) := by
  induction items generalizing index with
  | nil => rfl
  | cons item rest ih => rw [jsonItems, indexed, jsonEntries, ih (index + 1)]

theorem dictsFrom_relabelled (value : SdkValue) : ∀ n, Relabelled n value (dictsFrom n value) := by
  induction value using SdkValue.byParts with
  | null | bool | int | float | str =>
    exact fun n => ⟨Nat.le_refl n, nofun, .nil, fun _ => rfl, fun _ => rfl⟩
  | bytes => exact fun n => ⟨Nat.le_refl n, nofun, .nil, fun h => h, fun _ => rfl⟩
  | list id items ih =>
    intro n
    have h : RelabelledEntries (n + 1) (indexed 0 items)
        (indexed 0 (dictsItems (n + 1) items).1, (dictsItems (n + 1) items).2) := by
      obtain ⟨hitems, hnext⟩ := dictsItems_eq 0 items (n + 1)
      rw [hitems, hnext]
      exact dictsEntries_relabelled (forall_indexed ih 0) (n + 1)
    have hids : (dictsFrom n (.list id items)).1.ids =
        n :: idsEntries (indexed 0 (dictsItems (n + 1) items).1) :=
      congrArg (n :: ·) (idsItems_eq 0 _)
    refine ⟨Nat.le_of_succ_le h.le, ?_, ?_, fun hplain => ?_, fun path => ?_⟩
    · rw [hids]
      exact bounds_above h.le h.bounds
    · rw [hids]
      exact nodup_above h.nodup h.bounds
    · rw [isPlain, plainItems_eq 0] at hplain
      exact (jsonItems_eq 0 _).trans (h.json _ hplain)
    · exact (textsItems_eq 0 _).trans ((h.texts path).trans (textsItems_eq 0 _).symm)
  | dict id entries ih | object id entries ih =>
    intro n
    have h := dictsEntries_relabelled ih (n + 1)
    exact ⟨Nat.le_of_succ_le h.le, bounds_above h.le h.bounds, nodup_above h.nodup h.bounds,
      h.json _, h.texts⟩

/-- No string of a payload that fits lies too deep. -/
theorem textsEntries_within {entries : List (String × SdkValue)}
    (h : ∀ e ∈ entries, ∀ path, path.length ≤ depth → e.2.fits depth = true →
      ∀ place ∈ e.2.texts path, place.1.length ≤ 12)
    (hpath : path.length + 1 ≤ depth) (hfits : fitsEntries depth entries = true) :
    ∀ place ∈ textsEntries path entries, place.1.length ≤ 12 := by
  induction entries with
  | nil => exact nofun
  | cons e rest ih =>
    obtain ⟨he, hrest⟩ := List.forall_mem_cons.mp h
    obtain ⟨hfits, hfitsrest⟩ := Bool.and_eq_true_iff.mp hfits
    intro place hplace
    rcases List.mem_append.mp hplace with hplace | hplace
    · exact he (path ++ [e.1]) (by simpa using hpath) hfits place hplace
    · exact ih hrest hfitsrest place hplace

theorem texts_within (value : SdkValue) : ∀ {depth : Nat} (path : List String),
    path.length ≤ depth → value.fits depth = true →
    ∀ place ∈ value.texts path, place.1.length ≤ 12 := by
  induction value using SdkValue.byParts with
  | null | bool | int | float | bytes => exact fun _ _ _ => nofun
  | str text =>
    intro depth path hpath hfits place hplace
    obtain rfl := List.mem_singleton.mp hplace
    exact Nat.le_trans hpath (of_decide_eq_true hfits)
  | list id items ih =>
    intro depth path hpath hfits
    rw [fits, Bool.and_eq_true, fitsItems_eq 0] at hfits
    rw [texts, textsItems_eq]
    exact textsEntries_within (fun e he path hpath => forall_indexed ih 0 e he path hpath)
      (Nat.succ_le_succ hpath) hfits.2
  | dict id entries ih =>
    intro depth path hpath hfits
    rw [fits, Bool.and_eq_true] at hfits
    exact textsEntries_within (fun e he path hpath => ih e he path hpath) (Nat.succ_le_succ hpath)
      hfits.2
  | object id attributes ih =>
    intro depth path hpath hfits
    rw [fits, Bool.and_eq_true] at hfits
    exact textsEntries_within (fun e he path hpath => ih e he path hpath) (by omega) hfits.2

/-- The search of the dict tree finds the strings of the payload. -/
theorem ipMatches_dictTree {payload : SdkValue} (hplain : payload.isPlain = true)
    (hfits : payload.fits 0 = true) : ipMatches u alloc payload.dictTree =
      numberedMatches 0 ((payload.texts []).flatMap (rankedIn u)) := by
  have htree := dictsFrom_relabelled payload 0
  rw [matches_listed u alloc payload.dictTree (htree.json hplain) htree.nodup, rankedAddresses,
    dictTree, htree.texts, List.filter_eq_self.mpr]
  intro place hplace
  exact decide_eq_true (texts_within payload [] (Nat.le_refl 0) hfits place hplace)

/-! ### The best ranks -/

theorem max?_eq_iff {xs ys : List Nat} : xs.max? = ys.max? ↔
    (∀ x ∈ xs, ∃ y ∈ ys, x ≤ y) ∧ ∀ y ∈ ys, ∃ x ∈ xs, y ≤ x := by
  have hgreatest {zs : List Nat} {m : Nat} : zs.max? = some m ↔ m ∈ zs ∧ ∀ z ∈ zs, z ≤ m :=
    List.max?_eq_some_iff
  constructor
  · intro heq
    have hbest {xs ys : List Nat} (heq : xs.max? = ys.max?) : ∀ x ∈ xs, ∃ y ∈ ys, x ≤ y := by
      intro x hx
      cases hmax : xs.max? with
      | none =>
        rw [List.max?_eq_none_iff.mp hmax] at hx
        cases hx
      | some m => exact ⟨m, (hgreatest.mp (heq ▸ hmax)).1, (hgreatest.mp hmax).2 x hx⟩
    exact ⟨hbest heq, hbest heq.symm⟩
  · rintro ⟨hxs, hys⟩
    cases hmax : ys.max? with
    | none =>
      rw [List.max?_eq_none_iff.mp hmax] at hxs
      cases xs with
      | nil => rfl
      | cons x xs =>
        obtain ⟨y, hy, -⟩ := hxs x List.mem_cons_self
        cases hy
    | some m =>
      obtain ⟨hm, hle⟩ := hgreatest.mp hmax
      obtain ⟨x, hx, hmx⟩ := hys m hm
      obtain ⟨y, hy, hxy⟩ := hxs x hx
      obtain rfl : m = x := Nat.le_antisymm hmx (Nat.le_trans hxy (hle y hy))
      refine hgreatest.mpr ⟨hx, fun z hz => ?_⟩
      obtain ⟨y, hy, hzy⟩ := hxs z hz
      exact Nat.le_trans hzy (hle y hy)

theorem ranks_numberedMatches (n : Nat) (ranked : List (Nat × String)) (address : String) :
    ((numberedMatches n ranked).filter (·.2.2 == address)).map (·.1) =
      (ranked.filter (·.2 == address)).map (·.1) := by
  induction ranked generalizing n with
  | nil => rfl
  | cons m ranked ih =>
    rw [show numberedMatches n (m :: ranked) = (m.1, n, m.2) :: numberedMatches (n + 1) ranked
      from rfl, List.filter_cons, List.filter_cons]
    split
    · rw [List.map_cons, List.map_cons, ih]
    · exact ih (n + 1)

theorem mem_ranks {ranked : List (Nat × String)} {address : String} {rank : Nat} :
    rank ∈ (ranked.filter (·.2 == address)).map (·.1) ↔ (rank, address) ∈ ranked := by
  simp

/-- A search that notes some of the strings of the payload finds everything if no address is
hidden from it. -/
theorem searchedAlike_iff {payload : SdkValue} (hplain : payload.isPlain = true)
    (hfits : payload.fits 0 = true) {noted : List (List String × String)}
    (hmatches : ipMatches u alloc payload = numberedMatches 0 (noted.flatMap (rankedIn u)))
    (hnoted : ∀ place ∈ noted, place ∈ payload.texts []) :
    SearchedAlike u alloc payload ↔ ∀ m ∈ (payload.texts []).flatMap (rankedIn u),
      ∃ m' ∈ noted.flatMap (rankedIn u), m'.2 = m.2 ∧ m.1 ≤ m'.1 := by
  have hranks (address : String) : bestRank (ipMatches u alloc payload) address =
      bestRank (ipMatches u alloc payload.dictTree) address ↔
      ∀ rank, (rank, address) ∈ (payload.texts []).flatMap (rankedIn u) →
        ∃ rank', (rank', address) ∈ noted.flatMap (rankedIn u) ∧ rank ≤ rank' := by
    rw [bestRank, bestRank, hmatches, ipMatches_dictTree hplain hfits, ranks_numberedMatches,
      ranks_numberedMatches, max?_eq_iff]
    simp only [mem_ranks]
    refine ⟨And.right, fun h => ⟨fun rank hrank => ⟨rank, ?_, Nat.le_refl rank⟩, h⟩⟩
    obtain ⟨place, hplace, hmem⟩ := List.mem_flatMap.mp hrank
    exact List.mem_flatMap.mpr ⟨place, hnoted place hplace, hmem⟩
  constructor
  · rintro halike ⟨rank, address⟩ hm
    obtain ⟨rank', hmem, hle⟩ := (hranks address).mp (halike address) rank hm
    exact ⟨(rank', address), hmem, rfl, hle⟩
  · intro h address
    refine (hranks address).mpr fun rank hrank => ?_
    obtain ⟨⟨rank', other⟩, hmem, rfl, hle⟩ := h _ hrank
    exact ⟨rank', hmem, hle⟩

/-- The search of a payload notes its sure places. -/
theorem search_notes (u : Unicode) (alloc : Allocator) {payload : SdkValue}
    (hplain : payload.isPlain = true) (hfits : payload.fits 0 = true) :
    ∃ noted : List (List String × String), ipMatches u alloc payload =
      numberedMatches 0 (noted.flatMap (rankedIn u)) ∧
      (∀ place ∈ surePlaces payload, place ∈ noted) ∧
      ∀ place ∈ noted, place ∈ payload.texts [] := by
  have hstart : SearchAgrees payload.ids payload.ids .start .start := ⟨nofun, fun _ => nofun⟩
  obtain ⟨-, noted, hnotes, hsure, hplaces⟩ := visit_follows u alloc payload payload.ids true [] 0
    (fun _ h => h) (fun _ h => h) hplain hfits hstart
  exact ⟨noted, hnotes.found, fun place hplace => (hsure place hplace).resolve_left nofun, hplaces⟩

/-- Where no address is hidden, every search finds every address at its best rank. -/
theorem searchedAlike_of_noneHidden {payload : SdkValue} (hplain : payload.isPlain = true)
    (hfits : payload.fits 0 = true) (h : NoneHidden u payload) : SearchedAlike u alloc payload := by
  obtain ⟨noted, hmatches, hsure, hplaces⟩ := search_notes u alloc hplain hfits
  refine (searchedAlike_iff hplain hfits hmatches hplaces).mpr fun m hm => ?_
  obtain ⟨m', hm', hsame⟩ := h m hm
  obtain ⟨place, hplace, hmem⟩ := List.mem_flatMap.mp hm'
  exact ⟨m', List.mem_flatMap.mpr ⟨place, hsure place hplace, hmem⟩, hsame⟩

/-! ### The search that finds the sure places only

An allocator that gives out the identity of the last dictionary again leaves every object alone
that comes after another one. -/

theorem visitEntries_mono {shown : String → Bool} {entries : List (String × SdkValue)}
    (h : ∀ e ∈ entries, ∀ live path depth {s : IpSearch}, ∀ id ∈ s.visited,
      id ∈ (visit u alloc live path depth e.2 s).visited) :
    ∀ id ∈ s.visited,
      id ∈ (visitEntries u alloc live path depth shown entries s).visited := by
  induction entries generalizing s with
  | nil => exact fun _ hid => hid
  | cons e rest ih =>
    obtain ⟨he, hrest⟩ := List.forall_mem_cons.mp h
    intro id hid
    rw [visitEntries]
    refine ih hrest id ?_
    split
    · exact he _ _ _ id hid
    · exact hid

theorem visitAttributes_mono (live : List Nat) (path : List String) (depth : Nat)
    {attributes : List (String × SdkValue)}
    (h : ∀ e ∈ attributes, ∀ live path depth {s : IpSearch}, ∀ id ∈ s.visited,
      id ∈ (visit u alloc live path depth e.2 s).visited) (names : List String) :
    ∀ id ∈ s.visited, id ∈ (names.foldl
      (fun s name => visitAttribute u alloc live path depth name attributes s) s).visited := by
  induction names generalizing s with
  | nil => exact fun _ hid => hid
  | cons name names ih =>
    intro id hid
    refine ih id ?_
    dsimp only
    rw [visitAttribute_eq]
    cases hfind : lookup name attributes with
    | none => exact hid
    | some value => exact h _ (mem_of_lookup hfind) _ _ _ id hid

theorem visitObject_mono {attributes : List (String × SdkValue)}
    (h : ∀ e ∈ attributes, ∀ live path depth {s : IpSearch}, ∀ id ∈ s.visited,
      id ∈ (visit u alloc live path depth e.2 s).visited) :
    ∀ id ∈ s.visited, id ∈ (visitObject u alloc live path depth attributes s).visited := by
  intro id hid
  have hnamed := visitAttributes_mono live path (depth + 1) h ipAttributes id hid
  unfold visitObject
  dsimp only
  split
  · exact visitEntries_mono h id (List.mem_cons_of_mem _ hnamed)
  · exact hnamed

theorem mono_container {id : Nat} (h : ∀ other ∈ (s.visit id).visited, other ∈ s'.visited) :
    ∀ other ∈ s.visited, other ∈ (if s.enters depth id then s' else s).visited := by
  intro other hother
  split
  · exact h other (List.mem_cons_of_mem _ hother)
  · exact hother

/-- Nothing that has been visited is forgotten. -/
theorem visit_mono (value : SdkValue) : ∀ live path depth {s : IpSearch}, ∀ id ∈ s.visited,
    id ∈ (visit u alloc live path depth value s).visited := by
  induction value using SdkValue.byParts with
  | null | bool | int | float | bytes => exact fun _ _ _ _ _ hid => hid
  | str text =>
    intro live path depth s id hid
    rw [visit]
    split
    · exact hid
    · rwa [add_eq]
  | list id items ih =>
    intro live path depth s
    rw [visit, visitItems_eq]
    exact mono_container (visitEntries_mono (forall_indexed ih 0))
  | dict id entries ih =>
    intro live path depth s
    exact mono_container (visitEntries_mono ih)
  | object id attributes ih =>
    intro live path depth s
    exact mono_container (visitObject_mono ih)

namespace SdkValue

/-- The identity of a container. -/
def identity? : SdkValue → Option Nat
  | .list id _ | .dict id _ | .object id _ => some id
  | _ => none

mutual

/-- There is an object in the value. -/
def hasObject : SdkValue → Bool
  | .list _ items => hasObjectItems items
  | .dict _ entries => hasObjectEntries entries
  | .object _ _ => true
  | _ => false

def hasObjectItems : List SdkValue → Bool
  | [] => false
  | item :: rest => hasObject item || hasObjectItems rest

def hasObjectEntries : List (String × SdkValue) → Bool
  | [] => false
  | (_, value) :: rest => hasObject value || hasObjectEntries rest

end

theorem hasObjectItems_eq (index : Nat) (items : List SdkValue) :
    hasObjectItems items = hasObjectEntries (indexed index items) := by
  induction items generalizing index with
  | nil => rfl
  | cons item rest ih => rw [hasObjectItems, indexed, hasObjectEntries, ih (index + 1)]

end SdkValue

theorem sureEntries_left {entries : List (String × SdkValue)}
    (h : ∀ e ∈ entries, ∀ sure path w, (sureWalk sure path e.2 w).left = (w.left || e.2.hasObject))
    (w : SureWalk) :
    (sureEntries sure path entries w).left = (w.left || hasObjectEntries entries) := by
  induction entries generalizing w with
  | nil => exact (Bool.or_false _).symm
  | cons e rest ih =>
    obtain ⟨he, hrest⟩ := List.forall_mem_cons.mp h
    rw [sureEntries, ih hrest, he, hasObjectEntries, Bool.or_assoc]

/-- An object has been left once there was one. -/
theorem sureWalk_left (value : SdkValue) : ∀ sure path w,
    (sureWalk sure path value w).left = (w.left || value.hasObject) := by
  induction value using SdkValue.byParts with
  | null | bool | int | float | bytes => exact fun _ _ _ => (Bool.or_false _).symm
  | str text =>
    intro sure path w
    rw [sureWalk, hasObject, Bool.or_false]
    · split <;> rfl
    all_goals simp
  | list id items ih =>
    intro sure path w
    rw [sureWalk, sureItems_eq, hasObject, hasObjectItems_eq 0]
    exact sureEntries_left (forall_indexed ih 0) _
  | dict id entries ih => exact fun _ _ _ => sureEntries_left ih _
  | object id attributes ih => exact fun _ _ _ => (Bool.or_true _).symm

theorem ids_of_identity {value : SdkValue} (h : value.identity? = none) : value.ids = [] := by
  cases value <;> first | rfl | cases h

/-- A container that has been visited is left alone. -/
theorem visit_visited {value : SdkValue} {id : Nat} (hid : value.identity? = some id)
    (h : id ∈ s.visited) : visit u alloc live path depth value s = s := by
  have hnot : s.enters depth id = false := by simp [enters, h]
  cases value with
  | null | bool | int | float | str | bytes => cases hid
  | list | dict | object =>
    cases hid
    rw [visit, hnot, if_neg Bool.false_ne_true]

/-- A container has been visited after its visit. -/
theorem visited_after {value : SdkValue} {id : Nat} (hid : value.identity? = some id)
    (hfits : value.fits depth = true) :
    id ∈ (visit u alloc live path depth value s).visited := by
  by_cases hvisited : id ∈ s.visited
  · exact visit_mono value live path depth id hvisited
  · have henters (hdepth : depth ≤ 12) : s.enters depth id = true := enters_new hdepth hvisited
    have hmem : id ∈ (s.visit id).visited := List.mem_cons_self
    cases value with
    | null | bool | int | float | str | bytes => cases hid
    | list =>
      cases hid
      rw [fits, Bool.and_eq_true, decide_eq_true_eq] at hfits
      rw [visit, henters hfits.1, if_pos rfl, visitItems_eq]
      exact visitEntries_mono (fun e _ => visit_mono e.2) id hmem
    | dict =>
      cases hid
      rw [fits, Bool.and_eq_true, decide_eq_true_eq] at hfits
      rw [visit, henters hfits.1, if_pos rfl]
      exact visitEntries_mono (fun e _ => visit_mono e.2) id hmem
    | object =>
      cases hid
      rw [fits, Bool.and_eq_true, decide_eq_true_eq] at hfits
      rw [visit, henters (Nat.le_of_succ_le hfits.1), if_pos rfl]
      exact visitObject_mono (fun e _ => visit_mono e.2) id hmem

/-- The walk has met no container of the value, or the search has visited the value. -/
def Ready (w : SureWalk) (s : IpSearch) (value : SdkValue) : Prop :=
  (∀ id ∈ value.ids, id ∉ w.seen) ∨
    (∃ id, value.identity? = some id ∧ id ∈ s.visited) ∧ (value.hasObject = true → w.left = true)

/-- The walk has left an object, and the identity that the next dictionary gets has been visited. -/
def Reused (live : List Nat) (w : SureWalk) (s : IpSearch) : Prop :=
  w.left = true → above live ∈ s.visited

/-- The search notes no string but the sure ones. -/
structure Stacked (u : Unicode) (live : List Nat) (w' : SureWalk) (s s' : IpSearch) : Prop where
  reused : Reused live w' s'
  noted : ∃ noted, Notes u noted s s' ∧ ∀ place ∈ noted, place ∈ w'.places

theorem Stacked.none (h : Reused live w s) : Stacked u live w s s :=
  ⟨h, [], .none rfl rfl, nofun⟩

theorem Stacked.trans (h : Stacked u live w' s s')
    (hplaces : ∀ place ∈ w'.places, place ∈ w''.places) (h' : Stacked u live w'' s' s'') :
    Stacked u live w'' s s'' := by
  obtain ⟨noted, hnotes, hsure⟩ := h.noted
  obtain ⟨noted', hnotes', hsure'⟩ := h'.noted
  exact ⟨h'.reused, noted ++ noted', hnotes.trans hnotes', fun place hplace =>
    (List.mem_append.mp hplace).elim (fun h => hplaces place (hsure place h)) (hsure' place)⟩

/-- What the search of a new value under this allocator has to do. -/
def Stacks (u : Unicode) (own : List Nat) (value : SdkValue) : Prop :=
  ∀ (live : List Nat) (path : List String) (depth : Nat) {w : SureWalk} {s : IpSearch},
    (∀ id ∈ own, id ∈ live) → (∀ id ∈ value.ids, id ∈ own) → value.ids.Nodup →
    value.isPlain = true → value.fits depth = true → SearchAgrees own live w s → Reused live w s →
    (∀ id ∈ value.ids, id ∉ w.seen) →
    Stacked u live (sureWalk true path value w) s
      (visit u stackAllocator live path depth value s)

theorem Stacks.ready {value : SdkValue} (h : Stacks u own value) (hlive : ∀ id ∈ own, id ∈ live)
    (hown : ∀ id ∈ value.ids, id ∈ own) (hnodup : value.ids.Nodup) (hplain : value.isPlain = true)
    (hfits : value.fits depth = true) (hagrees : SearchAgrees own live w s)
    (hreused : Reused live w s) (hready : Ready w s value) :
    Stacked u live (sureWalk true path value w) s
      (visit u stackAllocator live path depth value s) := by
  rcases hready with hnew | ⟨⟨id, hid, hvisited⟩, hleft⟩
  · exact h live path depth hlive hown hnodup hplain hfits hagrees hreused hnew
  · rw [visit_visited hid hvisited]
    refine .none fun hleft' => hreused ?_
    rw [sureWalk_left] at hleft'
    rcases Bool.or_eq_true_iff.mp hleft' with hleft' | hobject
    · exact hleft'
    · exact hleft hobject

/-- A value without a container of the one that is searched stays ready. -/
theorem Ready.other {value other : SdkValue} (h : Ready w s other)
    (hdisjoint : ∀ id ∈ other.ids, id ∉ value.ids) :
    Ready (sureWalk sure path value w) (visit u alloc live path depth value s) other := by
  have hgrows := sureWalk_grows value sure path w
  rcases h with hnew | ⟨⟨id, hid, hvisited⟩, hleft⟩
  · refine .inl fun id hid hseen => ?_
    exact (hgrows.only id hseen).elim (hnew id hid) (hdisjoint id hid)
  · exact .inr ⟨⟨id, hid, visit_mono value live path depth id hvisited⟩,
      fun hobject => hgrows.left (hleft hobject)⟩

theorem Ready.entered {value : SdkValue} {id built : Nat} (h : Ready w s value) :
    Ready w (IpSearch.visit { s with built := built } id) value :=
  h.imp_right fun ⟨⟨other, hid, hvisited⟩, hleft⟩ =>
    ⟨⟨other, hid, List.mem_cons_of_mem _ hvisited⟩, hleft⟩

/-- A value that has been searched is ready to be left alone. -/
theorem Ready.searched (value : SdkValue) (hfits : value.fits depth = true) :
    Ready (sureWalk sure path value w) (visit u alloc live path depth value s) value := by
  cases hid : value.identity? with
  | none =>
    rw [Ready, ids_of_identity hid]
    exact .inl nofun
  | some id =>
    refine .inr ⟨⟨id, hid, visited_after hid hfits⟩, fun hobject => ?_⟩
    rw [sureWalk_left, hobject, Bool.or_true]

theorem visitEntries_stacked (path : List String) {shown : String → Bool}
    {entries : List (String × SdkValue)} (h : ∀ e ∈ entries, Stacks u own e.2)
    (hlive : ∀ id ∈ own, id ∈ live) (hown : ∀ id ∈ idsEntries entries, id ∈ own)
    (hnodup : (idsEntries entries).Nodup)
    (hplain : plainEntries shown entries = true) (hfits : fitsEntries depth entries = true)
    (hagrees : SearchAgrees own live w s) (hreused : Reused live w s)
    (hready : ∀ e ∈ entries, Ready w s e.2) :
    Stacked u live (sureEntries true path entries w) s
      (visitEntries u stackAllocator live path depth shown entries s) := by
  induction entries generalizing w s with
  | nil => exact .none hreused
  | cons e rest ih =>
    obtain ⟨he, hrest⟩ := List.forall_mem_cons.mp h
    obtain ⟨hshown, hplainrest⟩ := Bool.and_eq_true_iff.mp hplain
    obtain ⟨hshown, hplain⟩ := Bool.and_eq_true_iff.mp hshown
    obtain ⟨hfits, hfitsrest⟩ := Bool.and_eq_true_iff.mp hfits
    obtain ⟨hready, hreadyrest⟩ := List.forall_mem_cons.mp hready
    obtain ⟨hleft, hright, hdisjoint⟩ := List.nodup_append.mp hnodup
    have hfirst := fun id hid => hown id (List.mem_append_left _ hid)
    have hothers := fun id hid => hown id (List.mem_append_right _ hid)
    have hstacked : Stacked u live (sureWalk true (path ++ [e.1]) e.2 w) s _ :=
      he.ready hlive hfirst hleft hplain hfits hagrees hreused hready
    have hagrees' := (visit_follows u stackAllocator e.2 live true (path ++ [e.1]) depth hlive
      hfirst hplain hfits hagrees).agrees
    rw [sureEntries, visitEntries, if_pos hshown]
    refine hstacked.trans (sureEntries_grows (sureParts_grow _ true) path _).places ?_
    refine ih hrest hothers hright hplainrest hfitsrest hagrees' hstacked.reused
      fun other hother => ?_
    exact (hreadyrest other hother).other fun id hid hvalue =>
      hdisjoint id hvalue id (mem_idsEntries hother hid) rfl

/-- Of two parts of an unshared container, one is the other or has none of its containers. -/
theorem eq_or_disjoint {entries : List (String × SdkValue)} (hnodup : (idsEntries entries).Nodup)
    {e e' : String × SdkValue} (he : e ∈ entries) (he' : e' ∈ entries) :
    e.2 = e'.2 ∨ ∀ id ∈ e.2.ids, id ∉ e'.2.ids := by
  induction entries with
  | nil => cases he
  | cons first rest ih =>
    obtain ⟨-, hright, hdisjoint⟩ := List.nodup_append.mp hnodup
    rcases List.mem_cons.mp he with rfl | hrest
    · rcases List.mem_cons.mp he' with rfl | hrest'
      · exact .inl rfl
      · exact .inr fun id hid hid' => hdisjoint id hid id (mem_idsEntries hrest' hid') rfl
    · rcases List.mem_cons.mp he' with rfl | hrest'
      · exact .inr fun id hid hid' => hdisjoint id hid' id (mem_idsEntries hrest hid) rfl
      · exact ih hright hrest hrest'

theorem nodup_of_mem {entries : List (String × SdkValue)} (hnodup : (idsEntries entries).Nodup) :
    ∀ e ∈ entries, e.2.ids.Nodup := by
  induction entries with
  | nil => exact nofun
  | cons e rest ih =>
    obtain ⟨hleft, hright, -⟩ := List.nodup_append.mp hnodup
    exact List.forall_mem_cons.mpr ⟨hleft, ih hright⟩

theorem visitAttributes_stacked (path : List String) {attributes : List (String × SdkValue)}
    (h : ∀ e ∈ attributes, Stacks u own e.2) (hlive : ∀ id ∈ own, id ∈ live)
    (hown : ∀ id ∈ idsEntries attributes, id ∈ own) (hnodup : (idsEntries attributes).Nodup)
    (hplain : plainEntries isPublic attributes = true)
    (hfits : fitsEntries depth attributes = true) (names : List String)
    (hagrees : SearchAgrees own live w s) (hreused : Reused live w s)
    (hready : ∀ e ∈ attributes, Ready w s e.2) :
    let w' := names.foldl (fun w name => sureAttribute true path name attributes w) w
    let s' := names.foldl
      (fun s name => visitAttribute u stackAllocator live path depth name attributes s) s
    Stacked u live w' s s' ∧ ∀ e ∈ attributes, Ready w' s' e.2 := by
  induction names generalizing w s with
  | nil => exact ⟨.none hreused, hready⟩
  | cons name names ih =>
    have hstep : SearchAgrees own live (sureAttribute true path name attributes w)
          (visitAttribute u stackAllocator live path depth name attributes s) ∧
        Stacked u live (sureAttribute true path name attributes w) s
          (visitAttribute u stackAllocator live path depth name attributes s) ∧
        ∀ e ∈ attributes, Ready (sureAttribute true path name attributes w)
          (visitAttribute u stackAllocator live path depth name attributes s) e.2 := by
      rw [sureAttribute_eq, visitAttribute_eq]
      cases hfind : lookup name attributes with
      | none => exact ⟨hagrees, .none hreused, hready⟩
      | some value =>
        have hmem := mem_of_lookup hfind
        have hparts := fun id hid => hown id (mem_idsEntries hmem hid)
        have hvalue := (plain_of_mem hplain _ hmem).2
        have hdeep := fits_of_mem hfits _ hmem
        refine ⟨(visit_follows u stackAllocator value live true _ depth hlive hparts hvalue hdeep
          hagrees).agrees, (h _ hmem).ready hlive hparts (nodup_of_mem hnodup _ hmem) hvalue hdeep
          hagrees hreused (hready _ hmem), fun e he => ?_⟩
        rcases eq_or_disjoint hnodup he hmem with heq | hdisjoint
        · rw [heq]
          exact .searched value hdeep
        · exact (hready e he).other hdisjoint
    obtain ⟨hagrees', hstacked, hready'⟩ := hstep
    obtain ⟨hrest, hready''⟩ := ih hagrees' hstacked.reused hready'
    refine ⟨hstacked.trans ?_ hrest, hready''⟩
    exact (sureAttributes_grows (sureParts_grow _ true) path names).places

theorem visitObject_stacked {attributes : List (String × SdkValue)}
    (h : ∀ e ∈ attributes, Stacks u own e.2) (hlive : ∀ id ∈ own, id ∈ live)
    (hown : ∀ id ∈ idsEntries attributes, id ∈ own) (hnodup : (idsEntries attributes).Nodup)
    (hplain : plainEntries isPublic attributes = true) (hdepth : depth + 1 ≤ 12)
    (hfits : fitsEntries (depth + 2) attributes = true) (hagrees : SearchAgrees own live w s)
    (hreused : Reused live w s) (hnew : ∀ id ∈ idsEntries attributes, id ∉ w.seen) :
    Stacked u live (sureObject true path attributes w) s
      (visitObject u stackAllocator live path depth attributes s) := by
  have hready : ∀ e ∈ attributes, Ready w s e.2 := fun e he =>
    .inl fun id hid => hnew id (mem_idsEntries he hid)
  have hshallow := fitsEntries_mono (fun e _ => fits_mono e.2 (Nat.le_succ (depth + 1))) hfits
  have hfollows := visitAttributes_follows path true (fun e _ => visit_follows u stackAllocator e.2)
    hlive hown hplain hshallow ipAttributes hagrees
  obtain ⟨hnamed, hready'⟩ := visitAttributes_stacked path h hlive hown hnodup hplain hshallow
    ipAttributes hagrees hreused hready
  unfold sureObject visitObject
  dsimp only at hnamed hready' ⊢
  generalize ipAttributes.foldl _ w = w1 at hfollows hnamed hready' ⊢
  generalize ipAttributes.foldl _ s = s1 at hfollows hnamed hready' ⊢
  have hgrows (sure : Bool) := sureEntries_grows (sureParts_grow attributes sure) path w1
  change Stacked u live _ s (if IpSearch.enters { s1 with built := s1.built + 1 } (depth + 1)
    (above live) then _ else _)
  refine hnamed.trans (hgrows _).places ?_
  by_cases hvisited : above live ∈ s1.visited
  · have hnot : IpSearch.enters { s1 with built := s1.built + 1 } (depth + 1) (above live) =
        false := enters_visited hvisited
    rw [hnot, if_neg Bool.false_ne_true]
    exact ⟨fun _ => hvisited, [], .none rfl rfl, nofun⟩
  · have henters : IpSearch.enters { s1 with built := s1.built + 1 } (depth + 1) (above live) =
        true := enters_new hdepth hvisited
    have hleft : w1.left = false :=
      Bool.eq_false_iff.mpr fun hleft => hvisited (hnamed.reused hleft)
    have hagrees1 : SearchAgrees own (above live :: live) w1
        (IpSearch.visit { s1 with built := s1.built + 1 } (above live)) :=
      hfollows.agrees.enter hlive (stackAllocator.fresh s1.built live)
    rw [henters, if_pos rfl, hleft]
    obtain ⟨-, noted, hnotes, hsure⟩ := visitEntries_stacked path h
      (fun id hid => List.mem_cons_of_mem _ (hlive id hid)) hown hnodup hplain hfits hagrees1
      (fun hleft' => by rw [hleft] at hleft'; cases hleft') fun e he => (hready' e he).entered
    refine ⟨fun _ => ?_, noted, ⟨hnotes.found, hnotes.sequence⟩, hsure⟩
    exact visitEntries_mono (fun e _ => visit_mono e.2) _ List.mem_cons_self

/-- A new container is entered by both. -/
theorem Stacked.container {id : Nat} (walk : Bool → SureWalk) (hdepth : depth ≤ 12) (hid : id ∈ own)
    (hlive : id ∈ live) (hagrees : SearchAgrees own live w s) (hreused : Reused live w s)
    (hnew : id ∉ w.seen)
    (h : SearchAgrees own live (w.meet id) (s.visit id) → Reused live (w.meet id) (s.visit id) →
      Stacked u live (walk true) (s.visit id) s') :
    Stacked u live (walk (true && !w.seen.contains id)) s
      (if s.enters depth id then s' else s) := by
  have hvisited : id ∉ s.visited := fun hvisited => hnew (hagrees.seen id hvisited hid)
  have henters : s.enters depth id = true := enters_new hdepth hvisited
  have hseen : w.seen.contains id = false := by simpa using hnew
  rw [henters, if_pos rfl, hseen]
  obtain ⟨hreused', noted, hnotes, hsure⟩ :=
    h (hagrees.meet hlive) fun hleft => List.mem_cons_of_mem id (hreused hleft)
  exact ⟨hreused', noted, ⟨hnotes.found, hnotes.sequence⟩, hsure⟩

/-- A part of a new container is new behind its identity. -/
theorem new_part {id : Nat} {ids : List Nat} (hnodup : (id :: ids).Nodup)
    (hnew : ∀ other ∈ id :: ids, other ∉ w.seen) : ∀ other ∈ ids, other ∉ (w.meet id).seen := by
  intro other hother hseen
  rcases List.mem_cons.mp hseen with rfl | hseen
  · exact (List.nodup_cons.mp hnodup).1 hother
  · exact hnew other (List.mem_cons_of_mem _ hother) hseen

/-- Under this allocator, the search notes no string but the sure ones. -/
theorem visit_stacked (u : Unicode) (value : SdkValue) : Stacks u own value := by
  induction value using SdkValue.byParts with
  | null | bool | int | float | bytes =>
    intro live path depth w s _ _ _ _ _ _ hreused _
    exact .none hreused
  | str text =>
    intro live path depth w s _ _ _ _ hfits _ hreused _
    have hdepth : depth ≤ 12 := of_decide_eq_true hfits
    rw [visit, if_neg (by omega), sureWalk, if_pos rfl, add_eq]
    exact ⟨hreused, [(path, text)], ⟨by simp, by simp⟩,
      fun _ hplace => List.mem_append_right _ hplace⟩
  | list id items ih =>
    intro live path depth w s hlive hown hnodup hplain hfits hagrees hreused hnew
    have hid := hown id List.mem_cons_self
    have hparts := new_part hnodup hnew
    rw [fits, Bool.and_eq_true, decide_eq_true_eq, fitsItems_eq 0] at hfits
    rw [isPlain, plainItems_eq 0] at hplain
    rw [idsItems_eq 0] at hparts
    rw [ids, idsItems_eq 0] at hown hnodup
    rw [visit, sureWalk, visitItems_eq, sureItems_eq]
    exact .container (sureEntries · path (indexed 0 items) (w.meet id)) hfits.1 hid (hlive id hid)
      hagrees hreused (hnew id List.mem_cons_self)
      fun hagrees hreused => visitEntries_stacked path (forall_indexed ih 0) hlive
        (fun id hid => hown id (List.mem_cons_of_mem _ hid)) (List.nodup_cons.mp hnodup).2 hplain
        hfits.2 hagrees hreused fun e he => .inl fun id hid => hparts id (mem_idsEntries he hid)
  | dict id entries ih =>
    intro live path depth w s hlive hown hnodup hplain hfits hagrees hreused hnew
    have hid := hown id List.mem_cons_self
    have hparts := new_part hnodup hnew
    rw [fits, Bool.and_eq_true, decide_eq_true_eq] at hfits
    rw [visit, sureWalk]
    exact .container (sureEntries · path entries (w.meet id)) hfits.1 hid (hlive id hid) hagrees
      hreused (hnew id List.mem_cons_self)
      fun hagrees hreused => visitEntries_stacked path ih hlive
        (fun id hid => hown id (List.mem_cons_of_mem _ hid)) (List.nodup_cons.mp hnodup).2 hplain
        hfits.2 hagrees hreused fun e he => .inl fun id hid => hparts id (mem_idsEntries he hid)
  | object id attributes ih =>
    intro live path depth w s hlive hown hnodup hplain hfits hagrees hreused hnew
    have hid := hown id List.mem_cons_self
    have hparts := new_part hnodup hnew
    rw [fits, Bool.and_eq_true, decide_eq_true_eq] at hfits
    exact .container (sureObject · path attributes (w.meet id))
      (Nat.le_of_succ_le hfits.1) hid (hlive id hid) hagrees hreused (hnew id List.mem_cons_self)
      fun hagrees hreused => visitObject_stacked ih hlive
        (fun id hid => hown id (List.mem_cons_of_mem _ hid)) (List.nodup_cons.mp hnodup).2 hplain
        hfits.1 hfits.2 hagrees hreused hparts

/-- An address that is hidden from a payload without shared containers is lost by this allocator. -/
theorem noneHidden_of_searchedAlike {payload : SdkValue} (hplain : payload.isPlain = true)
    (hfits : payload.fits 0 = true) (hunshared : payload.Unshared)
    (h : SearchedAlike u stackAllocator payload) : NoneHidden u payload := by
  have hstart : SearchAgrees payload.ids payload.ids .start .start := ⟨nofun, fun _ => nofun⟩
  obtain ⟨-, noted, hnotes, hsure⟩ := visit_stacked u payload payload.ids [] 0 (fun _ h => h)
    (fun _ h => h) hunshared hplain hfits hstart nofun nofun
  obtain ⟨noted', -, hsure', hplaces'⟩ := search_notes u stackAllocator hplain hfits
  have hplaces : ∀ place ∈ noted, place ∈ payload.texts [] := fun place hplace =>
    hplaces' place (hsure' place (hsure place hplace))
  intro m hm
  obtain ⟨m', hm', hsame⟩ := (searchedAlike_iff hplain hfits hnotes.found hplaces).mp h m hm
  obtain ⟨place, hplace, hmem⟩ := List.mem_flatMap.mp hm'
  exact ⟨m', List.mem_flatMap.mpr ⟨place, hsure place hplace, hmem⟩, hsame⟩

/-- Under every assignment of identities, the search finds in a payload of objects what it finds in
its dict tree, if no address is hidden; in an unshared payload, only then. -/
theorem objects_searched_iff (u : Unicode) (payload : SdkValue) (hplain : payload.isPlain = true)
    (hfits : payload.fits 0 = true) :
    (NoneHidden u payload → ∀ alloc, SearchedAlike u alloc payload) ∧
      (payload.Unshared → (∀ alloc, SearchedAlike u alloc payload) → NoneHidden u payload) :=
  ⟨fun h _ => searchedAlike_of_noneHidden hplain hfits h,
    fun hunshared h => noneHidden_of_searchedAlike hplain hfits hunshared (h stackAllocator)⟩

/-- The status of a job, with one object for each replica. -/
def sampleStatus : SdkValue :=
  .dict 1 [("status", .list 2 [.object 3 [("name", .str "replica-0")],
    .object 4 [("name", .str "replica-1"), ("address", .str "10.0.0.7")]])]

/-- The second replica's dictionary gets the identity of the first one's, and is skipped. -/
theorem sibling_object_skipped : sampleStatus.isPlain = true ∧ sampleStatus.fits 0 = true ∧
    sampleStatus.Unshared ∧
    ¬ SearchedAlike plainPython.toUnicode stackAllocator sampleStatus := by
  refine ⟨by decide, by decide, by rw [Unshared]; decide, fun h => ?_⟩
  have h := h "10.0.0.7"
  revert h
  decide

/-- The same with the address under a name that the search looks up. -/
def sampleNamed : SdkValue :=
  .dict 1 [("status", .list 2 [.object 3 [("name", .str "replica-0")],
    .object 4 [("name", .str "replica-1"), ("pod_ip", .str "10.0.0.7")]])]

theorem objects_searched_named : SearchedAlike plainPython.toUnicode stackAllocator sampleNamed :=
  (objects_searched_iff plainPython.toUnicode sampleNamed (by decide) (by decide)).1
    (by rw [NoneHidden]; decide) stackAllocator

end

end SafactoryServer
