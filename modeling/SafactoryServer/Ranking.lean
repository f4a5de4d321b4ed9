import Mathlib.Data.List.Induction
import Mathlib.Data.List.Perm.Basic
import Mathlib.Data.List.Sort

/-! The latest entry of each identifier, and the latest entries in order.  Entries are filed one by
one: an entry replaces the one filed under its identifier if its key is greater.  The result depends
only on which entries were filed if no two have the same key, and the identifiers keep their places
when entries are added that are filed already or come behind all that are. -/

namespace Ranking

variable {ι κ τ α ε : Type}

/-- What is filed: the identifier, the key that tells the later of two entries, and the item. -/
structure Entry (ι κ α : Type) where
  id : ι
  key : κ
  item : α

/-! ### Sorting and maxima by a key that may fail -/

theorem mapM_ok {β : Type} {f : α → Except ε β} {items : List α} {results : List β} :
    items.mapM f = .ok results ↔ List.Forall₂ (fun a b => f a = .ok b) items results := by
  induction items generalizing results with
  | nil => simp [pure, Except.pure, eq_comm]
  | cons a rest ih =>
    rw [List.mapM_cons]
    constructor
    · intro h
      cases ha : f a with
      | error x => rw [ha] at h; cases h
      | ok b =>
        cases hr : rest.mapM f with
        | error x => rw [ha, hr] at h; cases h
        | ok bs =>
          rw [ha, hr] at h
          cases h
          exact .cons ha (ih.mp hr)
    · intro h
      cases h with
      | cons ha hr =>
        rw [ha, ih.mpr hr]
        rfl

theorem mapM_perm {β : Type} {f : α → Except ε β} {items items' : List α} {results : List β}
    (h : items.Perm items') (hok : items.mapM f = .ok results) :
    ∃ results', items'.mapM f = .ok results' ∧ results.Perm results' := by
  obtain ⟨results', hok', hp⟩ := List.perm_comp_forall₂ h.symm (mapM_ok.mp hok)
  exact ⟨results', mapM_ok.mpr hok', hp.symm⟩

/-- Each item with its key. -/
def keyed (key : α → Except ε κ) (items : List α) : Except ε (List (κ × α)) :=
  items.mapM fun item => do return (← key item, item)

theorem keyed_ok {key : α → Except ε κ} {items : List α} {pairs : List (κ × α)} :
    keyed key items = .ok pairs ↔
      List.Forall₂ (fun item p => key item = .ok p.1 ∧ p.2 = item) items pairs := by
  rw [keyed, mapM_ok]
  refine Iff.of_eq (congrArg (fun R => List.Forall₂ R items pairs) ?_)
  funext item p
  cases hk : key item with
  | error x => simp [bind, Except.bind]
  | ok k => simp [bind, Except.bind, pure, Except.pure, Prod.ext_iff, eq_comm]

theorem keyed_mem {key : α → Except ε κ} {items : List α} {pairs : List (κ × α)}
    (h : keyed key items = .ok pairs) {p : κ × α} (hp : p ∈ pairs) :
    p.2 ∈ items ∧ key p.2 = .ok p.1 := by
  replace h := keyed_ok.mp h
  induction h with
  | nil => cases hp
  | @cons item q rest pairs hq _ ih =>
    rcases List.mem_cons.mp hp with rfl | hp
    · rw [hq.2]
      exact ⟨List.mem_cons_self, hq.1⟩
    · exact ⟨List.mem_cons_of_mem item (ih hp).1, (ih hp).2⟩

theorem keyed_items {key : α → Except ε κ} {items : List α} {pairs : List (κ × α)}
    (h : keyed key items = .ok pairs) : items = pairs.map (·.2) := by
  replace h := keyed_ok.mp h
  induction h with
  | nil => rfl
  | cons hp _ ih => rw [List.map_cons, hp.2, ← ih]

theorem keyed_covers {key : α → Except ε κ} {items : List α} {pairs : List (κ × α)}
    (h : keyed key items = .ok pairs) {item : α} (hitem : item ∈ items) :
    ∃ k, key item = .ok k ∧ (k, item) ∈ pairs := by
  replace h := keyed_ok.mp h
  induction h with
  | nil => cases hitem
  | @cons item' q rest pairs hq _ ih =>
    rcases List.mem_cons.mp hitem with rfl | hitem
    · exact ⟨q.1, hq.1, by rw [← hq.2]; exact List.mem_cons_self⟩
    · obtain ⟨k, hk, hmem⟩ := ih hitem
      exact ⟨k, hk, List.mem_cons_of_mem q hmem⟩

theorem keyed_total {key : α → Except ε κ} {items : List α}
    (h : ∀ item ∈ items, ∃ k, key item = .ok k) : ∃ pairs, keyed key items = .ok pairs := by
  induction items with
  | nil => exact ⟨[], rfl⟩
  | cons item rest ih =>
    rw [List.forall_mem_cons] at h
    obtain ⟨k, hk⟩ := h.1
    obtain ⟨pairs, hpairs⟩ := ih h.2
    exact ⟨(k, item) :: pairs, keyed_ok.mpr (.cons ⟨hk, rfl⟩ (keyed_ok.mp hpairs))⟩

theorem keyed_entries {key : α → Except ε κ} {entries : List (Entry ι κ α)}
    (h : ∀ e ∈ entries, key e.item = .ok e.key) :
    keyed key (entries.map (·.item)) = .ok (entries.map fun e => (e.key, e.item)) := by
  rw [keyed_ok, List.forall₂_map_left_iff, List.forall₂_map_right_iff, List.forall₂_same]
  exact fun e he => ⟨h e he, rfl⟩

theorem keyed_append {key : α → Except ε κ} {items more : List α} {pairs : List (κ × α)} :
    keyed key (items ++ more) = .ok pairs ↔ ∃ p q, keyed key items = .ok p ∧
      keyed key more = .ok q ∧ pairs = p ++ q := by
  rw [keyed_ok]
  simp only [keyed_ok]
  constructor
  · intro h
    refine ⟨pairs.take items.length, pairs.drop items.length, ?_, ?_,
      (List.take_append_drop _ _).symm⟩
    · simpa using List.forall₂_take items.length h
    · simpa using List.forall₂_drop items.length h
  · rintro ⟨p, q, hp, hq, rfl⟩
    exact List.rel_append hp hq

section Keyed

variable [LinearOrder κ]

/-- A stable sort by key. -/
def sortedBy (key : α → Except ε κ) (items : List α) : Except ε (List α) := do
  let pairs ← keyed key items
  return (pairs.insertionSort fun p q => p.1 ≤ q.1).map (·.2)

theorem sortedBy_entries {key : α → Except ε κ} {entries : List (Entry ι κ α)}
    (h : ∀ e ∈ entries, key e.item = .ok e.key) :
    sortedBy key (entries.map (·.item)) =
      .ok ((entries.insertionSort fun e f => e.key ≤ f.key).map (·.item)) := by
  rw [sortedBy, keyed_entries h]
  show Except.ok _ = _
  rw [← List.map_insertionSort (fun e f : Entry ι κ α => e.key ≤ f.key)
    (fun p q : κ × α => p.1 ≤ q.1) (fun e => (e.key, e.item)) entries fun _ _ _ _ => Iff.rfl,
    List.map_map]
  rfl

def better : Option (κ × α) → κ × α → Option (κ × α)
  | none, p => some p
  | some best, p => if best.1 < p.1 then some p else some best

/-- The first of the pairs with the greatest key. -/
def greatest (pairs : List (κ × α)) : Option (κ × α) := pairs.foldl better none

/-- The first item with the greatest key. -/
def maxBy (key : α → Except ε κ) (items : List α) : Except ε (Option α) := do
  return (greatest (← keyed key items)).map (·.2)

theorem foldl_better_some (pairs : List (κ × α)) (best : κ × α) :
    ∃ b, pairs.foldl better (some best) = some b ∧ (b = best ∨ b ∈ pairs) ∧ best.1 ≤ b.1 ∧
      ∀ p ∈ pairs, p.1 ≤ b.1 := by
  induction pairs generalizing best with
  | nil => exact ⟨best, rfl, .inl rfl, le_rfl, by simp⟩
  | cons p rest ih =>
    rw [List.foldl_cons, better]
    by_cases hlt : best.1 < p.1
    · rw [if_pos hlt]
      obtain ⟨b, hb, hmem, hle, hall⟩ := ih p
      refine ⟨b, hb, .inr ?_, hlt.le.trans hle, List.forall_mem_cons.mpr ⟨hle, hall⟩⟩
      rcases hmem with rfl | hmem
      · exact List.mem_cons_self
      · exact List.mem_cons_of_mem p hmem
    · rw [if_neg hlt]
      obtain ⟨b, hb, hmem, hle, hall⟩ := ih best
      refine ⟨b, hb, hmem.imp_right (List.mem_cons_of_mem p), hle,
        List.forall_mem_cons.mpr ⟨(not_lt.mp hlt).trans hle, hall⟩⟩

theorem greatest_cons (p : κ × α) (pairs : List (κ × α)) :
    ∃ b, greatest (p :: pairs) = some b ∧ b ∈ p :: pairs ∧ ∀ q ∈ p :: pairs, q.1 ≤ b.1 := by
  obtain ⟨b, hb, hmem, hle, hall⟩ := foldl_better_some pairs p
  refine ⟨b, hb, ?_, List.forall_mem_cons.mpr ⟨hle, hall⟩⟩
  rcases hmem with rfl | hmem
  · exact List.mem_cons_self
  · exact List.mem_cons_of_mem p hmem

theorem greatest_eq_none {pairs : List (κ × α)} : greatest pairs = none ↔ pairs = [] := by
  cases pairs with
  | nil => simp [greatest]
  | cons p rest =>
    obtain ⟨b, hb, -⟩ := greatest_cons p rest
    simp [hb]

theorem greatest_mem {pairs : List (κ × α)} {b : κ × α} (h : greatest pairs = some b) :
    b ∈ pairs ∧ ∀ p ∈ pairs, p.1 ≤ b.1 := by
  cases pairs with
  | nil => cases h
  | cons p rest =>
    obtain ⟨b', hb', hmem, hall⟩ := greatest_cons p rest
    rw [hb'] at h
    cases h
    exact ⟨hmem, hall⟩

theorem greatest_concat (pairs : List (κ × α)) (p : κ × α) :
    greatest (pairs ++ [p]) = better (greatest pairs) p := by
  rw [greatest, List.foldl_append]
  rfl

/-- A greatest pair with a key of its own is the greatest of every list with the same pairs. -/
theorem greatest_eq {pairs : List (κ × α)} {b : κ × α} (hb : b ∈ pairs)
    (hmax : ∀ p ∈ pairs, p.1 ≤ b.1) (hinj : ∀ p ∈ pairs, p.1 = b.1 → p = b) :
    greatest pairs = some b := by
  cases hg : greatest pairs with
  | none =>
    rw [greatest_eq_none.mp hg] at hb
    cases hb
  | some b' =>
    obtain ⟨hmem, hall⟩ := greatest_mem hg
    rw [hinj b' hmem (le_antisymm (hmax b' hmem) (hall b hb))]

theorem greatest_perm {pairs pairs' : List (κ × α)} (h : pairs.Perm pairs')
    (hinj : ∀ p ∈ pairs, ∀ q ∈ pairs, p.1 = q.1 → p = q) : greatest pairs = greatest pairs' := by
  cases hg : greatest pairs with
  | none =>
    rw [greatest_eq_none] at hg
    subst hg
    rw [← h.nil_eq]
    rfl
  | some b =>
    obtain ⟨hmem, hall⟩ := greatest_mem hg
    refine (greatest_eq (h.mem_iff.mp hmem) (fun p hp => hall p (h.mem_iff.mpr hp)) ?_).symm
    exact fun p hp => hinj p (h.mem_iff.mpr hp) b hmem

theorem maxBy_of_keyed {key : α → Except ε κ} {items : List α} {pairs : List (κ × α)}
    (h : keyed key items = .ok pairs) :
    maxBy key items = .ok ((greatest pairs).map (·.2)) := by
  rw [maxBy, h]
  rfl

theorem maxBy_perm {key : α → Except ε κ} {items items' : List α} (h : items.Perm items')
    (hinj : ∀ a ∈ items, ∀ b ∈ items, ∀ k, key a = .ok k → key b = .ok k → a = b)
    {result : Option α} (hok : maxBy key items = .ok result) : maxBy key items' = .ok result := by
  cases hk : keyed key items with
  | error x => rw [maxBy, hk] at hok; cases hok
  | ok pairs =>
    obtain ⟨pairs', hk', hp⟩ := mapM_perm h hk
    rw [← hok, maxBy_of_keyed hk, maxBy_of_keyed hk', greatest_perm hp]
    intro p hpmem q hqmem heq
    obtain ⟨hp, hpk⟩ := keyed_mem hk hpmem
    obtain ⟨hq, hqk⟩ := keyed_mem hk hqmem
    exact Prod.ext heq (hinj p.2 hp q.2 hq p.1 hpk (heq ▸ hqk))

/-- The greatest of two, the first if neither is greater. -/
def greaterOf (p q : Option (κ × α)) : Option (κ × α) := q.elim p (better p)

theorem greaterOf_better (p q : Option (κ × α)) (x : κ × α) :
    better (greaterOf p q) x = greaterOf p (better q x) := by
  cases q with
  | none => rfl
  | some b =>
    cases p with
    | none =>
      show better (some b) x = greaterOf none (better (some b) x)
      simp only [better]
      split <;> rfl
    | some a =>
      simp only [greaterOf, Option.elim_some, better]
      by_cases hab : a.1 < b.1
      · rw [if_pos hab]
        by_cases hbx : b.1 < x.1
        · simp only [better, if_pos hbx, Option.elim_some, if_pos (hab.trans hbx)]
        · simp only [better, if_neg hbx, Option.elim_some, if_pos hab]
      · rw [if_neg hab]
        by_cases hbx : b.1 < x.1
        · simp only [better, if_pos hbx, Option.elim_some]
        · have hax : ¬ a.1 < x.1 := fun hax => hab (lt_of_lt_of_le hax (not_lt.mp hbx))
          simp only [better, if_neg hbx, if_neg hax, Option.elim_some, if_neg hab]

theorem greatest_append (pairs more : List (κ × α)) :
    greatest (pairs ++ more) = greaterOf (greatest pairs) (greatest more) := by
  induction more using List.reverseRec with
  | nil =>
    rw [List.append_nil]
    rfl
  | append_singleton more x ih =>
    rw [← List.append_assoc, greatest_concat, greatest_concat, ih, greaterOf_better]

/-! Which of several pairs with the greatest key is chosen: the first. -/

theorem foldl_better_le {pairs : List (κ × α)} {best : κ × α} (h : ∀ p ∈ pairs, p.1 ≤ best.1) :
    pairs.foldl better (some best) = some best := by
  induction pairs with
  | nil => rfl
  | cons p rest ih =>
    rw [List.forall_mem_cons] at h
    rw [List.foldl_cons, better, if_neg (not_lt.mpr h.1)]
    exact ih h.2

/-- The greatest pair exceeds those before it and is not exceeded by those behind it. -/
theorem greatest_eq_some {pairs : List (κ × α)} {b : κ × α} :
    greatest pairs = some b ↔ ∃ before after, pairs = before ++ b :: after ∧
      (∀ p ∈ before, p.1 < b.1) ∧ ∀ p ∈ after, p.1 ≤ b.1 := by
  constructor
  · intro h
    induction pairs using List.reverseRec with
    | nil => cases h
    | append_singleton pairs p ih =>
      rw [greatest_concat] at h
      cases hg : greatest pairs with
      | none =>
        rw [hg] at h
        cases h
        exact ⟨[], [], by rw [greatest_eq_none.mp hg], by simp, by simp⟩
      | some best =>
        rw [hg, better] at h
        split at h
        · next hlt =>
          cases h
          exact ⟨pairs, [], rfl, fun q hq => ((greatest_mem hg).2 q hq).trans_lt hlt, by simp⟩
        · next hle =>
          cases h
          obtain ⟨before, after, rfl, hbefore, hafter⟩ := ih hg
          refine ⟨before, after ++ [p], by simp, hbefore, fun q hq => ?_⟩
          rcases List.mem_append.mp hq with hq | hq
          · exact hafter q hq
          · rw [List.mem_singleton.mp hq]
            exact not_lt.mp hle
  · rintro ⟨before, after, rfl, hbefore, hafter⟩
    have hbest : better (greatest before) b = some b := by
      cases hg : greatest before with
      | none => rfl
      | some p => rw [better, if_pos (hbefore p (greatest_mem hg).1)]
    rw [List.append_cons, greatest, List.foldl_append]
    show after.foldl better (greatest (before ++ [b])) = some b
    rw [greatest_concat, hbest, foldl_better_le hafter]

/-- An item has a key that exceeds those of the items before it and is not exceeded by those of the
items behind it. -/
def Leads (key : α → Except ε κ) (item : α) (items : List α) : Prop :=
  ∃ k before after, items = before ++ item :: after ∧ key item = .ok k ∧
    (∀ a ∈ before, ∃ k' < k, key a = .ok k') ∧ ∀ a ∈ after, ∃ k' ≤ k, key a = .ok k'

theorem maxBy_eq_some {key : α → Except ε κ} {items : List α} {item : α} :
    maxBy key items = .ok (some item) ↔ Leads key item items := by
  constructor
  · intro h
    cases hk : keyed key items with
    | error x =>
      rw [maxBy, hk] at h
      cases h
    | ok pairs =>
      rw [maxBy_of_keyed hk] at h
      obtain ⟨⟨k, item'⟩, hg, rfl⟩ := Option.map_eq_some_iff.mp (Except.ok.inj h)
      obtain ⟨before, after, rfl, hbefore, hafter⟩ := greatest_eq_some.mp hg
      have hkey := fun p hp => (keyed_mem hk (p := p) hp).2
      refine ⟨k, before.map (·.2), after.map (·.2), by rw [keyed_items hk]; simp, ?_, ?_, ?_⟩
      · exact hkey (k, item') (by simp)
      · intro a ha
        obtain ⟨p, hp, rfl⟩ := List.mem_map.mp ha
        exact ⟨p.1, hbefore p hp, hkey p (by simp [hp])⟩
      · intro a ha
        obtain ⟨p, hp, rfl⟩ := List.mem_map.mp ha
        exact ⟨p.1, hafter p hp, hkey p (by simp [hp])⟩
  · rintro ⟨k, before, after, rfl, hk, hbefore, hafter⟩
    obtain ⟨p, hp⟩ := keyed_total fun a ha => (hbefore a ha).imp fun _ h => h.2
    obtain ⟨q, hq⟩ := keyed_total fun a ha => (hafter a ha).imp fun _ h => h.2
    have hkeyed : keyed key (before ++ item :: after) = .ok (p ++ (k, item) :: q) :=
      keyed_append.mpr ⟨p, (k, item) :: q, hp,
        keyed_ok.mpr (.cons ⟨hk, rfl⟩ (keyed_ok.mp hq)), rfl⟩
    have hgreatest : greatest (p ++ (k, item) :: q) = some (k, item) := by
      refine greatest_eq_some.mpr ⟨p, q, rfl, fun r hr => ?_, fun r hr => ?_⟩
      · obtain ⟨hmem, hrk⟩ := keyed_mem hp hr
        obtain ⟨k', hlt, hk'⟩ := hbefore r.2 hmem
        rw [hrk] at hk'
        cases hk'
        exact hlt
      · obtain ⟨hmem, hrk⟩ := keyed_mem hq hr
        obtain ⟨k', hle, hk'⟩ := hafter r.2 hmem
        rw [hrk] at hk'
        cases hk'
        exact hle
    rw [maxBy_of_keyed hkeyed, hgreatest]
    rfl

theorem Leads.mem {key : α → Except ε κ} {items : List α} {a : α}
    (h : Leads key a items) : a ∈ items := by
  obtain ⟨k, before, after, rfl, -⟩ := h
  exact List.mem_append_right before List.mem_cons_self

theorem Leads.le {key : α → Except ε κ} {items : List α} {a b : α} (h : Leads key a items)
    (hb : b ∈ items) : ∃ k k', key a = .ok k ∧ key b = .ok k' ∧ k' ≤ k := by
  obtain ⟨k, before, after, rfl, hk, hbefore, hafter⟩ := h
  rcases List.mem_append.mp hb with hb | hb
  · obtain ⟨k', hlt, hk'⟩ := hbefore b hb
    exact ⟨k, k', hk, hk', hlt.le⟩
  · rcases List.mem_cons.mp hb with rfl | hb
    · exact ⟨k, k, hk, hk, le_rfl⟩
    · obtain ⟨k', hle, hk'⟩ := hafter b hb
      exact ⟨k, k', hk, hk', hle⟩

/-- Of some items one leads, unless a key fails. -/
theorem leads_or_error (key : α → Except ε κ) {items : List α} (h : items ≠ []) :
    (∃ a, Leads key a items) ∨ ∃ x, maxBy key items = .error x := by
  cases hk : keyed key items with
  | error x => exact .inr ⟨x, by rw [maxBy, hk]; rfl⟩
  | ok pairs =>
    cases hg : greatest pairs with
    | none => exact absurd (by rw [keyed_items hk, greatest_eq_none.mp hg]; rfl) h
    | some p =>
      refine .inl ⟨p.2, maxBy_eq_some.mp ?_⟩
      rw [maxBy_of_keyed hk, hg]
      rfl

theorem Leads.unique {key : α → Except ε κ} {items : List α} {a b : α} (ha : Leads key a items)
    (hb : Leads key b items) : a = b := by
  rw [← maxBy_eq_some] at ha hb
  rw [ha] at hb
  cases hb
  rfl

end Keyed

/-! ### Filing -/

section Filing

variable [LinearOrder κ]

/-- What is filed after `entries`: for each of their identifiers one of its entries, with a key that
no other exceeds. -/
structure Filed (entries filed : List (Entry ι κ α)) : Prop where
  nodup : (filed.map (·.id)).Nodup
  mem : ∀ e ∈ filed, e ∈ entries
  covers : ∀ e ∈ entries, ∃ f ∈ filed, f.id = e.id ∧ e.key ≤ f.key

namespace Filed

variable {entries filed : List (Entry ι κ α)}

theorem inj (h : Filed entries filed) {e f : Entry ι κ α} (he : e ∈ filed) (hf : f ∈ filed)
    (hid : e.id = f.id) : e = f := List.inj_on_of_nodup_map h.nodup he hf hid

theorem le (h : Filed entries filed) {e f : Entry ι κ α} (he : e ∈ entries) (hf : f ∈ filed)
    (hid : e.id = f.id) : e.key ≤ f.key := by
  obtain ⟨g, hg, hgid, hle⟩ := h.covers e he
  rwa [h.inj hf hg (hid.symm.trans hgid.symm)]

theorem ids (h : Filed entries filed) (i : ι) :
    i ∈ filed.map (·.id) ↔ ∃ e ∈ entries, e.id = i := by
  rw [List.mem_map]
  constructor
  · rintro ⟨e, he, rfl⟩
    exact ⟨e, h.mem e he, rfl⟩
  · rintro ⟨e, he, rfl⟩
    obtain ⟨f, hf, hid, -⟩ := h.covers e he
    exact ⟨f, hf, hid⟩

theorem perm (h : Filed entries filed) {filed' : List (Entry ι κ α)} (hp : filed.Perm filed') :
    Filed entries filed' where
  nodup := (hp.map _).nodup_iff.mp h.nodup
  mem e he := h.mem e (hp.mem_iff.mpr he)
  covers e he := by
    obtain ⟨f, hf, hle⟩ := h.covers e he
    exact ⟨f, hp.mem_iff.mp hf, hle⟩

end Filed

variable [DecidableEq ι]

/-- File an entry: under a new identifier at the end, else in the place of an entry with a smaller
key. -/
def file (filed : List (Entry ι κ α)) (e : Entry ι κ α) : List (Entry ι κ α) :=
  if filed.any (·.id = e.id) then
    filed.map fun f => if f.id = e.id ∧ f.key < e.key then e else f
  else filed ++ [e]

def latest (entries : List (Entry ι κ α)) : List (Entry ι κ α) := entries.foldl file []

/-- The latest entries, in the order of their keys. -/
def ranking (entries : List (Entry ι κ α)) : List (Entry ι κ α) :=
  (latest entries).insertionSort fun e f => e.key ≤ f.key

theorem replaced_id (e f : Entry ι κ α) :
    (if f.id = e.id ∧ f.key < e.key then e else f).id = f.id := by
  split
  · next hf => exact hf.1.symm
  · rfl

theorem Filed.file {entries filed : List (Entry ι κ α)} (h : Filed entries filed)
    (e : Entry ι κ α) :
    Filed (entries ++ [e]) (file filed e) := by
  unfold Ranking.file
  split
  · next hany =>
    have hle : ∀ f : Entry ι κ α, f.key ≤ (if f.id = e.id ∧ f.key < e.key then e else f).key := by
      intro f
      split
      · next hf => exact hf.2.le
      · exact le_rfl
    refine ⟨?_, ?_, ?_⟩
    · rw [List.map_map]
      exact (List.map_congr_left (l := filed) fun f _ => replaced_id e f) ▸ h.nodup
    · intro g hg
      obtain ⟨f, hf, rfl⟩ := List.mem_map.mp hg
      split
      · exact List.mem_append_right _ (List.mem_singleton_self e)
      · exact List.mem_append_left _ (h.mem f hf)
    · intro g hg
      rcases List.mem_append.mp hg with hg | hg
      · obtain ⟨f, hf, hfid, hfle⟩ := h.covers g hg
        exact ⟨_, List.mem_map_of_mem hf, (replaced_id e f).trans hfid,
          hfle.trans (hle f)⟩
      · rw [List.mem_singleton.mp hg]
        obtain ⟨f, hf, hfid⟩ := List.any_eq_true.mp hany
        have hfid : f.id = e.id := of_decide_eq_true hfid
        refine ⟨_, List.mem_map_of_mem hf, (replaced_id e f).trans hfid, ?_⟩
        split
        · exact le_rfl
        · next hlt => exact not_lt.mp fun hlt' => hlt ⟨hfid, hlt'⟩
  · next hany =>
    have hnew : ∀ f ∈ filed, f.id ≠ e.id := by simpa using hany
    refine ⟨?_, ?_, ?_⟩
    · rw [List.map_append, List.nodup_append]
      refine ⟨h.nodup, by simp, ?_⟩
      intro i hi j hj
      obtain ⟨f, hf, rfl⟩ := List.mem_map.mp hi
      rw [List.map_singleton, List.mem_singleton] at hj
      exact hj ▸ hnew f hf
    · intro g hg
      exact List.mem_append.mpr ((List.mem_append.mp hg).imp_left (h.mem g))
    · intro g hg
      rcases List.mem_append.mp hg with hg | hg
      · obtain ⟨f, hf, hle⟩ := h.covers g hg
        exact ⟨f, List.mem_append_left _ hf, hle⟩
      · exact ⟨g, List.mem_append_right _ hg, rfl, le_rfl⟩

theorem latest_append (entries : List (Entry ι κ α)) (e : Entry ι κ α) :
    latest (entries ++ [e]) = file (latest entries) e := by
  rw [latest, List.foldl_append]
  rfl

theorem latest_filed (entries : List (Entry ι κ α)) : Filed entries (latest entries) := by
  induction entries using List.reverseRec with
  | nil => exact ⟨List.nodup_nil, by simp [latest], by simp⟩
  | append_singleton entries e ih =>
    rw [latest_append]
    exact ih.file e

/-- A replaced entry keeps its identifier, so that the same one is found. -/
theorem find?_replaced (filed : List (Entry ι κ α)) (e : Entry ι κ α) (i : ι) :
    (filed.map fun f => if f.id = e.id ∧ f.key < e.key then e else f).find? (·.id = i) =
      (filed.find? (·.id = i)).map fun f => if f.id = e.id ∧ f.key < e.key then e else f := by
  rw [List.find?_map]
  congr 2
  funext f
  rw [Function.comp_apply, replaced_id]

theorem find?_file_of_ne {filed : List (Entry ι κ α)} {e : Entry ι κ α} {i : ι} (h : e.id ≠ i) :
    (file filed e).find? (·.id = i) = filed.find? (·.id = i) := by
  unfold file
  split
  · rw [find?_replaced]
    cases hf : filed.find? (·.id = i) with
    | none => rfl
    | some f =>
      have hid : f.id = i := by simpa using List.find?_some hf
      rw [Option.map_some, if_neg fun hfe => h (hfe.1.symm.trans hid)]
  · rw [List.find?_append]
    simp [h]

theorem find?_file_self (filed : List (Entry ι κ α)) (e : Entry ι κ α) :
    (file filed e).find? (·.id = e.id) = some ((filed.find? (·.id = e.id)).elim e fun f =>
      if f.key < e.key then e else f) := by
  unfold file
  split
  · next hany =>
    rw [find?_replaced]
    cases hf : filed.find? (·.id = e.id) with
    | none => exact absurd hany (by simpa using hf)
    | some f =>
      have hid : f.id = e.id := by simpa using List.find?_some hf
      simp [hid]
  · next hany =>
    have hnone : filed.find? (·.id = e.id) = none := by simpa using hany
    rw [List.find?_append, hnone]
    simp

/-- What is filed under an identifier is the greatest entry that has it. -/
theorem latest_find? (entries : List (Entry ι κ α)) (i : ι) :
    ((latest entries).find? (·.id = i)).map (fun e => (e.key, e.item)) =
      greatest ((entries.filter (·.id = i)).map fun e => (e.key, e.item)) := by
  induction entries using List.reverseRec with
  | nil => rfl
  | append_singleton entries e ih =>
    rw [latest_append, List.filter_append]
    by_cases h : e.id = i
    · subst h
      rw [find?_file_self, List.filter_cons_of_pos (by simp), List.filter_nil, List.map_append,
        List.map_singleton, greatest_concat, ← ih]
      cases (latest entries).find? (·.id = e.id) with
      | none => rfl
      | some f =>
        simp only [Option.elim_some, Option.map_some, better]
        split <;> rfl
    · rw [find?_file_of_ne h, List.filter_cons_of_neg (by simpa using h), List.filter_nil,
        List.append_nil, ih]

theorem ranking_filed (entries : List (Entry ι κ α)) : Filed entries (ranking entries) :=
  (latest_filed entries).perm (List.perm_insertionSort _ _).symm

theorem ranking_sorted (entries : List (Entry ι κ α)) :
    (ranking entries).Pairwise fun e f => e.key ≤ f.key := by
  have : Std.Total fun e f : Entry ι κ α => e.key ≤ f.key := ⟨fun e f => le_total e.key f.key⟩
  have : IsTrans (Entry ι κ α) fun e f => e.key ≤ f.key := ⟨fun _ _ _ => le_trans⟩
  exact List.pairwise_insertionSort _ _

/-- The entry that the ranking has under an identifier is the greatest that has it. -/
theorem ranking_greatest {entries : List (Entry ι κ α)} {e : Entry ι κ α}
    (h : e ∈ ranking entries) :
    greatest ((entries.filter (·.id = e.id)).map fun f => (f.key, f.item)) =
      some (e.key, e.item) := by
  have hmem : e ∈ latest entries := (List.perm_insertionSort _ _).mem_iff.mp h
  rw [← latest_find?]
  cases hf : (latest entries).find? (·.id = e.id) with
  | none => exact absurd (List.find?_eq_none.mp hf e hmem) (by simp)
  | some f =>
    have hid : f.id = e.id := by simpa using List.find?_some hf
    rw [(latest_filed entries).inj (List.mem_of_find?_eq_some hf) hmem hid]
    rfl

/-- If no two entries have the same key, the ranking depends only on which entries there are. -/
theorem ranking_perm {entries entries' : List (Entry ι κ α)} (h : entries.Perm entries')
    (hinj : ∀ e ∈ entries, ∀ f ∈ entries, e.key = f.key → e = f) :
    ranking entries = ranking entries' := by
  have hr := ranking_filed entries
  have hr' := ranking_filed entries'
  have hmem : ∀ e, e ∈ ranking entries ↔ e ∈ ranking entries' := by
    have key : ∀ {es es' : List (Entry ι κ α)}, es.Perm es' →
        (∀ e ∈ es, ∀ f ∈ es, e.key = f.key → e = f) → ∀ e, e ∈ ranking es → e ∈ ranking es' := by
      intro es es' hp hi e he
      have hes := (ranking_filed es).mem e he
      obtain ⟨f, hf, hid, hle⟩ := (ranking_filed es').covers e (hp.mem_iff.mp hes)
      have hfes := hp.mem_iff.mpr ((ranking_filed es').mem f hf)
      rw [hi e hes f hfes (le_antisymm hle ((ranking_filed es).le hfes he hid))]
      exact hf
    refine fun e => ⟨key h hinj e, key h.symm ?_ e⟩
    exact fun e he f hf => hinj e (h.mem_iff.mpr he) f (h.mem_iff.mpr hf)
  have hperm := (List.perm_ext_iff_of_nodup hr.nodup.of_map hr'.nodup.of_map).mpr hmem
  refine List.Perm.eq_of_pairwise ?_ (ranking_sorted entries) (ranking_sorted entries') hperm
  intro e f he hf hle hle'
  exact hinj e (hr.mem e he) f (h.mem_iff.mpr (hr'.mem f hf)) (le_antisymm hle hle')

/-- Where the keys follow a rank that tells the identifiers apart, so does the ranking. -/
theorem ranking_rank [LinearOrder τ] (rank : Entry ι κ α → τ) {entries : List (Entry ι κ α)}
    (hid : ∀ e ∈ entries, ∀ f ∈ entries, rank e = rank f → e.id = f.id)
    (hkey : ∀ e ∈ entries, ∀ f ∈ entries, rank e < rank f → e.key < f.key) :
    ((ranking entries).map rank).Pairwise (· < ·) := by
  have hr := ranking_filed entries
  rw [List.pairwise_map]
  refine ((ranking_sorted entries).and (List.pairwise_map.mp hr.nodup)).imp_of_mem ?_
  intro e f he hf ⟨hle, hne⟩
  have he := hr.mem e he
  have hf := hr.mem f hf
  refine lt_of_le_of_ne (not_lt.mp fun hlt => ?_) fun heq => hne (hid e he f hf heq)
  exact absurd hle (not_le.mpr (hkey f hf e he hlt))

/-! ### Items of another kind -/

/-- Entries with the same identifier and key, and related items. -/
structure Entry.Alike {β : Type} (R : α → β → Prop) (e : Entry ι κ α) (f : Entry ι κ β) : Prop where
  id : e.id = f.id
  key : e.key = f.key
  item : R e.item f.item

section Alike

variable {β : Type} {R : α → β → Prop}

theorem file_alike {filed : List (Entry ι κ α)} {filed' : List (Entry ι κ β)} {e : Entry ι κ α}
    {f : Entry ι κ β} (h : List.Forall₂ (Entry.Alike R) filed filed') (he : e.Alike R f) :
    List.Forall₂ (Entry.Alike R) (file filed e) (file filed' f) := by
  have hany : filed.any (·.id = e.id) = filed'.any (·.id = f.id) := by
    induction h with
    | nil => rfl
    | cons hg _ ih => rw [List.any_cons, List.any_cons, ih, hg.id, he.id]
  unfold file
  rw [hany]
  split
  · rw [List.forall₂_map_left_iff, List.forall₂_map_right_iff]
    refine h.imp fun g g' hg => ?_
    rw [hg.id, hg.key, he.id, he.key]
    split
    · exact he
    · exact hg
  · exact List.rel_append h (.cons he .nil)

theorem foldl_file_alike {entries filed : List (Entry ι κ α)} {entries' filed' : List (Entry ι κ β)}
    (h : List.Forall₂ (Entry.Alike R) entries entries')
    (hfiled : List.Forall₂ (Entry.Alike R) filed filed') :
    List.Forall₂ (Entry.Alike R) (entries.foldl file filed) (entries'.foldl file filed') := by
  induction h generalizing filed filed' with
  | nil => exact hfiled
  | cons he _ ih => exact ih (file_alike hfiled he)

omit [DecidableEq ι] in
theorem orderedInsert_alike {sorted : List (Entry ι κ α)} {sorted' : List (Entry ι κ β)}
    {e : Entry ι κ α} {f : Entry ι κ β} (h : List.Forall₂ (Entry.Alike R) sorted sorted')
    (he : e.Alike R f) :
    List.Forall₂ (Entry.Alike R) (sorted.orderedInsert (fun e f => e.key ≤ f.key) e)
      (sorted'.orderedInsert (fun e f => e.key ≤ f.key) f) := by
  induction h with
  | nil => exact .cons he .nil
  | cons hg hrest ih =>
    rw [List.orderedInsert_cons, List.orderedInsert_cons, he.key, hg.key]
    split
    · exact .cons he (.cons hg hrest)
    · exact .cons hg ih

/-- The ranking reads identifiers and keys only. -/
theorem ranking_alike {entries : List (Entry ι κ α)} {entries' : List (Entry ι κ β)}
    (h : List.Forall₂ (Entry.Alike R) entries entries') :
    List.Forall₂ (Entry.Alike R) (ranking entries) (ranking entries') := by
  have hlatest := foldl_file_alike h List.Forall₂.nil
  unfold ranking latest
  generalize entries.foldl file [] = latest, entries'.foldl file [] = latest' at hlatest
  induction hlatest with
  | nil => exact .nil
  | cons he _ ih => exact orderedInsert_alike ih he

end Alike

end Filing

/-- A sorted list is a prefix of one that has the same members and greater ones. -/
theorem isPrefix_of_greater [LinearOrder τ] {l l' : List τ} (h : l.Pairwise (· < ·))
    (h' : l'.Pairwise (· < ·)) (hsub : ∀ i ∈ l, i ∈ l')
    (hnew : ∀ i ∈ l', i ∈ l ∨ ∀ j ∈ l, j < i) : l <+: l' := by
  induction l generalizing l' with
  | nil => exact List.nil_prefix
  | cons a t ih =>
    cases l' with
    | nil => exact absurd (hsub a List.mem_cons_self) (by simp)
    | cons b t' =>
      rw [List.pairwise_cons] at h h'
      have hab : a = b := by
        by_contra hne
        have hlt : b < a := by
          rcases List.mem_cons.mp (hsub a List.mem_cons_self) with heq | hmem
          · exact absurd heq hne
          · exact h'.1 a hmem
        rcases hnew b List.mem_cons_self with hmem | hgt
        · rcases List.mem_cons.mp hmem with heq | hmem
          · exact hne heq.symm
          · exact absurd (h.1 b hmem) (not_lt.mpr hlt.le)
        · exact absurd (hgt a List.mem_cons_self) (not_lt.mpr hlt.le)
      subst hab
      refine List.cons_prefix_cons.mpr ⟨rfl, ih h.2 h'.2 ?_ ?_⟩
      · intro i hi
        rcases List.mem_cons.mp (hsub i (List.mem_cons_of_mem a hi)) with rfl | hmem
        · exact absurd (h.1 i hi) (lt_irrefl _)
        · exact hmem
      · intro i hi
        rcases hnew i (List.mem_cons_of_mem a hi) with hmem | hgt
        · rcases List.mem_cons.mp hmem with rfl | hmem
          · exact absurd (h'.1 i hi) (lt_irrefl _)
          · exact .inl hmem
        · exact .inr fun j hj => hgt j (List.mem_cons_of_mem a hj)

end Ranking
