import Mathlib.Data.List.Basic

/-! Regular expressions with backtracking: the results of a pattern in the order in which an engine
tries them, what they match, and the pieces into which the leftmost matches cut a text. -/

namespace Regex

/-- A pattern.  `many` repeats a class of characters as often as possible, or, if it is not greedy,
as seldom as possible. -/
inductive Pattern
  | empty
  | char (p : Char → Bool)
  | many (greedy : Bool) (p : Char → Bool)
  | seq (r s : Pattern)
  | alt (r s : Pattern)
  | group (n : Nat) (r : Pattern)
  | notBehind (p : Char → Bool)
  | notAhead (p : Char → Bool)

/-- The place of the engine in a text, with the characters before it from the nearest on, and the
groups that are closed, the last one first. -/
structure State where
  before : List Char
  rest : List Char
  groups : List (Nat × List Char)

/-- The state behind the next characters. -/
def State.advance (s : State) (m rest : List Char) : State :=
  ⟨m.reverse ++ s.before, rest, s.groups⟩

/-- The results of a repeated class, each with what it consumes and leaves. -/
def repeated (greedy : Bool) (p : Char → Bool) : List Char → List (List Char × List Char)
  | [] => [([], [])]
  | c :: rest =>
    if p c then
      let more := (repeated greedy p rest).map fun r => (c :: r.1, r.2)
      if greedy then more ++ [([], c :: rest)] else ([], c :: rest) :: more
    else [([], c :: rest)]

namespace Pattern

/-- The results of a pattern, in the order in which they are tried. -/
def results : Pattern → State → List State
  | .empty, s => [s]
  | .char p, s =>
    match s.rest with
    | c :: rest => if p c then [s.advance [c] rest] else []
    | [] => []
  | .many greedy p, s => (repeated greedy p s.rest).map fun r => s.advance r.1 r.2
  | .seq r r', s => (r.results s).flatMap r'.results
  | .alt r r', s => r.results s ++ r'.results s
  | .group n r, s => (r.results s).map fun t =>
      { t with groups := (n, s.rest.take (s.rest.length - t.rest.length)) :: t.groups }
  | .notBehind p, s => if s.before.head?.any p then [] else [s]
  | .notAhead p, s => if s.rest.head?.any p then [] else [s]

/-- A literal text, up to a folding of the characters. -/
def folded (fold : Char → Char) : List Char → Pattern
  | [] => .empty
  | c :: rest => .seq (.char (fold · == c)) (folded fold rest)

/-- A literal text. -/
def lit (text : List Char) : Pattern := folded id text

/-- The pattern, or nothing. -/
def optional (r : Pattern) : Pattern := .alt r .empty

/-- At least one and at most `n + 1` characters of a class. -/
def upTo (p : Char → Bool) : (n : Nat) → Pattern
  | 0 => .char p
  | n + 1 => .seq (.char p) (optional (upTo p n))

/-- One pattern or another. -/
def oneOf : List Pattern → Pattern
  | [] => .char fun _ => false
  | [r] => r
  | r :: rest => .alt r (oneOf rest)

end Pattern

/-- What a pattern matched, and its groups. -/
structure Match where
  text : List Char
  groups : List (Nat × List Char)

/-- `match.group(n)`. -/
def Match.group (m : Match) (n : Nat) : Option (List Char) := (m.groups.find? (·.1 == n)).map (·.2)

/-- A character that no match covers, or a match. -/
inductive Piece
  | char (c : Char)
  | found (m : Match)

/-- The match of a pattern at a place, if it is not empty. -/
def Pattern.matchAt (r : Pattern) (before text : List Char) : Option Match :=
  match (r.results ⟨before, text, []⟩).head? with
  | some t =>
    if t.rest.length < text.length then
      some ⟨text.take (text.length - t.rest.length), t.groups⟩
    else none
  | none => none

/-- The pieces of a text behind its first `skip` characters, from left to right. -/
def Pattern.pieces (r : Pattern) : (skip : Nat) → (before text : List Char) → List Piece
  | _, _, [] => []
  | skip + 1, before, c :: rest => r.pieces skip (c :: before) rest
  | 0, before, c :: rest =>
    match r.matchAt before (c :: rest) with
    | some m => .found m :: r.pieces (m.text.length - 1) (c :: before) rest
    | none => .char c :: r.pieces 0 (c :: before) rest

namespace Piece

def found? : Piece → Option Match
  | .char _ => none
  | .found m => some m

def char? : Piece → Option Char
  | .char c => some c
  | .found _ => none

/-- The text in place of a piece. -/
def replaced {ε : Type} (f : Match → Except ε (List Char)) : Piece → Except ε (List Char)
  | .char c => .ok [c]
  | .found m => f m

end Piece

/-- `re.finditer`, for a pattern that matches no empty text. -/
def Pattern.finditer (r : Pattern) (text : List Char) : List Match :=
  (r.pieces 0 [] text).filterMap Piece.found?

/-- `re.search`, for such a pattern. -/
def Pattern.search (r : Pattern) (text : List Char) : Bool := !(r.finditer text).isEmpty

/-- `re.sub` with a function that may raise, for such a pattern. -/
def Pattern.sub {ε : Type} (r : Pattern) (f : Match → Except ε (List Char)) (text : List Char) :
    Except ε (List Char) := do
  return (← (r.pieces 0 [] text).mapM (Piece.replaced f)).flatten

/-- `re.sub` with the empty text, for such a pattern. -/
def Pattern.remove (r : Pattern) (text : List Char) : List Char :=
  (r.pieces 0 [] text).filterMap Piece.char?

/-! ### What a pattern matches -/

namespace Pattern

/-- The language of a pattern, without regard to what stands around a text. -/
def Accepts : Pattern → List Char → Prop
  | .empty, m => m = []
  | .char p, m => ∃ c, p c = true ∧ m = [c]
  | .many _ p, m => ∀ c ∈ m, p c = true
  | .seq r r', m => ∃ a b, m = a ++ b ∧ r.Accepts a ∧ r'.Accepts b
  | .alt r r', m => r.Accepts m ∨ r'.Accepts m
  | .group _ r, m => r.Accepts m
  | .notBehind _, m => m = []
  | .notAhead _, m => m = []

/-- The pattern does not look at what stands around a text. -/
def plain : Pattern → Bool
  | .empty | .char _ | .many _ _ => true
  | .seq r r' | .alt r r' => r.plain && r'.plain
  | .group _ r => r.plain
  | .notBehind _ | .notAhead _ => false

end Pattern

theorem Pattern.upTo_accepts {p : Char → Bool} {n : Nat} {m : List Char} :
    (upTo p n).Accepts m ↔ m ≠ [] ∧ m.length ≤ n + 1 ∧ ∀ c ∈ m, p c = true := by
  induction n generalizing m with
  | zero =>
    constructor
    · rintro ⟨c, hc, rfl⟩
      exact ⟨List.cons_ne_nil _ _, Nat.le_refl _, by simpa using hc⟩
    · rintro ⟨hne, hlen, hall⟩
      obtain ⟨c, m, rfl⟩ := List.exists_cons_of_ne_nil hne
      obtain rfl := List.eq_nil_of_length_eq_zero (by simpa using hlen)
      exact ⟨c, by simpa using hall, rfl⟩
  | succ n ih =>
    constructor
    · rintro ⟨_, rest, rfl, ⟨c, hc, rfl⟩, hrest | rfl⟩
      · obtain ⟨-, hlen, hall⟩ := ih.mp hrest
        exact ⟨List.cons_ne_nil _ _, by simpa using hlen, List.forall_mem_cons.mpr ⟨hc, hall⟩⟩
      · exact ⟨List.cons_ne_nil _ _, by simp, by simpa using hc⟩
    · rintro ⟨hne, hlen, hall⟩
      obtain ⟨c, m, rfl⟩ := List.exists_cons_of_ne_nil hne
      obtain ⟨hc, hall⟩ := List.forall_mem_cons.mp hall
      refine ⟨[c], m, rfl, ⟨c, hc, rfl⟩, ?_⟩
      by_cases hm : m = []
      · exact .inr hm
      · exact .inl (ih.mpr ⟨hm, by simpa using hlen, hall⟩)

theorem mem_repeated_cons {greedy : Bool} {p : Char → Bool} {c : Char} {rest : List Char}
    {r : List Char × List Char} : r ∈ repeated greedy p (c :: rest) ↔
      r = ([], c :: rest) ∨ p c = true ∧ ∃ r' ∈ repeated greedy p rest, (c :: r'.1, r'.2) = r := by
  rw [repeated]
  split
  · next hc =>
    cases greedy with
    | true => simp [hc, or_comm]
    | false => simp [hc]
  · next hc => simp [hc]

theorem mem_repeated {greedy : Bool} {p : Char → Bool} {text m left : List Char} :
    (m, left) ∈ repeated greedy p text ↔ text = m ++ left ∧ ∀ c ∈ m, p c = true := by
  induction text generalizing m with
  | nil =>
    rw [repeated, List.mem_singleton, Prod.mk.injEq]
    constructor
    · rintro ⟨rfl, rfl⟩
      exact ⟨rfl, by simp⟩
    · rintro ⟨hsplit, -⟩
      exact List.append_eq_nil_iff.mp hsplit.symm
  | cons c rest ih =>
    rw [mem_repeated_cons]
    constructor
    · rintro (heq | ⟨hc, ⟨m', left'⟩, hmem, heq⟩)
      · cases heq
        exact ⟨rfl, by simp⟩
      · cases heq
        obtain ⟨rfl, hall⟩ := ih.mp hmem
        exact ⟨rfl, List.forall_mem_cons.mpr ⟨hc, hall⟩⟩
    · rintro ⟨hsplit, hall⟩
      cases m with
      | nil => exact .inl (by rw [hsplit]; rfl)
      | cons d m =>
        obtain ⟨rfl, hrest⟩ := List.cons.inj hsplit
        obtain ⟨hd, hall⟩ := List.forall_mem_cons.mp hall
        exact .inr ⟨hd, (m, left), ih.mpr ⟨hrest, hall⟩, rfl⟩

section

variable {r : Pattern} {s t : State} {m rest before text : List Char}

/-- A result consumes a text of the language. -/
theorem Pattern.results_accepts (h : t ∈ r.results s) :
    ∃ m, s.rest = m ++ t.rest ∧ t.before = m.reverse ++ s.before ∧ r.Accepts m := by
  induction r generalizing s t with
  | empty =>
    obtain rfl := List.mem_singleton.mp h
    exact ⟨[], rfl, rfl, rfl⟩
  | char p =>
    simp only [Pattern.results] at h
    split at h
    · next c rest hrest =>
      split at h
      · next hc =>
        obtain rfl := List.mem_singleton.mp h
        exact ⟨[c], hrest, rfl, c, hc, rfl⟩
      · cases h
    · cases h
  | many greedy p =>
    obtain ⟨⟨m, left⟩, hr, rfl⟩ := List.mem_map.mp h
    obtain ⟨hsplit, hall⟩ := mem_repeated.mp hr
    exact ⟨m, hsplit, rfl, hall⟩
  | seq r r' ih ih' =>
    obtain ⟨u, hu, ht⟩ := List.mem_flatMap.mp h
    obtain ⟨a, hrest, hbefore, ha⟩ := ih hu
    obtain ⟨b, hrest', hbefore', hb⟩ := ih' ht
    refine ⟨a ++ b, ?_, ?_, a, b, rfl, ha, hb⟩
    · rw [hrest, hrest', List.append_assoc]
    · rw [hbefore', hbefore, List.reverse_append, List.append_assoc]
  | alt r r' ih ih' =>
    rcases List.mem_append.mp h with h | h
    · obtain ⟨m, hrest, hbefore, hm⟩ := ih h
      exact ⟨m, hrest, hbefore, .inl hm⟩
    · obtain ⟨m, hrest, hbefore, hm⟩ := ih' h
      exact ⟨m, hrest, hbefore, .inr hm⟩
  | group n r ih =>
    obtain ⟨u, hu, rfl⟩ := List.mem_map.mp h
    exact @ih s u hu
  | notBehind p | notAhead p =>
    simp only [Pattern.results] at h
    split at h
    · cases h
    · obtain rfl := List.mem_singleton.mp h
      exact ⟨[], rfl, rfl, rfl⟩

/-- Every text of the language is tried. -/
theorem Pattern.results_of_accepts (hplain : r.plain = true) (hrest : s.rest = m ++ rest)
    (h : r.Accepts m) : ∃ t ∈ r.results s, t.rest = rest := by
  induction r generalizing s m rest with
  | empty =>
    obtain rfl := h
    exact ⟨s, List.mem_singleton_self s, hrest⟩
  | char p =>
    obtain ⟨c, hc, rfl⟩ := h
    rw [List.singleton_append] at hrest
    refine ⟨s.advance [c] rest, ?_, rfl⟩
    simp only [Pattern.results, hrest, hc, if_true, List.mem_singleton]
  | many greedy p =>
    have hmem : (m, rest) ∈ repeated greedy p s.rest := mem_repeated.mpr ⟨hrest, h⟩
    exact ⟨s.advance m rest, List.mem_map_of_mem hmem, rfl⟩
  | seq r r' ih ih' =>
    obtain ⟨a, b, rfl, ha, hb⟩ := h
    obtain ⟨hr, hr'⟩ := Bool.and_eq_true_iff.mp hplain
    obtain ⟨u, hu, hurest⟩ := ih hr (hrest.trans (List.append_assoc a b rest)) ha
    obtain ⟨t, ht, htrest⟩ := ih' hr' hurest hb
    exact ⟨t, List.mem_flatMap.mpr ⟨u, hu, ht⟩, htrest⟩
  | alt r r' ih ih' =>
    obtain ⟨hr, hr'⟩ := Bool.and_eq_true_iff.mp hplain
    rcases h with h | h
    · obtain ⟨t, ht, htrest⟩ := ih hr hrest h
      exact ⟨t, List.mem_append_left _ ht, htrest⟩
    · obtain ⟨t, ht, htrest⟩ := ih' hr' hrest h
      exact ⟨t, List.mem_append_right _ ht, htrest⟩
  | group n r ih =>
    obtain ⟨t, ht, htrest⟩ := ih hplain hrest h
    exact ⟨_, List.mem_map_of_mem ht, htrest⟩
  | notBehind p | notAhead p => cases hplain

/-! ### The pieces of a text -/

theorem Pattern.matchAt_some {x : Match} (h : r.matchAt before text = some x) :
    ∃ t, (r.results ⟨before, text, []⟩).head? = some t ∧ text = x.text ++ t.rest ∧
      x.text ≠ [] ∧ r.Accepts x.text ∧ x.groups = t.groups := by
  unfold Pattern.matchAt at h
  split at h
  · next t ht =>
    split at h
    · next hlt =>
      cases h
      obtain ⟨m, hsplit, -, hm⟩ := r.results_accepts (List.mem_of_head? ht)
      have htake : text.take (text.length - t.rest.length) = m := by
        rw [show text = m ++ t.rest from hsplit, List.length_append, Nat.add_sub_cancel,
          List.take_left]
      refine ⟨t, ht, ?_, ?_, ?_, rfl⟩
      · rw [htake]
        exact hsplit
      · rw [htake]
        rintro rfl
        rw [show text = t.rest from hsplit] at hlt
        omega
      · rw [htake]
        exact hm
    · cases h
  · cases h

theorem Pattern.matchAt_of_head {m : List Char}
    (h : (r.results ⟨before, text, []⟩).head? = some t) (hsplit : text = m ++ t.rest)
    (hm : m ≠ []) : r.matchAt before text = some ⟨m, t.groups⟩ := by
  have hpos : 0 < m.length := List.length_pos_of_ne_nil hm
  unfold Pattern.matchAt
  rw [h]
  dsimp only
  rw [hsplit, List.length_append, if_pos (by omega), Nat.add_sub_cancel, List.take_left]

theorem Pattern.matchAt_none (h : ∀ t ∈ r.results ⟨before, text, []⟩, t.rest = text) :
    r.matchAt before text = none := by
  unfold Pattern.matchAt
  split
  · next t ht => rw [h t (List.mem_of_head? ht), if_neg (Nat.lt_irrefl _)]
  · rfl

theorem Pattern.pieces_skip (m rest before : List Char) :
    r.pieces m.length before (m ++ rest) = r.pieces 0 (m.reverse ++ before) rest := by
  induction m generalizing before with
  | nil => rfl
  | cons c m ih =>
    rw [List.length_cons, List.cons_append, Pattern.pieces, ih, List.reverse_cons,
      List.append_assoc]
    rfl

theorem Pattern.pieces_found {x : Match} (h : r.matchAt before (x.text ++ rest) = some x)
    (hx : x.text ≠ []) : r.pieces 0 before (x.text ++ rest) =
      .found x :: r.pieces 0 (x.text.reverse ++ before) rest := by
  obtain ⟨c, m, hm⟩ := List.exists_cons_of_ne_nil hx
  rw [hm, List.cons_append] at h ⊢
  rw [Pattern.pieces, h]
  dsimp only
  rw [hm, List.length_cons, Nat.add_sub_cancel, Pattern.pieces_skip, List.reverse_cons,
    List.append_assoc]
  rfl

theorem Pattern.pieces_char {c : Char} (h : r.matchAt before (c :: rest) = none) :
    r.pieces 0 before (c :: rest) = .char c :: r.pieces 0 (c :: before) rest := by
  rw [Pattern.pieces, h]

end

/-! ### The groups of a match -/

namespace Pattern

/-- The groups in a pattern. -/
def captures : Pattern → List (Nat × Pattern)
  | .group n r => (n, r) :: r.captures
  | .seq r r' | .alt r r' => r.captures ++ r'.captures
  | _ => []

/-- The pattern matches nothing without a group of this number. -/
def sets (n : Nat) : Pattern → Bool
  | .group k r => k == n || r.sets n
  | .seq r r' => r.sets n || r'.sets n
  | .alt r r' => r.sets n && r'.sets n
  | _ => false

end Pattern

section

variable {r : Pattern} {s t : State}

/-- The groups that a result adds. -/
theorem Pattern.results_groups (h : t ∈ r.results s) : ∃ new, t.groups = new ++ s.groups ∧
    (∀ g ∈ new, ∃ r', (g.1, r') ∈ r.captures ∧ r'.Accepts g.2) ∧
    ∀ n, r.sets n = true → ∃ m, (n, m) ∈ new := by
  induction r generalizing s t with
  | empty =>
    obtain rfl := List.mem_singleton.mp h
    exact ⟨[], rfl, by simp, fun n hn => by cases hn⟩
  | char p =>
    simp only [Pattern.results] at h
    split at h
    · split at h
      · obtain rfl := List.mem_singleton.mp h
        exact ⟨[], rfl, by simp, fun n hn => by cases hn⟩
      · cases h
    · cases h
  | many greedy p =>
    obtain ⟨_, -, rfl⟩ := List.mem_map.mp h
    exact ⟨[], rfl, by simp, fun n hn => by cases hn⟩
  | seq r r' ih ih' =>
    obtain ⟨u, hu, ht⟩ := List.mem_flatMap.mp h
    obtain ⟨new, hgroups, hnew, hsets⟩ := ih hu
    obtain ⟨new', hgroups', hnew', hsets'⟩ := ih' ht
    refine ⟨new' ++ new, by rw [hgroups', hgroups, List.append_assoc], ?_, ?_⟩
    · intro g hg
      rcases List.mem_append.mp hg with hg | hg
      · obtain ⟨q, hq, haccepts⟩ := hnew' g hg
        exact ⟨q, List.mem_append_right _ hq, haccepts⟩
      · obtain ⟨q, hq, haccepts⟩ := hnew g hg
        exact ⟨q, List.mem_append_left _ hq, haccepts⟩
    · intro n hn
      rcases (Bool.or_eq_true _ _).mp hn with hn | hn
      · obtain ⟨m, hm⟩ := hsets n hn
        exact ⟨m, List.mem_append_right _ hm⟩
      · obtain ⟨m, hm⟩ := hsets' n hn
        exact ⟨m, List.mem_append_left _ hm⟩
  | alt r r' ih ih' =>
    rcases List.mem_append.mp h with h | h
    · obtain ⟨new, hgroups, hnew, hsets⟩ := ih h
      refine ⟨new, hgroups, fun g hg => ?_, fun n hn => hsets n (Bool.and_eq_true_iff.mp hn).1⟩
      obtain ⟨q, hq, haccepts⟩ := hnew g hg
      exact ⟨q, List.mem_append_left _ hq, haccepts⟩
    · obtain ⟨new, hgroups, hnew, hsets⟩ := ih' h
      refine ⟨new, hgroups, fun g hg => ?_, fun n hn => hsets n (Bool.and_eq_true_iff.mp hn).2⟩
      obtain ⟨q, hq, haccepts⟩ := hnew g hg
      exact ⟨q, List.mem_append_right _ hq, haccepts⟩
  | group k r ih =>
    obtain ⟨u, hu, rfl⟩ := List.mem_map.mp h
    obtain ⟨new, hgroups, hnew, hsets⟩ := ih hu
    obtain ⟨m, hrest, -, hm⟩ := r.results_accepts hu
    have htake : s.rest.take (s.rest.length - u.rest.length) = m := by
      rw [hrest, List.length_append, Nat.add_sub_cancel, List.take_left]
    refine ⟨(k, m) :: new, by rw [htake, hgroups]; rfl, ?_, ?_⟩
    · intro g hg
      rcases List.mem_cons.mp hg with rfl | hg
      · exact ⟨r, List.mem_cons_self, hm⟩
      · obtain ⟨q, hq, haccepts⟩ := hnew g hg
        exact ⟨q, List.mem_cons_of_mem _ hq, haccepts⟩
    · intro n hn
      rcases (Bool.or_eq_true _ _).mp hn with hn | hn
      · exact ⟨m, by rw [beq_iff_eq.mp hn]; exact List.mem_cons_self⟩
      · obtain ⟨m', hm'⟩ := hsets n hn
        exact ⟨m', List.mem_cons_of_mem _ hm'⟩
  | notBehind p | notAhead p =>
    simp only [Pattern.results] at h
    split at h
    · cases h
    · obtain rfl := List.mem_singleton.mp h
      exact ⟨[], rfl, by simp, fun n hn => by cases hn⟩

theorem Pattern.found_matchAt {x : Match} {skip : Nat} {before text : List Char}
    (h : .found x ∈ r.pieces skip before text) :
    ∃ before text, r.matchAt before text = some x := by
  induction text generalizing skip before with
  | nil => cases skip <;> cases h
  | cons c text ih =>
    cases skip with
    | succ skip => exact ih h
    | zero =>
      rw [Pattern.pieces] at h
      split at h
      · next y hy =>
        rcases List.mem_cons.mp h with h | h
        · cases h
          exact ⟨before, c :: text, hy⟩
        · exact ih h
      · rcases List.mem_cons.mp h with h | h
        · cases h
        · exact ih h

/-- A group without which the pattern matches nothing, in a match. -/
theorem Pattern.finditer_group {text : List Char} {x : Match} {n : Nat}
    (h : x ∈ r.finditer text) (hn : r.sets n = true) :
    ∃ m r', x.group n = some m ∧ (n, r') ∈ r.captures ∧ r'.Accepts m := by
  obtain ⟨piece, hpiece, hx⟩ := List.mem_filterMap.mp h
  cases piece with
  | char c => cases hx
  | found y =>
    cases hx
    obtain ⟨before, text, hat⟩ := Pattern.found_matchAt hpiece
    obtain ⟨t, ht, -, -, -, hgroups⟩ := Pattern.matchAt_some hat
    obtain ⟨new, hnew, hcaptures, hsets⟩ := Pattern.results_groups (List.mem_of_head? ht)
    rw [List.append_nil] at hnew
    obtain ⟨m, hm⟩ := hsets n hn
    have hfind : (x.groups.find? (·.1 == n)).isSome := by
      rw [hgroups, hnew, List.find?_isSome]
      exact ⟨(n, m), hm, beq_self_eq_true n⟩
    obtain ⟨g, hg⟩ := Option.isSome_iff_exists.mp hfind
    have hmem := List.mem_of_find?_eq_some hg
    rw [hgroups, hnew] at hmem
    obtain ⟨r', hr', haccepts⟩ := hcaptures g hmem
    have hgn : (g.1 == n) = true := List.find?_some (p := fun g : Nat × List Char => g.1 == n) hg
    rw [beq_iff_eq.mp hgn] at hr'
    exact ⟨g.2, r', by rw [Match.group, hg]; rfl, hr', haccepts⟩

end

end Regex
