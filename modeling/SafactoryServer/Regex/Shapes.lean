import SafactoryServer.Regex

/-! Shapes of patterns, and what they match: whole runs of a class, a repetition before a text, and
blocks between two texts. -/

namespace Regex

/-! ### Patterns that match whole runs of a class -/

/-- The maximal runs of a class of characters. -/
def runs (q : Char → Bool) (text : List Char) : List (List Char) :=
  (text.splitOnP fun c => !q c).filter (!·.isEmpty)

/-- The pattern between characters that are not of the class. -/
def Pattern.delimited (q : Char → Bool) (r : Pattern) : Pattern :=
  .seq (.notBehind q) (.seq r (.notAhead q))

section

variable {q : Char → Bool} {r : Pattern} {before text run rest : List Char}

theorem Pattern.delimited_accepts {m : List Char} (h : (r.delimited q).Accepts m) :
    r.Accepts m := by
  obtain ⟨_, _, rfl, rfl, _, _, rfl, hr, rfl⟩ := h
  rw [List.nil_append, List.append_nil]
  exact hr

/-- No match begins behind a character of the class. -/
theorem Pattern.delimited_behind (h : before.head?.any q = true) :
    (r.delimited q).results ⟨before, text, []⟩ = [] := by
  simp [Pattern.delimited, Pattern.results, h]

theorem Pattern.mem_delimited {t : State} (h : before.head?.any q = false) :
    t ∈ (r.delimited q).results ⟨before, text, []⟩ ↔
      t ∈ r.results ⟨before, text, []⟩ ∧ t.rest.head?.any q = false := by
  simp only [Pattern.delimited, Pattern.results, h, Bool.false_eq_true, if_false,
    List.flatMap_cons, List.flatMap_nil, List.append_nil, List.mem_flatMap]
  constructor
  · rintro ⟨u, hu, ht⟩
    split at ht
    · cases ht
    · next hnot =>
      obtain rfl := List.mem_singleton.mp ht
      exact ⟨hu, by simpa using hnot⟩
  · rintro ⟨ht, hnot⟩
    exact ⟨t, ht, by simp [hnot]⟩

/-- A result at the start of a maximal run covers the run. -/
theorem Pattern.delimited_rest (hr : ∀ m, r.Accepts m → ∀ c ∈ m, q c = true) {t : State}
    (hbefore : before.head?.any q = false) (hrun : ∀ c ∈ run, q c = true)
    (hrest : rest.head?.any q = false)
    (h : t ∈ (r.delimited q).results ⟨before, run ++ rest, []⟩) : t.rest = rest := by
  obtain ⟨ht, hnot⟩ := (Pattern.mem_delimited hbefore).mp h
  obtain ⟨m, hsplit, -, hm⟩ := r.results_accepts ht
  rcases List.append_eq_append_iff.mp (show run ++ rest = m ++ t.rest from hsplit) with
    ⟨more, hmore, hleft⟩ | ⟨more, hmore, hleft⟩
  · cases more with
    | nil => exact hleft.symm
    | cons c more =>
      rw [hleft] at hrest
      have hc := hr m hm c (by rw [hmore]; simp)
      simp [hc] at hrest
  · cases more with
    | nil => exact hleft
    | cons c more =>
      rw [hleft] at hnot
      have hc := hrun c (by rw [hmore]; simp)
      simp [hc] at hnot

/-- Inside a run there is no match. -/
theorem Pattern.delimited_inside (hbefore : before.head?.any q = true)
    (hrun : ∀ c ∈ run, q c = true) : (r.delimited q).pieces 0 before (run ++ rest) =
      run.map .char ++ (r.delimited q).pieces 0 (run.reverse ++ before) rest := by
  induction run generalizing before with
  | nil => rfl
  | cons c run ih =>
    obtain ⟨hc, hrun⟩ := List.forall_mem_cons.mp hrun
    have hnone : (r.delimited q).matchAt before (c :: (run ++ rest)) = none := by
      refine Pattern.matchAt_none fun t ht => ?_
      rw [Pattern.delimited_behind hbefore] at ht
      cases ht
    rw [List.cons_append, Pattern.pieces_char hnone, ih (by simpa using hc) hrun]
    simp

/-! The runs of a text, from left to right. -/

theorem runs_of_not {c : Char} (hc : q c = false) : runs q (c :: rest) = runs q rest := by
  rw [runs, List.splitOnP_cons_eq_if_modifyHead, if_pos (by simp [hc])]
  rfl

theorem splitOnP_run (hrun : ∀ c ∈ run, q c = true) (hrest : rest.head?.any q = false) :
    ∃ more, (run ++ rest).splitOnP (fun c => !q c) = run :: more ∧
      rest.splitOnP (fun c => !q c) = [] :: more := by
  have hnone : ∀ c ∈ run, (!q c) = false := by simpa using hrun
  cases rest with
  | nil => exact ⟨[], by rw [List.append_nil, List.splitOnP_eq_singleton hnone], rfl⟩
  | cons d rest =>
    have hd : (!q d) = true := by simpa using hrest
    refine ⟨rest.splitOnP fun c => !q c, ?_, ?_⟩
    · exact List.splitOnP_append_cons_of_forall_mem hnone d hd rest
    · have hnil : ∀ c ∈ ([] : List Char), (!q c) = false := nofun
      exact List.splitOnP_append_cons_of_forall_mem hnil d hd rest

theorem runs_run (hne : run ≠ []) (hrun : ∀ c ∈ run, q c = true)
    (hrest : rest.head?.any q = false) : runs q (run ++ rest) = run :: runs q rest := by
  obtain ⟨more, hmore, hrest⟩ := splitOnP_run hrun hrest
  rw [runs, hmore, runs, hrest, List.filter_cons_of_pos (by simpa using hne),
    List.filter_cons_of_neg (by simp)]

theorem found_chars (run : List Char) : (run.map Piece.char).filterMap Piece.found? = [] := by
  rw [List.filterMap_map, List.filterMap_eq_nil_iff]
  exact fun c _ => rfl

/-- The texts that the pieces match. -/
def matched (pieces : List Piece) : List (List Char) := (pieces.filterMap Piece.found?).map (·.text)

/-- A run of the language is matched, and no part of another run. -/
theorem Pattern.matched_run (hr : ∀ m, r.Accepts m → ∀ c ∈ m, q c = true)
    (hplain : r.plain = true) {accepts : List Char → Bool}
    (haccepts : ∀ m, accepts m = true ↔ r.Accepts m) (hbefore : before.head?.any q = false)
    (hne : run ≠ []) (hrun : ∀ c ∈ run, q c = true) (hrest : rest.head?.any q = false) :
    matched ((r.delimited q).pieces 0 before (run ++ rest)) =
      (if accepts run then [run] else []) ++
        matched ((r.delimited q).pieces 0 (run.reverse ++ before) rest) := by
  have hall := fun t ht => Pattern.delimited_rest (t := t) hr hbefore hrun hrest ht
  split
  · next hacc =>
    obtain ⟨t, ht, htrest⟩ := r.results_of_accepts (s := ⟨before, run ++ rest, []⟩) hplain rfl
      ((haccepts run).mp hacc)
    have hmem : t ∈ (r.delimited q).results ⟨before, run ++ rest, []⟩ :=
      (Pattern.mem_delimited hbefore).mpr ⟨ht, htrest ▸ hrest⟩
    have hhead := List.head?_eq_some_head (List.ne_nil_of_mem hmem)
    have hfirst := hall _ (List.head_mem (List.ne_nil_of_mem hmem))
    have hat := Pattern.matchAt_of_head hhead (by rw [hfirst]) hne
    have hpieces := Pattern.pieces_found (x := ⟨run, _⟩) hat hne
    dsimp only at hpieces
    rw [hpieces]
    rfl
  · next hacc =>
    have hnone : (r.delimited q).matchAt before (run ++ rest) = none := by
      cases hat : (r.delimited q).matchAt before (run ++ rest) with
      | none => rfl
      | some x =>
        obtain ⟨t, ht, hsplit, -, hx, -⟩ := Pattern.matchAt_some hat
        rw [hall t (List.mem_of_head? ht)] at hsplit
        rw [← List.append_cancel_right hsplit] at hx
        exact absurd ((haccepts run).mpr (Pattern.delimited_accepts hx)) hacc
    obtain ⟨c, run, rfl⟩ := List.exists_cons_of_ne_nil hne
    obtain ⟨hc, hrun⟩ := List.forall_mem_cons.mp hrun
    rw [List.cons_append] at hnone
    rw [List.cons_append, Pattern.pieces_char hnone,
      Pattern.delimited_inside (by simpa using hc) hrun, List.reverse_cons, List.append_assoc,
      matched, List.filterMap_cons_none rfl, List.filterMap_append, found_chars]
    rfl

theorem exists_run {c : Char} (hc : q c = true) (text : List Char) :
    ∃ run rest, c :: text = run ++ rest ∧ run ≠ [] ∧ (∀ c ∈ run, q c = true) ∧
      rest.head?.any q = false := by
  refine ⟨(c :: text).takeWhile q, (c :: text).dropWhile q,
    List.takeWhile_append_dropWhile.symm, ?_, ?_, ?_⟩
  · rw [List.takeWhile_cons_of_pos hc]
    exact List.cons_ne_nil _ _
  · exact List.all_eq_true.mp List.all_takeWhile
  · have hnot := List.head?_dropWhile_not q (c :: text)
    revert hnot
    cases ((c :: text).dropWhile q).head? with
    | none => simp
    | some d => simp

/-- The matches of a delimited pattern are the runs of its language. -/
theorem Pattern.matched_delimited (hr : ∀ m, r.Accepts m → ∀ c ∈ m, q c = true)
    (hplain : r.plain = true) {accepts : List Char → Bool}
    (haccepts : ∀ m, accepts m = true ↔ r.Accepts m)
    (h : before.head?.any q = false ∨ text.head?.any q = false) :
    matched ((r.delimited q).pieces 0 before text) = (runs q text).filter accepts := by
  induction hlen : text.length using Nat.strongRecOn generalizing before text with
  | ind n ih =>
    cases text with
    | nil => rfl
    | cons c text =>
      by_cases hc : q c = true
      · obtain ⟨run, rest, hsplit, hne, hrun, hrest⟩ := exists_run hc text
        have hshort : rest.length < n := by
          have := List.length_pos_of_ne_nil hne
          rw [← hlen, hsplit, List.length_append]
          omega
        rw [hsplit, Pattern.matched_run hr hplain haccepts (h.resolve_right (by simp [hc])) hne hrun
          hrest, ih _ hshort (.inr hrest) rfl, runs_run hne hrun hrest, List.filter_cons]
        split <;> rfl
      · -- a match here would be empty
        have hnone : (r.delimited q).matchAt before (c :: text) = none := by
          cases hat : (r.delimited q).matchAt before (c :: text) with
          | none => rfl
          | some x =>
            obtain ⟨t, -, hsplit, hx, hm, -⟩ := Pattern.matchAt_some hat
            obtain ⟨d, m, hd⟩ := List.exists_cons_of_ne_nil hx
            rw [hd] at hsplit
            obtain ⟨rfl, -⟩ := List.cons.inj hsplit
            exact absurd (hr _ (Pattern.delimited_accepts hm) c (by rw [hd]; simp)) hc
        have hc : q c = false := by simpa using hc
        have hnot : (c :: before).head?.any q = false ∨ text.head?.any q = false :=
          .inl (by simp [hc])
        rw [Pattern.pieces_char hnone, runs_of_not hc,
          ← ih text.length (by rw [← hlen]; simp) hnot rfl]
        rfl

end

/-! ### Repetition up to a text -/

/-- What stands before and behind the first occurrence of a text. -/
def firstOf (needle : List Char) : List Char → Option (List Char × List Char)
  | [] => if needle.isEmpty then some ([], []) else none
  | c :: rest =>
    if needle.isPrefixOf (c :: rest) then some ([], (c :: rest).drop needle.length)
    else (firstOf needle rest).map fun parts => (c :: parts.1, parts.2)

section

variable {needle text : List Char} {s : State}

/-- A literal text has one result, if it stands there. -/
theorem Pattern.lit_results (needle : List Char) (s : State) : (lit needle).results s =
    if needle.isPrefixOf s.rest then [s.advance needle (s.rest.drop needle.length)] else [] := by
  induction needle generalizing s with
  | nil => rfl
  | cons c needle ih =>
    obtain ⟨before, rest, groups⟩ := s
    cases rest with
    | nil => rfl
    | cons d rest =>
      by_cases hd : d = c
      · subst hd
        have hstep : (lit (d :: needle)).results ⟨before, d :: rest, groups⟩ =
            (lit needle).results ⟨d :: before, rest, groups⟩ := by
          simp [lit, folded, results, State.advance]
        rw [hstep, ih]
        simp [State.advance]
      · have hnot : ¬ c = d := Ne.symm hd
        simp [lit, folded, results, hd, hnot]

theorem firstOf_some {before rest : List Char} (h : firstOf needle text = some (before, rest)) :
    text = before ++ needle ++ rest := by
  induction text generalizing before with
  | nil =>
    unfold firstOf at h
    split at h
    · next hempty =>
      cases h
      rw [List.isEmpty_iff.mp hempty]
      rfl
    · cases h
  | cons c text ih =>
    unfold firstOf at h
    split at h
    · next hprefix =>
      cases h
      obtain ⟨rest, hrest⟩ := List.isPrefixOf_iff_prefix.mp hprefix
      rw [← hrest, List.drop_left, List.nil_append]
    · obtain ⟨⟨before', rest'⟩, hfirst, hparts⟩ := Option.map_eq_some_iff.mp h
      cases hparts
      rw [ih hfirst]
      rfl

/-- The first result of a lazy repetition of any characters and a text. -/
theorem Pattern.lazy_head (needle : List Char) (s : State) :
    ((Pattern.seq (.many false fun _ => true) (lit needle)).results s).head? =
      (firstOf needle s.rest).map fun parts => s.advance (parts.1 ++ needle) parts.2 := by
  obtain ⟨before, rest, groups⟩ := s
  induction rest generalizing before with
  | nil =>
    simp only [results, repeated, List.map_cons, List.map_nil, List.flatMap_cons,
      List.flatMap_nil, List.append_nil, lit_results, firstOf, State.advance]
    cases needle <;> rfl
  | cons c rest ih =>
    have hmore : (((repeated false (fun _ => true) rest).map fun r => (c :: r.1, r.2)).map
        fun r => State.advance ⟨before, c :: rest, groups⟩ r.1 r.2) =
        (repeated false (fun _ => true) rest).map fun r =>
          State.advance ⟨c :: before, rest, groups⟩ r.1 r.2 := by
      simp [State.advance]
    have hfirst := ih (c :: before)
    simp only [results] at hfirst ⊢
    rw [repeated, if_pos rfl]
    simp only [if_false, List.map_cons, List.flatMap_cons, hmore, Bool.false_eq_true]
    rw [lit_results, firstOf]
    split
    · next hprefix =>
      have hprefix : needle.isPrefixOf (c :: rest) = true := hprefix
      rw [if_pos hprefix]
      simp [State.advance]
    · next hprefix =>
      have hprefix : ¬ needle.isPrefixOf (c :: rest) = true := hprefix
      rw [if_neg hprefix, List.nil_append, hfirst, Option.map_map]
      refine congrArg (Option.map · _) (funext fun parts => ?_)
      simp [State.advance]

/-- A greedy repetition before something that goes on with no character of its class: only the
longest one counts. -/
theorem repeated_flatMap {α : Type} {p : Char → Bool} {g : List Char × List Char → List α}
    (h : ∀ m left, left.head?.any p = true → g (m, left) = []) (text : List Char) :
    (repeated true p text).flatMap g = g (text.takeWhile p, text.dropWhile p) := by
  induction text generalizing g with
  | nil => simp [repeated]
  | cons c rest ih =>
    cases hc : p c with
    | false => simp [repeated, hc]
    | true =>
      have hlast : g ([], c :: rest) = [] := h [] (c :: rest) (by simp [hc])
      have hlong := ih (g := fun r => g (c :: r.1, r.2)) fun m left hleft => h (c :: m) left hleft
      rw [repeated, if_pos hc, if_pos rfl, List.flatMap_append, List.flatMap_map, hlong,
        List.flatMap_singleton, hlast, List.append_nil, List.takeWhile_cons_of_pos hc,
        List.dropWhile_cons_of_pos hc]

/-- A group around a pattern of which the results are known. -/
theorem Pattern.group_results {r : Pattern} {n : Nat} {parts : List (List Char × List Char)}
    (h : r.results s = parts.map fun x => s.advance x.1 x.2)
    (hparts : ∀ x ∈ parts, s.rest = x.1 ++ x.2) : (Pattern.group n r).results s =
      parts.map fun x => { s.advance x.1 x.2 with groups := (n, x.1) :: s.groups } := by
  rw [results, h, List.map_map]
  refine List.map_congr_left fun x hx => ?_
  have htake : s.rest.take (s.rest.length - x.2.length) = x.1 := by
    rw [hparts x hx, List.length_append, Nat.add_sub_cancel, List.take_left]
  simp [State.advance, htake]

theorem Pattern.lit_accepts {m : List Char} (h : (lit needle).Accepts m) : m = needle := by
  induction needle generalizing m with
  | nil => exact h
  | cons c needle ih =>
    obtain ⟨_, rest, rfl, ⟨d, hd, rfl⟩, hrest⟩ := h
    rw [ih hrest]
    simpa using hd

end

/-! ### Blocks -/

/-- A block from one text to the next occurrence of another. -/
def Pattern.block (opening closing : List Char) : Pattern :=
  .seq (.lit opening) (.seq (.many false fun _ => true) (.lit closing))

/-- The text inside the block at the front of a text. -/
def blockAt (opening closing text : List Char) : Option (List Char) :=
  if opening.isPrefixOf text then (firstOf closing (text.drop opening.length)).map (·.1) else none

/-- The text outside the blocks; the first `skip` characters are inside one. -/
def outside (opening closing : List Char) : (skip : Nat) → (text : List Char) → List Char
  | _, [] => []
  | skip + 1, _ :: rest => outside opening closing skip rest
  | 0, c :: rest =>
    match blockAt opening closing (c :: rest) with
    | some inner => outside opening closing ((opening ++ inner ++ closing).length - 1) rest
    | none => c :: outside opening closing 0 rest

section

variable {opening closing : List Char}

theorem Pattern.block_matchAt (hopening : opening ≠ []) (before text : List Char) :
    (block opening closing).matchAt before text =
      (blockAt opening closing text).map fun inner => ⟨opening ++ inner ++ closing, []⟩ := by
  have hresults : (block opening closing).results ⟨before, text, []⟩ =
      ((lit opening).results ⟨before, text, []⟩).flatMap
        (Pattern.seq (.many false fun _ => true) (lit closing)).results := rfl
  rw [lit_results] at hresults
  unfold blockAt
  split at hresults
  · next hprefix =>
    rw [List.flatMap_singleton] at hresults
    have hprefix : opening.isPrefixOf text = true := hprefix
    rw [if_pos hprefix]
    obtain ⟨rest, hrest⟩ := List.isPrefixOf_iff_prefix.mp hprefix
    have hhead := congrArg List.head? hresults
    rw [lazy_head] at hhead
    have hdrop : (State.advance ⟨before, text, []⟩ opening (text.drop opening.length)).rest =
        text.drop opening.length := rfl
    rw [hdrop] at hhead
    cases hfirst : firstOf closing (text.drop opening.length) with
    | none =>
      rw [hfirst] at hhead
      unfold matchAt
      rw [hhead]
      rfl
    | some parts =>
      rw [hfirst, Option.map_some] at hhead
      have hsplit := firstOf_some hfirst
      have hne : opening ++ parts.1 ++ closing ≠ [] := by simp [hopening]
      refine (matchAt_of_head hhead ?_ hne).trans rfl
      rw [← hrest, List.drop_left] at hsplit
      rw [← hrest, hsplit]
      simp [State.advance]
  · next hprefix =>
    have hprefix : ¬ opening.isPrefixOf text = true := hprefix
    rw [if_neg hprefix]
    exact matchAt_none fun t ht => absurd (hresults ▸ ht) List.not_mem_nil

/-- What remains of a text without its blocks. -/
theorem Pattern.remove_block (hopening : opening ≠ []) (text : List Char) :
    (block opening closing).remove text = outside opening closing 0 text := by
  suffices h : ∀ skip before, ((block opening closing).pieces skip before text).filterMap
      Piece.char? = outside opening closing skip text from h 0 []
  induction text with
  | nil => intro skip before; cases skip <;> rfl
  | cons c rest ih =>
    intro skip before
    cases skip with
    | succ skip => exact ih skip (c :: before)
    | zero =>
      rw [pieces, outside, block_matchAt hopening]
      cases hblock : blockAt opening closing (c :: rest) with
      | some inner => exact ih _ (c :: before)
      | none => exact congrArg (c :: ·) (ih 0 (c :: before))

end

end Regex
