import Mathlib.Data.List.Basic

/-! Texts that are split at separators: the parts that hold something else than white space, and
what they become when the lines of a text are split further. -/

namespace Lines

variable {α : Type} {p q : α → Bool}

/-- The parts of a text between separators that hold something significant. -/
def parts (p q : α → Bool) (text : List α) : List (List α) := (text.splitOnP p).filter (·.any q)

/-- A text split at many separators is split at one of them first. -/
theorem splitOnP_splitOn [BEq α] [LawfulBEq α] {a : α} (ha : p a = true) (text : List α) :
    text.splitOnP p = (text.splitOn a).flatMap (·.splitOnP p) := by
  induction text with
  | nil => rfl
  | cons c rest ih =>
    obtain ⟨line, lines, hlines⟩ := List.exists_cons_of_ne_nil (List.splitOn_ne_nil a rest)
    rw [List.splitOn_cons_eq_if_modifyHead, hlines]
    split
    · next hc =>
      rw [beq_iff_eq.mp hc, List.splitOnP_cons_eq_if_modifyHead, if_pos ha, ih, hlines]
      rfl
    · rw [List.modifyHead_cons, List.flatMap_cons, List.splitOnP_cons_eq_if_modifyHead,
        List.splitOnP_cons_eq_if_modifyHead, ih, hlines, List.flatMap_cons]
      split
      · rfl
      · obtain ⟨part, more, hparts⟩ := List.exists_cons_of_ne_nil (List.splitOnP_ne_nil p line)
        rw [hparts]
        rfl

theorem parts_splitOn [BEq α] [LawfulBEq α] {a : α} (ha : p a = true) (text : List α) :
    parts p q text = (text.splitOn a).flatMap (parts p q) := by
  rw [parts, splitOnP_splitOn ha, List.filter_flatMap]
  rfl

/-- White space at the end of a line that separates adds no part. -/
theorem parts_concat {c : α} (hp : p c = true) (line : List α) :
    parts p q (line ++ [c]) = parts p q line := by
  rw [parts, List.splitOnP_append_cons line [] hp, List.filter_append, List.splitOnP_nil]
  simp [parts]

theorem mem_splitOnP {c : α} {line : List α} (hc : c ∈ line) (hp : p c = false) :
    ∃ part ∈ line.splitOnP p, c ∈ part := by
  induction line with
  | nil => cases hc
  | cons d rest ih =>
    obtain ⟨part, more, hparts⟩ := List.exists_cons_of_ne_nil (List.splitOnP_ne_nil p rest)
    rw [List.splitOnP_cons_eq_if_modifyHead]
    rcases List.mem_cons.mp hc with rfl | hc
    · rw [if_neg (by simp [hp]), hparts]
      exact ⟨c :: part, List.mem_cons_self, List.mem_cons_self⟩
    · obtain ⟨piece, hpiece, hmem⟩ := ih hc
      split
      · exact ⟨piece, List.mem_cons_of_mem _ hpiece, hmem⟩
      · rw [hparts] at hpiece ⊢
        rcases List.mem_cons.mp hpiece with rfl | hpiece
        · exact ⟨d :: piece, List.mem_cons_self, List.mem_cons_of_mem _ hmem⟩
        · exact ⟨piece, List.mem_cons_of_mem _ hpiece, hmem⟩

/-- No part holds what its line does not. -/
theorem mem_of_mem_splitOnP {c : α} {line part : List α} (hpart : part ∈ line.splitOnP p)
    (hc : c ∈ part) : c ∈ line := by
  induction line generalizing part with
  | nil =>
    obtain rfl := List.mem_singleton.mp hpart
    exact hc
  | cons d rest ih =>
    obtain ⟨first, more, hparts⟩ := List.exists_cons_of_ne_nil (List.splitOnP_ne_nil p rest)
    rw [List.splitOnP_cons_eq_if_modifyHead] at hpart
    split at hpart
    · rcases List.mem_cons.mp hpart with rfl | hpart
      · cases hc
      · exact List.mem_cons_of_mem _ (ih hpart hc)
    · rw [hparts] at hpart
      rcases List.mem_cons.mp hpart with rfl | hpart
      · rcases List.mem_cons.mp hc with rfl | hc
        · exact List.mem_cons_self
        · exact List.mem_cons_of_mem _ (ih (hparts ▸ List.mem_cons_self) hc)
      · exact List.mem_cons_of_mem _ (ih (hparts ▸ List.mem_cons_of_mem _ hpart) hc)

/-- Where nothing significant separates, a line has a part if and only if it is significant. -/
theorem parts_eq_nil_iff (hpq : ∀ c, p c = true → q c = false) (line : List α) :
    parts p q line = [] ↔ line.any q = false := by
  rw [parts, List.filter_eq_nil_iff]
  constructor
  · intro h
    rw [List.any_eq_false]
    intro c hc hq
    have hp : p c = false := by
      by_contra hp
      rw [Bool.not_eq_false] at hp
      rw [hpq c hp] at hq
      cases hq
    obtain ⟨part, hpart, hmem⟩ := mem_splitOnP hc hp
    exact h part hpart (List.any_eq_true.mpr ⟨c, hmem, hq⟩)
  · intro h part hpart hany
    obtain ⟨c, hc, hq⟩ := List.any_eq_true.mp hany
    exact List.any_eq_false.mp h c (mem_of_mem_splitOnP hpart hc) hq

/-- The parts of a text are those of its significant lines. -/
theorem flatMap_parts (hpq : ∀ c, p c = true → q c = false) (lines : List (List α)) :
    lines.flatMap (parts p q) = (lines.filter (·.any q)).flatMap (parts p q) := by
  induction lines with
  | nil => rfl
  | cons line rest ih =>
    rw [List.flatMap_cons, List.filter_cons, ih]
    split
    · rfl
    · next h => rw [(parts_eq_nil_iff hpq line).mpr (by simpa using h), List.nil_append]

/-- A line without separators is its only part. -/
theorem parts_self {line : List α} (hline : line.any q = true) (h : ∀ c ∈ line, p c = false) :
    parts p q line = [line] := by
  rw [parts, List.splitOnP_eq_singleton h, List.filter_singleton, hline, cond_true]

theorem length_le_flatMap {β : Type} {f : α → List β} {xs : List α} (h : ∀ x ∈ xs, f x ≠ []) :
    xs.length ≤ (xs.flatMap f).length := by
  induction xs with
  | nil => exact Nat.le_refl 0
  | cons x rest ih =>
    rw [List.forall_mem_cons] at h
    have hx : 0 < (f x).length := List.length_pos_iff.mpr h.1
    have hrest := ih h.2
    rw [List.flatMap_cons, List.length_append, List.length_cons]
    omega

/-- As many results as inputs, where each input has some: each has one. -/
theorem length_flatMap_eq_iff {β : Type} {f : α → List β} {xs : List α} (h : ∀ x ∈ xs, f x ≠ []) :
    (xs.flatMap f).length = xs.length ↔ ∀ x ∈ xs, (f x).length = 1 := by
  induction xs with
  | nil => simp
  | cons x rest ih =>
    rw [List.forall_mem_cons] at h
    have hx : 0 < (f x).length := List.length_pos_iff.mpr h.1
    have hrest := length_le_flatMap h.2
    rw [List.forall_mem_cons, ← ih h.2, List.flatMap_cons, List.length_append, List.length_cons]
    omega

end Lines
