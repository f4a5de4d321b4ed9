import Mathlib.Data.List.Basic

/-! `str.replace`: the occurrences of a text, from left to right and not overlapping, and what
stands in their place. -/

namespace Strings

/-- `text.replace(old, new)` of a text that is not empty; `skip` characters belong to an occurrence
already replaced. -/
def replaceFrom (old new : List Char) : (skip : Nat) → (text : List Char) → List Char
  | _, [] => []
  | 0, c :: text =>
    if old.isPrefixOf (c :: text) then new ++ replaceFrom old new (old.length - 1) text
    else c :: replaceFrom old new 0 text
  | skip + 1, _ :: text => replaceFrom old new skip text

/-- `text.replace(old, new)`. -/
def replace (old new text : List Char) : List Char := replaceFrom old new 0 text

example : replace "ab".toList "x".toList "cababa".toList = "cxxa".toList := by decide

variable {old new : List Char}

/-- A text without the first character of an occurrence stays as it is. -/
theorem replace_append {c : Char} {text : List Char} (hOld : old.head? = some c) (h : c ∉ text)
    (rest : List Char) : replace old new (text ++ rest) = text ++ replace old new rest := by
  unfold replace
  induction text with
  | nil => rfl
  | cons d text ih =>
    rw [List.mem_cons, not_or] at h
    obtain ⟨tail, rfl⟩ : ∃ tail, old = c :: tail := by
      cases old with
      | nil => cases hOld
      | cons e tail => exact ⟨tail, by simpa using hOld⟩
    have hPrefix : (c :: tail).isPrefixOf (d :: (text ++ rest)) = false := by
      rw [List.isPrefixOf_cons_cons, beq_eq_false_iff_ne.mpr h.1, Bool.false_and]
    rw [List.cons_append, List.cons_append, replaceFrom, hPrefix, if_neg Bool.false_ne_true,
      ih h.2]

/-- A text that is the occurrence. -/
theorem replace_self (h : old ≠ []) : replace old new old = new := by
  have hSkip : ∀ text : List Char, replaceFrom old new text.length text = [] := by
    intro text
    induction text with
    | nil => rfl
    | cons c text ih => rwa [List.length_cons, replaceFrom]
  cases old with
  | nil => exact absurd rfl h
  | cons c old =>
    rw [replace, replaceFrom, if_pos (by simp [List.isPrefixOf_iff_prefix]), List.length_cons,
      Nat.add_sub_cancel, hSkip, List.append_nil]

end Strings
