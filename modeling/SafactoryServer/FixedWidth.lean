import Mathlib.Data.String.Basic

/-! Records of decimal numbers in columns of fixed width, with fixed texts between them: they read
back, and their texts are ordered as their numbers are. -/

namespace FixedWidth

/-! ### One column -/

/-- The last `width` decimal digits of `n`. -/
def digits : (width : Nat) → (n : Nat) → List Char
  | 0, _ => []
  | width + 1, n => digits width (n / 10) ++ [Nat.digitChar (n % 10)]

/-- The number that decimal digits make. -/
def value (text : List Char) : Nat := text.foldl (fun n c => 10 * n + (c.toNat - '0'.toNat)) 0

/-- The number in the first `width` characters of a text, and what follows it. -/
def column (width : Nat) (text : List Char) : Option (Nat × List Char) :=
  if (text.take width).length = width ∧ (text.take width).all Char.isDigit then
    some (value (text.take width), text.drop width)
  else none

@[simp] theorem length_digits (width n : Nat) : (digits width n).length = width := by
  induction width generalizing n with
  | zero => rfl
  | succ width ih => simp [digits, ih]

theorem digits_zero (width : Nat) : digits width 0 = List.replicate width '0' := by
  induction width with
  | zero => rfl
  | succ width ih =>
    rw [digits, Nat.zero_div, ih, List.replicate_succ']
    rfl

/-- The digits of a number, after as many zeros as there is room for. -/
theorem digits_eq {width n : Nat} (hWidth : 0 < width) (h : n < 10 ^ width) :
    digits width n =
      List.replicate (width - (Nat.toDigits 10 n).length) '0' ++ Nat.toDigits 10 n := by
  induction width generalizing n with
  | zero => exact absurd hWidth (Nat.lt_irrefl 0)
  | succ width ih =>
    rw [digits]
    rcases Nat.lt_or_ge n 10 with hSmall | hLarge
    · rw [Nat.toDigits_of_lt_base hSmall, Nat.div_eq_of_lt hSmall, Nat.mod_eq_of_lt hSmall,
        digits_zero]
      rfl
    · have hPos : 0 < width := by
        rcases Nat.eq_zero_or_pos width with rfl | hPos
        · rw [Nat.zero_add, Nat.pow_one] at h
          exact absurd h (Nat.not_lt.mpr hLarge)
        · exact hPos
      have hRest : n / 10 < 10 ^ width := by
        rw [Nat.pow_succ] at h
        omega
      rw [ih hPos hRest, Nat.toDigits_of_base_le (by decide) hLarge, List.length_append,
        List.length_singleton, Nat.add_sub_add_right, List.append_assoc]

theorem toNat_digitChar {d : Nat} (h : d < 10) : (Nat.digitChar d).toNat = '0'.toNat + d := by
  rw [Nat.toNat_digitChar_of_lt_ten h]
  rfl

theorem isDigit_digitChar {d : Nat} (h : d < 10) : (Nat.digitChar d).isDigit = true := by
  have hNat : (Nat.digitChar d).val.toNat = 48 + d := toNat_digitChar h
  simp only [Char.isDigit, ge_iff_le, Bool.and_eq_true, decide_eq_true_eq, UInt32.le_iff_toNat_le,
    hNat]
  exact ⟨Nat.le_add_right 48 d, show 48 + d ≤ 57 by omega⟩

theorem isDigit_digits (width n : Nat) : (digits width n).all Char.isDigit = true := by
  induction width generalizing n with
  | zero => rfl
  | succ width ih => simp [digits, ih, isDigit_digitChar (Nat.mod_lt n (by decide))]

theorem value_digits {width n : Nat} (h : n < 10 ^ width) : value (digits width n) = n := by
  induction width generalizing n with
  | zero => simpa [digits, value, eq_comm] using h
  | succ width ih =>
    have hRest : n / 10 < 10 ^ width := by
      rw [Nat.pow_succ] at h
      omega
    have hValue := ih hRest
    unfold value at hValue ⊢
    rw [digits, List.foldl_append, hValue, List.foldl_cons, List.foldl_nil,
      toNat_digitChar (Nat.mod_lt n (by decide))]
    omega

theorem column_digits {width n : Nat} (h : n < 10 ^ width) (rest : List Char) :
    column width (digits width n ++ rest) = some (n, rest) := by
  have hTake : (digits width n ++ rest).take width = digits width n :=
    List.take_left' (length_digits width n)
  have hDrop : (digits width n ++ rest).drop width = rest :=
    List.drop_left' (length_digits width n)
  rw [column, hTake, hDrop, if_pos ⟨length_digits width n, isDigit_digits width n⟩, value_digits h]

/-! ### The order of texts -/

/-- Texts whose beginnings have the same length are in the order of these beginnings. -/
theorem append_lt_append {α : Type} [LT α] {as bs : List α} (hLength : as.length = bs.length)
    (h : as < bs) (as' bs' : List α) : as ++ as' < bs ++ bs' := by
  induction as generalizing bs with
  | nil =>
    rw [List.length_nil, eq_comm, List.length_eq_zero_iff] at hLength
    subst hLength
    exact absurd h (List.not_lt_nil [])
  | cons a as ih =>
    cases bs with
    | nil => cases hLength
    | cons b bs =>
      rw [List.cons_append, List.cons_append, List.cons_lt_cons_iff]
      rw [List.cons_lt_cons_iff] at h
      exact h.imp id fun ⟨hab, h⟩ => ⟨hab, ih (Nat.succ.inj hLength) h⟩

theorem digitChar_lt {d e : Nat} (h : d < e) (he : e < 10) : Nat.digitChar d < Nat.digitChar e := by
  have hd : (Nat.digitChar d).val.toNat = 48 + d := toNat_digitChar (h.trans he)
  have he : (Nat.digitChar e).val.toNat = 48 + e := toNat_digitChar he
  rw [Char.lt_def, UInt32.lt_iff_toNat_lt, hd, he]
  omega

/-- Greater numbers have greater texts. -/
theorem digits_lt {width n m : Nat} (hm : m < 10 ^ width) (h : n < m) :
    digits width n < digits width m := by
  induction width generalizing n m with
  | zero =>
    rw [Nat.pow_zero] at hm
    omega
  | succ width ih =>
    rw [Nat.pow_succ] at hm
    have hBound : m / 10 < 10 ^ width := by omega
    rcases Nat.lt_or_ge (n / 10) (m / 10) with hHigh | hHigh
    · exact append_lt_append (by simp) (ih hBound hHigh) _ _
    · have hEq : n / 10 = m / 10 := by omega
      rw [digits, digits, hEq]
      refine List.append_left_lt (List.cons_lt_cons_iff.mpr (.inl ?_))
      exact digitChar_lt (by omega) (Nat.mod_lt m (by decide))

/-! ### Records -/

/-- The columns of a record: the width of each, and the text that follows it. -/
abbrev Layout := List (Nat × List Char)

/-- The numbers of a record, one for each column, that are not too long for it. -/
inductive Fits : Layout → List Nat → Prop
  | nil : Fits [] []
  | cons {width n : Nat} {mark : List Char} {layout : Layout} {numbers : List Nat} :
      n < 10 ^ width → Fits layout numbers → Fits ((width, mark) :: layout) (n :: numbers)

/-- The text of a record. -/
def write : Layout → List Nat → List Char
  | (width, mark) :: layout, n :: numbers => digits width n ++ mark ++ write layout numbers
  | _, _ => []

/-- What follows `mark` at the beginning of a text. -/
def expect : (mark text : List Char) → Option (List Char)
  | [], text => some text
  | c :: mark, d :: text => if c = d then expect mark text else none
  | _ :: _, [] => none

/-- The numbers of a record at the beginning of a text, and what follows it. -/
def read : Layout → List Char → Option (List Nat × List Char)
  | [], text => some ([], text)
  | (width, mark) :: layout, text => do
    let (n, text) ← column width text
    let text ← expect mark text
    let (numbers, text) ← read layout text
    return (n :: numbers, text)

theorem expect_append (mark text : List Char) : expect mark (mark ++ text) = some text := by
  induction mark with
  | nil => rfl
  | cons c mark ih => simpa [expect] using ih

variable {layout : Layout} {numbers numbers' : List Nat}

/-- A record reads back, whatever follows it. -/
theorem read_write (h : Fits layout numbers) (rest : List Char) :
    read layout (write layout numbers ++ rest) = some (numbers, rest) := by
  induction h with
  | nil => rfl
  | @cons width n mark layout numbers hn _ ih =>
    rw [write, List.append_assoc, List.append_assoc, read, column_digits hn]
    simp only [Option.bind_eq_bind, Option.bind_some, expect_append, ih]
    rfl

/-- All records of a layout have the same length. -/
theorem length_write (h : Fits layout numbers) (h' : Fits layout numbers') :
    (write layout numbers).length = (write layout numbers').length := by
  induction h generalizing numbers' with
  | nil =>
    cases h'
    rfl
  | cons _ _ ih =>
    cases h' with
    | cons _ h' => simp only [write, List.length_append, length_digits, ih h']

/-- A record is made of digits and of the texts between its columns. -/
theorem mem_write {c : Char} (h : c ∈ write layout numbers) :
    c.isDigit = true ∨ ∃ field ∈ layout, c ∈ field.2 := by
  induction layout generalizing numbers with
  | nil => cases numbers <;> cases h
  | cons field layout ih =>
    obtain ⟨width, mark⟩ := field
    cases numbers with
    | nil => cases h
    | cons n numbers =>
      rw [write, List.mem_append, List.mem_append] at h
      rcases h with (hDigit | hMark) | hRest
      · exact .inl (List.all_eq_true.mp (isDigit_digits width n) c hDigit)
      · exact .inr ⟨_, List.mem_cons_self, hMark⟩
      · exact (ih hRest).imp id fun ⟨field, hField, hc⟩ =>
          ⟨field, List.mem_cons_of_mem _ hField, hc⟩

/-- A smaller record has a smaller text. -/
theorem write_lt (h : Fits layout numbers) (h' : Fits layout numbers') (hlt : numbers < numbers') :
    write layout numbers < write layout numbers' := by
  induction h generalizing numbers' with
  | nil =>
    cases h'
    exact absurd hlt (List.not_lt_nil [])
  | @cons width n mark layout numbers hn _ ih =>
    cases h' with
    | @cons _ m _ _ numbers' hm h' =>
      simp only [write, List.append_assoc]
      rcases List.cons_lt_cons_iff.mp hlt with hlt | ⟨rfl, hRest⟩
      · exact append_lt_append (by simp) (digits_lt hm hlt) _ _
      · exact List.append_left_lt (List.append_left_lt (ih h' hRest))

end FixedWidth
