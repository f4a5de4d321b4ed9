import Mathlib.Tactic.IntervalCases

/-! The Gregorian calendar, continued before its introduction: dates, and their number in the order
of days, which starts with 1 on the first day of the year 1. -/

namespace Calendar

def isLeap (year : Nat) : Bool := year % 4 = 0 && (year % 100 ≠ 0 || year % 400 = 0)

def daysInMonth (year month : Nat) : Nat :=
  if month = 2 ∧ isLeap year then 29
  else [0, 31, 28, 31, 30, 31, 30, 31, 31, 30, 31, 30, 31].getD month 0

/-- The days of the years before a year. -/
def daysBeforeYear (year : Nat) : Nat :=
  let y := year - 1
  y * 365 + y / 4 - y / 100 + y / 400

/-- The days of a year before a month. -/
def daysBeforeMonth (year month : Nat) : Nat :=
  [0, 0, 31, 59, 90, 120, 151, 181, 212, 243, 273, 304, 334].getD month 0 +
    (if 2 < month ∧ isLeap year then 1 else 0)

/-- A day of the calendar. -/
structure Date where
  year : Nat
  month : Nat
  day : Nat
  year_pos : 1 ≤ year
  month_mem : 1 ≤ month ∧ month ≤ 12
  day_mem : 1 ≤ day ∧ day ≤ daysInMonth year month

namespace Date

/-- The date of three numbers, if there is one. -/
def of? (year month day : Nat) : Option Date :=
  if h : 1 ≤ year ∧ (1 ≤ month ∧ month ≤ 12) ∧ (1 ≤ day ∧ day ≤ daysInMonth year month) then
    some ⟨year, month, day, h.1, h.2.1, h.2.2⟩
  else none

def ordinal (date : Date) : Nat :=
  daysBeforeYear date.year + daysBeforeMonth date.year date.month + date.day

/-- The order of dates by their numbers. -/
def Before (d e : Date) : Prop :=
  d.year < e.year ∨ d.year = e.year ∧ (d.month < e.month ∨ d.month = e.month ∧ d.day < e.day)

theorem of?_eq (date : Date) : of? date.year date.month date.day = some date :=
  dif_pos ⟨date.year_pos, date.month_mem, date.day_mem⟩

end Date

theorem isLeap_iff (year : Nat) :
    isLeap year = true ↔ year % 4 = 0 ∧ (year % 100 ≠ 0 ∨ year % 400 = 0) := by
  simp [isLeap]

/-- A month ends before the next one begins. -/
theorem daysBeforeMonth_add_le (year : Nat) {month month' : Nat} (h : month < month')
    (hLow : 1 ≤ month) (hHigh : month' ≤ 12) :
    daysBeforeMonth year month + daysInMonth year month ≤ daysBeforeMonth year month' := by
  have hMonth : month ≤ 11 := by omega
  unfold daysBeforeMonth daysInMonth
  cases isLeap year <;> interval_cases month <;> interval_cases month' <;> decide

/-- The length of a year. -/
def daysInYear (year : Nat) : Nat := if isLeap year then 366 else 365

/-- December ends with the year. -/
theorem daysBeforeMonth_add_le_year (year : Nat) {month : Nat} (hLow : 1 ≤ month)
    (hHigh : month ≤ 12) :
    daysBeforeMonth year month + daysInMonth year month ≤ daysInYear year := by
  unfold daysBeforeMonth daysInMonth daysInYear
  cases isLeap year <;> interval_cases month <;> decide

theorem daysBeforeYear_succ {year : Nat} (h : 1 ≤ year) :
    daysBeforeYear (year + 1) = daysBeforeYear year + daysInYear year := by
  obtain ⟨y, rfl⟩ : ∃ y, year = y + 1 := ⟨year - 1, by omega⟩
  have hCenturies : y / 100 ≤ y / 4 := by omega
  have hLeap : daysInYear (y + 1) + (if 100 ∣ y + 1 then 1 else 0) =
      365 + (if 4 ∣ y + 1 then 1 else 0) + (if 400 ∣ y + 1 then 1 else 0) := by
    simp only [daysInYear, isLeap_iff, Nat.dvd_iff_mod_eq_zero]
    split_ifs <;> omega
  have hCentury : (if 100 ∣ y + 1 then 1 else 0) ≤ 1 := by split_ifs <;> decide
  simp only [daysBeforeYear, Nat.add_sub_cancel, Nat.succ_div]
  omega

theorem daysBeforeYear_mono {year year' : Nat} (h : year ≤ year') :
    daysBeforeYear year ≤ daysBeforeYear year' := by
  induction h with
  | refl => exact Nat.le_refl _
  | @step year' _ ih =>
    rcases Nat.eq_zero_or_pos year' with rfl | hPos
    · exact ih
    · rw [daysBeforeYear_succ hPos]
      exact Nat.le_add_right_of_le ih

namespace Date

variable {d e : Date}

/-- A later date has a greater number. -/
theorem ordinal_lt (h : d.Before e) : d.ordinal < e.ordinal := by
  have hDay := d.day_mem.2
  have hFirst := e.day_mem.1
  unfold ordinal
  rcases h with hYear | ⟨hYear, hMonth | ⟨hMonth, h⟩⟩
  · have hNext := daysBeforeYear_mono (show d.year + 1 ≤ e.year from hYear)
    rw [daysBeforeYear_succ d.year_pos] at hNext
    have hEnd := daysBeforeMonth_add_le_year d.year d.month_mem.1 d.month_mem.2
    omega
  · rw [← hYear]
    have hEnd := daysBeforeMonth_add_le d.year hMonth d.month_mem.1 e.month_mem.2
    omega
  · rw [← hYear, ← hMonth]
    omega

theorem before_trichotomy (d e : Date) : d.Before e ∨ d = e ∨ e.Before d := by
  by_cases hSame : d.year = e.year ∧ d.month = e.month ∧ d.day = e.day
  · obtain ⟨hYear, hMonth, hDay⟩ := hSame
    refine .inr (.inl ?_)
    cases d
    cases e
    cases hYear
    cases hMonth
    cases hDay
    rfl
  · have hEither : d.Before e ∨ e.Before d := by
      unfold Before
      omega
    exact hEither.imp id .inr

/-- Dates with the same number are the same. -/
theorem ordinal_inj (h : d.ordinal = e.ordinal) : d = e := by
  rcases before_trichotomy d e with hBefore | heq | hBefore
  · exact absurd h (Nat.ne_of_lt (ordinal_lt hBefore))
  · exact heq
  · exact absurd h (Nat.ne_of_gt (ordinal_lt hBefore))

/-- The numbers of dates are in the order of the dates. -/
theorem ordinal_lt_iff : d.ordinal < e.ordinal ↔ d.Before e := by
  refine ⟨fun h => ?_, ordinal_lt⟩
  rcases before_trichotomy d e with hBefore | rfl | hBefore
  · exact hBefore
  · exact absurd h (Nat.lt_irrefl _)
  · exact absurd (ordinal_lt hBefore) (Nat.lt_asymm h)

theorem day_le_31 (date : Date) : date.day ≤ 31 := by
  have hLow := date.month_mem.1
  have hHigh := date.month_mem.2
  have hDay := date.day_mem.2
  unfold daysInMonth at hDay
  generalize date.month = month at *
  refine hDay.trans ?_
  cases isLeap date.year <;> interval_cases month <;> decide

/-- The numbers of the days of a year. -/
theorem ordinal_bounds (date : Date) : daysBeforeYear date.year < date.ordinal ∧
    date.ordinal ≤ daysBeforeYear (date.year + 1) := by
  have hEnd := daysBeforeMonth_add_le_year date.year date.month_mem.1 date.month_mem.2
  have hDay := date.day_mem
  rw [daysBeforeYear_succ date.year_pos]
  unfold ordinal
  omega

end Date

/-! ### The years of an era

An era is 400 years from the first of March on; it has 146097 days. -/

/-- The days of an era before a year of it. -/
def eraStart (year : Nat) : Nat := 365 * year + year / 4 - year / 100

/-- The year of a day of an era. -/
def eraYear (day : Nat) : Nat := (day - day / 1460 + day / 36524 - day / 146096) / 365

theorem eraYear_mono {day day' : Nat} (h : day ≤ day') (hEra : day' < 146097) :
    eraYear day ≤ eraYear day' := by
  induction h with
  | refl => exact Nat.le_refl _
  | @step day' _ ih =>
    -- the quotients that are subtracted do not both grow on one day
    have hStep : eraYear day' ≤ eraYear (day' + 1) := by
      refine Nat.div_le_div_right ?_
      omega
    exact Nat.le_trans (ih (Nat.lt_of_succ_lt hEra)) hStep

theorem eraYear_ends : ∀ year < 400, eraYear (eraStart year) = year ∧
    (year < 399 → eraYear (eraStart (year + 1) - 1) = year) := by decide +kernel

/-- The year of a day has begun, and the next one has not. -/
theorem eraYear_bounds {day : Nat} (h : day < 146097) : eraYear day < 400 ∧
    eraStart (eraYear day) ≤ day ∧ (day < eraStart (eraYear day + 1) ∨ eraYear day = 399) := by
  have hYear : eraYear day ≤ 399 := by
    have hLast : eraYear 146096 = 399 := by decide
    exact hLast ▸ eraYear_mono (Nat.le_of_lt_succ h) (by decide)
  refine ⟨by omega, ?_, ?_⟩
  · by_contra hNot
    have hPos : eraYear day ≠ 0 := fun hZero => hNot (by rw [hZero]; exact Nat.zero_le _)
    have hEnd := (eraYear_ends (eraYear day - 1) (by omega)).2 (by omega)
    rw [Nat.sub_add_cancel (by omega)] at hEnd
    have hLe := eraYear_mono (show day ≤ eraStart (eraYear day) - 1 by omega) (by
      unfold eraStart at hNot ⊢
      omega)
    omega
  · by_contra hNot
    rw [not_or, Nat.not_lt] at hNot
    have hStart := (eraYear_ends (eraYear day + 1) (by omega)).1
    have hLe := eraYear_mono hNot.1 h
    omega

theorem isLeap_add_era (year era : Nat) : isLeap (year + era * 400) = isLeap year := by
  rw [Bool.eq_iff_iff, isLeap_iff, isLeap_iff]
  omega

/-- The last day of a year that begins in March may be the 29th of February. -/
theorem day_le {day year : Nat} (h : day < 146097)
    (hNext : day < eraStart (year + 1) ∨ year = 399) : day - eraStart year ≤ 364 ∨
      day - eraStart year = 365 ∧ isLeap (year + 1) = true := by
  rcases hNext with hNext | rfl
  · have hCenturies : year / 100 ≤ year / 4 := by omega
    have hCentury : year / 100 ≤ (year + 1) / 100 := Nat.div_le_div_right (Nat.le_succ year)
    rw [isLeap_iff]
    by_cases hFour : (year + 1) % 4 = 0 ∧ (year + 1) % 100 ≠ 0
    · have hQuarter : (year + 1) / 4 = year / 4 + 1 := by omega
      unfold eraStart at hNext ⊢
      omega
    · have hQuarter : (year + 1) / 4 + year / 100 ≤ year / 4 + (year + 1) / 100 := by
        by_cases hDvd : (year + 1) % 4 = 0
        · have hHundred : (year + 1) / 100 = year / 100 + 1 := by omega
          omega
        · have hSame : (year + 1) / 4 = year / 4 := by omega
          omega
      left
      unfold eraStart at hNext ⊢
      omega
  · rw [show eraStart 399 = 145731 from rfl]
    rcases Nat.lt_or_ge day 146096 with hDay | hDay
    · exact .inl (by omega)
    · exact .inr ⟨by omega, rfl⟩

/-- The days before a year that ends in an era, which begins with the first of March. -/
theorem daysBeforeYear_era {year : Nat} (h : year < 400) (era : Nat) :
    daysBeforeYear (year + era * 400 + 1) = 146097 * era + eraStart year := by
  simp only [daysBeforeYear, eraStart, Nat.add_sub_cancel]
  omega

/-- The months from March on, by the days since the first of March. -/
theorem month_eq (year : Nat) {march : Nat} (h : march < 10) :
    daysBeforeMonth year (march + 3) =
        59 + (153 * march + 2) / 5 + (if isLeap year then 1 else 0) ∧
      daysInMonth year (march + 3) = (153 * (march + 1) + 2) / 5 - (153 * march + 2) / 5 := by
  unfold daysBeforeMonth daysInMonth
  cases isLeap year <;> interval_cases march <;> decide

end Calendar
