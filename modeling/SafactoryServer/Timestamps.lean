import SafactoryServer.Calendar
import SafactoryServer.Chronology
import SafactoryServer.FixedWidth
import SafactoryServer.Lifecycle
import SafactoryServer.Strings

/-! The texts of the timestamps in the control database: they denote the instants that they were
made of, to the millisecond, and the order of the texts is the order of time. -/

namespace SafactoryServer

open Calendar (Date)
open FixedWidth (Layout)

/-! ### The dates of the days -/

namespace Datetime

/-- The first instant of the year 1, and the first one after the year 9999. -/
def minInstant : Int := -719162 * 86400000000

def maxInstant : Int := 2932897 * 86400000000

/-- Python knows an instant of the years 1 to 9999. -/
def InRange (instant : Int) : Prop := minInstant ≤ instant ∧ instant < maxInstant

instance (instant : Int) : Decidable (InRange instant) :=
  inferInstanceAs (Decidable (minInstant ≤ instant ∧ instant < maxInstant))

/-- `civil`, of a day counted from the first of March of the year 0. -/
theorem civil_eq (z : Nat) :
    let day := z % 146097
    let year := Calendar.eraYear day
    let dayOfYear := day - Calendar.eraStart year
    let march := (5 * dayOfYear + 2) / 153
    let month := if march < 10 then march + 3 else march - 9
    civil (z - 719468) = (((year + z / 146097 * 400 + if month ≤ 2 then 1 else 0 : Nat) : Int),
      (month : Int), ((dayOfYear - (153 * march + 2) / 5 + 1 : Nat) : Int)) := by
  intro day year dayOfYear march month
  have hDay : day < 146097 := Nat.mod_lt z (by decide)
  obtain ⟨-, hStart, -⟩ := Calendar.eraYear_bounds hDay
  have hYear : ((day : Int) - day / 1460 + day / 36524 - day / 146096) / 365 = (year : Int) := by
    show _ = ((Calendar.eraYear day : Nat) : Int)
    unfold Calendar.eraYear
    omega
  have hDayOfYear : (day : Int) - (365 * year + (year : Int) / 4 - (year : Int) / 100) =
      (dayOfYear : Int) := by
    show _ = ((day - Calendar.eraStart year : Nat) : Int)
    change Calendar.eraStart year ≤ day at hStart
    unfold Calendar.eraStart at hStart ⊢
    omega
  have hMarch : (5 * (dayOfYear : Int) + 2) / 153 = (march : Int) := by
    show _ = (((5 * dayOfYear + 2) / 153 : Nat) : Int)
    omega
  have hMonth : (if (march : Int) < 10 then (march : Int) + 3 else march - 9) = (month : Int) := by
    show _ = ((if march < 10 then march + 3 else march - 9 : Nat) : Int)
    split_ifs <;> omega
  have hEra : ((z : Int) - 719468 + 719468) / 146097 = ((z / 146097 : Nat) : Int) := by omega
  have hOfEra :
      (z : Int) - 719468 + 719468 - ((z / 146097 : Nat) : Int) * 146097 = (day : Int) := by
    show _ = ((z % 146097 : Nat) : Int)
    omega
  have hDays : (153 * march + 2) / 5 ≤ dayOfYear := by
    show (153 * ((5 * dayOfYear + 2) / 153) + 2) / 5 ≤ dayOfYear
    omega
  simp only [civil, hEra, hOfEra, hYear, hDayOfYear, hMarch, hMonth, Prod.mk.injEq, true_and]
  refine ⟨?_, ?_⟩
  · split_ifs <;> omega
  · omega

/-- The date of a day from the first day of the year 1 on, and its number. -/
theorem exists_date {days : Int} (h : -719162 ≤ days) :
    ∃ date : Date, civil days = ((date.year : Int), (date.month : Int), (date.day : Int)) ∧
      (date.ordinal : Int) = days + 719163 := by
  obtain ⟨z, hz⟩ : ∃ z : Nat, (z : Int) = days + 719468 :=
    ⟨(days + 719468).toNat, by omega⟩
  obtain rfl : days = z - 719468 := by omega
  have hDay : z % 146097 < 146097 := Nat.mod_lt z (by decide)
  obtain ⟨hYear, hStart, hNext⟩ := Calendar.eraYear_bounds hDay
  rw [civil_eq z]
  generalize hEra : z / 146097 = era
  generalize hDayDef : z % 146097 = day at hYear hStart hNext ⊢
  generalize Calendar.eraYear day = year at hYear hStart hNext ⊢
  generalize hDayOfYear : day - Calendar.eraStart year = dayOfYear
  generalize hMarch : (5 * dayOfYear + 2) / 153 = march
  have hSplit : Calendar.daysBeforeYear (year + era * 400 + 1) + dayOfYear = z := by
    rw [Calendar.daysBeforeYear_era hYear]
    omega
  -- the last day of a year that begins in March may be the 29th of February
  have hLeap : dayOfYear ≤ 364 ∨
      dayOfYear = 365 ∧ Calendar.isLeap (year + era * 400 + 1) = true := by
    rw [show year + era * 400 + 1 = year + 1 + era * 400 by omega, Calendar.isLeap_add_era,
      ← hDayOfYear]
    exact Calendar.day_le (hDayDef ▸ hDay) hNext
  by_cases hSpring : march < 10
  · have hPos : 1 ≤ year + era * 400 := by
      by_contra hNot
      obtain ⟨rfl, rfl⟩ : year = 0 ∧ era = 0 := by omega
      rw [show Calendar.daysBeforeYear (0 + 0 * 400 + 1) = 0 from rfl] at hSplit
      omega
    obtain ⟨hMonthStart, hMonthLength⟩ := Calendar.month_eq (year + era * 400) hSpring
    have hNumber := Calendar.daysBeforeYear_succ hPos
    unfold Calendar.daysInYear at hNumber
    refine ⟨⟨year + era * 400, march + 3, dayOfYear - (153 * march + 2) / 5 + 1, hPos,
      ⟨by omega, by omega⟩, ⟨by omega, by omega⟩⟩, ?_, ?_⟩
    · rw [if_pos hSpring, if_neg (by omega)]
      rfl
    · rw [Date.ordinal, hMonthStart]
      dsimp only
      split_ifs at hNumber ⊢ <;> omega
  · obtain rfl | rfl : march = 10 ∨ march = 11 := by omega
    · refine ⟨⟨year + era * 400 + 1, 1, dayOfYear - 306 + 1, by omega, ⟨by decide, by decide⟩,
        ⟨by omega, ?_⟩⟩, rfl, ?_⟩
      · show dayOfYear - 306 + 1 ≤ 31
        omega
      · show ((Calendar.daysBeforeYear (year + era * 400 + 1) + 0 + (dayOfYear - 306 + 1) : Nat) :
          Int) = _
        omega
    · refine ⟨⟨year + era * 400 + 1, 2, dayOfYear - 337 + 1, by omega, ⟨by decide, by decide⟩,
        ⟨by omega, ?_⟩⟩, rfl, ?_⟩
      · unfold Calendar.daysInMonth
        rcases hLeap with hLeap | ⟨hLast, hLeap⟩
        · split_ifs
          · omega
          · show dayOfYear - 337 + 1 ≤ 28
            omega
        · rw [if_pos ⟨rfl, hLeap⟩]
          omega
      · show ((Calendar.daysBeforeYear (year + era * 400 + 1) + 31 + (dayOfYear - 337 + 1) : Nat) :
          Int) = _
        omega

/-- The years that Python knows have four digits. -/
theorem year_le {date : Date} (h : date.ordinal ≤ 3652059) : date.year ≤ 9999 := by
  by_contra hNot
  have hMono := Calendar.daysBeforeYear_mono (show 10000 ≤ date.year by omega)
  have hStart := date.ordinal_bounds.1
  rw [show Calendar.daysBeforeYear 10000 = 3652059 from rfl] at hMono
  omega

/-! ### The texts -/

/-- `isoformat(timespec="milliseconds")`. -/
def isoformatMillis (d : Datetime) : String :=
  let (year, month, day) := civil (d.wall / 86400000000)
  let time := (d.wall % 86400000000).toNat
  pad 4 year.toNat ++ "-" ++ pad 2 month.toNat ++ "-" ++ pad 2 day.toNat ++ "T" ++
    pad 2 (time / 3600000000) ++ ":" ++ pad 2 (time / 60000000 % 60) ++ ":" ++
    pad 2 (time / 1000000 % 60) ++ "." ++ pad 3 (time / 1000 % 1000) ++
    d.utcoffset.elim "" offsetStr

/-- `astimezone(UTC)`, where a `datetime` without a time zone counts as one of UTC. -/
def astimezoneUtc (d : Datetime) : Except PyExc Datetime :=
  if InRange d.instant then .ok ⟨d.instant, some 0⟩
  else .error (.other "OverflowError")

end Datetime

/-- `text.replace("+00:00", "Z")`. -/
def zulu (text : String) : String :=
  String.ofList (Strings.replace "+00:00".toList "Z".toList text.toList)

/-- `_timestamp` of the control store, and `serialize_utc` of the API. -/
def storedTimestamp (value : Datetime) : Except PyExc String := do
  return zulu (← value.astimezoneUtc).isoformatMillis

/-- `_timestamp` of the orchestrator. -/
def orchestratorTimestamp (value : Datetime) : String := zulu value.isoformatMillis

/-- The fraction of a second that a text begins with, in microseconds. -/
def isoFraction : List Char → Option (Nat × List Char)
  | '.' :: text =>
    let digits := text.takeWhile Char.isDigit
    if digits.length = 3 then
      some (FixedWidth.value digits * 1000, text.dropWhile Char.isDigit)
    else if digits.length = 6 then some (FixedWidth.value digits, text.dropWhile Char.isDigit)
    else none
  | text => some (0, text)

/-- The UTC offset that a text consists of, in seconds. -/
def isoOffset : List Char → Option (Option Int)
  | [] => some none
  | sign :: text =>
    match FixedWidth.read [(2, [':']), (2, [])] text with
    | some ([hour, minute], []) =>
      if (sign = '+' ∨ sign = '-') ∧ hour < 24 ∧ minute < 60 then
        let offset : Int := hour * 3600 + minute * 60
        some (some (if sign = '-' then -offset else offset))
      else none
    | _ => none

/-- A `datetime` in the extended format of ISO 8601, with milliseconds or microseconds or
neither. -/
def isoText (text : List Char) : Option Datetime := do
  let ([year, month, day], _ :: text) ←
    FixedWidth.read [(4, ['-']), (2, ['-']), (2, [])] text | none
  let ([hour, minute, second], text) ←
    FixedWidth.read [(2, [':']), (2, [':']), (2, [])] text | none
  let (micros, text) ← isoFraction text
  let utcoffset ← isoOffset text
  let date ← Date.of? year month day
  if hour < 24 ∧ minute < 60 ∧ second < 60 then
    some ⟨((date.ordinal : Int) - 719163) * 86400000000 +
      ((hour * 3600 + minute * 60 + second) * 1000000 + micros : Nat), utcoffset⟩
  else none

/-- `parse_timestamp`: what `fromisoformat` makes of texts in other formats is the interpreter's
business. -/
def parseStoredTimestamp (py : Interpreter) (value : String) : Except PyExc Datetime :=
  let text := replaceChar 'Z' "+00:00" value
  match isoText text.toList with
  | some d => .ok d
  | none => (py.fromisoformat text).elim (.error .valueError) .ok

example : (storedTimestamp ⟨1787360523500999, some 3600⟩).toOption =
    some "2026-08-22T00:02:03.500Z" := by decide +kernel

/-! ### What the texts say -/

theorem toList_pad {width n : Nat} (hWidth : 0 < width) (h : n < 10 ^ width) :
    (Datetime.pad width n).toList = FixedWidth.digits width n := by
  rw [FixedWidth.digits_eq hWidth h, Datetime.pad, String.toList_append, String.toList_ofList]
  simp [Nat.repr]

/-- The columns of a timestamp. -/
def stampLayout : Layout :=
  [(4, ['-']), (2, ['-']), (2, ['T']), (2, [':']), (2, [':']), (2, ['.']), (3, [])]

/-- The time of day of an instant, to the millisecond. -/
def timeOfDay (instant : Int) : List Nat :=
  let time := (instant % 86400000000).toNat
  [time / 3600000000, time / 60000000 % 60, time / 1000000 % 60, time / 1000 % 1000]

/-- The numbers in the text of an instant on a day. -/
def stampNumbers (date : Date) (instant : Int) : List Nat :=
  [date.year, date.month, date.day] ++ timeOfDay instant

/-- `date` is the day of an instant, and Python knows it. -/
structure DayOf (date : Date) (instant : Int) : Prop where
  civil : Datetime.civil (instant / 86400000000) =
    ((date.year : Int), (date.month : Int), (date.day : Int))
  ordinal : (date.ordinal : Int) = instant / 86400000000 + 719163
  year : date.year ≤ 9999

theorem exists_dayOf {instant : Int} (h : Datetime.InRange instant) :
    ∃ date, DayOf date instant := by
  obtain ⟨hLow, hHigh⟩ := h
  unfold Datetime.minInstant at hLow
  unfold Datetime.maxInstant at hHigh
  obtain ⟨date, hCivil, hOrdinal⟩ :=
    Datetime.exists_date (show -719162 ≤ instant / 86400000000 by omega)
  exact ⟨date, hCivil, hOrdinal, Datetime.year_le (by omega)⟩

variable {date : Date} {instant : Int}

theorem stampNumbers_fit (instant : Int) (h : date.year ≤ 9999) :
    FixedWidth.Fits stampLayout (stampNumbers date instant) := by
  have hMonth := date.month_mem.2
  have hDay := date.day_le_31
  refine .cons (by omega) (.cons (by omega) (.cons (by omega) (.cons ?_ (.cons ?_ (.cons ?_
    (.cons ?_ .nil))))))
  all_goals omega

/-- The text of an instant of UTC. -/
theorem isoformatMillis_utc (h : DayOf date instant) :
    (Datetime.isoformatMillis ⟨instant, some 0⟩).toList =
      FixedWidth.write stampLayout (stampNumbers date instant) ++ "+00:00".toList := by
  have hMonth := date.month_mem.2
  have hDay := date.day_le_31
  have hYear := h.year
  unfold Datetime.isoformatMillis
  simp only [h.civil, Int.toNat_natCast, String.toList_append]
  rw [toList_pad (by decide) (by omega), toList_pad (by decide) (by omega),
    toList_pad (by decide) (by omega), toList_pad (by decide) (by omega),
    toList_pad (by decide) (by omega), toList_pad (by decide) (by omega),
    toList_pad (by decide) (by omega)]
  simp only [stampLayout, stampNumbers, timeOfDay, FixedWidth.write, List.cons_append,
    List.nil_append, List.append_assoc, List.append_nil]
  rfl

theorem not_mem_stamp {c : Char} (h : c ∉ ['-', 'T', ':', '.']) (hDigit : c.isDigit = false)
    (numbers : List Nat) : c ∉ FixedWidth.write stampLayout numbers := by
  intro hMem
  rcases FixedWidth.mem_write hMem with hc | ⟨field, hField, hc⟩
  · rw [hDigit] at hc
    cases hc
  · simp only [stampLayout, List.mem_cons, List.not_mem_nil, or_false] at hField
    refine h ?_
    rcases hField with rfl | rfl | rfl | rfl | rfl | rfl | rfl <;> grind

/-- The text under which an instant is stored. -/
theorem storedTimestamp_eq {d : Datetime} (hRange : Datetime.InRange d.instant) :
    ∃ date, DayOf date d.instant ∧ storedTimestamp d = .ok (String.ofList
      (FixedWidth.write stampLayout (stampNumbers date d.instant) ++ ['Z'])) := by
  obtain ⟨date, h⟩ := exists_dayOf hRange
  refine ⟨date, h, ?_⟩
  rw [storedTimestamp, Datetime.astimezoneUtc, if_pos hRange]
  show Except.ok (zulu (Datetime.isoformatMillis ⟨d.instant, some 0⟩)) = _
  rw [zulu, isoformatMillis_utc h, Strings.replace_append (c := '+') rfl
    (not_mem_stamp (by decide) (by decide) _), Strings.replace_self (by decide)]
  rfl

/-- The orchestrator writes the same texts, by a clock that shows UTC. -/
theorem orchestratorTimestamp_eq {d : Datetime} (hUtc : d.utcoffset = some 0)
    (hRange : Datetime.InRange d.instant) :
    storedTimestamp d = .ok (orchestratorTimestamp d) := by
  have hWall : d.instant = d.wall := by simp [Datetime.instant, hUtc]
  rw [storedTimestamp, Datetime.astimezoneUtc, if_pos hRange, hWall, ← hUtc]
  rfl

/-- A text that a timestamp in UTC was written as. -/
theorem isoText_stamp (h : DayOf date instant) :
    isoText (FixedWidth.write stampLayout (stampNumbers date instant) ++ "+00:00".toList) =
      some ⟨parseTimestamp (timestamp instant), some 0⟩ := by
  have hMonth := date.month_mem.2
  have hDay := date.day_le_31
  have hYear := h.year
  generalize hTime : (instant % 86400000000).toNat = time
  have hSplit : FixedWidth.write stampLayout (stampNumbers date instant) ++ "+00:00".toList =
      FixedWidth.write [(4, ['-']), (2, ['-']), (2, [])] [date.year, date.month, date.day] ++
        'T' :: (FixedWidth.write [(2, [':']), (2, [':']), (2, [])]
          [time / 3600000000, time / 60000000 % 60, time / 1000000 % 60] ++
            '.' :: (FixedWidth.digits 3 (time / 1000 % 1000) ++ "+00:00".toList)) := by
    simp only [stampLayout, stampNumbers, timeOfDay, hTime, FixedWidth.write, List.cons_append,
      List.nil_append, List.append_assoc, List.append_nil]
  have hDate : FixedWidth.Fits [(4, ['-']), (2, ['-']), (2, [])]
      [date.year, date.month, date.day] :=
    .cons (by omega) (.cons (by omega) (.cons (by omega) .nil))
  have hClock : FixedWidth.Fits [(2, [':']), (2, [':']), (2, [])]
      [time / 3600000000, time / 60000000 % 60, time / 1000000 % 60] :=
    .cons (by omega) (.cons (by omega) (.cons (by omega) .nil))
  have hFraction : isoFraction ('.' :: (FixedWidth.digits 3 (time / 1000 % 1000) ++
      "+00:00".toList)) = some (time / 1000 % 1000 * 1000, "+00:00".toList) := by
    have hDigits := List.all_eq_true.mp (FixedWidth.isDigit_digits 3 (time / 1000 % 1000))
    have hTake : (FixedWidth.digits 3 (time / 1000 % 1000) ++ "+00:00".toList).takeWhile
        Char.isDigit = FixedWidth.digits 3 (time / 1000 % 1000) := by
      rw [List.takeWhile_append_of_pos hDigits]
      exact List.append_nil _
    have hDrop : (FixedWidth.digits 3 (time / 1000 % 1000) ++ "+00:00".toList).dropWhile
        Char.isDigit = "+00:00".toList := by
      rw [List.dropWhile_append_of_pos hDigits]
      rfl
    rw [isoFraction, hTake, hDrop, if_pos (FixedWidth.length_digits 3 _),
      FixedWidth.value_digits (by omega)]
  have hOffset : isoOffset "+00:00".toList = some (some 0) := by decide
  rw [isoText, hSplit, FixedWidth.read_write hDate]
  simp only [Option.bind_eq_bind, Option.bind_some]
  rw [FixedWidth.read_write hClock]
  simp only [Option.bind_some, hFraction, hOffset, Date.of?_eq]
  rw [if_pos ⟨by omega, by omega, by omega⟩, h.ordinal]
  congr 2
  unfold parseTimestamp timestamp
  omega

/-- Times of day are ordered as their numbers are. -/
theorem timeOfDay_lt {instant' : Int} (hDay : instant / 86400000000 = instant' / 86400000000)
    (h : timestamp instant < timestamp instant') : timeOfDay instant < timeOfDay instant' := by
  unfold timestamp at h
  simp only [timeOfDay, List.cons_lt_cons_iff, List.not_lt_nil, and_false, or_false]
  omega

/-- Earlier instants have smaller numbers in their texts. -/
theorem stampNumbers_lt {date' : Date} {instant' : Int} (hd : DayOf date instant)
    (hd' : DayOf date' instant') (h : timestamp instant < timestamp instant') :
    stampNumbers date instant < stampNumbers date' instant' := by
  have hOrdinal := hd.ordinal
  have hOrdinal' := hd'.ordinal
  unfold timestamp at h
  rcases Nat.lt_trichotomy date.ordinal date'.ordinal with hDay | hDay | hDay
  · have hBefore := Date.ordinal_lt_iff.mp hDay
    have hNumbers : [date.year, date.month, date.day] < [date'.year, date'.month, date'.day] := by
      simpa [Date.Before, List.cons_lt_cons_iff] using hBefore
    refine FixedWidth.append_lt_append ?_ hNumbers _ _
    rfl
  · rw [Date.ordinal_inj hDay]
    exact List.append_left_lt (timeOfDay_lt (by omega) h)
  · omega

theorem inRange_of_stored {d : Datetime} {text : String} (h : storedTimestamp d = .ok text) :
    Datetime.InRange d.instant := by
  by_contra hNot
  rw [storedTimestamp, Datetime.astimezoneUtc, if_neg hNot] at h
  cases h

theorem exists_stored {d : Datetime} (h : Datetime.InRange d.instant) :
    ∃ text, storedTimestamp d = .ok text := by
  obtain ⟨date, -, hText⟩ := storedTimestamp_eq h
  exact ⟨_, hText⟩

/-- Reading a text that was written. -/
theorem parse_storedTimestamp (py : Interpreter) {d : Datetime} {text : String}
    (h : storedTimestamp d = .ok text) :
    parseStoredTimestamp py text = .ok ⟨parseTimestamp (timestamp d.instant), some 0⟩ := by
  obtain ⟨date, hDay, hText⟩ := storedTimestamp_eq (inRange_of_stored h)
  obtain rfl := Except.ok.inj (hText.symm.trans h)
  have hZulu : ∀ chars : List Char, 'Z' ∉ chars →
      replaceChar 'Z' "+00:00" (String.ofList (chars ++ ['Z'])) =
        String.ofList (chars ++ "+00:00".toList) := by
    intro chars hNot
    simp only [replaceChar, String.toList_ofList, List.flatMap_append]
    congr 2
    refine (List.flatMap_congr fun c hc => ?_).trans (List.flatMap_singleton' chars)
    exact if_neg fun (heq : c = 'Z') => hNot (heq ▸ hc)
  rw [parseStoredTimestamp, hZulu _ (not_mem_stamp (by decide) (by decide) _)]
  simp only [String.toList_ofList, isoText_stamp hDay]

/-- What the text of a timestamp says: it can be written of the instants that Python knows, and
reading it gives the instant back, to the millisecond. -/
theorem timestamp_codec (py : Interpreter) (d : Datetime) :
    ((∃ text, storedTimestamp d = .ok text) ↔ Datetime.InRange d.instant) ∧
    ∀ text, storedTimestamp d = .ok text →
      parseStoredTimestamp py text = .ok ⟨parseTimestamp (timestamp d.instant), some 0⟩ :=
  ⟨⟨fun ⟨_, h⟩ => inRange_of_stored h, exists_stored⟩, fun _ h => parse_storedTimestamp py h⟩

/-! ### The order of the rows

SQLite compares texts by their UTF-8 bytes, which order them as the code points of their characters
do. -/

/-- The text of a stored timestamp. -/
def stampText (stamp : Int) : String :=
  match storedTimestamp ⟨parseTimestamp stamp, some 0⟩ with
  | .ok text => text
  | .error _ => ""

/-- The timestamps of the instants that Python knows. -/
def Known (stamp : Int) : Prop := Datetime.InRange (parseTimestamp stamp)

theorem known_timestamp (h : Datetime.InRange instant) : Known (timestamp instant) := by
  unfold Known Datetime.InRange parseTimestamp timestamp Datetime.minInstant
    Datetime.maxInstant at *
  omega

@[simp] theorem Datetime.instant_utc (wall : Int) : Datetime.instant ⟨wall, some 0⟩ = wall := by
  simp [Datetime.instant]

theorem timestamp_parseTimestamp (stamp : Int) : timestamp (parseTimestamp stamp) = stamp := by
  unfold timestamp parseTimestamp
  omega

/-- The text of a timestamp that can be written. -/
theorem exists_stampText {stamp : Int} (h : Known stamp) :
    ∃ date, DayOf date (parseTimestamp stamp) ∧ stampText stamp = String.ofList
      (FixedWidth.write stampLayout (stampNumbers date (parseTimestamp stamp)) ++ ['Z']) := by
  have hRange : Datetime.InRange (Datetime.instant ⟨parseTimestamp stamp, some 0⟩) := by
    rw [Datetime.instant_utc]
    exact h
  obtain ⟨date, hDay, hText⟩ := storedTimestamp_eq hRange
  rw [Datetime.instant_utc] at hDay hText
  exact ⟨date, hDay, by rw [stampText, hText]⟩

/-- Reading the text of a stored timestamp. -/
theorem parse_stampText (py : Interpreter) {stamp : Int} (h : Known stamp) :
    parseStoredTimestamp py (stampText stamp) = .ok ⟨parseTimestamp stamp, some 0⟩ := by
  have hRange : Datetime.InRange (Datetime.instant ⟨parseTimestamp stamp, some 0⟩) := by
    rw [Datetime.instant_utc]
    exact h
  obtain ⟨text, hText⟩ := exists_stored hRange
  have hParse := parse_storedTimestamp py hText
  rw [Datetime.instant_utc, timestamp_parseTimestamp] at hParse
  rwa [stampText, hText]

/-- Texts of timestamps are in the order of time. -/
theorem stampText_lt {stamp stamp' : Int} (h : Known stamp) (h' : Known stamp')
    (hlt : stamp < stamp') : stampText stamp < stampText stamp' := by
  obtain ⟨date, hDay, hText⟩ := exists_stampText h
  obtain ⟨date', hDay', hText'⟩ := exists_stampText h'
  have hNumbers := stampNumbers_lt hDay hDay' (by rwa [timestamp_parseTimestamp,
    timestamp_parseTimestamp])
  have hFits := stampNumbers_fit (parseTimestamp stamp) hDay.year
  have hFits' := stampNumbers_fit (parseTimestamp stamp') hDay'.year
  rw [hText, hText', String.lt_iff, String.toList_ofList, String.toList_ofList]
  exact FixedWidth.append_lt_append (FixedWidth.length_write hFits hFits')
    (FixedWidth.write_lt hFits hFits' hNumbers) _ _

theorem stampText_le_iff {stamp stamp' : Int} (h : Known stamp) (h' : Known stamp') :
    stampText stamp ≤ stampText stamp' ↔ stamp ≤ stamp' := by
  rcases lt_trichotomy stamp stamp' with hlt | rfl | hlt
  · exact iff_of_true (stampText_lt h h' hlt).le hlt.le
  · exact iff_of_true le_rfl le_rfl
  · exact iff_of_false (not_le.mpr (stampText_lt h' h hlt)) (not_le.mpr hlt)

/-- `answer` lists `rows` in ascending order of the texts of a column. -/
def ListedByText (rows : List ControlJob) (column : ControlJob → Int) (answer : List ControlJob) :
    Prop :=
  answer.Perm rows ∧
    answer.Pairwise fun row row' => stampText (column row) ≤ stampText (column row')

/-- Rows are listed by the texts of a column as by its times. -/
theorem listedByText_iff {rows answer : List ControlJob} {column : ControlJob → Int}
    (h : ∀ row ∈ rows, Known (column row)) :
    ListedByText rows column answer ↔ Listed rows column answer := by
  refine and_congr_right fun hPerm => ?_
  have hKnown : ∀ row ∈ answer, Known (column row) := fun row hRow => h row (hPerm.mem_iff.mp hRow)
  exact ⟨fun hSorted => hSorted.imp_of_mem fun ha hb hle =>
      (stampText_le_iff (hKnown _ ha) (hKnown _ hb)).mp hle,
    fun hSorted => hSorted.imp_of_mem fun ha hb hle =>
      (stampText_le_iff (hKnown _ ha) (hKnown _ hb)).mpr hle⟩

section

open Effect
open Relation (ReflTransGen)

variable {P : Type} {o : RealJobOrchestrator} {sv : Services P} {w₀ : World P}
  {c : Config Op Ans (World P) (Except PyExc Unit)}

/-- The clock shows an instant that Python knows. -/
def World.ClockKnown (w : World P) : Prop := Datetime.InRange w.clock

/-- The clock shows instants that Python knows, whenever it moves. -/
def Services.ClockKnown (sv : Services P) : Prop :=
  ∀ now later, sv.tick now later → Datetime.InRange now ∧ Datetime.InRange later

theorem clockKnown_preserved (hClock : sv.ClockKnown)
    (permitted : World P → Label Op Ans → World P → Prop) :
    (protocol o sv).Preserves sv.system World.ClockKnown permitted where
  interference _ hJ hStep _ := by
    cases hStep with
    | close | accept | event | drift => exact hJ
    | tick hTick => exact (hClock _ _ hTick).2
  answer _ _ _ _ _ hJ hPerforms _ := by
    unfold World.ClockKnown
    rw [Services.Performs.clock hPerforms]
    exact hJ
  crash _ hJ hCrash _ := by
    cases hCrash
    exact hJ
  lost _ _ _ _ _ hJ hPerforms hCrash _ := by
    cases hCrash
    show World.ClockKnown _
    unfold World.ClockKnown
    rw [World.restart, Services.Performs.clock hPerforms]
    exact hJ

/-- The texts of the database do what the times of the model do, in every run: what
`parse_timestamp` makes of the text of `created_at` is the instant of the model, and SQLite, which
compares the texts, lists the active Jobs in the order of their creation. -/
theorem created_texts_refine (py : Interpreter) (hClock : sv.ClockKnown) (hKnown : w₀.ClockKnown)
    (h₀ : sv.Initial w₀) (h : sv.Reaches o (fun _ _ _ => True) ⟨w₀, none⟩ c) :
    (∀ row ∈ c.state.jobs.rows, parseStoredTimestamp py (stampText row.createdAt) =
      .ok ⟨parseTimestamp row.createdAt, some 0⟩) ∧
    ∀ answer, ListedByText c.state.jobs.activeRows (·.createdAt) answer ↔
      Listed c.state.jobs.activeRows (·.createdAt) answer := by
  have hRows : ∀ row ∈ c.state.jobs.rows, Known row.createdAt := by
    intro row hRow
    obtain ⟨⟨hInv, hNow⟩, -⟩ := h.holds h₀ hKnown (clockKnown_preserved hClock _)
    obtain ⟨made, hMade, hTicks⟩ := hInv.clocked (JobTable.find_of_mem hRow)
    rw [hMade]
    rcases ReflTransGen.cases_head hTicks with rfl | ⟨next, hTick, -⟩
    · exact known_timestamp hNow
    · exact known_timestamp (hClock _ _ hTick).1
  exact ⟨fun row hRow => parse_stampText py (hRows row hRow),
    fun answer => listedByText_iff fun row hRow => hRows row (List.mem_filter.mp hRow).1⟩

/-- The services of a sample run, with a clock that shows the years 1 to 9999. -/
def calendarServices : Services Unit :=
  { sampleScript.services with
    tick := fun now later => Datetime.InRange now ∧ Datetime.InRange later }

/-- Jobs of the first and of the second hour of 1970; the table has the later one first. -/
def calendarWorld : World Unit :=
  { sampleWorld () with
    jobs :=
      ⟨[newControlJob { sampleJob with jobId := "later" } 3600000000, newControlJob sampleJob 0],
        by decide⟩
    clock := 3600000000 }

/-- The texts of both rows are read back, and sorting by them sorts the rows by their hours. -/
theorem created_texts_refine_sample :
    (∀ row ∈ calendarWorld.jobs.rows, parseStoredTimestamp plainPython (stampText row.createdAt) =
      .ok ⟨parseTimestamp row.createdAt, some 0⟩) ∧
    ListedByText calendarWorld.jobs.activeRows (·.createdAt) calendarWorld.jobs.rows.reverse ∧
    ¬ ListedByText calendarWorld.jobs.activeRows (·.createdAt) calendarWorld.jobs.rows := by
  have hRun : calendarServices.Reaches sampleOrchestrator (fun _ _ _ => True)
      ⟨calendarWorld, none⟩ ⟨calendarWorld, some sampleOrchestrator.reconcileOnce⟩ :=
    .tail .refl (.start _) trivial
  have hTick : calendarServices.tick 0 3600000000 :=
    show Datetime.InRange 0 ∧ Datetime.InRange 3600000000 by decide
  have hRows : ∀ row ∈ calendarWorld.jobs.rows, ∃ new now, calendarServices.mints new.jobId ∧
      ReflTransGen calendarServices.tick now calendarWorld.clock ∧ row = newControlJob new now :=
    List.forall_mem_cons.mpr ⟨⟨_, _, trivial, .refl, rfl⟩,
      List.forall_mem_singleton.mpr ⟨_, _, trivial, .single hTick, rfl⟩⟩
  have hKnown : calendarWorld.ClockKnown := show Datetime.InRange 3600000000 by decide
  obtain ⟨hRead, hListed⟩ :=
    created_texts_refine plainPython (fun _ _ hTick => hTick) hKnown ⟨hRows, rfl⟩ hRun
  refine ⟨hRead, (hListed _).mpr ⟨List.reverse_perm _, by decide⟩, fun hSorted => ?_⟩
  have hOrder := ((hListed _).mp hSorted).2
  revert hOrder
  decide

end

end SafactoryServer
