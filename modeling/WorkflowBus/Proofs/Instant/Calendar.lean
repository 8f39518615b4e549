/-
The calendar, taken both ways.

Every day has a date that exists, and the date tells the day.  Within an era a day is told
by its century, the span of four years in it, the year in that and the day of the year: the
last year of a span has a day more, except at the end of the first three centuries.
-/

import Mathlib
import WorkflowBus.Instant.Calendar

namespace WorkflowBus
namespace Date

structure EraDay where
  century : Nat
  span : Nat
  year : Nat
  day : Nat
  century_le : century ≤ 3
  span_le : span ≤ 24
  year_le : year ≤ 3
  day_le : day ≤ 365
  leap : day = 365 → year = 3 ∧ (span = 24 → century = 3)

namespace EraDay

def number (eraDay : EraDay) : Nat :=
  36524 * eraDay.century + 1461 * eraDay.span + 365 * eraDay.year + eraDay.day

def yearOfEra (eraDay : EraDay) : Nat :=
  100 * eraDay.century + 4 * eraDay.span + eraDay.year

theorem exists_number {dayOfEra : Nat} (inside : dayOfEra < 146097) :
    ∃ eraDay : EraDay, eraDay.number = dayOfEra := by
  obtain ⟨century, rest, centuries⟩ : ∃ century rest, dayOfEra = 36524 * century + rest ∧
      century ≤ 3 ∧ rest ≤ 36524 ∧ (rest = 36524 → century = 3) :=
    ⟨min (dayOfEra / 36524) 3, dayOfEra - 36524 * min (dayOfEra / 36524) 3, by omega⟩
  obtain ⟨span, behind, spans⟩ : ∃ span behind, rest = 1461 * span + behind ∧ span ≤ 24 ∧
      behind ≤ 1460 ∧ (behind = 1460 → span = 24 → century = 3) :=
    ⟨rest / 1461, rest % 1461, by omega⟩
  obtain ⟨year, day, years⟩ : ∃ year day, behind = 365 * year + day ∧ year ≤ 3 ∧ day ≤ 365 ∧
      (day = 365 → year = 3) :=
    ⟨min (behind / 365) 3, behind - 365 * min (behind / 365) 3, by omega⟩
  refine ⟨⟨century, span, year, day, by omega, by omega, by omega, by omega, ?_⟩, ?_⟩
  · intro last
    exact ⟨years.2.2.2 last, by omega⟩
  · show 36524 * century + 1461 * span + 365 * year + day = dayOfEra
    omega

theorem number_lt (eraDay : EraDay) : eraDay.number < 146097 := by
  obtain ⟨century, span, year, day, centuries, spans, years, days, leap⟩ := eraDay
  show 36524 * century + 1461 * span + 365 * year + day < 146097
  omega

theorem yearOfEra_lt (eraDay : EraDay) : eraDay.yearOfEra < 400 := by
  have century := eraDay.century_le
  have span := eraDay.span_le
  have year := eraDay.year_le
  unfold yearOfEra
  omega

/-- How often 1460 days fit is one more than there have been leap years only late in the last
year of a span. -/
theorem div_1460 (eraDay : EraDay) :
    eraDay.number / 1460 = 25 * eraDay.century + eraDay.span ∧ eraDay.day < 365 ∨
      eraDay.number / 1460 = 25 * eraDay.century + eraDay.span + 1 ∧ 0 < eraDay.day := by
  obtain ⟨century, span, year, day, centuries, spans, years, days, leap⟩ := eraDay
  unfold number
  simp only
  have split : 36524 * century + 1461 * span + 365 * year + day =
      1460 * (25 * century + span) + (24 * century + span + 365 * year + day) := by omega
  rw [split, Nat.mul_add_div (by decide)]
  omega

theorem yearOfEra_eq (eraDay : EraDay) :
    (eraDay.number - eraDay.number / 1460 + eraDay.number / 36524 - eraDay.number / 146096) / 365 =
      eraDay.yearOfEra := by
  have leapYears := eraDay.div_1460
  obtain ⟨century, span, year, day, centuries, spans, years, days, leap⟩ := eraDay
  unfold number yearOfEra at *
  simp only at *
  generalize whole : 36524 * century + 1461 * span + 365 * year + day = days at *
  by_cases last : days = 146096
  · subst last
    omega
  · have eras : days / 146096 = 0 := by omega
    have hundreds : days / 36524 = century := by omega
    rw [eras, hundreds]
    rcases leapYears with ⟨fours, early⟩ | ⟨fours, late⟩
    · rw [fours]
      omega
    · rw [fours]
      omega

theorem number_eq (eraDay : EraDay) :
    eraDay.number =
      365 * eraDay.yearOfEra + eraDay.yearOfEra / 4 - eraDay.yearOfEra / 100 + eraDay.day := by
  obtain ⟨century, span, year, day, centuries, spans, years, days, leap⟩ := eraDay
  unfold number yearOfEra
  simp only
  omega

theorem dayOfYear_eq (eraDay : EraDay) :
    eraDay.number - (365 * eraDay.yearOfEra + eraDay.yearOfEra / 4 - eraDay.yearOfEra / 100) =
      eraDay.day := by
  rw [number_eq, Nat.add_sub_cancel_left]

/-! ### Dates of an era -/

/-- The month that a day of a year lies in, counted from March as zero. -/
def marchMonth (eraDay : EraDay) : Nat :=
  (5 * eraDay.day + 2) / 153

def date (eraDay : EraDay) (era : Int) : Date where
  year := eraDay.yearOfEra + era * 400 + (if eraDay.marchMonth < 10 then 0 else 1)
  month := if eraDay.marchMonth < 10 then eraDay.marchMonth + 3 else eraDay.marchMonth - 9
  day := eraDay.day - (153 * eraDay.marchMonth + 2) / 5 + 1

theorem marchMonth_lt (eraDay : EraDay) : eraDay.marchMonth < 12 := by
  have days := eraDay.day_le
  unfold marchMonth
  omega

theorem firstOfMonth_le (eraDay : EraDay) :
    (153 * eraDay.marchMonth + 2) / 5 ≤ eraDay.day := by
  unfold marchMonth
  omega

theorem ofDayNumber_eq (eraDay : EraDay) (era : Int) :
    ofDayNumber (eraDay.number + era * 146097 - epochShift) = eraDay.date era := by
  have inside := eraDay.number_lt
  have eras : ((eraDay.number : Int) + era * 146097) / 146097 = era := by omega
  have days : (((eraDay.number : Int) + era * 146097) % 146097).toNat = eraDay.number := by omega
  have months := eraDay.marchMonth_lt
  unfold ofDayNumber date
  simp only [Int.sub_add_cancel, eras, days, yearOfEra_eq, dayOfYear_eq, ← marchMonth.eq_1]
  by_cases early : eraDay.marchMonth < 10
  · rw [if_pos early, if_pos early, if_neg (by omega)]
  · rw [if_neg early, if_neg early, if_pos (by omega)]

theorem month_date (eraDay : EraDay) (era : Int) :
    ((eraDay.date era).month ≤ 2 ↔ ¬eraDay.marchMonth < 10) ∧
      ((eraDay.date era).month + 9) % 12 = eraDay.marchMonth := by
  have months := eraDay.marchMonth_lt
  unfold date
  by_cases early : eraDay.marchMonth < 10
  · simp only [if_pos early]
    omega
  · simp only [if_neg early]
    omega

theorem dayNumber_date (eraDay : EraDay) (era : Int) :
    (eraDay.date era).dayNumber = eraDay.number + era * 146097 - epochShift := by
  have days := eraDay.firstOfMonth_le
  have years := eraDay.yearOfEra_lt
  have number := eraDay.number_eq
  obtain ⟨january, months⟩ := eraDay.month_date era
  have marchYear : (if (eraDay.date era).month ≤ 2 then (eraDay.date era).year - 1
      else (eraDay.date era).year) = eraDay.yearOfEra + era * 400 := by
    by_cases early : eraDay.marchMonth < 10
    · rw [if_neg (fun late => january.mp late early)]
      simp only [date, if_pos early, Int.add_zero]
    · rw [if_pos (january.mpr early)]
      simp only [date, if_neg early, Int.add_sub_cancel]
  have day : (153 * eraDay.marchMonth + 2) / 5 + (eraDay.date era).day - 1 = eraDay.day := by
    show (153 * eraDay.marchMonth + 2) / 5 +
      (eraDay.day - (153 * eraDay.marchMonth + 2) / 5 + 1) - 1 = eraDay.day
    omega
  unfold dayNumber
  have eras : ((eraDay.yearOfEra : Int) + era * 400) / 400 = era := by omega
  have yearsOfEra : ((eraDay.yearOfEra : Int) + era * 400) % 400 = eraDay.yearOfEra := by omega
  simp only [marchYear, months, day, eras, yearsOfEra]
  omega

theorem isLeapYear_iff (year : Int) :
    isLeapYear year = true ↔ year % 4 = 0 ∧ (year % 100 ≠ 0 ∨ year % 400 = 0) := by
  simp [isLeapYear]

theorem isLeapYear_of_last {eraDay : EraDay} (last : eraDay.day = 365) (era : Int) :
    isLeapYear (eraDay.yearOfEra + era * 400 + 1) = true := by
  obtain ⟨year, century⟩ := eraDay.leap last
  have spans := eraDay.span_le
  have centuries := eraDay.century_le
  rw [isLeapYear_iff, yearOfEra, year]
  omega

theorem daysInMonth_eq (year : Int) {month : Nat} (early : month < 11) :
    daysInMonth year (if month < 10 then month + 3 else month - 9) =
      (153 * (month + 1) + 2) / 5 - (153 * month + 2) / 5 := by
  interval_cases month <;> rfl

theorem day_date_le (eraDay : EraDay) (era : Int) :
    (eraDay.date era).day ≤ daysInMonth (eraDay.date era).year (eraDay.date era).month := by
  have months := eraDay.marchMonth_lt
  have first := eraDay.firstOfMonth_le
  by_cases early : eraDay.marchMonth < 11
  · have next : 5 * eraDay.day + 2 < 153 * (eraDay.marchMonth + 1) := by
      unfold marchMonth
      omega
    simp only [date, daysInMonth_eq _ early]
    omega
  · have february : eraDay.marchMonth = 11 := by omega
    have days := eraDay.day_le
    simp only [date, february, show ¬11 < 10 by decide, if_false, daysInMonth]
    split
    · omega
    · have notLast : eraDay.day ≠ 365 := fun last =>
        ‹¬isLeapYear _ = true› (isLeapYear_of_last last era)
      omega

theorem exists?_date (eraDay : EraDay) (era : Int) : (eraDay.date era).exists? = true := by
  have positive : 1 ≤ (eraDay.date era).day := Nat.succ_pos _
  rw [exists?, decide_eq_true positive, decide_eq_true (eraDay.day_date_le era)]
  rfl

end EraDay

theorem exists_eraDay (number : Int) : ∃ (eraDay : EraDay) (era : Int),
    number = eraDay.number + era * 146097 - epochShift := by
  obtain ⟨eraDay, same⟩ := EraDay.exists_number
    (show ((number + epochShift) % 146097).toNat < 146097 by omega)
  refine ⟨eraDay, (number + epochShift) / 146097, ?_⟩
  rw [same]
  omega

theorem dayNumber_ofDayNumber (number : Int) : (ofDayNumber number).dayNumber = number := by
  obtain ⟨eraDay, era, rfl⟩ := exists_eraDay number
  rw [eraDay.ofDayNumber_eq era, eraDay.dayNumber_date era]

theorem exists?_ofDayNumber (number : Int) : (ofDayNumber number).exists? = true := by
  obtain ⟨eraDay, era, rfl⟩ := exists_eraDay number
  rw [eraDay.ofDayNumber_eq era]
  exact eraDay.exists?_date era

theorem daysInMonth_le (year : Int) (month : Nat) : daysInMonth year month ≤ 31 := by
  unfold daysInMonth
  split
  all_goals try split
  all_goals decide

theorem daysInMonth_of_lt (year : Int) {month : Nat} (late : 12 < month) :
    daysInMonth year month = 0 := by
  unfold daysInMonth
  split
  all_goals first | rfl | omega

theorem bounds_of_exists? {date : Date} (there : date.exists? = true) :
    date.month ≤ 12 ∧ date.day ≤ 31 := by
  simp only [Date.exists?, Bool.and_eq_true, decide_eq_true_eq] at there
  constructor
  · by_contra late
    rw [daysInMonth_of_lt date.year (Nat.lt_of_not_le late)] at there
    omega
  · exact there.2.trans (daysInMonth_le date.year date.month)

end Date
end WorkflowBus
