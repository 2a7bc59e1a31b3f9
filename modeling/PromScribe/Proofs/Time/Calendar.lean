import Mathlib.Tactic.IntervalCases
import PromScribe.Time.Instant

/-!
# Dates and day numbers

An era of four hundred years is taken apart into centuries, cycles of four years, years and days.
A year has a leap day at its end if it ends a cycle, unless the cycle ends a century that does not
end the era. So each day number is that of one date, and the date exists.
-/

namespace PromScribe.Calendar

variable {number dayOfEra century cycle year day : Int}

/-- The day of an era, counted from zero as all its parts are. -/
structure IsEraDay (dayOfEra century cycle year day : Int) : Prop where
  whole : dayOfEra = 36524 * century + 1461 * cycle + 365 * year + day
  centuries : 0 ≤ century ∧ century ≤ 3
  cycles : 0 ≤ cycle ∧ cycle ≤ 24
  years : 0 ≤ year ∧ year ≤ 3
  days : 0 ≤ day ∧ (day ≤ 364 ∨ day = 365 ∧ year = 3 ∧ (cycle = 24 → century = 3))

theorem exists_isEraDay (low : 0 ≤ dayOfEra) (high : dayOfEra < 146097) :
    ∃ century cycle year day, IsEraDay dayOfEra century cycle year day := by
  obtain ⟨century, centuries, inCentury⟩ : ∃ century : Int, (0 ≤ century ∧ century ≤ 3) ∧
      36524 * century ≤ dayOfEra ∧ (dayOfEra < 36524 * (century + 1) ∨ century = 3) :=
    ⟨min (dayOfEra / 36524) 3, by omega, by omega⟩
  obtain ⟨cycle, cycles, inCycle⟩ : ∃ cycle : Int, (0 ≤ cycle ∧ cycle ≤ 24) ∧
      1461 * cycle ≤ dayOfEra - 36524 * century ∧
        dayOfEra - 36524 * century < 1461 * (cycle + 1) :=
    ⟨(dayOfEra - 36524 * century) / 1461, by omega, by omega⟩
  obtain ⟨year, years, inYear⟩ : ∃ year : Int, (0 ≤ year ∧ year ≤ 3) ∧
      365 * year ≤ dayOfEra - 36524 * century - 1461 * cycle ∧
        (dayOfEra - 36524 * century - 1461 * cycle < 365 * (year + 1) ∨ year = 3) :=
    ⟨min ((dayOfEra - 36524 * century - 1461 * cycle) / 365) 3, by omega, by omega⟩
  exact ⟨century, cycle, year, dayOfEra - 36524 * century - 1461 * cycle - 365 * year,
    by omega, centuries, cycles, years, by omega⟩

namespace IsEraDay

/-- The leap days that are left out at the ends of centuries. -/
theorem centuries_eq (parts : IsEraDay dayOfEra century cycle year day) :
    dayOfEra / 36524 - dayOfEra / 146096 = century := by
  obtain ⟨whole, centuries, cycles, years, days⟩ := parts
  by_cases last : dayOfEra = 146096
  · omega
  · have quotient : dayOfEra / 36524 = century := by omega
    have none : dayOfEra / 146096 = 0 := by omega
    omega

/-- The year of the era that is computed for a day. -/
theorem yearOfEra_eq (parts : IsEraDay dayOfEra century cycle year day) :
    (dayOfEra - dayOfEra / 1460 + dayOfEra / 36524 - dayOfEra / 146096) / 365 =
      100 * century + 4 * cycle + year := by
  have lost := parts.centuries_eq
  obtain ⟨whole, centuries, cycles, years, days⟩ := parts
  by_cases early : 24 * century + cycle + 365 * year + day < 1460
  · have leaps : dayOfEra / 1460 = 25 * century + cycle := by omega
    omega
  · have leaps : dayOfEra / 1460 = 25 * century + cycle + 1 := by omega
    omega

/-- The day of the year that is computed for a day and its year. -/
theorem dayOfYear_eq (parts : IsEraDay dayOfEra century cycle year day) {yearOfEra : Int}
    (computed : yearOfEra = 100 * century + 4 * cycle + year) :
    dayOfEra - (365 * yearOfEra + yearOfEra / 4 - yearOfEra / 100) = day := by
  obtain ⟨whole, centuries, cycles, years, days⟩ := parts
  omega

/-- There is a last day of a leap year only if the year that begins with it is one. -/
theorem isLeapYear_of_last (parts : IsEraDay dayOfEra century cycle year day) (last : day = 365)
    (era : Int) : isLeapYear (100 * century + 4 * cycle + year + era * 400 + 1) = true := by
  obtain ⟨whole, centuries, cycles, years, days⟩ := parts
  simp only [isLeapYear, Bool.and_eq_true, Bool.or_eq_true, beq_iff_eq, bne_iff_ne]
  omega

end IsEraDay

/-- The date of a day of a year that begins with March. -/
def dateIn (era yearOfEra dayOfYear : Int) : Date :=
  let monthFromMarch := (5 * dayOfYear + 2) / 153
  let day := dayOfYear - (153 * monthFromMarch + 2) / 5 + 1
  let month := if monthFromMarch < 10 then monthFromMarch + 3 else monthFromMarch - 9
  ⟨yearOfEra + era * 400 + (if month ≤ 2 then 1 else 0), month.toNat, day.toNat⟩

variable {era yearOfEra dayOfYear : Int}

/-- A day of the year is a day of one of its months. Three of five months have a day more than
thirty, by which the months begin. -/
theorem exists_dateIn_eq (days : 0 ≤ dayOfYear ∧ dayOfYear ≤ 365) :
    ∃ monthFromMarch day : Nat, monthFromMarch < 12 ∧
      dayOfYear = (153 * (monthFromMarch : Int) + 2) / 5 + day ∧
      day < (153 * (monthFromMarch + 1) + 2) / 5 - (153 * monthFromMarch + 2) / 5 ∧
      dateIn era yearOfEra dayOfYear =
        ⟨yearOfEra + era * 400 + (if monthFromMarch < 10 then 0 else 1),
          if monthFromMarch < 10 then monthFromMarch + 3 else monthFromMarch - 9, day + 1⟩ := by
  obtain ⟨monthFromMarch, months⟩ : ∃ monthFromMarch : Nat,
      (5 * dayOfYear + 2) / 153 = monthFromMarch := ⟨((5 * dayOfYear + 2) / 153).toNat, by omega⟩
  obtain ⟨day, inMonth⟩ : ∃ day : Nat,
      dayOfYear - (153 * (monthFromMarch : Int) + 2) / 5 = day :=
    ⟨(dayOfYear - (153 * (monthFromMarch : Int) + 2) / 5).toNat, by omega⟩
  have inYear : monthFromMarch < 12 := by omega
  refine ⟨monthFromMarch, day, inYear, by omega, by interval_cases monthFromMarch <;> omega, ?_⟩
  unfold dateIn
  rw [months]
  dsimp only
  rw [inMonth]
  by_cases early : monthFromMarch < 10
  · have below : (monthFromMarch : Int) < 10 := by omega
    have late : ¬ ((monthFromMarch : Int) + 3 ≤ 2) := by omega
    rw [if_pos below, if_neg late, if_pos early, if_pos early]
    congr 1
  · have above : ¬ (monthFromMarch : Int) < 10 := by omega
    have first : (monthFromMarch : Int) - 9 ≤ 2 := by omega
    rw [if_neg above, if_pos first, if_neg early, if_neg early]
    congr 1
    omega

theorem dayNumber_dateIn (years : 0 ≤ yearOfEra ∧ yearOfEra < 400)
    (days : 0 ≤ dayOfYear ∧ dayOfYear ≤ 365) :
    (dateIn era yearOfEra dayOfYear).dayNumber =
      era * 146097 + (yearOfEra * 365 + yearOfEra / 4 - yearOfEra / 100 + dayOfYear) - 719468 := by
  obtain ⟨monthFromMarch, day, inYear, split, inMonth, shape⟩ := exists_dateIn_eq days
  have eras : (yearOfEra + era * 400).fdiv 400 = era := by
    rw [Int.fdiv_eq_ediv_of_nonneg _ (by decide)]
    omega
  rw [shape]
  unfold Date.dayNumber
  dsimp only
  by_cases early : monthFromMarch < 10
  · have late : ¬ monthFromMarch + 3 ≤ 2 := by omega
    have months : ((monthFromMarch + 3 : Nat) + 9 : Int) % 12 = monthFromMarch := by omega
    rw [if_pos early, if_pos early, if_neg late, Int.add_zero, eras, months]
    push_cast
    omega
  · have first : monthFromMarch - 9 ≤ 2 := by omega
    have months : ((monthFromMarch - 9 : Nat) + 9 : Int) % 12 = monthFromMarch := by omega
    rw [if_neg early, if_neg early, if_pos first, Int.add_sub_cancel, eras, months]
    push_cast
    omega

theorem isValid_dateIn (days : 0 ≤ dayOfYear ∧ dayOfYear ≤ 365)
    (leaps : dayOfYear = 365 → isLeapYear (yearOfEra + era * 400 + 1) = true) :
    (dateIn era yearOfEra dayOfYear).isValid = true := by
  obtain ⟨monthFromMarch, day, inYear, split, inMonth, shape⟩ := exists_dateIn_eq days
  -- Only February has its length from the year.
  have february : 28 ≤ daysInMonth (yearOfEra + era * 400 + 1) 2 ∧
      (dayOfYear = 365 → daysInMonth (yearOfEra + era * 400 + 1) 2 = 29) := by
    have length : daysInMonth (yearOfEra + era * 400 + 1) 2 =
        if isLeapYear (yearOfEra + era * 400 + 1) then 29 else 28 := rfl
    rw [length]
    constructor
    · split <;> decide
    · exact fun last => if_pos (leaps last)
  have fits : day < daysInMonth (yearOfEra + era * 400 + if monthFromMarch < 10 then 0 else 1)
      (if monthFromMarch < 10 then monthFromMarch + 3 else monthFromMarch - 9) := by
    by_cases last : monthFromMarch = 11
    · subst last
      change day < daysInMonth (yearOfEra + era * 400 + 1) 2
      omega
    · have other : monthFromMarch < 11 := by omega
      interval_cases monthFromMarch <;> simpa [daysInMonth] using inMonth
  rw [shape]
  simpa [Date.isValid] using Nat.succ_le_of_lt fits

theorem ofDayNumber_eq (number : Int) : ∃ era century cycle year day,
    IsEraDay (number + 719468 - era * 146097) century cycle year day ∧
      Date.ofDayNumber number = dateIn era (100 * century + 4 * cycle + year) day := by
  obtain ⟨era, eras⟩ : ∃ era : Int, (number + 719468).fdiv 146097 = era := ⟨_, rfl⟩
  have quotient := eras
  rw [Int.fdiv_eq_ediv_of_nonneg _ (by decide)] at quotient
  obtain ⟨century, cycle, year, day, parts⟩ := exists_isEraDay
    (show 0 ≤ number + 719468 - era * 146097 by omega) (by omega)
  refine ⟨era, century, cycle, year, day, parts, ?_⟩
  unfold Date.ofDayNumber
  dsimp only
  rw [eras, parts.yearOfEra_eq, parts.dayOfYear_eq rfl]
  rfl

/-- Each day number is that of its date. -/
theorem dayNumber_ofDayNumber (number : Int) : (Date.ofDayNumber number).dayNumber = number := by
  obtain ⟨era, century, cycle, year, day, ⟨whole, centuries, cycles, years, days⟩, shape⟩ :=
    ofDayNumber_eq number
  rw [shape, dayNumber_dateIn (by omega) (by omega)]
  omega

/-- The date of a day number exists. -/
theorem isValid_ofDayNumber (number : Int) : (Date.ofDayNumber number).isValid = true := by
  obtain ⟨era, century, cycle, year, day, parts, shape⟩ := ofDayNumber_eq number
  have days := parts.days
  rw [shape]
  refine isValid_dateIn (by omega) fun last => ?_
  exact parts.isLeapYear_of_last last era

end PromScribe.Calendar
