import ImportPolicy.Value.Calendar
import Mathlib.Order.Monotone.Basic

/-! # Days of the calendar

A count of days is a day of the calendar: its month has so many days in its year. Years are counted
in eras of 400 years, from March on, so that the 29th of February is the last day of its year.

* `Date.daysBefore`, `Date.daysBefore_yearOfEra` — the year of an era that a day is in.
* `Date.monthAndDay_isReal`, `Date.leapDay` — the days of a year, the last of which not every year has.
* `Date.isReal_ofDays` — counts of days. -/

namespace ImportPolicy.Date

theorem daysIn?_congr {year other : Nat} (same : isLeapYear year = isLeapYear other) (month : Nat) :
    daysIn? year month = daysIn? other month := by
  unfold daysIn?
  rw [same]

theorem le_of_daysIn? {year month last : Nat} (listed : daysIn? year month = some last) :
    month ≤ 12 ∧ last ≤ 31 := by
  unfold daysIn? at listed
  split at listed <;> cases listed
  all_goals first
    | decide
    | exact ⟨by decide, by split <;> decide⟩

/-! ## Years of an era -/

/-- The number of days of an era before one of its years. -/
def daysBefore (year : Nat) : Nat := 365 * year + year / 4 - year / 100 + year / 400

/-- The days of an era without those that make a year longer than 365 days. -/
def plainDays (day : Nat) : Nat := day - day / 1460 + day / 36524 - day / 146096

theorem plainDays_mono : Monotone plainDays := by
  refine monotone_nat_of_le_succ fun day => ?_
  unfold plainDays
  omega

theorem le_plainDays_daysBefore : ∀ year < 400, 365 * year ≤ plainDays (daysBefore year) := by
  decide +kernel

theorem plainDays_lt : ∀ year < 400, plainDays (daysBefore (year + 1) - 1) < 365 * (year + 1) := by
  decide +kernel

/-- The year of an era that one of its days is in. -/
def yearOfEra (day : Nat) : Nat := plainDays day / 365

theorem yearOfEra_lt {day : Nat} (inEra : day < 146097) : yearOfEra day < 400 := by
  have := plainDays_mono (Nat.le_of_lt_succ inEra)
  have last : plainDays 146096 = 145999 := rfl
  unfold yearOfEra
  omega

/-- The days of an era grow with those without leap days, so that the year of a day can be told from the
    first and the last days of all years. -/
theorem daysBefore_yearOfEra {day : Nat} (inEra : day < 146097) :
    daysBefore (yearOfEra day) ≤ day ∧ day < daysBefore (yearOfEra day + 1) := by
  have year := yearOfEra_lt inEra
  constructor
  · by_contra before
    have later : 0 < yearOfEra day := by
      rcases Nat.eq_zero_or_pos (yearOfEra day) with first | later
      · rw [first] at before
        exact absurd (Nat.zero_le day) before
      · exact later
    obtain ⟨y, sameYear⟩ := Nat.exists_eq_add_one.2 later
    have earlier := plainDays_mono (show day ≤ daysBefore (y + 1) - 1 by rw [← sameYear]; omega)
    have := plainDays_lt y (by omega)
    unfold yearOfEra at sameYear
    omega
  · by_contra after
    by_cases last : yearOfEra day + 1 < 400
    · have later := plainDays_mono (Nat.not_lt.1 after)
      have := le_plainDays_daysBefore _ last
      unfold yearOfEra at this later
      omega
    · have : yearOfEra day = 399 := by omega
      rw [this] at after
      exact absurd inEra after

/-! ## Days of a year -/

/-- The month and the day in it of a day of a year that starts in March. -/
def monthAndDay (day : Nat) : Nat × Nat :=
  let month := (5 * day + 2) / 153
  (if month < 10 then month + 3 else month - 9, day - (153 * month + 2) / 5 + 1)

/-- Whatever year the day belongs to, one of two years has the same months. -/
theorem monthAndDay_isReal : ∀ day < 366, ∀ year ∈ [1, 4],
    day < 365 ∨ isLeapYear year = true →
    ∃ last ∈ daysIn? year (monthAndDay day).1,
      1 ≤ (monthAndDay day).2 ∧ (monthAndDay day).2 ≤ last := by
  decide +kernel

/-- Only a leap year has a day after the 365th, which is its 29th of February. -/
theorem leapDay : ∀ year < 400, daysBefore (year + 1) ≤ daysBefore year + 365 ∨
    daysBefore (year + 1) = daysBefore year + 366 ∧ isLeapYear (year + 1) = true := by
  decide +kernel

theorem dayOfYear_cases {day : Nat} (inEra : day < 146097) :
    day - daysBefore (yearOfEra day) < 365 ∨
      day - daysBefore (yearOfEra day) = 365 ∧ isLeapYear (yearOfEra day + 1) = true := by
  have inYear := daysBefore_yearOfEra inEra
  rcases leapDay _ (yearOfEra_lt inEra) with short | ⟨long, leap⟩
  · omega
  · by_cases last : day - daysBefore (yearOfEra day) = 365
    · exact .inr ⟨last, leap⟩
    · omega

theorem isLeapYear_add (year era : Nat) : isLeapYear (year + era * 400) = isLeapYear year := by
  have four : (year + era * 400) % 4 = year % 4 := by omega
  have hundred : (year + era * 400) % 100 = year % 100 := by omega
  have fourHundred : (year + era * 400) % 400 = year % 400 := by omega
  rw [isLeapYear, isLeapYear, four, hundred, fourHundred]

theorem exists_isLeapYear_eq (year : Nat) :
    ∃ sample ∈ [1, 4], isLeapYear sample = isLeapYear year := by
  cases isLeapYear year with
  | false => exact ⟨1, by decide, rfl⟩
  | true => exact ⟨4, by decide, rfl⟩

theorem ofDays_eq {era day : Nat} (inEra : day < 146097) :
    ofDays ((era * 146097 + day : Nat) - 719468) =
      let (month, dayOfMonth) := monthAndDay (day - daysBefore (yearOfEra day))
      ⟨yearOfEra day + era * 400 + (if month ≤ 2 then 1 else 0), month, dayOfMonth⟩ := by
  have inYear := (daysBefore_yearOfEra inEra).1
  have small := yearOfEra_lt inEra
  have shifted : ((era * 146097 + day : Nat) : Int) - 719468 + 719468 =
      (era * 146097 + day : Nat) := by omega
  have eraOf : Int.fdiv ((era * 146097 + day : Nat) : Int) 146097 = era := by
    rw [Int.fdiv_eq_ediv_of_nonneg _ (by decide)]
    omega
  have dayOf : ((era * 146097 + day : Nat) : Int) - era * 146097 = day := by omega
  have yearOf : ((day : Int) - day / 1460 + day / 36524 - day / 146096) / 365 =
      (yearOfEra day : Nat) := by
    unfold yearOfEra plainDays
    omega
  simp only [ofDays, shifted, eraOf, dayOf, yearOf]
  generalize yearOfEra day = year at *
  have dayOfYear : (day : Int) - (365 * year + year / 4 - year / 100) =
      (day - daysBefore year : Nat) := by
    unfold daysBefore at *
    omega
  rw [dayOfYear]
  generalize day - daysBefore year = dayOfYear
  obtain ⟨month, monthOf⟩ : ∃ month, (5 * dayOfYear + 2) / 153 = month := ⟨_, rfl⟩
  obtain ⟨start, startOf⟩ : ∃ start, (153 * month + 2) / 5 = start := ⟨_, rfl⟩
  have monthOf' : (5 * (dayOfYear : Int) + 2) / 153 = month := by omega
  have startOf' : (153 * (month : Int) + 2) / 5 = start := by omega
  simp only [monthAndDay, Date.mk.injEq, monthOf, startOf, monthOf', startOf']
  refine ⟨?_, ?_, ?_⟩
  · split <;> split <;> split <;> split <;> omega
  · split <;> split <;> omega
  · omega

/-- A count of days that comes to one of the years from 1600 to 9999 is a day of the calendar. -/
theorem isReal_ofDays {days : Int} (least : -135140 ≤ days) (most : days ≤ 2932896) :
    (ofDays days).IsReal := by
  obtain ⟨era, day, inEra, started, beforeEnd, rfl⟩ : ∃ era day : Nat, day < 146097 ∧ 0 < era ∧
      era < 25 ∧ days = (era * 146097 + day : Nat) - 719468 :=
    ⟨(days + 719468).toNat / 146097, (days + 719468).toNat % 146097, by omega, by omega, by omega,
      by omega⟩
  have small := yearOfEra_lt inEra
  have inYear := daysBefore_yearOfEra inEra
  have cases := dayOfYear_cases inEra
  rw [ofDays_eq inEra]
  generalize yearOfEra day = year at *
  constructor
  · change 1 ≤ _ + _ + _ ∧ _ + _ + _ ≤ 9999
    refine ⟨by omega, ?_⟩
    -- The last year that is counted from March ends in December.
    by_cases last : era = 24 ∧ year = 399
    · obtain ⟨rfl, rfl⟩ := last
      have fromMarch : (5 * (day - daysBefore 399) + 2) / 153 < 10 := by
        rw [show daysBefore 399 = 145731 from rfl]
        omega
      have later : ¬ (monthAndDay (day - daysBefore 399)).1 ≤ 2 := by
        rw [monthAndDay, if_pos fromMarch]
        exact Nat.not_le.2 (Nat.le_add_left 3 _)
      rw [if_neg later]
    · split <;> omega
  · change ∃ last ∈ daysIn? (_ + _ + _) _, _
    obtain ⟨sample, listed, same⟩ := exists_isLeapYear_eq
      (year + era * 400 + if (monthAndDay (day - daysBefore year)).1 ≤ 2 then 1 else 0)
    rw [← daysIn?_congr same]
    refine monthAndDay_isReal (day - daysBefore year) (by omega) sample listed ?_
    rcases cases with short | ⟨lastDay, leap⟩
    · exact .inl short
    · right
      rw [same, lastDay]
      change isLeapYear (year + era * 400 + 1) = true
      rw [Nat.add_right_comm, isLeapYear_add, leap]

end ImportPolicy.Date
