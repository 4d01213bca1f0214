/-! # Calendar

Days of the Gregorian calendar and points in time, also as counts from the start of 1970.

* `Date`, `Moment` — days and points in time by their parts.
* `Date.ofDays` — the day so many days after the start of 1970.
* `Moment.ofSeconds` — the point in time so many seconds after the start of 1970.
* `Moment.midnight` — the start of a day.
* `RealDate`, `RealMoment` — days of the calendar, and points in time that a clock shows. -/

namespace ImportPolicy

/-- A calendar day. -/
structure Date where
  year : Nat
  month : Nat
  day : Nat
  deriving DecidableEq

/-- A point in time to the microsecond, with its distance from universal time in seconds if it is
    known. -/
structure Moment where
  date : Date
  hour : Nat
  minute : Nat
  second : Nat
  microsecond : Nat
  offset : Option Int
  deriving DecidableEq

namespace Date

/-- Whether a year has a 29th of February. -/
def isLeapYear (year : Nat) : Bool :=
  year % 4 = 0 && (year % 100 ≠ 0 || year % 400 = 0)

/-- The number of days of a month; none if there is no such month. -/
def daysIn? (year month : Nat) : Option Nat :=
  match month with
  | 1 | 3 | 5 | 7 | 8 | 10 | 12 => some 31
  | 4 | 6 | 9 | 11 => some 30
  | 2 => some (if isLeapYear year then 29 else 28)
  | _ => none

/-- The calendar has the day, in one of the years 1 to 9999. -/
structure IsReal (d : Date) : Prop where
  year : 1 ≤ d.year ∧ d.year ≤ 9999
  day : ∃ last ∈ daysIn? d.year d.month, 1 ≤ d.day ∧ d.day ≤ last

instance (d : Date) : Decidable d.IsReal :=
  decidable_of_iff ((1 ≤ d.year ∧ d.year ≤ 9999) ∧
      ∃ last ∈ daysIn? d.year d.month, 1 ≤ d.day ∧ d.day ≤ last)
    ⟨fun ⟨year, day⟩ => ⟨year, day⟩, fun ⟨year, day⟩ => ⟨year, day⟩⟩

/-- The day so many days after the first of January 1970. Years count from March, so that the leap
    day is the last of its year. -/
def ofDays (days : Int) : Date :=
  let shifted := days + 719468
  let era := Int.fdiv shifted 146097
  let dayOfEra := shifted - era * 146097
  let yearOfEra := (dayOfEra - dayOfEra / 1460 + dayOfEra / 36524 - dayOfEra / 146096) / 365
  let dayOfYear := dayOfEra - (365 * yearOfEra + yearOfEra / 4 - yearOfEra / 100)
  let monthFromMarch := (5 * dayOfYear + 2) / 153
  let day := dayOfYear - (153 * monthFromMarch + 2) / 5 + 1
  let month := if monthFromMarch < 10 then monthFromMarch + 3 else monthFromMarch - 9
  let year := yearOfEra + era * 400 + (if month ≤ 2 then 1 else 0)
  ⟨year.toNat, month.toNat, day.toNat⟩

end Date

namespace Moment

/-- The parts of a point in time are in their ranges, and its distance from universal time is less
    than a day. -/
structure IsReal (m : Moment) : Prop where
  date : m.date.IsReal
  hour : m.hour < 24
  minute : m.minute < 60
  second : m.second < 60
  microsecond : m.microsecond < 1000000
  offset : ∀ o ∈ m.offset, o.natAbs < 86400

instance (m : Moment) : Decidable m.IsReal :=
  decidable_of_iff (m.date.IsReal ∧ m.hour < 24 ∧ m.minute < 60 ∧ m.second < 60 ∧
      m.microsecond < 1000000 ∧ ∀ o ∈ m.offset, o.natAbs < 86400)
    ⟨fun ⟨date, hour, minute, second, microsecond, offset⟩ =>
        ⟨date, hour, minute, second, microsecond, offset⟩,
      fun ⟨date, hour, minute, second, microsecond, offset⟩ =>
        ⟨date, hour, minute, second, microsecond, offset⟩⟩

/-- The start of a day. -/
def midnight (d : Date) : Moment := ⟨d, 0, 0, 0, 0, none⟩

/-- The point in universal time so many seconds and microseconds after the start of 1970. -/
def ofSeconds (seconds : Int) (microsecond : Nat) : Moment :=
  let days := Int.fdiv seconds 86400
  let rest := (seconds - days * 86400).toNat
  ⟨Date.ofDays days, rest / 3600, rest / 60 % 60, rest % 60, microsecond, some 0⟩

end Moment

/-- A day of the calendar. -/
structure RealDate extends Date where
  isReal : toDate.IsReal
  deriving DecidableEq

/-- A point in time that a clock shows somewhere. -/
structure RealMoment extends Moment where
  isReal : toMoment.IsReal
  deriving DecidableEq

end ImportPolicy
