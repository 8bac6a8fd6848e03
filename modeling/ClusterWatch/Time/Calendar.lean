/-!
# The civil calendar

Dates of the proleptic Gregorian calendar and the number of each day, counted from 1970-01-01.
Years are counted from March here, so that the leap day is the last day of its year, and in eras
of 400 years, which all have the same number of days.

- `Date`: a year, a month and a day.
- `Date.IsValid`: the date exists.
- `Date.dayNumber`, `Date.ofDayNumber`: a date as the number of its day and back.
-/

namespace ClusterWatch.Time

/-- A day of the calendar. -/
structure Date where
  year : Int
  month : Nat
  day : Nat
  deriving DecidableEq, Repr

namespace Date

/-- Whether a year has a leap day. -/
def isLeapYear (year : Int) : Bool :=
  year % 4 = 0 && (year % 100 ≠ 0 || year % 400 = 0)

/-- The number of days of a month. -/
def daysInMonth (year : Int) (month : Nat) : Nat :=
  match month with
  | 2 => if isLeapYear year then 29 else 28
  | 4 | 6 | 9 | 11 => 30
  | _ => 31

/-- Whether there is such a day. -/
def IsValid (d : Date) : Prop :=
  (1 ≤ d.month ∧ d.month ≤ 12) ∧ 1 ≤ d.day ∧ d.day ≤ daysInMonth d.year d.month

instance (d : Date) : Decidable d.IsValid :=
  inferInstanceAs (Decidable (_ ∧ _))

/-- The days of an era of 400 years. -/
def daysPerEra : Nat := 146097

/-- The day at which the first era begins, 0000-03-01, counted back from 1970-01-01. -/
def eraOffset : Int := 719468

/-- The day of the year that begins in March at which a month begins; months count from March. -/
def monthStart (month : Nat) : Nat :=
  (153 * month + 2) / 5

/-- The number of a day. -/
def dayNumber (d : Date) : Int :=
  let year := if d.month ≤ 2 then d.year - 1 else d.year
  let month := if d.month ≤ 2 then d.month + 9 else d.month - 3
  365 * year + year / 4 - year / 100 + year / 400 + monthStart month + d.day - 1 - eraOffset

/-- The year of an era in which one of its days lies. -/
def yearOfEra (dayOfEra : Nat) : Nat :=
  (dayOfEra - dayOfEra / 1460 + dayOfEra / 36524 - dayOfEra / 146096) / 365

/-- The date of a day. -/
def ofDayNumber (n : Int) : Date :=
  let era := (n + eraOffset) / daysPerEra
  let dayOfEra := ((n + eraOffset) % daysPerEra).toNat
  let yearOfEra := yearOfEra dayOfEra
  let dayOfYear := dayOfEra - (365 * yearOfEra + yearOfEra / 4 - yearOfEra / 100)
  let month := (5 * dayOfYear + 2) / 153
  let day := dayOfYear - monthStart month + 1
  let year := era * 400 + yearOfEra
  if month < 10 then ⟨year, month + 3, day⟩ else ⟨year + 1, month - 9, day⟩

end Date

end ClusterWatch.Time
