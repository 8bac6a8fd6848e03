import ClusterWatch.Time.Calendar
import ClusterWatch.Time.Span
/-!
# Instants

Points in time, counted in seconds from 1970-01-01 00:00:00. A leap second has no number of its
own: it is the second before with a fraction of one second or more.

- `Instant`: a second and the nanoseconds since it began.
- `Instant.ofCivil?`: the instant of a calendar date and a time of day.
- `Instant.nanosSince`: the signed distance of two instants, leap seconds between them included
  where one of the two lies in one.
- `Instant.atSecond`: an instant without the fraction of its second.
-/

namespace ClusterWatch.Time

/-- A point in time. `nanos` is below two seconds, and one second or more within a leap second. -/
structure Instant where
  second : Int
  nanos : Nat
  deriving DecidableEq, Repr, Inhabited

/-- The seconds of a day. -/
def secondsPerDay : Nat := 86400

namespace Instant

/-- The beginning of a second. -/
def ofSecond (second : Int) : Instant :=
  ⟨second, 0⟩

/-- The number of the day. -/
def dayNumber (t : Instant) : Int :=
  t.second / secondsPerDay

/-- The second of the day. -/
def secondOfDay (t : Instant) : Nat :=
  (t.second % secondsPerDay).toNat

/-- The calendar date. -/
def date (t : Instant) : Date :=
  Date.ofDayNumber t.dayNumber

/-- The hour of the day. -/
def hour (t : Instant) : Nat :=
  t.secondOfDay / 3600

/-- The minute of the hour. -/
def minute (t : Instant) : Nat :=
  t.secondOfDay / 60 % 60

/-- The second of the minute, which is 60 in a leap second. -/
def secondOfMinute (t : Instant) : Nat :=
  t.secondOfDay % 60 + t.nanos / nanosPerSecond

/-- The years that instants cover. -/
def firstYear : Int := -262143

/-- The years that instants cover. -/
def lastYear : Int := 262142

/-- Whether an instant lies in the years that are covered and is a leap second only at the end of
a minute. -/
def IsValid (t : Instant) : Prop :=
  (firstYear ≤ t.date.year ∧ t.date.year ≤ lastYear) ∧
    t.nanos < 2 * nanosPerSecond ∧ (nanosPerSecond ≤ t.nanos → t.secondOfDay % 60 = 59)

instance (t : Instant) : Decidable t.IsValid :=
  inferInstanceAs (Decidable (_ ∧ _))

/-- The instant of a date and a time of day. Second 60 is the leap second after second 59. -/
def ofCivil? (date : Date) (hour minute second nanos : Nat) : Option Instant :=
  if date.IsValid ∧ firstYear ≤ date.year ∧ date.year ≤ lastYear ∧
      hour < 24 ∧ minute < 60 ∧ second ≤ 60 then
    let start := date.dayNumber * secondsPerDay + hour * 3600 + minute * 60
    if second = 60 then some ⟨start + 59, nanosPerSecond + nanos⟩
    else some ⟨start + second, nanos⟩
  else none

/-- Instants are ordered by their second and then by their fraction. -/
instance : LT Instant :=
  ⟨fun a b => a.second < b.second ∨ a.second = b.second ∧ a.nanos < b.nanos⟩

instance (a b : Instant) : Decidable (a < b) :=
  inferInstanceAs (Decidable (_ ∨ _))

/-- The beginning of the second an instant lies in; a leap second stays one. -/
def atSecond (t : Instant) : Instant :=
  { t with nanos := t.nanos - t.nanos % nanosPerSecond }

/-- How much a leap second adds to a distance: the one of the earlier time of day has passed when
the later one begins. -/
def leapAdjustment (a b : Instant) : Int :=
  if b.secondOfDay < a.secondOfDay then if nanosPerSecond ≤ b.nanos then 1 else 0
  else if a.secondOfDay < b.secondOfDay then if nanosPerSecond ≤ a.nanos then -1 else 0
  else 0

/-- The nanoseconds from `b` to `a`. -/
def nanosSince (a b : Instant) : Int :=
  (a.second - b.second + leapAdjustment a b) * nanosPerSecond + (a.nanos - b.nanos)

/-- The whole seconds from `b` to `a`, rounded toward zero. -/
def secondsSince (a b : Instant) : Int :=
  (nanosSince a b).tdiv nanosPerSecond

/-- An instant that many seconds later. -/
def addSeconds (t : Instant) (n : Int) : Instant :=
  { t with second := t.second + n }

end Instant

end ClusterWatch.Time
