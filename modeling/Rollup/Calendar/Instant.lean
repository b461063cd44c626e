import Rollup.Calendar.Date
import Rollup.Decimal.Power

/-!
# Instants

A point in time in UTC: whole seconds since 1970-01-01T00:00:00 and nanoseconds. A leap second is kept
on the second before it, with nanoseconds from `10 ^ 9` up; that second is then the last one of its
minute. Instants are ordered by seconds and then by nanoseconds.
-/

namespace Rollup

/-- **A point in time**, within the years that dates have. -/
structure Instant where
  /-- The seconds since 1970-01-01T00:00:00. -/
  seconds : Int
  /-- The nanoseconds, from `10 ^ 9` up within a leap second. -/
  nanos : Nat
  /-- The year is in the range of dates. -/
  inRange : -8334601228800 ≤ seconds ∧ seconds ≤ 8210266876799
  /-- Nanoseconds reach to the end of a leap second, and a leap second ends its minute. -/
  nanos_valid : nanos < 2 * 10 ^ 9 ∧ (10 ^ 9 ≤ nanos → seconds % 60 = 59)
  deriving DecidableEq

namespace Instant

/-- The instant of seconds and nanoseconds, where it exists. -/
def ofParts? (seconds : Int) (nanos : Nat) : Option Instant :=
  if h : -8334601228800 ≤ seconds ∧ seconds ≤ 8210266876799 then
    if k : nanos < 2 * 10 ^ 9 ∧ (10 ^ 9 ≤ nanos → seconds % 60 = 59) then some ⟨seconds, nanos, h, k⟩
    else none
  else none

/-- **The instant from which seconds are counted.** -/
def epoch : Instant := ⟨0, 0, by decide, by decide⟩

instance : Inhabited Instant := ⟨epoch⟩

/-- Whether one instant lies before another. -/
def before (s t : Instant) : Bool :=
  decide (s.seconds < t.seconds) || (s.seconds == t.seconds && decide (s.nanos < t.nanos))

/-- The order of instants in time. -/
def order (s t : Instant) : Ordering :=
  (compare s.seconds t.seconds).then (compare s.nanos t.nanos)

/-- The number of the day on which an instant falls. -/
def dayNumber (t : Instant) : Int :=
  t.seconds.fdiv 86400

/-- The date on which an instant falls. -/
def date (t : Instant) : Date :=
  Date.ofDayNumber t.dayNumber

/-- The seconds of the day that have passed. -/
def secondOfDay (t : Instant) : Nat :=
  (t.seconds.fmod 86400).toNat

/-- The instant at which a date begins, the date being one that exists. -/
def ofDate? (d : Date) : Option Instant :=
  ofParts? (86400 * d.dayNumber) 0

end Instant

end Rollup
