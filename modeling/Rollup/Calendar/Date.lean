/-!
# Calendar dates

Dates of the Gregorian calendar, extended to all years, and their **day numbers**, counted from
1970-01-01. The year before year 1 is year 0, and years run from -262143 to 262142.

`Date.dayNumber` counts the days before a date, `Date.ofDayNumber` takes four-century, century,
four-year and year steps back from a count to a date.
-/

namespace Rollup

/-- **A date**, as year, month and day of the month. -/
structure Date where
  /-- The year, with a year 0 and negative years before it. -/
  year : Int
  /-- The month, from 1. -/
  month : Nat
  /-- The day of the month, from 1. -/
  day : Nat
  deriving DecidableEq, Repr

namespace Date

/-- Whether February has twenty-nine days. -/
def isLeap (year : Int) : Bool :=
  (year % 4 == 0 && year % 100 != 0) || year % 400 == 0

/-- The length of a month; a number that is no month has no days. -/
def daysInMonth (year : Int) : Nat → Nat
  | 1 | 3 | 5 | 7 | 8 | 10 | 12 => 31
  | 4 | 6 | 9 | 11 => 30
  | 2 => if isLeap year then 29 else 28
  | _ => 0

/-- **The dates that exist**: a year in range, and a day that its month has. -/
def IsValid (d : Date) : Prop :=
  -262143 ≤ d.year ∧ d.year ≤ 262142 ∧ 1 ≤ d.day ∧ d.day ≤ daysInMonth d.year d.month

instance : DecidablePred IsValid := fun d => by unfold IsValid; infer_instance

/-- The date of three numbers, where it exists. -/
def ofParts? (year : Int) (month day : Nat) : Option Date :=
  let d : Date := ⟨year, month, day⟩
  if d.IsValid then some d else none

/-- The days from 0001-01-01 to the first day of a year. -/
def daysBeforeYear (year : Int) : Int :=
  let before := year - 1
  365 * before + before.fdiv 4 - before.fdiv 100 + before.fdiv 400

/-- The days of a year before the first day of a month. -/
def daysBeforeMonth (year : Int) : Nat → Nat
  | 0 => 0
  | 1 => 0
  | month + 2 => daysBeforeMonth year (month + 1) + daysInMonth year (month + 1)

/-- The days from 0001-01-01 to 1970-01-01. -/
def epochDays : Int := 719162

/-- **The number of a day**, 1970-01-01 being day 0. -/
def dayNumber (d : Date) : Int :=
  daysBeforeYear d.year + daysBeforeMonth d.year d.month + d.day - 1 - epochDays

/-- The year of the day that lies `n` days after 0001-01-01. -/
def yearOfDay (n : Int) : Int :=
  let era := n.fdiv 146097
  let inEra := (n.fmod 146097).toNat
  let century := min (inEra / 36524) 3
  let inCentury := inEra - century * 36524
  let four := inCentury / 1461
  let inFour := inCentury % 1461
  let one := min (inFour / 365) 3
  400 * era + 100 * century + 4 * four + one + 1

/-- The month and day of the day that lies `n` days after the first of January, months from `month`
on being left. -/
def monthAndDay (year : Int) : Nat → Nat → Nat → Nat × Nat
  | 0, month, n => (month, n + 1)
  | left + 1, month, n =>
    if n < daysInMonth year month then (month, n + 1)
    else monthAndDay year left (month + 1) (n - daysInMonth year month)

/-- **The date of a day number.** -/
def ofDayNumber (number : Int) : Date :=
  let n := number + epochDays
  let year := yearOfDay n
  let (month, day) := monthAndDay year 11 1 (n - daysBeforeYear year).toNat
  ⟨year, month, day⟩

end Date

end Rollup
