import Rollup.Calendar.Instant

/-!
# Instants as text

Two forms are written. The **stored form** always has milliseconds, so that all stored instants of the
years 0 to 9999 have the same width and order as text as they order in time. The **record form**, which
stands in definitions and records, has 0, 3, 6 or 9 fraction digits, as few as hold the nanoseconds.
Years outside 0 to 9999 are written with a sign and at least four digits.
-/

namespace Rollup

/-- A number with zeros in front up to a width. -/
def padded (width n : Nat) : String :=
  let digits := toString n
  String.ofList (List.replicate (width - digits.length) '0') ++ digits

namespace Date

/-- A year: four digits, or a sign and at least four digits outside 0 to 9999. -/
def yearText (year : Int) : String :=
  if 0 ≤ year ∧ year ≤ 9999 then padded 4 year.toNat
  else (if year < 0 then "-" else "+") ++ padded 4 year.natAbs

/-- **A date as text**, year, month and day. -/
def render (d : Date) : String :=
  yearText d.year ++ "-" ++ padded 2 d.month ++ "-" ++ padded 2 d.day

end Date

namespace Instant

/-- The date, `T`, and the time down to the second; a leap second is the second 60. -/
def secondsText (t : Instant) : String :=
  let s := t.secondOfDay
  let second := s % 60 + t.nanos / 10 ^ 9
  t.date.render ++ "T" ++ padded 2 (s / 3600) ++ ":" ++ padded 2 (s / 60 % 60) ++ ":"
    ++ padded 2 second

/-- **The stored form**: milliseconds, the rest cut off. -/
def stored (t : Instant) : String :=
  t.secondsText ++ "." ++ padded 3 (t.nanos % 10 ^ 9 / 10 ^ 6) ++ "Z"

/-- The fraction of a second in as few groups of three digits as hold it. -/
def fractionText (nanos : Nat) : String :=
  if nanos = 0 then ""
  else if nanos % 10 ^ 6 = 0 then "." ++ padded 3 (nanos / 10 ^ 6)
  else if nanos % 10 ^ 3 = 0 then "." ++ padded 6 (nanos / 10 ^ 3)
  else "." ++ padded 9 nanos

/-- **The record form**: as many fraction digits as needed. -/
def recorded (t : Instant) : String :=
  t.secondsText ++ fractionText (t.nanos % 10 ^ 9) ++ "Z"

end Instant

end Rollup
