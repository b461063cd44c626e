import Rollup.Condition.Basic
import Rollup.Condition.Predicate

/-!
# Calendar intervals

A date in a condition stands for a half-open interval of instants: a day for a date and for `now`, a
month for the processing period. Comparing with a date is comparing with the bounds of its interval, so
that `=` means "within", `>` means "from the end on" and `<=` means "before the end".
-/

namespace Rollup

/-- **A half-open interval of instants.** -/
structure DateInterval where
  /-- The first instant within. -/
  start : Instant
  /-- The first instant behind. -/
  stop : Instant

namespace DateInterval

/-- The day of a day number; the last day there is has no end. -/
def ofDay? (dayNumber : Int) : Option DateInterval := do
  let start ← Instant.ofParts? (86400 * dayNumber) 0
  let stop ← Instant.ofParts? (86400 * (dayNumber + 1)) 0
  return ⟨start, stop⟩

/-- The day on which an instant falls. -/
def ofInstant? (t : Instant) : Option DateInterval :=
  ofDay? t.dayNumber

/-- **The month of a text such as `2024-05`**, blanks around it being ignored. -/
def ofMonth? (text : String) : Option DateInterval := do
  let (year, month) ← Text.splitFirst? '-' (Text.trim text)
  let year ← Text.parseInt? year
  let month ← if month.startsWith "-" then none else Text.parseInt? month
  let first ← Date.ofParts? year month.toNat 1
  let next ← if first.month < 12 then Date.ofParts? first.year (first.month + 1) 1
    else Date.ofParts? (first.year + 1) 1 1
  return ⟨← Instant.ofDate? first, ← Instant.ofDate? next⟩

/-- **Comparing a field with the interval**; none for operators that mean nothing for dates. -/
def predicate? (i : DateInterval) (path : String) : Operator → Option Predicate
  | .eq => some (.allOf [.compare path .ge (.instant i.start), .compare path .lt (.instant i.stop)])
  | .ne => some (.anyOf [.compare path .lt (.instant i.start), .compare path .ge (.instant i.stop)])
  | .gt => some (.compare path .ge (.instant i.stop))
  | .ge => some (.compare path .ge (.instant i.start))
  | .lt => some (.compare path .lt (.instant i.start))
  | .le => some (.compare path .lt (.instant i.stop))
  | .like | .among | .range => none

end DateInterval

end Rollup
