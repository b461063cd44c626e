import Rollup.Calendar.Instant
import Rollup.Text.Blank
import Rollup.Decimal.Literal

/-!
# Reading instants

Instants are typed in three forms: with a zone (`2024-03-05T10:00:00+02:00`, every number at full
width), without one (`2024-3-5 10:00:00`, which is taken as UTC), and as a bare date, which means its
midnight. `Instant.parse?` tries them in this order on the trimmed text.

The instants inside records are written by programs and read by a laxer rule, `Instant.decode?`: blanks
may precede numbers and separators, numbers may be short, and the zone may be `UTC`.

A reader here takes the characters left and gives what it read with the characters that follow.
-/

namespace Rollup

namespace Calendar

open Text (isBlank trimStart)

/-- A reader: what is read in front of a text, and what follows it. -/
abbrev Reader (α : Type) : Type := List Char → Option (α × List Char)

/-- Exactly `count` digits. -/
def digits (count : Nat) : Reader Nat := fun cs =>
  let front := cs.take count
  if front.length = count ∧ front.all Char.isDigit then some (Literal.natOf front, cs.drop count)
  else none

/-- At least one digit and at most `limit` of them. -/
def digitsUpTo (limit : Nat) : Reader Nat := fun cs =>
  let front := (cs.take limit).takeWhile Char.isDigit
  if front.isEmpty then none else some (Literal.natOf front, cs.drop front.length)

/-- All digits in front, at least one. -/
def allDigits : Reader Nat := fun cs =>
  digitsUpTo cs.length cs

/-- A given character. -/
def mark (c : Char) : Reader Unit := fun cs =>
  match cs with
  | d :: r => if d = c then some ((), r) else none
  | [] => none

/-- A number of one or two digits, blanks before it being skipped. -/
def short : Reader Nat := fun cs => digitsUpTo 2 (trimStart cs)

/-- A year, blanks before it being skipped: at most four digits, or a sign and any number of them. -/
def shortYear : Reader Int := fun cs =>
  match trimStart cs with
  | '-' :: r => (allDigits r).map fun (n, r) => (-(n : Int), r)
  | '+' :: r => (allDigits r).map fun (n, r) => ((n : Int), r)
  | r => (digitsUpTo 4 r).map fun (n, r) => ((n : Int), r)

/-- The digits of a fraction as nanoseconds, those beyond the ninth being dropped. -/
def nanoDigits : Reader Nat := fun cs =>
  let (all, r) := Literal.spanDigits cs
  if all.isEmpty then none
  else
    let kept := all.take 9
    some (Literal.natOf kept * 10 ^ (9 - kept.length), r)

/-- A point and a fraction, or nothing. -/
def optionalNanos : Reader Nat := fun cs =>
  match cs with
  | '.' :: r => nanoDigits r
  | r => some (0, r)

/-- The sign of a zone offset; the typographic minus is one as well. -/
def offsetSign : Reader Int := fun cs =>
  match cs with
  | '+' :: r => some (1, r)
  | '-' :: r => some (-1, r)
  | '−' :: r => some (-1, r)
  | _ => none

/-- Hours and minutes of a zone offset, `between` standing between them: in seconds, less than a
day. -/
def offset (between : List Char → Option (List Char)) : Reader Int := fun cs => do
  let (sign, r) ← offsetSign cs
  let (hours, r) ← digits 2 r
  let r ← between r
  let (minutes, r) ← digits 2 r
  if hours < 24 ∧ minutes < 60 then some (sign * (3600 * hours + 60 * minutes), r) else none

/-- **The instant of a date and a time of day** in a zone `offset` seconds ahead of UTC. The second 60 is
a leap second, kept on the second before. -/
def instantOf? (year : Int) (month day hour minute second nanos : Nat) (offset : Int) :
    Option Instant := do
  let d ← Date.ofParts? year month day
  if hour < 24 ∧ minute < 60 ∧ second ≤ 60 then
    let (second, nanos) := if second = 60 then (59, nanos + 10 ^ 9) else (second, nanos)
    Instant.ofParts? (86400 * d.dayNumber + 3600 * hour + 60 * minute + second - offset) nanos
  else none

/-- Whether a character may stand between date and time. -/
def isDateTimeMark (c : Char) : Bool :=
  c == 'T' || c == 't' || c == ' '

/-! ## The three typed forms -/

/-- A date and a time with a zone, every number at full width. -/
def zoned? (cs : List Char) : Option Instant := do
  let (year, r) ← digits 4 cs
  let (_, r) ← mark '-' r
  let (month, r) ← digits 2 r
  let (_, r) ← mark '-' r
  let (day, r) ← digits 2 r
  let r ← match r with
    | c :: r => if isDateTimeMark c then some r else none
    | [] => none
  let (hour, r) ← digits 2 r
  let (_, r) ← mark ':' r
  let (minute, r) ← digits 2 r
  let (_, r) ← mark ':' r
  let (second, r) ← digits 2 r
  let (nanos, r) ← optionalNanos r
  let (offset, r) ← match r with
    | 'Z' :: r => some (0, r)
    | 'z' :: r => some (0, r)
    | r => offset (fun r => (mark ':' r).map Prod.snd) r
  if r.isEmpty then instantOf? year month day hour minute second nanos offset else none

/-- A date of short numbers in front of a text. -/
def shortDate : Reader (Int × Nat × Nat) := fun cs => do
  let (year, r) ← shortYear cs
  let (_, r) ← mark '-' r
  let (month, r) ← short r
  let (_, r) ← mark '-' r
  let (day, r) ← short r
  return ((year, month, day), r)

/-- A date and a time without a zone; the blanks between them may be missing. -/
def unzoned? (cs : List Char) : Option Instant := do
  let ((year, month, day), r) ← shortDate cs
  let (hour, r) ← short r
  let (_, r) ← mark ':' r
  let (minute, r) ← short r
  let (_, r) ← mark ':' r
  let (second, r) ← short r
  if r.isEmpty then instantOf? year month day hour minute second 0 0 else none

/-- A bare date, at midnight. -/
def dateOnly? (cs : List Char) : Option Instant := do
  let ((year, month, day), r) ← shortDate cs
  if r.isEmpty then instantOf? year month day 0 0 0 0 0 else none

/-! ## The form inside records -/

/-- A given character, blanks before it being skipped. -/
def looseMark (c : Char) : Reader Unit := fun cs => mark c (trimStart cs)

/-- The zone inside records: `UTC` or `Z` in any case, or an offset. -/
def looseZone : Reader Int := fun cs =>
  match cs with
  | 'Z' :: r => some (0, r)
  | 'z' :: r => some (0, r)
  | u :: t :: c :: r =>
    if u.toLower = 'u' ∧ t.toLower = 't' ∧ c.toLower = 'c' then some (0, r)
    else offset (fun r => some (r.dropWhile fun c => c == ':' || isBlank c)) (u :: t :: c :: r)
  | _ => none

end Calendar

namespace Instant

open Calendar

/-- **Reads a typed instant**: with a zone, without one, or a bare date. -/
def parse? (text : String) : Option Instant :=
  let cs := (Text.trim text).toList
  zoned? cs <|> unzoned? cs <|> dateOnly? cs

/-- **Reads an instant inside a record.** -/
def decode? (text : String) : Option Instant := do
  let (year, r) ← shortYear text.toList
  let (_, r) ← looseMark '-' r
  let (month, r) ← short r
  let (_, r) ← looseMark '-' r
  let (day, r) ← short r
  let r ← match r with
    | c :: r => if isDateTimeMark c then some r else none
    | [] => none
  let (hour, r) ← short r
  let (_, r) ← looseMark ':' r
  let (minute, r) ← short r
  let (_, r) ← looseMark ':' r
  let (second, r) ← short r
  let (nanos, r) ← optionalNanos r
  let (offset, r) ← looseZone (Text.trimStart r)
  if (Text.trimStart r).isEmpty then instantOf? year month day hour minute second nanos offset
  else none

end Instant

end Rollup
