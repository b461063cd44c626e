import Rollup.Json.Basic
import Rollup.Decimal.Literal

/-!
# Number literals

A literal without point and exponent that fits a word is a whole number; `-0` is the negative zero of
the doubles. Every other literal is a double, found by **scaling**: the leading digits that fit an
unsigned word are taken as one whole number, which is then multiplied or divided once by a power of
ten. The result may be off by a last place from the nearest double – typed texts, which must not be,
go through `parseFloat?` instead. A literal beyond the largest double is refused.
-/

namespace Rollup

namespace Numeral

/-- The parts of a literal: the digits before and behind the point and the written exponent. -/
structure Parts where
  /-- Whether it starts with a minus sign. -/
  negative : Bool
  /-- The digits before the point. -/
  whole : List Char
  /-- The digits behind the point, if there is one. -/
  fraction : Option (List Char)
  /-- The exponent, if there is one. -/
  exponent : Option Int

/-- **Takes digits while the number they spell fits an unsigned word**, starting from `n`. -/
def gather (n : Nat) : List Char → Nat × List Char
  | [] => (n, [])
  | c :: rest =>
    let next := 10 * n + (c.toNat - '0'.toNat)
    if next < 2 ^ 64 then gather next rest else (n, c :: rest)

/-- The double nearest to a power of ten, for exponents up to 308. -/
def powerOfTen (e : Nat) : Float :=
  (Binary.nearest? false (10 ^ e) 1).getD 0

/-- A double times a power of ten: one multiplication or division where the power is a double,
repeated division below. None beyond the largest double. -/
def scale : Nat → Float → Int → Option Float
  | 0, f, _ => some f
  | fuel + 1, f, e =>
    if 0 ≤ e then
      if e ≤ 308 then
        let scaled := f * powerOfTen e.toNat
        if scaled.isFinite then some scaled else none
      else if f == 0 then some f
      else none
    else if -308 ≤ e then some (f / powerOfTen (-e).toNat)
    else if f == 0 then some f
    else scale fuel (f / powerOfTen 308) (e + 308)

/-- The double of a literal. The first division by `10 ^ 308` takes any word below one and the
second to zero, so four rounds are enough. -/
def Parts.toFloat? (p : Parts) : Option Float :=
  let (n, uncounted) := gather 0 p.whole
  let fraction := p.fraction.getD []
  let (n, ignored) := gather n fraction
  let shift : Int := uncounted.length - (fraction.length - ignored.length : Nat)
  (scale 4 (UInt64.ofNat n).toFloat (p.exponent.getD 0 + shift)).map fun f =>
    if p.negative then -f else f

/-- The whole number of a literal without point and exponent, if it is one. -/
def Parts.toInt? (p : Parts) : Option Int :=
  match p.fraction, p.exponent with
  | none, none =>
    let n := Literal.natOf p.whole
    if p.negative then (if n = 0 then none else some (-(n : Int))) else some n
  | _, _ => none

/-- A double as a number, where it is finite. -/
def ofFloat? (f : Float) : Option Number :=
  if h : f.isFinite = true then some (.float f h) else none

/-- **The number a literal stands for.** -/
def Parts.toNumber? (p : Parts) : Option Number :=
  match p.toInt? with
  | some n =>
    if h : -2 ^ 63 ≤ n ∧ n < 2 ^ 64 then some (.int n h) else p.toFloat?.bind ofFloat?
  | none => p.toFloat?.bind ofFloat?

/-- The digits before the point: a single zero, or digits that do not start with one. -/
def spanWhole? : List Char → Option (List Char × List Char)
  | '0' :: r => if (r.head?.map Char.isDigit).getD false then none else some (['0'], r)
  | cs => let (digits, r) := Literal.spanDigits cs
    if digits.isEmpty then none else some (digits, r)

/-- The point and the digits behind it, of which there must be one. -/
def spanFraction? : List Char → Option (Option (List Char) × List Char)
  | '.' :: r => let (digits, r) := Literal.spanDigits r
    if digits.isEmpty then none else some (some digits, r)
  | r => some (none, r)

/-- The exponent: `e` or `E`, an optional sign, and at least one digit. -/
def spanExponent? : List Char → Option (Option Int × List Char)
  | [] => some (none, [])
  | c :: r =>
    if c = 'e' ∨ c = 'E' then
      let (negative, r) := Literal.spanSign r
      let (digits, r) := Literal.spanDigits r
      if digits.isEmpty then none
      else
        let n : Int := Literal.natOf digits
        some (some (if negative then -n else n), r)
    else some (none, c :: r)

/-- **The parts of a literal in front of a text**, and what follows it. -/
def readParts? (cs : List Char) : Option (Parts × List Char) := do
  let (negative, r) := match cs with
    | '-' :: r => (true, r)
    | r => (false, r)
  let (whole, r) ← spanWhole? r
  let (fraction, r) ← spanFraction? r
  let (exponent, r) ← spanExponent? r
  return (⟨negative, whole, fraction, exponent⟩, r)

/-- **Reads a literal in front of a text**, giving the number and what follows it. -/
def read? (cs : List Char) : Option (Number × List Char) := do
  let (parts, r) ← readParts? cs
  let n ← parts.toNumber?
  return (n, r)

end Numeral

end Rollup
