import Rollup.Decimal.Binary

/-!
# The shortest decimal that reads back

A double is written with the fewest decimal digits that identify it. The reals that round to
`m · 2 ^ q` form an interval around it, its ends belonging to it exactly when `m` is even. For one,
two, … seventeen digits the two neighbours of the value on that decimal grid are tested against the
interval; the first grid with a hit wins, and of two hits the nearer one.

All arithmetic is on natural numbers: a real is compared after multiplying with a common
denominator, so nothing is rounded on the way.
-/

namespace Rollup

/-- **A decimal** `digits · 10 ^ exponent`, without a sign. -/
structure Decimal where
  /-- The digits, as a whole number. -/
  digits : Nat
  /-- The power of ten. -/
  exponent : Int
  deriving DecidableEq, Repr

/-- Which of two equally near decimals is written. -/
inductive Tie where
  /-- The one whose last digit is even. -/
  | toEven
  /-- The larger one. -/
  | up
  deriving DecidableEq, Repr

namespace Decimal

/-- Digits without trailing zeros, which move into the exponent; at most `fuel` of them. -/
def stripZeros : Nat → Decimal → Decimal
  | 0, d => d
  | fuel + 1, d =>
    if d.digits ≠ 0 ∧ d.digits % 10 = 0 then stripZeros fuel ⟨d.digits / 10, d.exponent + 1⟩ else d

/-- A positive double on common scales: the value is `value / unit`, and the reals that round to it
reach from `low / unit` to `high / unit`. -/
structure Interval where
  /-- The numerator of the value. -/
  value : Nat
  /-- The numerator of the lower end. -/
  low : Nat
  /-- The numerator of the upper end. -/
  high : Nat
  /-- The common denominator. -/
  unit : Nat
  /-- Whether the ends round to the value as well. -/
  closed : Bool

/-- The interval of a positive dyadic fraction, in quarters of its last place. -/
def intervalOf (b : Binary) : Interval :=
  let scale := 2 ^ (b.exponent - 2).toNat
  let below := if b.narrowBelow then 1 else 2
  { value := 4 * b.mantissa * scale
    low := (4 * b.mantissa - below) * scale
    high := (4 * b.mantissa + 2) * scale
    unit := 2 ^ (2 - b.exponent).toNat
    closed := b.mantissa % 2 == 0 }

/-- Whether `numerator / i.unit` rounds to the value. -/
def Interval.holds (i : Interval) (numerator : Nat) : Bool :=
  if i.closed then i.low ≤ numerator && numerator ≤ i.high
  else i.low < numerator && numerator < i.high

/-- The largest power of ten that is not above the value, as its exponent. The binary logarithm
gives it up to one. -/
def leadingExponent (b : Binary) : Int :=
  let guess : Int := (((Nat.log2 b.mantissa : Int) + b.exponent) * 30103).fdiv 100000
  let next := guess + 1
  let atLeast :=
    10 ^ next.toNat * 2 ^ (-b.exponent).toNat ≤ b.mantissa * 2 ^ b.exponent.toNat * 10 ^ (-next).toNat
  if atLeast then next else guess

/-- **The grid step**: the decimal with the power `10 ^ k` that rounds to the value and is nearest to
it, if one of the two neighbours does round to it. -/
def onGrid (tie : Tie) (i : Interval) (k : Int) : Option Nat :=
  -- with `up` and `down` both sides are multiplied by a power of ten that makes them whole
  let up := 10 ^ (-k).toNat
  let down := 10 ^ k.toNat
  let step := i.unit * down
  let scaled : Interval :=
    { value := i.value * up, low := i.low * up, high := i.high * up, unit := i.unit, closed := i.closed }
  let d := scaled.value / step
  let below := d ≠ 0 && scaled.holds (d * step)
  let above := scaled.holds ((d + 1) * step)
  let rest := 2 * (scaled.value - d * step)
  if below && above then
    if rest < step then some d
    else if step < rest then some (d + 1)
    else match tie with
      | .toEven => some (if d % 2 = 0 then d else d + 1)
      | .up => some (d + 1)
  else if below then some d
  else if above then some (d + 1)
  else none

/-- The first grid with a hit, `count` grids being tried from the power `10 ^ k` down. -/
def firstGrid (tie : Tie) (i : Interval) : Nat → Int → Option Decimal
  | 0, _ => none
  | count + 1, k =>
    match onGrid tie i k with
    | some d => some ⟨d, k⟩
    | none => firstGrid tie i count (k - 1)

/-- **The shortest decimal that reads back as the given fraction.** Seventeen digits always do, so the
last case is never reached by a double. -/
def shortest (tie : Tie) (b : Binary) : Decimal :=
  if b.mantissa = 0 then ⟨0, 0⟩
  else
    match firstGrid tie (intervalOf b) 17 (leadingExponent b) with
    | some d => stripZeros 20 d
    | none => ⟨0, 0⟩

end Decimal

end Rollup
