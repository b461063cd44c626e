import Rollup.Decimal.Binary

/-!
# Rounding doubles

A double is rounded to the nearest whole number, an exact half away from zero. The result keeps the
sign of its argument, also when it is zero. Rounding to decimal places multiplies with a power of ten,
rounds, and divides again, each step in the arithmetic of doubles; the power is built by repeated
squaring, so that it is the same double wherever it is used.
-/

namespace Rollup

namespace Binary

/-- The nearest whole number to the absolute value, an exact half going up. -/
def nearestWhole (b : Binary) : Nat :=
  let den := 2 ^ (-b.exponent).toNat
  (2 * (b.mantissa * 2 ^ b.exponent.toNat) + den) / (2 * den)

end Binary

/-- **A double rounded to a whole number**, an exact half away from zero. Doubles from `2 ^ 52` on are
whole already, as are infinities. -/
def roundHalfAway (f : Float) : Float :=
  let b := Binary.ofFloat f
  if f.isFinite && b.exponent < 0 then
    let whole := (UInt64.ofNat b.nearestWhole).toFloat
    if b.negative then -whole else whole
  else f

/-- The product `acc · base ^ n` by repeated squaring, `n` having at most `bits` binary digits. -/
def powerBySquaring : Nat → Float → Nat → Float → Float
  | 0, _, _, acc => acc
  | bits + 1, base, n, acc =>
    let acc := if n % 2 = 1 then acc * base else acc
    if n / 2 = 0 then acc else powerBySquaring bits (base * base) (n / 2) acc

/-- A whole power of ten; a negative one is the reciprocal of the positive one. -/
def powerOfTen (places : Int) : Float :=
  let power := powerBySquaring 32 10 places.natAbs 1
  if places < 0 then 1 / power else power

/-- A double cut to a whole number of thirty-two bits, the nearest one for doubles out of range. -/
def clampedPlaces (f : Float) : Int :=
  max (-2 ^ 31) (min (2 ^ 31 - 1) (Binary.ofFloat f).truncate)

/-- **A double rounded to decimal places.** -/
def roundToPlaces (f : Float) (places : Float) : Float :=
  let scale := powerOfTen (clampedPlaces places)
  roundHalfAway (f * scale) / scale

end Rollup
