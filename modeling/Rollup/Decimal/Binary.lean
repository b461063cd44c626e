import Rollup.Decimal.Power

/-!
# Doubles as dyadic fractions

A finite double is `± mantissa · 2 ^ exponent`. Everything exact that the library does with doubles
– printing them, rounding a decimal to them, cutting them to whole numbers – reads that fraction
off the sixty-four bits and then works on natural numbers.

Main definitions: `Binary.ofFloat` decodes, `Binary.toFloat?` rounds any fraction `num / den` to
the nearest double, an exact half going to the even mantissa.
-/

namespace Rollup

/-- **A dyadic fraction** `± mantissa · 2 ^ exponent`. -/
structure Binary where
  /-- Whether the sign is minus; the two zeros differ in it. -/
  negative : Bool
  /-- The whole factor. -/
  mantissa : Nat
  /-- The power of two. -/
  exponent : Int
  deriving DecidableEq, Repr

namespace Binary

/-- The fraction a finite double stands for. Subnormal doubles share the exponent `-1074` and lack
the leading bit. -/
def ofFloat (f : Float) : Binary :=
  let bits := f.toBits.toNat
  let negative : Bool := 2 ^ 63 ≤ bits
  let biased : Nat := bits / 2 ^ 52 % 2 ^ 11
  let fraction : Nat := bits % 2 ^ 52
  if biased = 0 then ⟨negative, fraction, -1074⟩
  else ⟨negative, 2 ^ 52 + fraction, (biased : Int) - 1075⟩

/-- Whether the next smaller double is only half as far away as the next larger one: the mantissa is
a bare power of two and the number is not subnormal. -/
def narrowBelow (b : Binary) : Bool :=
  b.mantissa == 2 ^ 52 && b.exponent > -1074

/-- The fraction cut to a whole number, toward zero. -/
def truncate (b : Binary) : Int :=
  let whole := b.mantissa * 2 ^ b.exponent.toNat / 2 ^ (-b.exponent).toNat
  if b.negative then -(whole : Int) else whole

/-- Whether the fraction is a whole number. -/
def isWhole (b : Binary) : Bool :=
  b.mantissa % 2 ^ (-b.exponent).toNat == 0

/-! ## Rounding a fraction to a double -/

/-- The quotient rounded to the nearest whole number, an exact half to the even one. -/
def divideEven (num den : Nat) : Nat :=
  let q := num / den
  let r := num % den
  if 2 * r < den then q
  else if den < 2 * r then q + 1
  else if q % 2 = 0 then q else q + 1

/-- The bits of the double `mantissa · 2 ^ exponent` without its sign, for a mantissa of at most
fifty-three bits; none beyond the largest double. -/
def pack? (mantissa : Nat) (exponent : Int) : Option Nat :=
  if mantissa < 2 ^ 52 then some mantissa
  else
    let biased := (exponent + 1075).toNat
    if 2047 ≤ biased then none else some (biased * 2 ^ 52 + (mantissa - 2 ^ 52))

/-- **The double nearest to `num / den`**, an exact half going to the even mantissa; none when the
result is beyond the largest double. -/
def nearestBits? (num den : Nat) : Option Nat :=
  if num = 0 then some 0
  else
    let guess : Int := (Nat.log2 num : Int) - Nat.log2 den
    let top : Int :=
      if num * 2 ^ (-guess).toNat < den * 2 ^ guess.toNat then guess - 1 else guess
    let exponent : Int := max (top - 52) (-1074)
    let mantissa := divideEven (num * 2 ^ (-exponent).toNat) (den * 2 ^ exponent.toNat)
    if mantissa = 2 ^ 53 then pack? (2 ^ 52) (exponent + 1) else pack? mantissa exponent

/-- `nearestBits?` with a sign, as a double. -/
def nearest? (negative : Bool) (num den : Nat) : Option Float :=
  (nearestBits? num den).map fun bits =>
    Float.ofBits (UInt64.ofNat (if negative then 2 ^ 63 + bits else bits))

end Binary

end Rollup
