import Rollup.Decimal.Binary

/-!
# Decimal literals

A typed number is a sign, digits with at most one point among them, and an exponent. `Literal.read?`
takes the text apart and `Literal.toFloat?` rounds it once, exactly, to the nearest double. A literal
needs one digit on either side of the point; names such as `inf` are no literals.
-/

namespace Rollup

/-- **A decimal literal**: `± digits · 10 ^ exponent`. -/
structure Literal where
  /-- Whether it has a minus sign. -/
  negative : Bool
  /-- All digits, the point left out. -/
  digits : List Char
  /-- The written exponent less the number of digits behind the point. -/
  exponent : Int
  deriving DecidableEq, Repr

namespace Literal

/-- The number that decimal digits spell; no digits spell zero. -/
def natOf (digits : List Char) : Nat :=
  digits.foldl (fun n c => 10 * n + (c.toNat - '0'.toNat)) 0

/-- The digits in front, and what follows them. -/
def spanDigits (cs : List Char) : List Char × List Char :=
  (cs.takeWhile Char.isDigit, cs.dropWhile Char.isDigit)

/-- The sign in front, whether it is a minus, and what follows it. -/
def spanSign : List Char → Bool × List Char
  | '-' :: r => (true, r)
  | '+' :: r => (false, r)
  | r => (false, r)

/-- The exponent part: nothing, or `e` or `E`, an optional sign and at least one digit. -/
def exponent? : List Char → Option Int
  | [] => some 0
  | c :: r =>
    if c = 'e' ∨ c = 'E' then
      let (negative, r) := spanSign r
      let (digits, r) := spanDigits r
      if digits.isEmpty || !r.isEmpty then none
      else some (if negative then -(natOf digits : Int) else natOf digits)
    else none

/-- **Reads a literal**; nothing may precede or follow it. -/
def read? (text : String) : Option Literal :=
  let (negative, r) := spanSign text.toList
  let (whole, r) := spanDigits r
  let (fraction, r) := match r with
    | '.' :: r => spanDigits r
    | r => ([], r)
  if whole.isEmpty && fraction.isEmpty then none
  else (exponent? r).map fun e => ⟨negative, whole ++ fraction, e - fraction.length⟩

/-- The decimal `± digits · 10 ^ exponent` rounded to the nearest double; none beyond the largest
one. Powers far outside the range of doubles are settled by their size alone. -/
def round? (negative : Bool) (digits : Nat) (exponent : Int) : Option Float :=
  let size : Int := exponent + (toString digits).length
  if digits = 0 ∨ size < -400 then Binary.nearest? negative 0 1
  else if 400 < size then none
  else Binary.nearest? negative (digits * 10 ^ exponent.toNat) (10 ^ (-exponent).toNat)

/-- **The double a literal stands for**; none beyond the largest one. -/
def toFloat? (l : Literal) : Option Float :=
  round? l.negative (natOf l.digits) l.exponent

end Literal

/-- **The finite double a text spells**, correctly rounded. -/
def parseFloat? (text : String) : Option Float :=
  (Literal.read? text).bind Literal.toFloat?

end Rollup
