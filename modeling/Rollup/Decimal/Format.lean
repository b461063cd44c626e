import Rollup.Decimal.Shortest

/-!
# How numbers are written

The digits of a double are settled by `Decimal.shortest`; a **format** settles the rest: which
decimal exponents are written in positional form, whether a whole number keeps its `.0`, and how the
digits tie. The library uses two of them, one for documents and one for exports.
-/

namespace Rollup

/-- **A number format.** -/
structure NumberFormat where
  /-- The decimal exponents (of the leading digit) that are written in positional form, as a lowest
  and a first excluded one; none means all of them. -/
  positional : Option (Int × Int)
  /-- Whether a whole number in positional form is written with `.0`. -/
  pointZero : Bool
  /-- Which of two equally near decimals is written. -/
  tie : Tie

namespace NumberFormat

/-- **Numbers in documents and messages**: positional from `0.00001` up to below `10 ^ 16`, with a
point in every positional form; `1.5e-7` and `1e+16` outside. -/
def document : NumberFormat := ⟨some (-5, 16), true, .toEven⟩

/-- **Numbers in exports**: always positional, and whole numbers without a point. -/
def exported : NumberFormat := ⟨none, false, .up⟩

/-- Zeros, as many as the count says. -/
def zeros (count : Nat) : String :=
  String.ofList (List.replicate count '0')

/-- A decimal in positional form, the leading digit of `text` having the exponent `lead`. -/
def positionalText (n : NumberFormat) (text : String) (lead exponent : Int) : String :=
  if 0 ≤ exponent then
    text ++ zeros exponent.toNat ++ (if n.pointZero then ".0" else "")
  else if lead < 0 then
    "0." ++ zeros (-lead - 1).toNat ++ text
  else
    let whole := (lead + 1).toNat
    String.ofList (text.toList.take whole) ++ "." ++ String.ofList (text.toList.drop whole)

/-- A decimal in scientific form: one digit, the others behind a point, and the signed exponent. -/
def scientificText (text : String) (lead : Int) : String :=
  let first := String.ofList (text.toList.take 1)
  let others := text.toList.drop 1
  let point := if others.isEmpty then "" else "." ++ String.ofList others
  let sign := if lead < 0 then "-" else "+"
  first ++ point ++ "e" ++ sign ++ toString lead.natAbs

/-- A decimal as text. -/
def decimalText (n : NumberFormat) (d : Decimal) : String :=
  let text := toString d.digits
  let lead : Int := d.exponent + text.length - 1
  let inside := match n.positional with
    | none => true
    | some (lowest, limit) => lowest ≤ lead && lead < limit
  if inside then n.positionalText text lead d.exponent else scientificText text lead

/-- **A finite double as text**; the negative zero keeps its sign. -/
def render (n : NumberFormat) (f : Float) : String :=
  let b := Binary.ofFloat f
  let sign := if b.negative then "-" else ""
  sign ++ n.decimalText (Decimal.shortest n.tie b)

end NumberFormat

end Rollup
