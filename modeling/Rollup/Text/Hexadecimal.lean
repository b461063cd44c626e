/-!
# Hexadecimal numbers

Escapes give characters by their number in hexadecimal digits, whose letters may be of either case.
-/

namespace Rollup.Text

/-- The value of a hexadecimal digit. -/
def hexValue? (c : Char) : Option Nat :=
  if c.isDigit then some (c.toNat - '0'.toNat)
  else if 'a' ≤ c ∧ c ≤ 'f' then some (c.toNat - 'a'.toNat + 10)
  else if 'A' ≤ c ∧ c ≤ 'F' then some (c.toNat - 'A'.toNat + 10)
  else none

/-- The number that hexadecimal digits spell, behind the digits of another number. -/
def hexNumberFrom? (n : Nat) : List Char → Option Nat
  | [] => some n
  | c :: rest => (hexValue? c).bind fun d => hexNumberFrom? (16 * n + d) rest

/-- **The number that hexadecimal digits spell.** -/
def hexNumber? (digits : List Char) : Option Nat := hexNumberFrom? 0 digits

/-- A number in hexadecimal digits, in lower case. -/
def hexText (n : Nat) : String := String.ofList (Nat.toDigits 16 n)

end Rollup.Text
