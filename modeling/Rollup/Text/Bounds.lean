/-!
# Classes of characters

A class of characters is told by its **bounds**, the numbers at which one passes into the class or out of
it, in order. The first bound leads in, the next one out, so that a character belongs to the class when an
odd number of bounds lie at or below it.
-/

namespace Rollup.Text

/-- How many bounds lie at or below a number. -/
def boundsUpTo (bounds : List Nat) (n : Nat) : Nat :=
  bounds.countP fun bound => bound ≤ n

/-- **Whether a character belongs to the class with these bounds.** -/
def isWithin (bounds : List Nat) (c : Char) : Bool :=
  boundsUpTo bounds c.toNat % 2 == 1

end Rollup.Text
