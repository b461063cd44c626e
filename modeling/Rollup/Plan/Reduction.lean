import Rollup.Json.Decode

/-!
# Reductions

An aggregate column reduces the numbers of a group to one. A **tally** collects what every reduction
needs: sum and number of the values, their maximum and their minimum. Sums start at zero and values are
added in order, so that a sum is the same double wherever it is computed.
-/

namespace Rollup

/-- **A way of reducing numbers.** -/
inductive Reduction where
  /-- Their sum. -/
  | sum
  /-- Their mean. -/
  | avg
  /-- The largest. -/
  | max
  /-- The smallest. -/
  | min
  deriving DecidableEq, Repr

namespace Reduction

/-- The name of a reduction in definitions. -/
def name : Reduction → String
  | .sum => "sum"
  | .avg => "avg"
  | .max => "max"
  | .min => "min"

/-- The reduction of a name. -/
def ofName? (name : String) : Option Reduction :=
  [sum, avg, max, min].find? fun r => r.name == name

/-- Reads a reduction. -/
def decode? (j : Json) : Option Reduction := (Decode.name j).bind ofName?

/-- Reads a reduction below a flattened record. -/
def decodeNested? (j : Json) : Option Reduction := (Decode.nestedName j).bind ofName?

/-- A reduction as JSON. -/
def toJson (r : Reduction) : Json := .string r.name

end Reduction

/-- **What is collected of the numbers of a group.** -/
structure Tally where
  /-- Their sum. -/
  sum : Float := 0
  /-- How many there are; the number is a word and wraps. -/
  count : UInt64 := 0
  /-- The largest. -/
  max? : Option Float := none
  /-- The smallest. -/
  min? : Option Float := none

namespace Tally

/-- The larger of two numbers, the first of equal ones. -/
def larger (a b : Float) : Float := if a < b then b else a

/-- The smaller of two numbers, the first of equal ones. -/
def smaller (a b : Float) : Float := if b < a then b else a

/-- The tally with one more number. -/
def push (t : Tally) (x : Float) : Tally where
  sum := t.sum + x
  count := t.count + 1
  max? := some (t.max?.elim x fun m => larger m x)
  min? := some (t.min?.elim x fun m => smaller m x)

/-- The tally with the sum and the number of other values. -/
def absorb (t : Tally) (sum : Float) (count : UInt64) : Tally :=
  { t with sum := t.sum + sum, count := t.count + count }

/-- **The reduction of the collected numbers.** Without numbers the sum is zero and every other reduction
`null`; a result that is not finite is `null`. -/
def reduce (t : Tally) : Reduction → Json
  | .sum => .ofFloat t.sum
  | .avg => if t.count = 0 then .null else .ofFloat (t.sum / t.count.toFloat)
  | .max => (t.max?.map Json.ofFloat).getD .null
  | .min => (t.min?.map Json.ofFloat).getD .null

/-- Sum and number, kept beside a mean so that means can be merged. -/
def partials (t : Tally) : Json :=
  .object [("n", .ofWord t.count), ("sum", .ofFloat t.sum)]

end Tally

end Rollup
