import Rollup.Json.Basic

/-!
# The order of JSON values

Documents are sorted by values of mixed kinds: `null` comes first, then truth values, numbers, texts,
lists and objects. Within a kind the natural order holds, numbers being compared as doubles and texts
by their code points; lists compare item by item, the shorter one first when it is a beginning of the
other. All objects are equal in this order, and a missing value stands where `null` does.
-/

namespace Rollup

namespace Number

/-- The order of two doubles; the two zeros are equal. -/
def orderFloats (a b : Float) : Ordering :=
  if a < b then .lt else if b < a then .gt else .eq

/-- The order of two numbers, as doubles. -/
def order (a b : Number) : Ordering :=
  orderFloats a.toFloat b.toFloat

end Number

namespace Json

/-- The place of a value's kind among the kinds. -/
def rank : Json → Nat
  | .null => 0
  | .bool _ => 1
  | .number _ => 2
  | .string _ => 3
  | .array _ => 4
  | .object _ => 5

mutual

/-- **The order of two values.** -/
def order : Json → Json → Ordering
  | .bool a, .bool b => compare a b
  | .number a, .number b => a.order b
  | .string a, .string b => compare a b
  | .array a, .array b => orderItems a b
  | a, b => compare a.rank b.rank

/-- The order of two lists: that of the first items that differ, else the shorter list first. -/
def orderItems : List Json → List Json → Ordering
  | [], [] => .eq
  | [], _ :: _ => .lt
  | _ :: _, [] => .gt
  | a :: as, b :: bs => (order a b).then (orderItems as bs)

end

/-- The order of two values either of which may be missing; a missing one counts as `null`. -/
def order? (a b : Option Json) : Ordering :=
  order (a.getD .null) (b.getD .null)

end Json

end Rollup
