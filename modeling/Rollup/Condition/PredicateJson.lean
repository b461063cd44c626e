import Rollup.Calendar.Format
import Rollup.Condition.Predicate
import Rollup.Json.Decode

/-!
# Predicates as JSON

Predicates can be shown and written by hand. A test is an object that names its path and what is asked
there; conjunctions and disjunctions list their parts. Reading builds them by `Predicate.allOf` and
`Predicate.anyOf`, so that parts which say nothing do not survive.
-/

namespace Rollup

namespace Operand

/-- An operand as JSON: its only member names its kind. -/
def toJson : Operand → Json
  | .text s => .object [("text", .string s)]
  | .number x => .object [("number", .ofFloat x)]
  | .bool b => .object [("bool", .bool b)]
  | .instant t => .object [("instant", .string t.stored)]
  | .list items => .object [("list", .ofStrings items)]

/-- Reads an operand. -/
def decode? : Json → Option Operand
  | .object [("text", .string s)] => some (.text s)
  | .object [("number", .number n)] => some (.number n.toFloat)
  | .object [("bool", .bool b)] => some (.bool b)
  | .object [("instant", t)] => (Decode.instant t).map .instant
  | .object [("list", items)] => (Decode.list Decode.text items).map .list
  | _ => none

end Operand

namespace Comparison

/-- All comparisons. -/
def all : List Comparison := [.eq, .ne, .gt, .ge, .lt, .le]

/-- The name of a comparison. -/
def name : Comparison → String
  | .eq => "eq"
  | .ne => "ne"
  | .gt => "gt"
  | .ge => "gte"
  | .lt => "lt"
  | .le => "lte"

/-- The comparison of a name. -/
def ofName? (name : String) : Option Comparison := all.find? fun c => c.name == name

end Comparison

namespace Predicate

/-! ## Writing -/

mutual

/-- **A predicate as JSON.** -/
def toJson : Predicate → Json
  | .everything => .string "all"
  | .and parts => .object [("and", .array (toJsonAll parts))]
  | .or parts => .object [("or", .array (toJsonAll parts))]
  | .compare path c operand =>
    .object [("compare", .string c.name), ("operand", operand.toJson), ("path", .string path)]
  | .among path values => .object [("in", .ofStrings values), ("path", .string path)]
  | .contains path part => .object [("contains", .string part), ("path", .string path)]
  | .filled path expected => .object [("non_empty", .bool expected), ("path", .string path)]

/-- The parts as JSON. -/
def toJsonAll : List Predicate → List Json
  | [] => []
  | p :: rest => toJson p :: toJsonAll rest

end

/-! ## Reading -/

/-- Reads a test at a path. -/
def decodeTest? (j : Json) : Option Predicate := do
  let path ← (← j.member? "path").asString?
  match j.member? "compare", j.member? "in", j.member? "contains", j.member? "non_empty" with
  | some (.string c), _, _, _ =>
    return .compare path (← Comparison.ofName? c) (← Operand.decode? (← j.member? "operand"))
  | _, some values, _, _ => return .among path (← Decode.list Decode.text values)
  | _, _, some (.string part), _ => return .contains path part
  | _, _, _, some (.bool expected) => return .filled path expected
  | _, _, _, _ => none

mutual

/-- **Reads a predicate.** -/
def decode? : Json → Option Predicate
  | .string s => if s = "all" then some .everything else none
  | .object [(key, .array parts)] =>
    if key = "and" then (decodeAll? parts).map .allOf
    else if key = "or" then (decodeAll? parts).map .anyOf
    else none
  | j => decodeTest? j

/-- Reads the parts of a predicate. -/
def decodeAll? : List Json → Option (List Predicate)
  | [] => some []
  | j :: rest => do return (← decode? j) :: (← decodeAll? rest)

end

end Predicate

end Rollup
