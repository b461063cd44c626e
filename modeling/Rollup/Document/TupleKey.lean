import Rollup.Json.Printer

/-!
# Canonical keys of tuples

Grouping and joining ask whether two tuples of values agree. Each tuple has a **canonical text**: its
values as a compact list, a missing value as `null` and every number, at any depth, as the double it
converts to. Two tuples agree when their texts do, and groups come in the order of the texts.
-/

namespace Rollup

namespace Document

/-- A number as the double it converts to. -/
def canonicalNumber (n : Number) : Json :=
  .ofFloat n.toFloat

mutual

/-- A value with every number as a double. -/
def canonicalValue : Json → Json
  | .number n => canonicalNumber n
  | .array items => .array (canonicalItems items)
  | .object members => .object (canonicalMembers members)
  | j => j

/-- The items with every number as a double. -/
def canonicalItems : List Json → List Json
  | [] => []
  | a :: rest => canonicalValue a :: canonicalItems rest

/-- The members with every number as a double. -/
def canonicalMembers : List (String × Json) → List (String × Json)
  | [] => []
  | (k, a) :: rest => (k, canonicalValue a) :: canonicalMembers rest

end

/-- **The canonical text of a tuple of values**, any of which may be missing. -/
def tupleKey (values : List (Option Json)) : String :=
  (Json.array (values.map fun v => canonicalValue (v.getD .null))).compact

end Document

end Rollup
