import Rollup.Text.Split
import Rollup.Value.DataType

/-!
# Conditions as authored

A report and a query carry conditions: a field, its type, an operator and a search value. Conditions are
kept as they were typed; what they mean is settled when they are compiled (`Condition.Compile`).

An operator has several spellings, the empty one being equality. Conditions are combined by `and`; how
other words are taken depends on how strict the reading is.
-/

namespace Rollup

/-- **An operator of a condition.** -/
inductive Operator where
  /-- Equal to the search value. -/
  | eq
  /-- Not equal to it. -/
  | ne
  /-- Greater than it. -/
  | gt
  /-- At least as great. -/
  | ge
  /-- Less than it. -/
  | lt
  /-- At most as great. -/
  | le
  /-- A text that contains the search value. -/
  | like
  /-- One of the listed values. -/
  | among
  /-- From the low bound on and below the high bound. -/
  | range
  deriving DecidableEq, Repr

namespace Operator

/-- The operator that a text spells, blanks around it being ignored. -/
def ofText? (text : String) : Option Operator :=
  match Text.trim text with
  | "" | "=" | "==" | "eq" => some .eq
  | "<>" | "!=" => some .ne
  | ">" => some .gt
  | ">=" => some .ge
  | "<" => some .lt
  | "<=" => some .le
  | "like" => some .like
  | "in" => some .among
  | "range" | "~" => some .range
  | _ => none

/-- The first spelling of an operator. -/
def text : Operator → String
  | .eq => "="
  | .ne => "<>"
  | .gt => ">"
  | .ge => ">="
  | .lt => "<"
  | .le => "<="
  | .like => "like"
  | .among => "in"
  | .range => "range"

end Operator

/-- **How conditions are combined.** -/
inductive Combinator where
  /-- All of them. -/
  | all
  /-- Any of them. -/
  | any
  deriving DecidableEq, Repr

namespace Combinator

/-- The lenient reading: every word but `and` means any of them. -/
def lenient (text : String) : Combinator :=
  if text = "and" then .all else .any

/-- The strict reading: only `and`, `or` and the empty text are understood. -/
def strict? (text : String) : Option Combinator :=
  if text = "and" then some .all
  else if text = "or" ∨ text = "" then some .any
  else none

end Combinator

/-- **A condition as authored.** -/
structure Condition where
  /-- A static column, the id of a dynamic field, or `relation#field`. -/
  fieldId : String
  /-- The type of the field. -/
  fieldType : DataType
  /-- What is searched for. -/
  searchValue : String := ""
  /-- The operator as typed. -/
  operatorText : String := ""
  /-- Whether the field is a dynamic one. -/
  isDynamic : Bool := false
  /-- The text `1` makes the condition a range, whatever its operator. -/
  conditionType : String := ""
  deriving DecidableEq

namespace Condition

/-- The condition type that makes a condition a range. -/
def rangeType : String := "1"

/-- **The operator that the condition means**; none for a text that spells none. -/
def operator? (c : Condition) : Option Operator :=
  if c.conditionType = rangeType then some .range else Operator.ofText? c.operatorText

/-- The relation and the field of a dynamic field that belongs to a related datastore. -/
def relation? (c : Condition) : Option (String × String) :=
  if c.isDynamic then Text.splitFirst? '#' c.fieldId else none

/-- The condition made a range. -/
def asRange (c : Condition) : Condition := { c with conditionType := rangeType }

/-- A condition as JSON. -/
def toJson (c : Condition) : Json :=
  .object [("condition_type", .string c.conditionType), ("field_id", .string c.fieldId),
    ("field_type", c.fieldType.toJson), ("is_dynamic", .bool c.isDynamic),
    ("operator", .string c.operatorText), ("search_value", .string c.searchValue)]

/-- The members in declared order. -/
def declared : List String :=
  ["field_id", "field_type", "search_value", "operator", "is_dynamic", "condition_type"]

/-- Reads a condition. -/
def decode? (j : Json) : Option Condition := do
  let m ← Decode.members? declared j
  return {
    fieldId := ← Decode.required "field_id" Decode.text m
    fieldType := ← Decode.required "field_type" DataType.decode? m
    searchValue := ← Decode.textOrEmpty "search_value" m
    operatorText := ← Decode.textOrEmpty "operator" m
    isDynamic := ← Decode.defaulted "is_dynamic" false Decode.flag m
    conditionType := ← Decode.textOrEmpty "condition_type" m }

end Condition

end Rollup
