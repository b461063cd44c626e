import Rollup.Stage.Basic

/-!
# Labelling values

Option values and user ids are shown by their labels. The cell of the field is written anew in every row:
the label of the value, `null` for a value without one, and for users the list of the names that are
known.
-/

namespace Rollup

namespace LabelLookup

/-- The user ids of a value: the texts of a list, or a single text that is not empty. -/
def userIds : Option Json → List String
  | some (.array items) => items.filterMap Json.asString?
  | some (.string id) => if id.isEmpty then [] else [id]
  | _ => []

/-- The value of the field in a row. -/
def valueIn (l : LabelLookup) (row : Json) : Option Json :=
  Document.get? (Stage.valuePath l.fieldId) row

/-- The user ids that occur in the field, each once. -/
def usersIn (l : LabelLookup) (rows : List Json) : List String :=
  (rows.flatMap fun row => userIds (l.valueIn row)).eraseDups

/-- **What is shown for a value**, given the labels. -/
def labelOf (l : LabelLookup) (labels : Keyed String) (value : Option Json) : Json :=
  match l.source with
  | .options .. => .ofString? ((value.bind Json.asString?).bind fun raw => Keyed.get? raw labels)
  | .users => .ofStrings ((userIds value).filterMap fun id => Keyed.get? id labels)

/-- A row with the label in the place of the value. -/
def apply (l : LabelLookup) (labels : Keyed String) (row : Json) : Json :=
  Document.set (Stage.cellPath l.fieldId)
    (Stage.openCell l.dataType (some (l.labelOf labels (l.valueIn row)))) row

/-- **Labels the field in all rows.** -/
def run (l : LabelLookup) (labels : Keyed String) (rows : List Json) : List Json :=
  rows.map (l.apply labels)

end LabelLookup

end Rollup
