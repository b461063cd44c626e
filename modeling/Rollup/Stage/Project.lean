import Rollup.Formula.Eval
import Rollup.Stage.Basic
import Rollup.Error

/-!
# Projecting and selecting

Projecting keeps of a source record its static columns and the cells of known fields, and adds the cells of
computed fields; a formula that fails fails the whole projection. Selecting makes one row of each record:
its id, its access groups, the time, and the selected keys.
-/

namespace Rollup

namespace Projection

/-- The members of a record that are named. -/
def copyMembers (names : List String) (source : Json) : Keyed Json :=
  names.foldl (fun m name => match source.member? name with
    | some v => Keyed.insert name v m
    | none => m) []

/-- The cell of a computed field. -/
def compute (source : Json) (field : ComputedField) : Except ReportError (String × Json) :=
  match Formula.eval source field.formula with
  | .ok value => .ok (field.fieldId, Stage.openCell field.returnType (some value))
  | .error e => .error (.formula field.fieldId e)

/-- **What is kept of one record.** Computed cells replace copied ones of the same field. -/
def apply (p : Projection) (source : Json) : Except ReportError Json := do
  let computed ← p.computed.mapM (compute source)
  let copied := copyMembers p.items ((source.member? "items").getD .null)
  let items := computed.foldl (fun m (fieldId, cell) => Keyed.insert fieldId cell m) copied
  let columns := Keyed.insert "items" (.object items) (copyMembers p.columns source)
  match p.keepRelations, source.member? "relations" with
  | true, some relations => return .object (Keyed.insert "relations" relations columns)
  | _, _ => return .object columns

/-- Projects records in order. -/
def run (p : Projection) (documents : List Json) : Except ReportError (List Json) :=
  documents.mapM p.apply

end Projection

namespace Selection

/-- **The row of one record.** -/
def row (s : Selection) (source : Json) : Json :=
  let columns := Projection.copyMembers ["item_id", Stage.ownersPath] source
  let stamped := Keyed.insert Stage.updateTimePath (.string s.updateTime.stored) columns
  Stage.writeKeys s.keys source (.object stamped)

/-- The rows of records in order. -/
def run (s : Selection) (documents : List Json) : List Json :=
  documents.map s.row

end Selection

end Rollup
