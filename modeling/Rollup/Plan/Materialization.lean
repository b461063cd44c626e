import Rollup.Catalog.Field
import Rollup.Error
import Rollup.Item
import Rollup.Report.Definition
import Rollup.Stage.Basic

/-!
# Plans of materialization

How the rows of a report are computed from the items of its datastore: related items are joined, the
conditions are applied where they need those, each record is projected to known fields, and then the
records are grouped or their keys selected.

A field of a related datastore is a bare value in a joined record and is put into a cell; fields of the
record itself are copied as the cells they are.
-/

namespace Rollup

namespace Materialization

/-- Joining by a relation. -/
def join (r : Relation) : Join where
  relationId := r.relationId
  collection := Store.itemsOf r.datastoreId
  keys := r.fields.map fun (related, own) => ⟨Stage.valuePath own, Stage.valuePath related⟩

/-- **The joins of a datastore**, one for each relation that says how records match. -/
def joins (relations : List Relation) : List Join :=
  (relations.filter fun r => !r.fields.isEmpty).map join

/-- A function field with its formula read. -/
def computedField (f : Field) : Except ReportError ComputedField :=
  match Formula.parse (f.formula.getD "") with
  | .ok formula => .ok ⟨f.fieldId, f.valueType, formula⟩
  | .error e => .error (.formula f.fieldId e)

/-- **What is kept of each record**: the static columns and the fields that the datastore knows. -/
def projection (fields : List Field) (keepRelations : Bool) : Except ReportError Projection := do
  let computed ← (fields.filter Field.isFunction).mapM computedField
  return {
    columns := Item.staticColumns
    items := (fields.filter fun f => !f.isFunction).map Field.fieldId
    computed
    keepRelations }

/-- Where a key is read in records and written in rows. -/
def outputKey (k : Key) : OutputKey :=
  if k.relation?.isSome then ⟨k.sourcePath, k.outputPath, some k.dataType⟩
  else ⟨k.outputPath, k.outputPath, none⟩

/-- The column of an aggregate key. -/
def aggregation (a : AggregateKey) : Aggregation :=
  ⟨a.key.fieldId, a.key.sourcePath, a.reduction⟩

/-- **The stage that makes rows of records.** -/
def shaping (time : Instant) : ReportMode → Stage
  | .group spec => .group {
      keys := spec.keys.map outputKey
      aggregates := spec.aggregates.map aggregation
      showCount := spec.showCount
      updateTime := time }
  | .select keys => .select { keys := keys.map outputKey, updateTime := time }

/-- **The stages that compute the rows of a report**, given the relations and the active fields of its
datastore; a filter given here runs on joined records. -/
def stages (mode : ReportMode) (relations : List Relation) (fields : List Field)
    (filter : Option Predicate) (time : Instant) : Except ReportError (List Stage) := do
  let joins := joins relations
  let projection ← projection fields (!joins.isEmpty)
  return joins.map Stage.join ++ (filter.map Stage.filter).toList
    ++ [.project projection, shaping time mode]

end Materialization

end Rollup
