import Rollup.Document.TupleKey
import Rollup.Stage.Basic

/-!
# Grouping source records

Records with the same key values and the same access groups make one group, and each group makes one row:
the key values, the access groups, the reduced numbers, the number of records, and the time. Rows come in
the order of the canonical text of their key values. Only numbers are reduced; other values at the source
of an aggregate are ignored.
-/

namespace Rollup

namespace Grouping

/-- **What decides the group of a record**: its key values and its access groups. -/
def keyOf (g : Grouping) (source : Json) : String :=
  Document.tupleKey <| (g.keys.map fun key => Document.get? key.source source)
    ++ [Document.get? Stage.ownersPath source]

/-- The numbers of an aggregate in a group, in the order of its records. -/
def numbers (a : Aggregation) (members : List Json) : List Float :=
  members.filterMap fun d => (Document.get? a.source d).bind Json.asFloat?

/-- The tally of an aggregate in a group. -/
def tally (a : Aggregation) (members : List Json) : Tally :=
  (numbers a members).foldl Tally.push {}

/-- Writes the column of an aggregate, and beside a mean its sum and number. -/
def writeAggregate (members : List Json) (row : Json) (a : Aggregation) : Json :=
  let t := tally a members
  let row := Document.set (Stage.cellPath a.fieldId) (Stage.numberCell (t.reduce a.reduction)) row
  if a.reduction = .avg then Document.set (Stage.partialsPath a.fieldId) t.partials row else row

/-- The keys and access groups of a group, read from its first record. -/
def identity (g : Grouping) (first : Json) : Json :=
  let row := Stage.writeKeys g.keys first (.object [])
  match Document.get? Stage.ownersPath first with
  | some owners => Document.set Stage.ownersPath owners row
  | none => row

/-- **The row of a group.** -/
def row (g : Grouping) (members : List Json) : Json :=
  let row := g.identity (members.headD .null)
  let row := g.aggregates.foldl (writeAggregate members) row
  let row := if g.showCount then Document.set Stage.countPath (.ofCount members.length) row else row
  Document.set Stage.updateTimePath (.string g.updateTime.stored) row

/-- **The rows of the groups of some records.** -/
def run (g : Grouping) (documents : List Json) : List Json :=
  (Stage.partitionBy g.keyOf documents).map fun (_, members) => g.row members

end Grouping

end Rollup
