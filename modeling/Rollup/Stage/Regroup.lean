import Rollup.Document.TupleKey
import Rollup.Stage.Basic

/-!
# Merging grouped rows

Grouped rows are kept apart by their access groups. What a caller may see of them is merged again: rows
with the same key values and the same time become one. Counts and sums add up, maxima and minima combine,
and means are computed anew from the sums and numbers kept beside them; a row without these counts as a
single value. Access groups and partial sums have no place in merged rows.
-/

namespace Rollup

namespace Regroup

/-- **What decides which rows are merged**: their key values and their time. -/
def keyOf (g : Regroup) (row : Json) : String :=
  Document.tupleKey <| (g.keys.map fun path => Document.get? path row)
    ++ [Document.get? Stage.updateTimePath row]

/-- The sum and number kept beside the mean of a row. -/
def partialsOf? (fieldId : String) (row : Json) : Option (Float × UInt64) := do
  let kept ← Document.get? (Stage.partialsPath fieldId) row
  let sum ← (← kept.member? "sum").asFloat?
  let count ← Decode.word (← kept.member? "n")
  return (sum, count)

/-- The value of an aggregate in a row. -/
def valueOf? (fieldId : String) (row : Json) : Option Float :=
  (Document.get? (Stage.valuePath fieldId) row).bind Json.asFloat?

/-- The tally of an aggregate with one more row. -/
def absorb (a : MergedAggregate) (t : Tally) (row : Json) : Tally :=
  match a.reduction, partialsOf? a.fieldId row, valueOf? a.fieldId row with
  | .avg, some (sum, count), _ => t.absorb sum count
  | _, _, some value => t.push value
  | _, _, none => t

/-- The tally of an aggregate over merged rows. -/
def tally (a : MergedAggregate) (members : List Json) : Tally :=
  members.foldl (absorb a) {}

/-- The number of records of merged rows, a row without one having none. The number is a word and
wraps. -/
def countOf (members : List Json) : UInt64 :=
  (members.map fun row =>
    ((Document.get? Stage.countPath row).bind Decode.word).getD 0).foldl (· + ·) 0

/-- Copies what stands at a path, if anything does. -/
def copyPath (source : Json) (row : Json) (path : String) : Json :=
  match Document.get? path source with
  | some value => Document.set path value row
  | none => row

/-- Writes the column of an aggregate. -/
def writeAggregate (members : List Json) (row : Json) (a : MergedAggregate) : Json :=
  Document.set (Stage.cellPath a.fieldId)
    (Stage.numberCell ((tally a members).reduce a.reduction)) row

/-- **The row of merged rows**, its keys and time read from the first of them. -/
def row (g : Regroup) (members : List Json) : Json :=
  let row := (g.keys ++ [Stage.updateTimePath]).foldl (copyPath (members.headD .null)) (.object [])
  let row := g.aggregates.foldl (writeAggregate members) row
  if g.showCount then Document.set Stage.countPath (.ofWord (countOf members)) row else row

/-- **Merges the rows that agree on keys and time.** -/
def run (g : Regroup) (rows : List Json) : List Json :=
  (Stage.partitionBy g.keyOf rows).map fun (_, members) => g.row members

end Regroup

end Rollup
