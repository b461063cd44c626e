import Rollup.Condition.Predicate
import Rollup.Document.Sort
import Rollup.Formula.Basic
import Rollup.Plan.Reduction
import Rollup.Value.DataType

/-!
# Stages

A report is computed by stages, each a step from documents to documents: source records are joined with
related ones, filtered and projected, then grouped or selected into rows; rows are labelled, merged,
sorted and cut when they are shown. A stage is plain data; what it does is defined in the module of its
kind, and `Stage.run` runs any of them.
-/

namespace Rollup

/-- Two paths that must hold equal values for records to join. -/
structure JoinKey where
  /-- The path in the record. -/
  own : String
  /-- The path in the related document. -/
  foreign : String
  deriving DecidableEq

/-- **Joining with a related datastore.** -/
structure Join where
  /-- The relation, below whose id the related items are put. -/
  relationId : String
  /-- The related collection. -/
  collection : String
  /-- The paths that must agree. -/
  keys : List JoinKey
  deriving DecidableEq

/-- A function field and its formula. -/
structure ComputedField where
  /-- The id of the field. -/
  fieldId : String
  /-- The type of its values. -/
  returnType : DataType
  /-- How they are computed. -/
  formula : Formula.Expr

/-- **What is kept of a source record.** -/
structure Projection where
  /-- The static columns. -/
  columns : List String
  /-- The fields whose cells are copied. -/
  items : List String
  /-- The fields that are computed. -/
  computed : List ComputedField
  /-- Whether joined items are kept. -/
  keepRelations : Bool

/-- Where the value of a key is read and written. -/
structure OutputKey where
  /-- Where it is read. -/
  source : String
  /-- Where it is written. -/
  target : String
  /-- The type of the cell that the value is put into; without one the value is written as it is. -/
  wrap : Option DataType
  deriving DecidableEq

/-- One aggregate column. -/
structure Aggregation where
  /-- The field, below whose id the result is put. -/
  fieldId : String
  /-- Where the numbers are read. -/
  source : String
  /-- How they are reduced. -/
  reduction : Reduction
  deriving DecidableEq

/-- **Grouping source records** by keys and access groups. -/
structure Grouping where
  /-- The keys. -/
  keys : List OutputKey
  /-- The aggregate columns. -/
  aggregates : List Aggregation
  /-- Whether records are counted. -/
  showCount : Bool
  /-- The instant the rows are computed for. -/
  updateTime : Instant

/-- **Selecting keys of source records**, one row per record. -/
structure Selection where
  /-- The keys. -/
  keys : List OutputKey
  /-- The instant the rows are computed for. -/
  updateTime : Instant

/-- Where labels come from. -/
inductive LabelSource where
  /-- The labels of an option set of an app. -/
  | options (appId optionId : String)
  /-- The names of users. -/
  | users
  deriving DecidableEq

/-- **Putting labels in the place of values** of one field. -/
structure LabelLookup where
  /-- The field. -/
  fieldId : String
  /-- Its type. -/
  dataType : DataType
  /-- Where the labels come from. -/
  source : LabelSource
  deriving DecidableEq

/-- One aggregate column of merged rows. -/
structure MergedAggregate where
  /-- The field. -/
  fieldId : String
  /-- How its values are merged. -/
  reduction : Reduction
  deriving DecidableEq

/-- **Merging grouped rows** that agree on their keys once access groups are left out. -/
structure Regroup where
  /-- The paths of the keys. -/
  keys : List String
  /-- The aggregate columns. -/
  aggregates : List MergedAggregate
  /-- Whether counts are added up. -/
  showCount : Bool
  deriving DecidableEq

/-- **A step from documents to documents.** -/
inductive Stage where
  /-- Joins related documents. -/
  | join (stage : Join)
  /-- Keeps the documents that match. -/
  | filter (predicate : Predicate)
  /-- Shapes source records. -/
  | project (stage : Projection)
  /-- Groups source records. -/
  | group (stage : Grouping)
  /-- Makes a row of each source record. -/
  | select (stage : Selection)
  /-- Puts labels in the place of values. -/
  | lookup (stage : LabelLookup)
  /-- Merges grouped rows. -/
  | regroup (stage : Regroup)
  /-- Sorts. -/
  | sort (keys : List SortKey)
  /-- Skips and limits. -/
  | page (skip : Nat) (limit : Option Nat)

namespace Stage

/-- The path of the access groups of a record or row. -/
def ownersPath : String := "owners"

/-- The path of the time that rows were computed for. -/
def updateTimePath : String := "update_time"

/-- The path of the number of records of a row. -/
def countPath : String := "count"

/-- The path of the cell of a field. -/
def cellPath (fieldId : String) : String := "items." ++ fieldId

/-- The path of the value of a field. -/
def valuePath (fieldId : String) : String := "items." ++ fieldId ++ ".value"

/-- The path of the sum and number kept beside a mean. -/
def partialsPath (fieldId : String) : String := "partials." ++ fieldId

/-- A cell whose value may be missing, and is then left out. -/
def openCell (dataType : DataType) : Option Json → Json
  | some v => .object [("data_type", dataType.toJson), ("value", v)]
  | none => .object [("data_type", dataType.toJson)]

/-- A cell that holds a reduced number. -/
def numberCell (value : Json) : Json := openCell .number (some value)

/-- Writes the value of a key. A missing value leaves the empty cell, or nothing where there is no
cell. -/
def writeKey (key : OutputKey) (value : Option Json) (row : Json) : Json :=
  match key.wrap, value with
  | some dataType, value => Document.set key.target (openCell dataType value) row
  | none, some value => Document.set key.target value row
  | none, none => row

/-- Writes the values of keys, read from a record. -/
def writeKeys (keys : List OutputKey) (source row : Json) : Json :=
  keys.foldl (fun row key => writeKey key (Document.get? key.source source) row) row

/-- The documents under each key, keys in order and the documents of one key in the order given. -/
def partitionBy (key : Json → String) (documents : List Json) : Keyed (List Json) :=
  documents.foldr (fun d groups =>
    let k := key d
    Keyed.insert k (d :: (Keyed.get? k groups).getD []) groups) []

end Stage

end Rollup
