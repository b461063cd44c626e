import Rollup.Document.Sort
import Rollup.Plan.Reduction
import Rollup.Text.Split
import Rollup.Value.DataType

/-!
# Keys of a report

A report groups by keys, aggregates keys, or lists selected keys. A key names a static column, a dynamic
field, or, as `relation#field`, a field of a related datastore. The last two stand below `items` in the
rows of a report, as whole cells.

A key is read at its **source path** in joined source records and stands at its **output path** in rows;
its bare value stands at its **value path** there.
-/

namespace Rollup

/-- **What is known of an output column.** -/
structure FieldInfo where
  /-- Its type. -/
  dataType : DataType
  /-- The name it is shown under. -/
  caption : String
  /-- The datastore it comes from. -/
  datastoreId : String
  /-- Whether it stands below `items`. -/
  isDynamic : Bool
  /-- The option set its values belong to. -/
  optionId : String
  /-- Whether its values are unique. -/
  isUnique : Bool
  /-- Its place among the columns. -/
  order : Int64
  deriving DecidableEq

namespace FieldInfo

/-- The name of the column that counts the records of a group. -/
def countColumn : String := "count"

/-- **The column that counts the records of a group**; it comes last. -/
def count : FieldInfo where
  dataType := .number
  caption := countColumn
  datastoreId := ""
  isDynamic := false
  optionId := ""
  isUnique := false
  order := 10000

/-- What is known of a column as JSON. -/
def toJson (f : FieldInfo) : Json :=
  .object [("alias_name", .string f.caption), ("data_type", f.dataType.toJson),
    ("datastore_id", .string f.datastoreId), ("is_dynamic", .bool f.isDynamic),
    ("option_id", .string f.optionId), ("order", .ofSigned f.order), ("unique", .bool f.isUnique)]

/-- What is known of all columns as JSON, by field. -/
def allToJson (infos : Keyed FieldInfo) : Json :=
  .object (infos.map fun (fieldId, info) => (fieldId, info.toJson))

end FieldInfo

/-- **A key of a report.** -/
structure Key where
  /-- Whether the field belongs to a related datastore. -/
  isLookup : Bool := false
  /-- A static column, a field id, or `relation#field`. -/
  fieldId : String
  /-- The datastore of the field. -/
  datastoreId : String := ""
  /-- The type of the field. -/
  dataType : DataType
  /-- The option set of the field. -/
  optionId : String := ""
  /-- The name the column is shown under. -/
  caption : String := ""
  /-- The direction in which rows are sorted by it, if they are. -/
  sort : Option Direction := none
  /-- Whether the field is a dynamic one. -/
  isDynamic : Bool := true
  /-- Whether its values are unique. -/
  isUnique : Bool := false
  /-- Its place among the columns. -/
  order : Int64 := 0
  deriving DecidableEq

namespace Key

/-- The key of a dynamic field. -/
def dynamic (fieldId : String) (dataType : DataType) : Key := { fieldId, dataType }

/-- The key of a static column. -/
def fixed (column : String) (dataType : DataType) : Key :=
  { fieldId := column, dataType, isDynamic := false }

/-- The key of a field of a related datastore. -/
def related (relation field : String) (dataType : DataType) : Key :=
  { fieldId := relation ++ "#" ++ field, dataType, isLookup := true }

/-- The relation and the field of a key of a related datastore. -/
def relation? (k : Key) : Option (String × String) :=
  if k.isLookup then Text.splitFirst? '#' k.fieldId else none

/-- Whether the column stands below `items`. -/
def isItem (k : Key) : Bool := k.isLookup || k.isDynamic

/-- **Where the value is read** in a joined source record. -/
def sourcePath (k : Key) : String :=
  match k.relation? with
  | some (relation, field) => "relations." ++ relation ++ "." ++ field ++ ".value"
  | none => if k.isDynamic then "items." ++ k.fieldId ++ ".value" else k.fieldId

/-- **Where the cell or column stands** in a row. -/
def outputPath (k : Key) : String :=
  if k.isItem then "items." ++ k.fieldId else k.fieldId

/-- **Where the bare value stands** in a row. -/
def valuePath (k : Key) : String :=
  if k.isItem then "items." ++ k.fieldId ++ ".value" else k.fieldId

/-- What is known of the column. -/
def fieldInfo (k : Key) : FieldInfo where
  dataType := k.dataType
  caption := k.caption
  datastoreId := k.datastoreId
  isDynamic := k.isDynamic
  optionId := k.optionId
  isUnique := k.isUnique
  order := k.order

/-! ## JSON -/

/-- The members in declared order. -/
def declared : List String :=
  ["is_lookup", "field_id", "datastore_id", "data_type", "option_id", "alias_name", "sort",
    "is_dynamic", "unique", "order"]

/-- Reads the direction of a key; `null` and a blank text stand for none. -/
def decodeSort? : Json → Option (Option Direction)
  | .null => some none
  | .string s =>
    let word := Text.trim s
    if word.isEmpty then some none else (Direction.ofName? word).map some
  | _ => none

/-- The key of the members of a record, whose type is read in some way. -/
def ofMembers? (dataType : Decode.Decoder DataType) (m : Keyed Json) : Option Key := do
  return {
    isLookup := ← Decode.defaulted "is_lookup" false Decode.flag m
    fieldId := ← Decode.required "field_id" Decode.text m
    datastoreId := ← Decode.textOrEmpty "datastore_id" m
    dataType := ← Decode.required "data_type" dataType m
    optionId := ← Decode.textOrEmpty "option_id" m
    caption := ← Decode.textOrEmpty "alias_name" m
    sort := ← Decode.defaulted "sort" none decodeSort? m
    isDynamic := ← Decode.defaulted "is_dynamic" true Decode.flag m
    isUnique := ← Decode.defaulted "unique" false Decode.flag m
    order := ← Decode.defaulted "order" 0 Decode.signed m }

/-- Reads a key on its own. -/
def decode? (j : Json) : Option Key := do
  ofMembers? DataType.decode? (← Decode.members? declared j)

/-- Reads a key of a report, which stands below a flattened record. -/
def decodeNested? (j : Json) : Option Key := do
  ofMembers? DataType.decodeNested? (← Decode.members? declared j)

/-- The members of a key. -/
def toMembers (k : Key) : Keyed Json :=
  [("alias_name", .string k.caption), ("data_type", k.dataType.toJson),
    ("datastore_id", .string k.datastoreId), ("field_id", .string k.fieldId),
    ("is_dynamic", .bool k.isDynamic), ("is_lookup", .bool k.isLookup),
    ("option_id", .string k.optionId), ("order", .ofSigned k.order),
    ("sort", (k.sort.map Direction.toJson).getD .null), ("unique", .bool k.isUnique)]

/-- A key as JSON. -/
def toJson (k : Key) : Json := .object k.toMembers

end Key

/-- **A key whose numbers are reduced per group.** -/
structure AggregateKey where
  /-- The field. -/
  key : Key
  /-- How its numbers are reduced. -/
  reduction : Reduction
  deriving DecidableEq

namespace AggregateKey

/-- What is known of the column, which always holds numbers and stands below `items`. -/
def fieldInfo (k : AggregateKey) : FieldInfo :=
  { k.key.fieldInfo with dataType := .number, isDynamic := true, isUnique := false }

/-- Reads an aggregate key, which is always written as an object. -/
def decode? (j : Json) : Option AggregateKey := do
  let m ← Decode.namedMembers? ("aggre_type" :: Key.declared) j
  return {
    key := ← Key.ofMembers? DataType.decodeNested? m
    reduction := ← Decode.required "aggre_type" Reduction.decodeNested? m }

/-- An aggregate key as JSON. -/
def toJson (k : AggregateKey) : Json :=
  .object (Keyed.insert "aggre_type" k.reduction.toJson k.key.toMembers)

end AggregateKey

/-- **How a report groups.** -/
structure GroupSpec where
  /-- The keys of the groups. -/
  keys : List Key := []
  /-- The columns reduced per group. -/
  aggregates : List AggregateKey := []
  /-- Whether the records of each group are counted. -/
  showCount : Bool := false
  deriving DecidableEq

namespace GroupSpec

/-- Reads a grouping. -/
def decode? (j : Json) : Option GroupSpec := do
  let m ← Decode.members? ["group_keys", "aggre_keys", "show_count"] j
  return {
    keys := ← Decode.listOrEmpty "group_keys" Key.decodeNested? m
    aggregates := ← Decode.listOrEmpty "aggre_keys" AggregateKey.decode? m
    showCount := ← Decode.defaulted "show_count" false Decode.flag m }

/-- A grouping as JSON. -/
def toJson (g : GroupSpec) : Json :=
  .object [("aggre_keys", .array (g.aggregates.map AggregateKey.toJson)),
    ("group_keys", .array (g.keys.map Key.toJson)), ("show_count", .bool g.showCount)]

end GroupSpec

end Rollup
