import Rollup.Value.Basic

/-!
# Items

An item is one record of a datastore, stored in the collection of its datastore. Beside its static
columns it has dynamic fields, each a cell. Reading an item reads every cell, and so brings all
payloads to their stored form: `Item.normalize?` is reading and writing back.
-/

namespace Rollup

/-- **A record of a datastore.** -/
structure Item where
  /-- The id of the record. -/
  itemId : String
  /-- The app it belongs to. -/
  appId : String
  /-- The datastore it belongs to. -/
  datastoreId : String
  /-- The access groups that may see it. -/
  owners : List String := []
  /-- Its dynamic fields. -/
  cells : Keyed Value := []
  /-- The kind of the pending check. -/
  checkType : Option String := none
  /-- Where the check stands. -/
  checkStatus : Option String := none
  /-- When it was created. -/
  createdAt : Instant := .epoch
  /-- Who created it. -/
  createdBy : String := ""
  /-- When it was last changed. -/
  updatedAt : Instant := .epoch
  /-- Who changed it last. -/
  updatedBy : String := ""
  /-- When it was checked. -/
  checkedAt : Option Instant := none
  /-- Who checked it. -/
  checkedBy : Option String := none
  /-- When it was labelled. -/
  labelTime : Option Instant := none
  /-- Its status. -/
  status : Option String := none

namespace Item

/-- **The static columns**, which rows take over from the records they are made of; these are also the
columns that a report may name without marking them dynamic. -/
def staticColumns : List String :=
  ["item_id", "app_id", "datastore_id", "owners", "check_type", "check_status", "created_at",
    "created_by", "updated_at", "updated_by", "checked_at", "checked_by", "label_time", "status"]

/-- The members of an item in declared order. -/
def declared : List String :=
  ["item_id", "app_id", "datastore_id", "owners", "items", "check_type", "check_status",
    "created_at", "created_by", "updated_at", "updated_by", "checked_at", "checked_by",
    "label_time", "status"]

/-- Reads an item. -/
def decode? (j : Json) : Option Item := do
  let m ← Decode.members? declared j
  return {
    itemId := ← Decode.required "item_id" Decode.text m
    appId := ← Decode.required "app_id" Decode.text m
    datastoreId := ← Decode.required "datastore_id" Decode.text m
    owners := ← Decode.listOrEmpty "owners" Decode.text m
    cells := ← Decode.defaulted "items" [] (Decode.map Value.decode?) m
    checkType := ← Decode.optional "check_type" Decode.text m
    checkStatus := ← Decode.optional "check_status" Decode.text m
    createdAt := ← Decode.defaulted "created_at" .epoch Decode.instant m
    createdBy := ← Decode.textOrEmpty "created_by" m
    updatedAt := ← Decode.defaulted "updated_at" .epoch Decode.instant m
    updatedBy := ← Decode.textOrEmpty "updated_by" m
    checkedAt := ← Decode.optional "checked_at" Decode.instant m
    checkedBy := ← Decode.optional "checked_by" Decode.text m
    labelTime := ← Decode.optional "label_time" Decode.instant m
    status := ← Decode.optional "status" Decode.text m }

/-- A member that is written only when there is something to write. -/
def present (key : String) (value : Option Json) : List (String × Json) :=
  match value with
  | some j => [(key, j)]
  | none => []

/-- An item as a document. -/
def toJson (item : Item) : Json :=
  .ofMembers <|
    [("item_id", .string item.itemId), ("app_id", .string item.appId),
      ("datastore_id", .string item.datastoreId), ("owners", .ofStrings item.owners),
      ("items", .object (item.cells.map fun (key, v) => (key, v.toJson))),
      ("created_at", item.createdAt.toJson), ("created_by", .string item.createdBy),
      ("updated_at", item.updatedAt.toJson), ("updated_by", .string item.updatedBy)]
    ++ present "check_type" (item.checkType.map .string)
    ++ present "check_status" (item.checkStatus.map .string)
    ++ present "checked_at" (item.checkedAt.map Instant.toJson)
    ++ present "checked_by" (item.checkedBy.map .string)
    ++ present "label_time" (item.labelTime.map Instant.toJson)
    ++ present "status" (item.status.map .string)

/-- **Brings a raw item document to its stored form**, where it is an item. -/
def normalize? (document : Json) : Option Json :=
  (decode? document).map toJson

/-- The item with one more access group. -/
def withOwner (item : Item) (owner : String) : Item :=
  { item with owners := item.owners ++ [owner] }

/-- The item with a dynamic field. -/
def withCell (item : Item) (fieldId : String) (value : Value) : Item :=
  { item with cells := Keyed.insert fieldId value item.cells }

end Item

end Rollup
