import Rollup.Value.DataType

/-!
# Fields and datastores

What the engine knows of the fields of a datastore and of the relations between datastores. A field that
someone deleted stays on record with the name of who did it, and is no longer active.
-/

namespace Rollup

/-- **A field of a datastore.** -/
structure Field where
  /-- The id of the field. -/
  fieldId : String
  /-- The app it belongs to. -/
  appId : String
  /-- The datastore it belongs to. -/
  datastoreId : String
  /-- Its name. -/
  fieldName : String := ""
  /-- Its type. -/
  fieldType : DataType
  /-- The app of the datastore a lookup refers to; the empty text is the field's own app. -/
  lookupAppId : String := ""
  /-- The datastore a lookup refers to. -/
  lookupDatastoreId : String := ""
  /-- The field a lookup refers to. -/
  lookupFieldId : String := ""
  /-- The option set of its values. -/
  optionId : String := ""
  /-- The user group of its values. -/
  userGroupId : String := ""
  /-- Whether its values are unique. -/
  isUnique : Bool := false
  /-- Its place among the fields. -/
  displayOrder : Int64 := 0
  /-- The type of the values of a function field. -/
  returnType : Option DataType := none
  /-- The formula of a function field. -/
  formula : Option String := none
  /-- When it was created. -/
  createdAt : Instant := .epoch
  /-- Who deleted it. -/
  deletedBy : Option String := none
  deriving DecidableEq

namespace Field

/-- Whether nobody deleted the field. -/
def isActive (f : Field) : Bool := f.deletedBy.all String.isEmpty

/-- Whether the field is computed by a formula. -/
def isFunction (f : Field) : Bool := f.fieldType == .function

/-- The type of the stored values; a function field stores values of its return type. -/
def valueType (f : Field) : DataType :=
  match f.fieldType, f.returnType with
  | .function, some t => t
  | t, _ => t

/-- **The app and the datastore that a lookup field refers to.** -/
def lookupTarget? (f : Field) : Option (String × String) :=
  if f.fieldType ≠ .lookup || f.lookupDatastoreId.isEmpty then none
  else some (if f.lookupAppId.isEmpty then f.appId else f.lookupAppId, f.lookupDatastoreId)

/-- The members in declared order. -/
def declared : List String :=
  ["field_id", "app_id", "datastore_id", "field_name", "field_type", "lookup_app_id",
    "lookup_datastore_id", "lookup_field_id", "option_id", "user_group_id", "unique",
    "display_order", "return_type", "formula", "created_at", "deleted_by"]

/-- Reads a field. -/
def decode? (j : Json) : Option Field := do
  let m ← Decode.members? declared j
  return {
    fieldId := ← Decode.required "field_id" Decode.text m
    appId := ← Decode.required "app_id" Decode.text m
    datastoreId := ← Decode.required "datastore_id" Decode.text m
    fieldName := ← Decode.textOrEmpty "field_name" m
    fieldType := ← Decode.required "field_type" DataType.decode? m
    lookupAppId := ← Decode.textOrEmpty "lookup_app_id" m
    lookupDatastoreId := ← Decode.textOrEmpty "lookup_datastore_id" m
    lookupFieldId := ← Decode.textOrEmpty "lookup_field_id" m
    optionId := ← Decode.textOrEmpty "option_id" m
    userGroupId := ← Decode.textOrEmpty "user_group_id" m
    isUnique := ← Decode.defaulted "unique" false Decode.flag m
    displayOrder := ← Decode.defaulted "display_order" 0 Decode.signed m
    returnType := ← Decode.optional "return_type" DataType.decode? m
    formula := ← Decode.optional "formula" Decode.text m
    createdAt := ← Decode.defaulted "created_at" .epoch Decode.instant m
    deletedBy := ← Decode.optional "deleted_by" Decode.text m }

/-- A field as JSON. -/
def toJson (f : Field) : Json :=
  .ofMembers [("field_id", .string f.fieldId), ("app_id", .string f.appId),
    ("datastore_id", .string f.datastoreId), ("field_name", .string f.fieldName),
    ("field_type", f.fieldType.toJson), ("lookup_app_id", .string f.lookupAppId),
    ("lookup_datastore_id", .string f.lookupDatastoreId),
    ("lookup_field_id", .string f.lookupFieldId), ("option_id", .string f.optionId),
    ("user_group_id", .string f.userGroupId), ("unique", .bool f.isUnique),
    ("display_order", .ofSigned f.displayOrder),
    ("return_type", (f.returnType.map DataType.toJson).getD .null),
    ("formula", .ofString? f.formula), ("created_at", f.createdAt.toJson),
    ("deleted_by", .ofString? f.deletedBy)]

end Field

/-- **A relation to another datastore**: records join when every related field equals its local
counterpart. -/
structure Relation where
  /-- The id of the relation. -/
  relationId : String
  /-- The related datastore. -/
  datastoreId : String
  /-- The local field for each related field. -/
  fields : Keyed String
  deriving DecidableEq

/-- **A datastore and its relations.** -/
structure Datastore where
  /-- The id of the datastore. -/
  datastoreId : String
  /-- The app it belongs to. -/
  appId : String
  /-- Its relations. -/
  relations : List Relation := []
  deriving DecidableEq

namespace Relation

/-- Reads a relation. -/
def decode? (j : Json) : Option Relation := do
  let m ← Decode.members? ["relation_id", "datastore_id", "fields"] j
  return {
    relationId := ← Decode.required "relation_id" Decode.text m
    datastoreId := ← Decode.required "datastore_id" Decode.text m
    fields := ← Decode.required "fields" (Decode.map Decode.text) m }

/-- A relation as JSON. -/
def toJson (r : Relation) : Json :=
  .object [("datastore_id", .string r.datastoreId),
    ("fields", .object (r.fields.map fun (related, own) => (related, .string own))),
    ("relation_id", .string r.relationId)]

end Relation

namespace Datastore

/-- Reads a datastore. -/
def decode? (j : Json) : Option Datastore := do
  let m ← Decode.members? ["datastore_id", "app_id", "relations"] j
  return {
    datastoreId := ← Decode.required "datastore_id" Decode.text m
    appId := ← Decode.required "app_id" Decode.text m
    relations := ← Decode.listOrEmpty "relations" Relation.decode? m }

/-- A datastore as JSON. -/
def toJson (d : Datastore) : Json :=
  .object [("app_id", .string d.appId), ("datastore_id", .string d.datastoreId),
    ("relations", .array (d.relations.map Relation.toJson))]

end Datastore

end Rollup
