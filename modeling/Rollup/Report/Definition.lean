import Rollup.Condition.Basic
import Rollup.Plan.Key
import Rollup.Report.Id
import Rollup.Report.Status

/-!
# Report definitions

A report is about the items of one datastore. Its conditions choose among them, and its mode says what
becomes of those: they are grouped by keys, or the selected keys of each are listed. A definition is such a
content with an id, stamps, and the status of its materialization.

A deleted report keeps its definition, stamped with the time of its deletion.
-/

namespace Rollup

/-- **What a report makes of the items it is about.** -/
inductive ReportMode where
  /-- It groups them. -/
  | group (spec : GroupSpec)
  /-- It lists keys of each. -/
  | select (keys : List Key)
  deriving DecidableEq

namespace ReportMode

/-- Whether items are grouped. -/
def isGroup : ReportMode → Bool
  | .group _ => true
  | .select _ => false

/-- The grouping, where there is one. -/
def groupSpec? : ReportMode → Option GroupSpec
  | .group spec => some spec
  | .select _ => none

/-- The selected keys; a report that groups selects none. -/
def selectedKeys : ReportMode → List Key
  | .group _ => []
  | .select keys => keys

/-- All keys, those of aggregates last. -/
def keys : ReportMode → List Key
  | .group spec => spec.keys ++ spec.aggregates.map AggregateKey.key
  | .select keys => keys

/-- Whether there is nothing to show: a listing of no keys. -/
def isEmpty : ReportMode → Bool
  | .select [] => true
  | _ => false

/-! ## Rules -/

/-- What is wrong with a key. -/
def keyFault? (k : Key) : Option String :=
  if k.fieldId.isEmpty then some "key without field_id"
  else if k.isLookup && k.relation?.isNone then
    some s!"lookup key {k.fieldId} must be relation#field"
  else none

/-- What is wrong with an aggregate key, apart from what may be wrong with any key. -/
def aggregateFault? (k : AggregateKey) : Option String :=
  if k.key.dataType = .number then none
  else some s!"aggregate key {k.key.fieldId} must be numeric, found {k.key.dataType.name}"

/-- **What is wrong with a mode**: the first aggregate that is not numeric, then the first faulty key. -/
def fault? : ReportMode → Option String
  | .group spec =>
    (spec.aggregates.findSome? aggregateFault?).or
      ((group spec).keys.findSome? keyFault?)
  | .select keys => keys.findSome? keyFault?

/-! ## JSON -/

/-- The name of a mode in definitions. -/
def name : ReportMode → String
  | .group _ => "group"
  | .select _ => "select"

/-- The members of a mode. -/
def toMembers (m : ReportMode) : Keyed Json :=
  match m with
  | .group spec => [("group_info", spec.toJson), ("mode", .string m.name)]
  | .select keys => [("mode", .string m.name), ("select_key_infos", .array (keys.map Key.toJson))]

/-- The member that belongs to a mode, and how it makes the mode. -/
def ofName? (name : String) (m : Keyed Json) : Option ReportMode :=
  if name = "group" then (Decode.defaulted "group_info" {} GroupSpec.decode? m).map .group
  else if name = "select" then
    (Decode.listOrEmpty "select_key_infos" Key.decodeNested? m).map .select
  else none

/-- The name of a mode among the members of a definition, where its number also stands for it. -/
def decodeName? : Json → Option String
  | .string s => some s
  | .number n => n.toWord?.bind fun w => (["group", "select"])[w.toNat]?
  | _ => none

/-- **Reads the mode among the members of a definition.** -/
def ofMembers? (m : Keyed Json) : Option ReportMode := do
  ofName? (← Decode.required "mode" decodeName? m) m

/-- **Reads a mode that stands alone**, as an object or as a list of its name and its member. -/
def decode? : Json → Option ReportMode
  | .object m => do ofName? (← Decode.required "mode" Decode.text m) m
  | .array [.string name] => ofName? name []
  | .array [.string name, member] =>
    ofName? name [("group_info", member), ("select_key_infos", member)]
  | _ => none

end ReportMode

/-- **What a report shows.** -/
structure ReportContent where
  /-- The domain it is for. -/
  domain : String := ""
  /-- The app of its datastore. -/
  appId : String
  /-- The datastore of its items. -/
  datastoreId : String
  /-- Its name. -/
  name : String := ""
  /-- Its place among the reports of its app. -/
  displayOrder : Int64 := 0
  /-- What its items must fulfil. -/
  conditions : List Condition := []
  /-- How the conditions are combined. -/
  combinator : String := ""
  /-- What becomes of the items. -/
  mode : ReportMode
  deriving DecidableEq

namespace ReportContent

/-- The first thing that is wrong with a content. -/
def fault? (c : ReportContent) : Option String :=
  if c.appId.isEmpty then some "app_id is required"
  else if c.datastoreId.isEmpty then some "datastore_id is required"
  else match c.conditions.find? fun condition => condition.fieldId.isEmpty with
    | some condition =>
      some ("condition without field_id (operator " ++ Text.quoted condition.operatorText ++ ")")
    | none => c.mode.fault?

/-- **Refuses a faulty content.** -/
def validate (c : ReportContent) : Except ReportError Unit :=
  match c.fault? with
  | some reason => .error (.validation reason)
  | none => .ok ()

/-- Reads a content among the members of a definition. -/
def ofMembers? (m : Keyed Json) : Option ReportContent := do
  return {
    domain := ← Decode.textOrEmpty "domain" m
    appId := ← Decode.required "app_id" Decode.text m
    datastoreId := ← Decode.required "datastore_id" Decode.text m
    name := ← Decode.textOrEmpty "report_name" m
    displayOrder := ← Decode.defaulted "display_order" 0 Decode.signed m
    conditions := ← Decode.listOrEmpty "report_conditions" Condition.decode? m
    combinator := ← Decode.textOrEmpty "condition_type" m
    mode := ← ReportMode.ofMembers? m }

/-- The members of a content. -/
def toMembers (c : ReportContent) : List (String × Json) :=
  c.mode.toMembers ++
    [("domain", .string c.domain), ("app_id", .string c.appId),
      ("datastore_id", .string c.datastoreId), ("report_name", .string c.name),
      ("display_order", .ofSigned c.displayOrder),
      ("report_conditions", .array (c.conditions.map Condition.toJson)),
      ("condition_type", .string c.combinator)]

end ReportContent

/-- **The definition of a report.** -/
structure ReportDefinition extends ReportContent where
  /-- The id of the report. -/
  reportId : ReportId
  /-- When it was created. -/
  createdAt : Instant := .epoch
  /-- Who created it. -/
  createdBy : String := ""
  /-- When it was last changed. -/
  updatedAt : Instant := .epoch
  /-- Who changed it. -/
  updatedBy : String := ""
  /-- When it was deleted. -/
  deletedAt : Option Instant := none
  /-- Who deleted it. -/
  deletedBy : String := ""
  /-- Where its materialization stands. -/
  materialization : MaterializationStatus := {}
  deriving DecidableEq

namespace ReportDefinition

/-- Whether the report was deleted. -/
def isDeleted (d : ReportDefinition) : Bool := d.deletedAt.isSome

/-- **Reads a definition**, which is always written as an object. -/
def decode? (j : Json) : Option ReportDefinition := do
  let m ← j.asObject?
  return {
    toReportContent := ← ReportContent.ofMembers? m
    reportId := ← Decode.required "report_id" ReportId.decode? m
    createdAt := ← Decode.defaulted "created_at" .epoch Decode.instant m
    createdBy := ← Decode.textOrEmpty "created_by" m
    updatedAt := ← Decode.defaulted "updated_at" .epoch Decode.instant m
    updatedBy := ← Decode.textOrEmpty "updated_by" m
    deletedAt := ← Decode.optional "deleted_at" Decode.instant m
    deletedBy := ← Decode.textOrEmpty "deleted_by" m
    materialization := ← Decode.defaulted "materialization" {} MaterializationStatus.decode? m }

/-- The members of a definition in key order. -/
def toMembers (d : ReportDefinition) : Keyed Json :=
  Keyed.ofPairs <| d.toReportContent.toMembers ++
    [("report_id", d.reportId.toJson), ("created_at", d.createdAt.toJson),
      ("created_by", .string d.createdBy), ("updated_at", d.updatedAt.toJson),
      ("updated_by", .string d.updatedBy),
      ("deleted_at", (d.deletedAt.map Instant.toJson).getD .null),
      ("deleted_by", .string d.deletedBy), ("materialization", d.materialization.toJson)]

/-- A definition as JSON. -/
def toJson (d : ReportDefinition) : Json := .object d.toMembers

end ReportDefinition

end Rollup
