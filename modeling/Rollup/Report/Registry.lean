import Rollup.Report.Definition
import Rollup.Tenant

/-!
# The registry of reports

Definitions are kept in a collection of the tenant. Editing a definition never writes the status of its
materialization, which only the runs themselves record; so an edit cannot undo what a run noted meanwhile.
-/

namespace Rollup

namespace Registry

/-- The member that holds the id. -/
def idPath : String := "report_id"

/-- The member that holds the status of the materialization. -/
def statusPath : String := "materialization"

/-- The definition of an id. -/
def isReport (id : ReportId) : Predicate := .compare idPath .eq (.text id.text)

/-- Reads a stored definition. -/
def decode (document : Json) : TenantAction ReportDefinition :=
  match ReportDefinition.decode? document with
  | some d => pure d
  | none => throw (.store "decode report" (.decode Store.reports none))

/-- **The definition of a report**, also of a deleted one. -/
def find (id : ReportId) : TenantAction (Option ReportDefinition) := do
  let documents ← TenantAction.onStore "find report" <|
    Store.find Store.reports (isReport id) { limit := some 1 }
  match documents with
  | document :: _ => return some (← decode document)
  | [] => return none

/-- The report that there is not. -/
def missing (id : ReportId) : ReportError := .notFound "report" id.text

/-- A definition that was found and is not deleted. -/
def active (id : ReportId) : Option ReportDefinition → Except ReportError ReportDefinition
  | some d => if d.isDeleted then .error (missing id) else .ok d
  | none => .error (missing id)

/-- **The definition of a report that is not deleted.** -/
def load (id : ReportId) : TenantAction ReportDefinition := do
  let found ← find id
  TenantAction.ofExcept (fun e => e) (active id found)

/-- The definitions of an app, perhaps of one datastore, that are not deleted. -/
def listed (appId : String) (datastoreId : Option String) : Predicate :=
  .allOf <| [.compare "app_id" .eq (.text appId), .filled "deleted_at" false]
    ++ (datastoreId.map fun id => Predicate.compare "datastore_id" .eq (.text id)).toList

/-- **The reports of an app in their display order.** -/
def list (appId : String) (datastoreId : Option String) : TenantAction (List ReportDefinition) := do
  let documents ← TenantAction.onStore "list reports" <|
    Store.find Store.reports (listed appId datastoreId)
      { sort := [.ascending "display_order", .ascending idPath] }
  documents.mapM decode

/-- **Stores a definition**, over one with the same id. -/
def save (d : ReportDefinition) : TenantAction Unit :=
  TenantAction.onStore "save report" (Store.upsert Store.reports idPath d.toJson)

/-- **Stores what was edited of a definition**, all but its id and the status of its materialization. -/
def update (d : ReportDefinition) : TenantAction Unit := do
  let edited := d.toMembers.filter fun (key, _) => key ≠ idPath ∧ key ≠ statusPath
  let updated ← TenantAction.onStore "update report" <|
    Store.update Store.reports (isReport d.reportId) edited
  if updated = 0 then throw (missing d.reportId)

/-- **Removes a definition**, and tells whether it was there. -/
def remove (id : ReportId) : TenantAction Bool := do
  let removed ← TenantAction.onStore "remove report" (Store.delete Store.reports (isReport id))
  return 0 < removed

/-- **Records the status of a materialization** in the definition, if there is one. -/
def recordStatus (id : ReportId) (status : MaterializationStatus) : TenantAction Unit := do
  let _ ← TenantAction.onStore "record materialization status" <|
    Store.update Store.reports (isReport id) [(statusPath, status.toJson)]

end Registry

end Rollup
