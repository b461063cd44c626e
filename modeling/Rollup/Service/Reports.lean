import Rollup.Query.Run
import Rollup.Report.Edit
import Rollup.Service.Run

/-!
# Operations on reports

Creating or changing a report stores its definition and asks for its rows, without waiting for them. A
deleted report keeps its definition and rows out of sight; a purged one loses both, and no job that was
submitted before can bring the rows back.

The status of a report is what the queue knows of it, or else what its definition says.
-/

namespace Rollup

namespace Service

/-- The id that a caller names. -/
def idOf (text : String) : ServiceAction ReportId :=
  onTenant (TenantAction.ofExcept id (ReportId.parse text))

/-- The definition of a report that is not deleted. -/
def load (reportId : ReportId) : ServiceAction ReportDefinition :=
  onTenant (Registry.load reportId)

/-- Asks for the rows of a report, and gives the job that was made of it. -/
def submit (reportId : ReportId) : ServiceAction Job :=
  ExceptT.lift (changeQueue (Queue.submit reportId))

/-- Asks for the rows of a report, and gives its definition with the new status. -/
def schedule (d : ReportDefinition) : ServiceAction ReportDefinition := do
  let job ← submit d.reportId
  return { d with materialization := d.materialization.schedule (UInt64.ofNat job.generation) }

/-- A new report id. -/
def newId : ServiceAction ReportId :=
  ExceptT.mk fun s => (.ok (.ofNat s.nextId), { s with nextId := s.nextId + 1 })

/-- The id that a draft wishes for, or a new one. -/
def idFor (draft : ReportDraft) : ServiceAction ReportId :=
  match draft.reportId with
  | some reportId => return reportId
  | none => newId

/-! ## Definitions -/

/-- **Creates a report** and asks for its rows. -/
def create (draft : ReportDraft) (writer : String) : ServiceAction ReportDefinition := do
  let reportId ← idFor draft
  let d := draft.define reportId writer (← get).tenant.today
  onTenant (TenantAction.ofExcept id d.validate)
  if (← onTenant (Registry.find d.reportId)).isSome then
    throw (.validation s!"report {d.reportId.text} already exists")
  onTenant (Registry.save d)
  schedule d

/-- **Changes a report** and asks for its rows again. -/
def modify (reportId : String) (patch : ReportPatch) (writer : String) :
    ServiceAction ReportDefinition := do
  let stored ← load (← idOf reportId)
  let d := patch.apply writer (← get).tenant.today stored
  onTenant (TenantAction.ofExcept id d.validate)
  onTenant (Registry.update d)
  schedule d

/-- **Deletes a report**: it is out of sight, and its rows stay. -/
def delete (reportId writer : String) : ServiceAction Unit := do
  let d ← load (← idOf reportId)
  onTenant <| Registry.update
    { d with deletedAt := some (← get).tenant.today, deletedBy := writer }

/-- Removes the definition and the rows of a report, and tells whether there was a definition. -/
def removeAll (reportId : ReportId) : TenantAction Bool := do
  let existed ← Registry.remove reportId
  let _ ← TenantAction.onStore "drop report rows" (Store.drop reportId.collection)
  return existed

/-- **Purges a report**: definition, rows and slot are gone, and its jobs are stale. The slot goes even
when the rest cannot be removed. -/
def purge (reportId : String) : ServiceAction Bool := do
  let reportId ← idOf reportId
  let existed ← ExceptT.lift (attempt (removeAll reportId))
  ExceptT.lift (changeQueue fun q => ((), q.retire reportId))
  onTenant (TenantAction.ofExcept id existed)

/-- **The definition of a report.** -/
def definition (reportId : String) : ServiceAction ReportDefinition := do
  load (← idOf reportId)

/-- **The reports of an app**, perhaps of one datastore, in their display order. -/
def list (appId : String) (datastoreId : Option String) : ServiceAction (List ReportDefinition) :=
  onTenant (Registry.list appId datastoreId)

/-! ## Materialization -/

/-- **Asks for the rows of a report**, and gives the generation. -/
def generate (reportId : String) : ServiceAction Nat := do
  let reportId ← idOf reportId
  let _ ← load reportId
  return (← submit reportId).generation

/-- **Asks for the rows of a report and waits for them**: the jobs that wait come first. -/
def materialize (reportId : String) : ServiceAction MaterializationStatus := do
  let reportId ← idOf reportId
  let _ ← load reportId
  let job ← ExceptT.lift (changeQueue (Queue.issue reportId))
  ExceptT.lift drain
  ExceptT.lift (execute job)

/-- **Where the materialization of a report stands.** -/
def status (reportId : String) : ServiceAction MaterializationStatus := do
  let reportId ← idOf reportId
  match (← get).queue.status? reportId with
  | some status => return status
  | none => return (← load reportId).materialization

/-! ## Queries -/

/-- **A page of a report.** -/
def query (q : Query) : ServiceAction Page := onTenant q.run

/-- **How many rows of a report some access groups may see.** -/
def count (reportId : String) (owners : List String) : ServiceAction RowCount :=
  onTenant (Query.count reportId owners)

/-- **All rows that a query asks for.** -/
def download (q : Query) : ServiceAction Download := onTenant q.download

end Service

end Rollup
