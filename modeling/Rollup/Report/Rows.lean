import Rollup.Catalog.Resolve
import Rollup.Condition.Compile
import Rollup.Plan.Materialization
import Rollup.Report.Registry
import Rollup.Stage.Run

/-!
# The rows of a report

The rows of a report are computed from the items of its datastore and then published, that is, put in the
place of the rows that were published before. Computing reads the store and writes none of its documents,
so that a computation which fails leaves the published rows as they are.

Conditions on related fields mean something only for joined records. Where there are any, all items are
read and the whole filter runs behind the joins; otherwise the store applies it.
-/

namespace Rollup

/-- **What computing rows gives.** -/
inductive ComputedRows where
  /-- Rows to publish. -/
  | rows (rows : List Json)
  /-- Nothing: the report lists no keys. -/
  | nothing

namespace Rows

/-- Compiles the conditions of a report for its items. -/
def compile (c : ReportContent) (time : Instant) : TenantAction CompiledFilter := do
  let period ← Directory.processingPeriod c.appId
  let context : CompileContext :=
    { target := .source, now := time, period, strictness := (← get).config.strictness }
  let compiled ← TenantAction.ofExcept .compile <|
    CompiledFilter.ofConditions context c.conditions c.combinator
  TenantAction.meter (Metrics.recordSkippedConditions compiled.skipped)
  return compiled

/-- The relations of the datastore of a report. -/
def relations (c : ReportContent) : TenantAction (List Relation) := do
  return ((← Catalog.loadDatastore c.appId c.datastoreId).map Datastore.relations).getD []

/-- The filter that the store applies, and the one that runs behind the joins. -/
def splitFilter (compiled : CompiledFilter) : Predicate × Option Predicate :=
  if compiled.touchesRelations then (.everything, some compiled.predicate)
  else (compiled.predicate, none)

/-- **Computes the rows of a content at an instant.** -/
def computeAll (c : ReportContent) (time : Instant) : TenantAction (List Json) := do
  let compiled ← compile c time
  let catalog ← Catalog.resolve c.appId c.datastoreId
  let (scan, joined) := splitFilter compiled
  let stages ← TenantAction.ofExcept id <|
    Materialization.stages c.mode (← relations c) catalog.rootFields joined time
  let items ← TenantAction.onStore "scan source records" <|
    Store.find (Store.itemsOf c.datastoreId) scan {}
  Stage.runAll stages items

/-- Computes the rows of a content, unless it lists no keys. -/
def computeFor (c : ReportContent) (time : Instant) : TenantAction ComputedRows :=
  if c.mode.isEmpty then return .nothing
  else do return .rows (← computeAll c time)

/-- **Computes the rows of a report at an instant.** -/
def compute (id : ReportId) (time : Instant) : TenantAction ComputedRows := do
  computeFor (← Registry.load id).toReportContent time

/-- **Publishes rows**, and tells how many. -/
def publish (id : ReportId) (rows : List Json) : TenantAction Nat := do
  TenantAction.onStore "publish report rows" (Store.replace id.collection rows)
  return rows.length

/-- **Computes and publishes the rows of a report** at the tenant's instant, and tells how many there
are; none when there is nothing to publish. -/
def refresh (id : ReportId) : TenantAction (Option Nat) := do
  match ← compute id (← get).clock with
  | .rows rows => return some (← publish id rows)
  | .nothing => return none

end Rows

end Rollup
