import Rollup.Index.Budget
import Rollup.Plan.Presentation
import Rollup.Query.Basic
import Rollup.Report.Registry
import Rollup.Stage.Run

/-!
# Answering queries

A query is first prepared: the report is loaded, the conditions are compiled into a predicate that also
holds the caller's access groups, and the rows get an index over the paths that are read. Then the rows
are read and presented.

Grouped rows are merged across access groups, so all visible rows are read and presented before a page is
cut from them. Listed rows are sorted and cut by the store, and only the page is labelled. A download
gives the same rows in batches; once it has started, a failure ends it with one last batch that is the
failure.
-/

namespace Rollup

/-- **A query and what it is about.** -/
structure PreparedQuery where
  /-- The report. -/
  report : ReportDefinition
  /-- The collection of its rows. -/
  collection : String
  /-- Which of them the caller asks for and may see. -/
  predicate : Predicate
  /-- How they are shown. -/
  presentation : Presentation

/-- **One page of a report.** -/
structure Page where
  /-- The name of the report. -/
  reportName : String
  /-- The rows of the page. -/
  rows : List Json
  /-- What is known of the columns. -/
  fieldInfos : Keyed FieldInfo
  /-- How many rows there are on all pages. -/
  total : Nat

/-- A page as JSON. -/
def Page.toJson (p : Page) : Json :=
  .object [("field_infos", FieldInfo.allToJson p.fieldInfos), ("report_name", .string p.reportName),
    ("rows", .array p.rows), ("total", .ofCount p.total)]

/-- **The rows of a report in batches.** -/
structure Download where
  /-- What is known of the columns. -/
  fieldInfos : Keyed FieldInfo
  /-- The batches; a failure is the last one. -/
  batches : List (Except ReportError (List Json))

/-- **How many rows a caller sees.** -/
structure RowCount where
  /-- What is known of the columns. -/
  fieldInfos : Keyed FieldInfo
  /-- How many rows there are. -/
  total : Nat

/-- A count of rows as JSON. -/
def RowCount.toJson (c : RowCount) : Json :=
  .object [("field_infos", FieldInfo.allToJson c.fieldInfos), ("total", .ofCount c.total)]

namespace Query

/-- Paths worth an index for a query: those of the predicate, then those of the sorting. -/
def indexPaths (compiled : CompiledFilter) (p : Presentation) : List String :=
  compiled.indexKeys ++ p.sortPaths.eraseDups.filter fun path => !compiled.indexKeys.contains path

/-- Compiles the conditions of a query. -/
def compile (q : Query) (appId : String) : TenantAction CompiledFilter := do
  let period ← Directory.processingPeriod appId
  let t ← get
  let context : CompileContext :=
    { target := .rows, now := t.clock, period, strictness := t.config.strictness }
  let compiled ← TenantAction.ofExcept .compile <|
    CompiledFilter.ofQuery context q.conditions q.combinator q.owners
  TenantAction.meter (Metrics.recordSkippedConditions compiled.skipped)
  return compiled

/-- **Prepares a query.** -/
def prepare (q : Query) : TenantAction PreparedQuery := do
  let id ← TenantAction.ofExcept id (ReportId.parse q.reportId)
  let report ← Registry.load id
  let compiled ← q.compile report.appId
  let presentation := Presentation.ofReport report.toReportContent
  let _ ← IndexBudget.tryEnsure id.collection (indexPaths compiled presentation)
  return { report, collection := id.collection, predicate := compiled.predicate, presentation }

/-- Counts a query that was refused through the caller's fault. -/
def countRefusal {α : Type} (action : TenantAction α) : TenantAction α := do
  match ← TenantAction.outcome action with
  | .ok a => return a
  | .error e =>
    if e.isClientError then TenantAction.meter fun m => { m with rejected := m.rejected + 1 }
    throw e

end Query

namespace PreparedQuery

/-- Reads rows of the report. -/
def read (p : PreparedQuery) (window : Store.Window) : TenantAction (List Json) :=
  TenantAction.onStore "read report rows" (Store.find p.collection p.predicate window)

/-- Counts the rows of the report. -/
def count (p : PreparedQuery) : TenantAction Nat :=
  TenantAction.onStore "count report rows" (Store.count p.collection p.predicate)

/-- **All rows of a grouping report**, presented. -/
def groupedRows (p : PreparedQuery) : TenantAction (List Json) := do
  Stage.runAll p.presentation.stages (← p.read {})

/-- **A part of the rows of a listing report**, in order but not yet labelled. -/
def listedPart (p : PreparedQuery) (skip : Nat) (limit : Option Nat) : TenantAction (List Json) :=
  p.read { sort := p.presentation.sort, skip, limit }

/-- Labels rows of a listing report. -/
def label (p : PreparedQuery) (rows : List Json) : TenantAction (List Json) :=
  Stage.runAll p.presentation.lookupStages rows

/-- The rows of a page, and how many there are on all pages. -/
def pageRows (p : PreparedQuery) (skip : Nat) (limit : Option Nat) :
    TenantAction (List Json × Nat) := do
  if p.report.mode.isGroup then
    let rows ← p.groupedRows
    return (Store.cut skip limit rows, rows.length)
  else
    let rows ← p.listedPart skip limit
    let total ← p.count
    return (← p.label rows, total)

/-- How many rows the caller sees. -/
def total (p : PreparedQuery) : TenantAction Nat := do
  if p.report.mode.isGroup then return (← p.groupedRows).length
  else p.count

/-! ## Batches -/

/-- A list in batches of a size that is not zero; only the last one may be smaller. -/
def chunks {α : Type} (size : Nat) : Nat → List α → List (List α)
  | 0, _ => []
  | _ + 1, [] => []
  | fuel + 1, x :: xs => (x :: xs).take size :: chunks size fuel ((x :: xs).drop size)

/-- The batch that starts behind some rows, and how many rows were read for it. -/
def listedBatch (p : PreparedQuery) (size skip : Nat) : TenantAction (Nat × List Json) := do
  let rows ← p.listedPart skip (some size)
  if rows.isEmpty then return (0, [])
  else return (rows.length, ← p.label rows)

/-- **The batches of a listing report from some row on.** Reading ends at a batch that is not full, and so
after as many steps as there are rows, and one. -/
def listedBatches (p : PreparedQuery) (size : Nat) :
    Nat → Nat → TenantAction (List (Except ReportError (List Json)))
  | 0, _ => return []
  | fuel + 1, skip => do
    match ← TenantAction.outcome (p.listedBatch size skip) with
    | .error e => return [.error e]
    | .ok (read, rows) =>
      if read = 0 then return []
      else if read < size then return [.ok rows]
      else return .ok rows :: (← p.listedBatches size fuel (skip + size))

/-- The batches of a grouping report. -/
def groupedBatches (p : PreparedQuery) (size : Nat) :
    TenantAction (List (Except ReportError (List Json))) := do
  match ← TenantAction.outcome p.groupedRows with
  | .error e => return [.error e]
  | .ok rows => return (chunks size rows.length rows).map .ok

/-- **The rows in batches.** -/
def batches (p : PreparedQuery) : TenantAction (List (Except ReportError (List Json))) := do
  let t ← get
  let size := max t.config.downloadBatchSize.toNat 1
  if p.report.mode.isGroup then p.groupedBatches size
  else p.listedBatches size ((t.store.documents p.collection).length + 1) 0

end PreparedQuery

namespace Query

/-- **The page that a query asks for.** -/
def run (q : Query) : TenantAction Page := do
  let page ← countRefusal do
    let p ← q.prepare
    let (skip, limit) := q.page
    let (rows, total) ← p.pageRows skip limit
    return { reportName := p.report.name, rows, fieldInfos := p.presentation.fieldInfos, total }
  TenantAction.meter (Metrics.recordQuery page.rows.length)
  return page

/-- **How many rows of a report some access groups may see.** -/
def count (reportId : String) (owners : List String) : TenantAction RowCount :=
  countRefusal do
    let p ← (Query.all reportId owners).prepare
    return { fieldInfos := p.presentation.fieldInfos, total := ← p.total }

/-- **All rows that a query asks for**, whatever its page. -/
def download (q : Query) : TenantAction Download := do
  let p ← countRefusal q.prepare
  return { fieldInfos := p.presentation.fieldInfos, batches := ← p.batches }

end Query

end Rollup
