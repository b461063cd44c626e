import Rollup.Report.Rows
import Rollup.Service.Basic

/-!
# Runs of materialization

A worker takes a job and runs it. A stale job is superseded at once. Otherwise the run reads the
definition, computes the rows and publishes them, unless the job has become stale meanwhile: then the rows
are thrown away and the run is superseded after all.

A run that is not superseded writes its status into the slot and into the stored definition. A failure
reaches nobody but the failures of the service; it leaves the rows of the run before in place.

Reading the definition and all that follows are two steps, `begin` and `finish`, since other things may
happen between them.
-/

namespace Rollup

/-- **A run that has read the definition.** -/
structure Run where
  /-- The job. -/
  job : Job
  /-- The status of the slot when the run began. -/
  previous : MaterializationStatus
  /-- The instant that rows are computed for. -/
  time : Instant
  /-- What reading the definition gave. -/
  found : Except ReportError (Option ReportDefinition)

namespace Run

/-- Whether there was a definition to read. -/
def hasDefinition (r : Run) : Bool :=
  match r.found with
  | .ok (some _) => true
  | _ => false

/-- Computes the rows of the definition that was read. -/
def compute (r : Run) : TenantAction ComputedRows := do
  let found ← TenantAction.ofExcept id r.found
  let d ← TenantAction.ofExcept id (Registry.active r.job.reportId found)
  Rows.computeFor d.toReportContent r.time

end Run

namespace Service

/-- **Begins a run**: the slot runs, and the definition is read. -/
def begin (job : Job) : StateM Service Run := do
  let s ← get
  let previous := { (s.queue.slot job.slot).status with state := .running }
  changeQueue fun q => ((), q.setStatus job.slot previous)
  return { job, previous, time := s.tenant.clock, found := ← attempt (Registry.find job.reportId) }

/-- **A job that a later one replaced**: it is counted, and nothing else happens. -/
def supersede (job : Job) : StateM Service MaterializationStatus := do
  meter fun m => { m with superseded := m.superseded + 1 }
  return ((← get).queue.slot job.slot).status.reach .superseded (UInt64.ofNat job.generation)

/-- Writes the status of a run into the slot and, where that is possible, into the definition. -/
def record (job : Job) (status : MaterializationStatus) : StateM Service MaterializationStatus := do
  changeQueue fun q => ((), q.setStatus job.slot status)
  let _ ← attempt (Registry.recordStatus job.reportId status)
  return status

/-- The run published rows. -/
def concludePublished (r : Run) (rows : Nat) : StateM Service MaterializationStatus := do
  meter (Metrics.recordPublished rows)
  record r.job <|
    .published (UInt64.ofNat r.job.generation) (UInt64.ofNat rows) (← get).tenant.today

/-- There was nothing to publish. -/
def concludeSkipped (r : Run) : StateM Service MaterializationStatus := do
  meter fun m => { m with skipped := m.skipped + 1 }
  record r.job (r.previous.reach .skipped (UInt64.ofNat r.job.generation))

/-- The run failed. -/
def concludeFailed (r : Run) (error : ReportError) : StateM Service MaterializationStatus := do
  meter fun m => { m with failed := m.failed + 1 }
  modify fun s => { s with
    failures := s.failures ++ [{ reportId := r.job.reportId, generation := r.job.generation, error }] }
  record r.job (r.previous.fail (UInt64.ofNat r.job.generation) error.message)

/-- **Finishes a run.** -/
def finish (r : Run) : StateM Service MaterializationStatus := do
  match ← attempt r.compute with
  | .error e => concludeFailed r e
  | .ok .nothing => concludeSkipped r
  | .ok (.rows rows) =>
    if (← get).queue.isStale r.job then supersede r.job
    else
      match ← attempt (Rows.publish r.job.reportId rows) with
      | .error e => concludeFailed r e
      | .ok count => concludePublished r count

/-- **Executes a job**, and gives its final status. -/
def execute (job : Job) : StateM Service MaterializationStatus := do
  if (← get).queue.isStale job then supersede job
  else finish (← begin job)

/-- Executes jobs in order. -/
def executeAll : List Job → StateM Service Unit
  | [] => pure ()
  | job :: rest => do
    let _ ← execute job
    executeAll rest

/-- **Executes the jobs that wait.** -/
def drain : StateM Service Unit := do
  executeAll (← changeQueue fun q => (q.jobs, { q with jobs := [] }))

end Service

end Rollup
