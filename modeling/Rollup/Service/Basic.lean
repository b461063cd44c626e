import Rollup.Queue.Basic
import Rollup.Tenant

/-!
# The service of a tenant

A service is what callers talk to: the tenant, the queue of materializations in the background, and the
failures that were reported there, since nobody waits for them. All of it is one value; an operation that
fails gives it back as far as it came.
-/

namespace Rollup

/-- **A materialization that failed in the background.** -/
structure MaterializationFailure where
  /-- The report. -/
  reportId : ReportId
  /-- The generation that failed. -/
  generation : Nat
  /-- Why it failed. -/
  error : ReportError

/-- A failure as JSON. -/
def MaterializationFailure.toJson (f : MaterializationFailure) : Json :=
  .object [("error", .string f.error.code), ("generation", .ofCount f.generation),
    ("message", .string f.error.message), ("report_id", f.reportId.toJson)]

/-- **The state of a service.** -/
structure Service where
  /-- The tenant. -/
  tenant : Tenant
  /-- The materializations asked for. -/
  queue : Queue := {}
  /-- What failed in the background since the last look at it, in order. -/
  failures : List MaterializationFailure := []
  /-- The number that the next new report id is made of. -/
  nextId : Nat := 0

/-- **An operation of a service**: it may fail, and what it did until then stays done. -/
abbrev ServiceAction (α : Type) : Type := ExceptT ReportError (StateM Service) α

namespace Service

/-- Runs an action for the tenant and gives its outcome. -/
def attempt {α : Type} (action : TenantAction α) : StateM Service (Except ReportError α) := fun s =>
  let (outcome, tenant) := action.run s.tenant
  (outcome, { s with tenant })

/-- Runs an action for the tenant as part of an operation. -/
def onTenant {α : Type} (action : TenantAction α) : ServiceAction α :=
  ExceptT.mk (attempt action)

/-- Changes the queue. -/
def changeQueue {α : Type} (change : Queue → α × Queue) : StateM Service α := fun s =>
  let (a, queue) := change s.queue
  (a, { s with queue })

/-- How many failures are kept for a look. -/
def failureCapacity : Nat := 64

/-- **Looks at the failures since the last look.** Behind more failures than are kept, a look finds nothing
but that it comes too late; the latest ones are then there for the next look. -/
def takeFailures : StateM Service (List MaterializationFailure) := fun s =>
  let surplus := s.failures.length - failureCapacity
  if surplus = 0 then (s.failures, { s with failures := [] })
  else ([], { s with failures := s.failures.drop surplus })

/-- Changes the counters. -/
def meter (change : Metrics → Metrics) : StateM Service Unit :=
  modify fun s => { s with tenant := { s.tenant with metrics := change s.tenant.metrics } }

end Service

end Rollup
