import Rollup.Json.Basic

/-!
# Counters

What the engine did for a tenant, as counters that only grow.
-/

namespace Rollup

/-- **The counters of a tenant.** -/
structure Metrics where
  /-- Materializations that published rows. -/
  published : Nat := 0
  /-- Materializations that failed. -/
  failed : Nat := 0
  /-- Materializations whose result came too late. -/
  superseded : Nat := 0
  /-- Materializations with nothing to publish. -/
  skipped : Nat := 0
  /-- Rows published in all. -/
  rowsPublished : Nat := 0
  /-- Queries answered. -/
  queries : Nat := 0
  /-- Queries refused through the caller's fault. -/
  rejected : Nat := 0
  /-- Rows given in all. -/
  rowsReturned : Nat := 0
  /-- Indexes created. -/
  indexesCreated : Nat := 0
  /-- Indexes evicted. -/
  indexesEvicted : Nat := 0
  /-- Failures of index maintenance. -/
  indexFailures : Nat := 0
  /-- Conditions left out by lenient compilation. -/
  conditionsSkipped : Nat := 0
  deriving DecidableEq, Repr

namespace Metrics

/-- A materialization published some rows. -/
def recordPublished (rows : Nat) (m : Metrics) : Metrics :=
  { m with published := m.published + 1, rowsPublished := m.rowsPublished + rows }

/-- A query gave some rows. -/
def recordQuery (rows : Nat) (m : Metrics) : Metrics :=
  { m with queries := m.queries + 1, rowsReturned := m.rowsReturned + rows }

/-- Lenient compilation left out some conditions. -/
def recordSkippedConditions (conditions : Nat) (m : Metrics) : Metrics :=
  { m with conditionsSkipped := m.conditionsSkipped + conditions }

/-- The counters as JSON. -/
def toJson (m : Metrics) : Json :=
  .ofMembers [("materializations_published", .ofCount m.published),
    ("materializations_failed", .ofCount m.failed),
    ("materializations_superseded", .ofCount m.superseded),
    ("materializations_skipped", .ofCount m.skipped),
    ("rows_materialized", .ofCount m.rowsPublished), ("queries_executed", .ofCount m.queries),
    ("queries_rejected", .ofCount m.rejected), ("rows_returned", .ofCount m.rowsReturned),
    ("indexes_created", .ofCount m.indexesCreated), ("indexes_evicted", .ofCount m.indexesEvicted),
    ("index_failures", .ofCount m.indexFailures),
    ("conditions_skipped", .ofCount m.conditionsSkipped)]

end Metrics

end Rollup
