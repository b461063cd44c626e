import Rollup.Error
import Rollup.Metrics
import Rollup.Store.Basic

/-!
# Tenants

Everything the engine does, it does for one tenant: with the tenant's store, settings, counters and clock.
A **tenant action** may fail with a report error, and what it did to the tenant until then stays done.

There are two clocks. Reports may be computed for a pinned instant, which is what `now` in conditions
means and what rows carry as their time; stamps on definitions are always taken from the time of day.
-/

namespace Rollup

/-- **What the engine works on for one tenant.** -/
structure Tenant where
  /-- The documents. -/
  store : Store
  /-- The settings. -/
  config : Config := {}
  /-- The counters. -/
  metrics : Metrics := {}
  /-- The instant that reports are computed for. -/
  clock : Instant
  /-- The time of day. -/
  today : Instant

/-- **An action for a tenant.** -/
abbrev TenantAction (α : Type) : Type := ExceptT ReportError (StateM Tenant) α

namespace TenantAction

/-- Runs a store action as part of a named operation. -/
def onStore {α : Type} (operation : String) (action : StoreAction α) : TenantAction α :=
  ExceptT.mk fun t =>
    let (result, store) := action.run t.store
    (result.mapError (.store operation), { t with store })

/-- Changes the counters. -/
def meter (change : Metrics → Metrics) : TenantAction Unit :=
  modify fun t => { t with metrics := change t.metrics }

/-- Gives the outcome of an action as a value, so that the next step can look at it. -/
def outcome {α : Type} (action : TenantAction α) : TenantAction (Except ReportError α) :=
  ExceptT.mk fun t =>
    let (result, t) := action.run t
    (.ok result, t)

/-- The outcome of a pure step. -/
def ofExcept {ε α : Type} (wrap : ε → ReportError) : Except ε α → TenantAction α
  | .ok a => pure a
  | .error e => throw (wrap e)

/-- Documents that all decode; the first one that does not fails the operation. -/
def decodeAll {α : Type} (operation collection : String) (decode? : Json → Option α)
    (documents : List Json) : TenantAction (List α) :=
  match documents.mapM decode? with
  | some values => pure values
  | none => throw (.store operation (.decode collection none))

end TenantAction

end Rollup
