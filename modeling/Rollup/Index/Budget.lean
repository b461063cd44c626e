import Rollup.Tenant

/-!
# The index budget

Queries on the rows of a report get an index over the paths they read, but a collection keeps at most as
many indexes as its budget allows. Making room drops the lowest ranked ones: those that served the fewest
reads, and of these the last by name. The index that a query asks for is never dropped for it.
-/

namespace Rollup

/-- Why a key list gets no index. -/
inductive IndexSkip where
  /-- There are no keys. -/
  | noKeys
  /-- There are too many keys. -/
  | tooManyKeys (keys most : Nat)
  deriving DecidableEq, Repr

/-- **What became of a wish for an index.** -/
inductive IndexOutcome where
  /-- The index was there. -/
  | existing (name : String) (evicted : List String)
  /-- It was created. -/
  | created (name : String) (evicted : List String)
  /-- There is none for these keys. -/
  | skipped (reason : IndexSkip)
  deriving DecidableEq, Repr

/-- What became of a wish for an index, as JSON. -/
def IndexOutcome.toJson : IndexOutcome → Json
  | .existing name evicted => .object [("evicted", .ofStrings evicted), ("existing", .string name)]
  | .created name evicted => .object [("created", .string name), ("evicted", .ofStrings evicted)]
  | .skipped .noKeys => .object [("skipped", .string "no keys")]
  | .skipped (.tooManyKeys keys most) =>
    .object [("skipped", .array [.ofCount keys, .ofCount most])]

namespace IndexBudget

/-- The names of the lowest ranked indexes that have to go so that only `keep` remain, the lowest first; a
protected index stays. -/
def victims (usage : List IndexUsage) (keep : Nat) (isProtected : String → Bool) : List String :=
  let ranked := (IndexUsage.rank usage).reverse.map IndexUsage.name
  (ranked.filter fun name => !isProtected name).take (usage.length - keep)

/-- Drops indexes in order. -/
def dropAll (collection : String) : List String → TenantAction Unit
  | [] => pure ()
  | name :: rest => do
    TenantAction.onStore "drop index" (Store.dropIndex collection name)
    dropAll collection rest

/-- **Drops the lowest ranked indexes until at most `keep` remain**, and gives their names. -/
def evict (collection : String) (usage : List IndexUsage) (keep : Nat)
    (isProtected : String → Bool) : TenantAction (List String) := do
  let names := victims usage keep isProtected
  dropAll collection names
  TenantAction.meter fun m => { m with indexesEvicted := m.indexesEvicted + names.length }
  return names

/-- Finds or creates an index, making room in the budget first. -/
def provide (collection : String) (spec : IndexSpec) : TenantAction IndexOutcome := do
  let budget := (← get).config.indexBudget.toNat
  let usage ← TenantAction.onStore "read index usage" (Store.indexUsage collection)
  match usage.find? fun u => u.spec.keys == spec.keys with
  | some u =>
    let evicted ← evict collection usage budget fun name => name == u.name
    return .existing u.name evicted
  | none =>
    let evicted ← evict collection usage (budget - 1) fun _ => false
    let name ← TenantAction.onStore "create index" (Store.createIndex collection spec)
    TenantAction.meter fun m => { m with indexesCreated := m.indexesCreated + 1 }
    return .created name evicted

/-- **Makes sure that a collection has an index over some paths**, each counting once. Lists that reach
the limit on keys get none. -/
def ensure (collection : String) (paths : List String) : TenantAction IndexOutcome := do
  let most := (← get).config.maxIndexKeys.toNat
  let keys := paths.eraseDups
  if keys.isEmpty then return .skipped .noKeys
  else if most ≤ keys.length then return .skipped (.tooManyKeys keys.length most)
  else provide collection (.ascending keys)

/-- `ensure` whose failure is counted and otherwise without effect on the caller. -/
def tryEnsure (collection : String) (paths : List String) : TenantAction (Option IndexOutcome) := do
  match ← TenantAction.outcome (ensure collection paths) with
  | .ok outcome => return some outcome
  | .error _ =>
    TenantAction.meter fun m => { m with indexFailures := m.indexFailures + 1 }
    return none

end IndexBudget

end Rollup
