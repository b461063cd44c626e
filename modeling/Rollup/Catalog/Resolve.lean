import Rollup.Catalog.Field
import Rollup.Tenant

/-!
# Resolving catalogs

The catalog of a datastore holds its active fields and those of every datastore that lookups lead to from
it. Datastores are loaded one after the other, each at most once, so that lookups which lead back end
the search.

Each load costs at most one step per field document it finds, and no document is found twice; the number
of field documents therefore bounds the steps.
-/

namespace Rollup

namespace Catalog

/-- The documents of a datastore of an app. -/
def scope (appId datastoreId : String) : Predicate :=
  .allOf [.compare "app_id" .eq (.text appId), .compare "datastore_id" .eq (.text datastoreId)]

/-- All fields of a datastore, deleted ones included. -/
def loadFields (appId datastoreId : String) : TenantAction (List Field) := do
  let documents ← TenantAction.onStore "load fields" <|
    Store.find Store.fields (scope appId datastoreId) {}
  TenantAction.decodeAll "load fields" Store.fields Field.decode? documents

/-- **The datastore of an id**; of several documents the last one counts. -/
def loadDatastore (appId datastoreId : String) : TenantAction (Option Datastore) := do
  let documents ← TenantAction.onStore "load datastore" <|
    Store.find Store.datastores (scope appId datastoreId) {}
  match documents.getLast? with
  | none => return none
  | some document =>
    match Datastore.decode? document with
    | some d => return some d
    | none => throw (.store "load datastore" (.decode Store.datastores none))

/-- Whether one field comes no later than another: by display order, and of equal ones the younger
first. -/
def comesBefore (a b : Field) : Bool :=
  ((compare a.displayOrder b.displayOrder).then (b.createdAt.order a.createdAt)).isLE

/-- **The active fields of a loaded list in their order.** -/
def arrange (fields : List Field) : List Field :=
  (fields.filter Field.isActive).mergeSort comesBefore

end Catalog

/-- **A resolved catalog**: the active fields of the datastores that lookups lead to. -/
structure Catalog where
  /-- The datastore it was resolved for. -/
  root : String
  /-- The active fields of each datastore, in order. -/
  fields : Keyed (List Field)

namespace Catalog

/-- The active fields of a datastore, if the catalog has it. -/
def fieldsOf? (datastoreId : String) (c : Catalog) : Option (List Field) :=
  Keyed.get? datastoreId c.fields

/-- The active fields of the datastore the catalog was resolved for. -/
def rootFields (c : Catalog) : List Field := (c.fieldsOf? c.root).getD []

/-- The function fields among them. -/
def functionFields (c : Catalog) : List Field := c.rootFields.filter Field.isFunction

/-- A field of a datastore. -/
def field? (datastoreId fieldId : String) (c : Catalog) : Option Field :=
  (c.fieldsOf? datastoreId).bind fun fields => fields.find? fun f => f.fieldId == fieldId

/-- Takes pending datastores one by one, until none is left. -/
def resolveFrom : Nat → List (String × String) → Catalog → TenantAction Catalog
  | _, [], c => pure c
  | 0, _ :: _, c => pure c
  | fuel + 1, (appId, datastoreId) :: pending, c =>
    if Keyed.contains datastoreId c.fields then resolveFrom fuel pending c
    else do
      let fields := arrange (← loadFields appId datastoreId)
      let targets := (fields.filterMap Field.lookupTarget?).filter fun (_, id) =>
        !Keyed.contains id c.fields
      resolveFrom fuel (pending ++ targets)
        { c with fields := Keyed.insert datastoreId fields c.fields }

/-- **Resolves the catalog of a datastore.** -/
def resolve (appId datastoreId : String) : TenantAction Catalog := do
  let bound := ((← get).store.documents Store.fields).length + 1
  resolveFrom bound [(appId, datastoreId)] { root := datastoreId, fields := [] }

end Catalog

end Rollup
