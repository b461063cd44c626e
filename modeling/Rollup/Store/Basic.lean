import Rollup.Document.Sort
import Rollup.Store.Error
import Rollup.Store.Index

/-!
# The document store

A store is a map from collection names to collections, a collection its documents in order of insertion
and its indexes. A collection that does not exist reads as empty; writing creates it. Single collections
can be made unavailable, and then every operation on them fails.

Operations are actions on the store (`StoreAction`): they may fail, and what they did before they failed
stays done. Apart from the collection that an index is refused on – it exists from then on – a failed
operation changes nothing.
-/

namespace Rollup

/-- **A collection**: its documents and its indexes. -/
structure Collection where
  /-- The documents in order of insertion. -/
  documents : List Json := []
  /-- The indexes by name. -/
  indexes : Keyed IndexEntry := []

/-- **A document store.** -/
structure Store where
  /-- The collections by name. -/
  collections : Keyed Collection := []
  /-- The collections that cannot be reached. -/
  unavailable : List String := []
  /-- How many indexes a collection may hold. -/
  indexLimit : Nat := 64

/-- **An action on a store**: it may fail, and what it did until then stays. -/
abbrev StoreAction (α : Type) : Type := ExceptT StoreError (StateM Store) α

namespace Store

/-! ## The collections the engine works with -/

/-- Report definitions. -/
def reports : String := "reports"

/-- Fields of datastores. -/
def fields : String := "fields"

/-- Datastores and their relations. -/
def datastores : String := "data_stores"

/-- Option values and their labels. -/
def options : String := "options"

/-- Users and their names. -/
def users : String := "users"

/-- Settings of apps. -/
def apps : String := "apps"

/-- The items of a datastore. -/
def itemsOf (datastoreId : String) : String := "item_" ++ datastoreId

/-- The published rows of a report. -/
def rowsOf (reportId : String) : String := "report_" ++ reportId

/-! ## Looking at a store -/

/-- A collection; one that does not exist is empty. -/
def collection (name : String) (s : Store) : Collection :=
  (Keyed.get? name s.collections).getD {}

/-- The documents of a collection, also of one that cannot be reached. -/
def documents (name : String) (s : Store) : List Json :=
  (s.collection name).documents

/-- Whether a collection exists. -/
def hasCollection (name : String) (s : Store) : Bool :=
  Keyed.contains name s.collections

/-- Puts a collection in place. -/
def withCollection (name : String) (c : Collection) (s : Store) : Store :=
  { s with collections := Keyed.insert name c s.collections }

/-- Makes a collection unavailable or available. -/
def setUnavailable (name : String) (value : Bool) (s : Store) : Store :=
  let others := s.unavailable.filter fun other => other ≠ name
  { s with unavailable := if value then name :: others else others }

/-! ## Parts of actions -/

/-- Fails when a collection cannot be reached. -/
def requireAvailable (name : String) : StoreAction Unit := do
  if (← get).unavailable.contains name then throw (.unavailable name)

/-- Changes a collection, which exists from then on. -/
def change (name : String) (f : Collection → Collection) : StoreAction Unit :=
  modify fun s => s.withCollection name (f (s.collection name))

/-- Changes a collection that exists. -/
def changeExisting (name : String) (f : Collection → Collection) : StoreAction Unit := do
  if (← get).hasCollection name then change name f

/-! ## Reading -/

/-- Counts an access on the index that serves a read. -/
def countAccess (filter : Predicate) (sortPaths : List String) (c : Collection) : Collection :=
  match chooseIndex c.indexes filter sortPaths with
  | none => c
  | some name =>
    { c with indexes := Keyed.modify name (fun e => { e with accesses := e.accesses + 1 }) c.indexes }

/-- How the documents of a read are arranged and cut. -/
structure Window where
  /-- The sorting. -/
  sort : List SortKey := []
  /-- How many documents are skipped. -/
  skip : Nat := 0
  /-- How many documents are given at most. -/
  limit : Option Nat := none

/-- Skips and limits a list. -/
def cut {α : Type} (skip : Nat) (limit : Option Nat) (xs : List α) : List α :=
  match limit with
  | some n => (xs.drop skip).take n
  | none => xs.drop skip

/-- **The documents that match a filter**, sorted, skipped and limited. -/
def find (name : String) (filter : Predicate) (window : Window) : StoreAction (List Json) := do
  requireAvailable name
  let documents := (← get).documents name
  changeExisting name (countAccess filter (window.sort.map SortKey.path))
  return cut window.skip window.limit (Document.sort window.sort (documents.filter filter.holds))

/-- **How many documents match a filter.** -/
def count (name : String) (filter : Predicate) : StoreAction Nat := do
  requireAvailable name
  let documents := (← get).documents name
  changeExisting name (countAccess filter [])
  return (documents.filter filter.holds).length

/-! ## Writing -/

/-- Adds documents at the end of a collection. -/
def insert (name : String) (added : List Json) : StoreAction Unit := do
  requireAvailable name
  change name fun c => { c with documents := c.documents ++ added }

/-- Replaces the first document with the same value at a path, or adds the document at the end. -/
def replaceOrAdd (path : String) (key document : Json) : List Json → List Json
  | [] => [document]
  | d :: rest =>
    if (Document.get? path d).any key.same then document :: rest
    else d :: replaceOrAdd path key document rest

/-- **Stores a document by the value at a path**, over the document that has the same value there. -/
def upsert (name path : String) (document : Json) : StoreAction Unit := do
  requireAvailable name
  match Document.get? path document with
  | none => throw (.decode name (some path))
  | some key => change name fun c =>
    { c with documents := replaceOrAdd path key document c.documents }

/-- Writes fields of a document. -/
def setFields (written : List (String × Json)) (document : Json) : Json :=
  written.foldl (fun d (path, value) => Document.set path value d) document

/-- **Writes fields of the documents that match a filter**, and tells how many those are. -/
def update (name : String) (filter : Predicate) (written : List (String × Json)) : StoreAction Nat := do
  requireAvailable name
  let documents := (← get).documents name
  changeExisting name fun c =>
    { c with documents := c.documents.map fun d => if filter.holds d then setFields written d else d }
  return (documents.filter filter.holds).length

/-- **Deletes the documents that match a filter**, and tells how many those were. -/
def delete (name : String) (filter : Predicate) : StoreAction Nat := do
  requireAvailable name
  let documents := (← get).documents name
  changeExisting name fun c =>
    { c with documents := c.documents.filter fun d => !filter.holds d }
  return (documents.filter filter.holds).length

/-- **Puts other documents in the place of all**; indexes stay. -/
def replace (name : String) (documents : List Json) : StoreAction Unit := do
  requireAvailable name
  change name fun c => { c with documents }

/-- **Drops a collection with its indexes**, and tells whether it existed. -/
def drop (name : String) : StoreAction Bool := do
  requireAvailable name
  let existed := (← get).hasCollection name
  modify fun s => { s with collections := Keyed.erase name s.collections }
  return existed

/-! ## Indexes -/

/-- The indexes of a collection by name, with their counters. -/
def indexUsage (name : String) : StoreAction (List IndexUsage) := do
  requireAvailable name
  return ((← get).collection name).indexes.map fun (index, e) => ⟨index, e.spec, e.accesses⟩

/-- The names an index may get: the one made of its keys, then the same with `~2`, `~3` and so on. -/
def candidateName (base : String) (n : Nat) : String :=
  if n ≤ 1 then base else s!"{base}~{n}"

/-- **The first candidate from the `n`th on that is not taken.** Candidates differ, so that of one more
than there are indexes the last is free when the others are not. -/
def freeName (taken : Keyed IndexEntry) (base : String) : Nat → Nat → String
  | 0, n => candidateName base n
  | fuel + 1, n =>
    if Keyed.contains (candidateName base n) taken then freeName taken base fuel (n + 1)
    else candidateName base n

/-- The name of the index that has the same keys, if there is one. -/
def sameKeys? (indexes : Keyed IndexEntry) (spec : IndexSpec) : Option String :=
  (indexes.find? fun (_, e) => e.spec.keys == spec.keys).map Prod.fst

/-- **Creates an index**, or finds the one that has the same keys already, and gives its name. Different
keys can spell the same name, which is then numbered. -/
def createIndex (name : String) (spec : IndexSpec) : StoreAction String := do
  requireAvailable name
  if spec.keys.isEmpty then throw (.invalidIndex "no keys")
  change name id
  let s ← get
  let indexes := (s.collection name).indexes
  match sameKeys? indexes spec with
  | some existing => return existing
  | none =>
    if s.indexLimit ≤ indexes.length then throw (.indexLimit name s.indexLimit)
    let free := freeName indexes spec.name indexes.length 1
    change name fun c => { c with indexes := Keyed.insert free { spec } c.indexes }
    return free

/-- Drops an index. -/
def dropIndex (name index : String) : StoreAction Unit := do
  requireAvailable name
  if Keyed.contains index ((← get).collection name).indexes then
    change name fun c => { c with indexes := Keyed.erase index c.indexes }
  else throw (.indexNotFound name index)

end Store

end Rollup
