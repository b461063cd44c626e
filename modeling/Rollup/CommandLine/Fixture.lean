import Rollup.Item
import Rollup.Json.Reader
import Rollup.Store.Basic

/-!
# Fixtures

A fixture is a file that holds a whole store: an object of lists of documents, one for each collection.
Items are brought to their stored form when they are loaded. Collections are loaded in the order of their
names, so that of several faults the one in the first collection counts.
-/

namespace Rollup

/-- Why there is no store. -/
inductive FixtureError where
  /-- The file cannot be read, or holds no object. -/
  | unreadable (path : String)
  /-- A collection is no list. -/
  | notList (collection : String)
  /-- A document of a collection of items is no item. -/
  | notItem (collection : String)
  /-- The store refuses the documents. -/
  | refused (cause : StoreError)
  deriving DecidableEq

/-- The message of a fixture error. -/
def FixtureError.message : FixtureError → String
  | .unreadable path => s!"{path}: <reason>"
  | .notList collection => s!"collection {collection} is not an array"
  | .notItem collection => s!"{collection}: <reason>"
  | .refused cause => cause.message

namespace Fixture

/-- Whether a collection holds items. -/
def holdsItems (collection : String) : Bool := collection.startsWith (Store.itemsOf "")

/-- The documents of a collection in their stored form. -/
def documents (collection : String) : Json → Except FixtureError (List Json)
  | .array documents =>
    if holdsItems collection then
      match documents.mapM Item.normalize? with
      | some items => .ok items
      | none => .error (.notItem collection)
    else .ok documents
  | _ => .error (.notList collection)

/-- Loads collections one after the other. -/
def loadAll : Keyed Json → Store → Except FixtureError Store
  | [], s => .ok s
  | (collection, content) :: rest, s => do
    let documents ← documents collection content
    match (Store.insert collection documents).run s with
    | (.ok (), s) => loadAll rest s
    | (.error e, _) => throw (.refused e)

/-- **The store of a file**, given its text, or nothing for a file that cannot be read. -/
def load (path : String) (text : Option String) : Except FixtureError Store :=
  match text.bind Json.parse? with
  | some (.object collections) => loadAll collections {}
  | _ => .error (.unreadable path)

end Fixture

end Rollup
