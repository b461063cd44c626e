/-!
# Store errors

What can go wrong in the document store, with the texts that callers see.
-/

namespace Rollup

/-- **Why a store operation fails.** -/
inductive StoreError where
  /-- The collection cannot be reached. -/
  | unavailable (collection : String)
  /-- Another user of the store broke off while holding it. -/
  | lockPoisoned
  /-- A document of the collection is not what its readers expect; the reason is told only for a missing
  key. -/
  | decode (collection : String) (missingKey : Option String)
  /-- The collection holds as many indexes as it may. -/
  | indexLimit (collection : String) (limit : Nat)
  /-- There is no such index. -/
  | indexNotFound (collection name : String)
  /-- An index cannot be like this. -/
  | invalidIndex (reason : String)
  deriving DecidableEq

/-- The message of a store error. -/
def StoreError.message : StoreError → String
  | .unavailable collection => s!"Collection {collection} is unavailable"
  | .lockPoisoned => "Store lock poisoned"
  | .decode collection (some key) => s!"Failed to decode document in {collection}: missing key {key}"
  | .decode collection none => s!"Failed to decode document in {collection}: <reason>"
  | .indexLimit collection limit => s!"Collection {collection} already holds {limit} indexes"
  | .indexNotFound collection name => s!"Index {name} not found on {collection}"
  | .invalidIndex reason => s!"Invalid index specification: {reason}"

end Rollup
