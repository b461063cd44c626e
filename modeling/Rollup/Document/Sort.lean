import Rollup.Document.Path
import Rollup.Json.Decode
import Rollup.Json.Order

/-!
# Sorting documents

Documents are sorted by the values at a list of paths, each ascending or descending. Of two documents
the first key that tells them apart decides; documents that no key tells apart keep their order.
-/

namespace Rollup

/-- **A direction of sorting.** -/
inductive Direction where
  /-- Smaller values first. -/
  | ascending
  /-- Larger values first. -/
  | descending
  deriving DecidableEq, Repr

namespace Direction

/-- The spelling of a direction in definitions. -/
def name : Direction → String
  | .ascending => "ascend"
  | .descending => "dscend"

/-- The direction of a spelling. -/
def ofName? (name : String) : Option Direction :=
  if name = "ascend" ∨ name = "asc" then some .ascending
  else if name = "dscend" ∨ name = "descend" ∨ name = "desc" then some .descending
  else none

/-- The direction of an index key. -/
def sign : Direction → Int
  | .ascending => 1
  | .descending => -1

/-- An order in this direction. -/
def apply : Direction → Ordering → Ordering
  | .ascending, o => o
  | .descending, o => o.swap

/-- A direction as JSON. -/
def toJson (d : Direction) : Json := .string d.name

/-- Reads a direction. -/
def decode? (j : Json) : Option Direction := (Decode.name j).bind ofName?

end Direction

/-- **One key of a sorting.** -/
structure SortKey where
  /-- Where the compared value stands. -/
  path : String
  /-- In which direction. -/
  direction : Direction
  deriving DecidableEq, Repr

namespace SortKey

/-- A key with smaller values first. -/
def ascending (path : String) : SortKey := ⟨path, .ascending⟩

/-- A key with larger values first. -/
def descending (path : String) : SortKey := ⟨path, .descending⟩

/-- A sort key as JSON. -/
def toJson (k : SortKey) : Json :=
  .object [("direction", k.direction.toJson), ("path", .string k.path)]

/-- Reads a sort key. -/
def decode? (j : Json) : Option SortKey := do
  let m ← Decode.members? ["path", "direction"] j
  let path ← Decode.required "path" Decode.text m
  let direction ← Decode.required "direction" Direction.decode? m
  return ⟨path, direction⟩

end SortKey

namespace Document

/-- **The order of two documents** under a list of keys: that of the first key that tells them
apart. -/
def order : List SortKey → Json → Json → Ordering
  | [], _, _ => .eq
  | key :: rest, a, b =>
    (key.direction.apply (Json.order? (get? key.path a) (get? key.path b))).then (order rest a b)

/-- **Sorts documents**, keeping the order of those that no key tells apart. -/
def sort (keys : List SortKey) (documents : List Json) : List Json :=
  if keys.isEmpty then documents
  else documents.mergeSort fun a b => (order keys a b).isLE

end Document

end Rollup
