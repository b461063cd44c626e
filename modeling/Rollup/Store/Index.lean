import Rollup.Condition.Predicate
import Rollup.Json.Decode
import Rollup.Decimal.Power

/-!
# Indexes of a collection

An index is a list of paths with directions. In this store indexes never change an answer; they are kept
for the counters on them: every read picks the index that serves it best and counts one access, and
index maintenance ranks by these counts (`Index.Budget`).

**Choosing an index.** An index serves a read when its leading path is fixed by the filter, read by the
filter, or the first path of the sorting, in this order of preference. Among equals the one with the
longest run of paths that filter or sorting mention wins, and then the first by name.
-/

namespace Rollup

/-- **One key of an index.** -/
structure IndexKey where
  /-- Where the indexed value stands. -/
  path : String
  /-- `1` for ascending and `-1` for descending. -/
  direction : Int
  deriving DecidableEq, Repr

/-- **What an index is over.** -/
structure IndexSpec where
  /-- The keys, leading one first. -/
  keys : List IndexKey
  /-- Whether documents without the keys are left out. -/
  isSparse : Bool := false
  /-- Whether no two documents share their keys. -/
  isUnique : Bool := false
  deriving DecidableEq, Repr

namespace IndexSpec

/-- The sparse ascending index over some paths. -/
def ascending (paths : List String) : IndexSpec :=
  { keys := paths.map fun path => ⟨path, 1⟩, isSparse := true }

/-- **The name of an index**: its paths and directions, all joined by underscores. -/
def name (spec : IndexSpec) : String :=
  "_".intercalate (spec.keys.map fun k => k.path ++ "_" ++ toString k.direction)

/-- The paths, leading one first. -/
def paths (spec : IndexSpec) : List String := spec.keys.map IndexKey.path

/-- A signed word of thirty-two bits. -/
def direction? (j : Json) : Option Int :=
  match j with
  | .number n => n.toSigned?.bind fun d =>
    if -2 ^ 31 ≤ d.toInt ∧ d.toInt < 2 ^ 31 then some d.toInt else none
  | _ => none

/-- Reads one key. -/
def decodeKey? (j : Json) : Option IndexKey := do
  let m ← Decode.members? ["path", "direction"] j
  let path ← Decode.required "path" Decode.text m
  let direction ← Decode.required "direction" direction? m
  return ⟨path, direction⟩

/-- Reads the description of an index. -/
def decode? (j : Json) : Option IndexSpec := do
  let m ← Decode.members? ["keys", "sparse", "unique"] j
  return {
    keys := ← Decode.required "keys" (Decode.list decodeKey?) m
    isSparse := ← Decode.defaulted "sparse" false Decode.flag m
    isUnique := ← Decode.defaulted "unique" false Decode.flag m }

/-- The description of an index as JSON. -/
def toJson (spec : IndexSpec) : Json :=
  let key (k : IndexKey) : Json :=
    .object [("direction", .ofSigned (Int64.ofInt k.direction)), ("path", .string k.path)]
  .object [("keys", .array (spec.keys.map key)), ("sparse", .bool spec.isSparse),
    ("unique", .bool spec.isUnique)]

end IndexSpec

/-- **An index of a collection** and how often reads were served by it. -/
structure IndexEntry where
  /-- What it is over. -/
  spec : IndexSpec
  /-- How many reads it served. -/
  accesses : Nat := 0
  deriving DecidableEq, Repr

/-- An index as index maintenance sees it. -/
structure IndexUsage where
  /-- Its name. -/
  name : String
  /-- What it is over. -/
  spec : IndexSpec
  /-- How many reads it served. -/
  accesses : Nat
  deriving DecidableEq, Repr

namespace IndexUsage

/-- Reads an index with its counter. -/
def decode? (j : Json) : Option IndexUsage := do
  let m ← Decode.members? ["name", "spec", "accesses"] j
  let name ← Decode.required "name" Decode.text m
  let spec ← Decode.required "spec" IndexSpec.decode? m
  let accesses ← Decode.required "accesses" Decode.word m
  return ⟨name, spec, accesses.toNat⟩

/-- Whether one index ranks before another: it served more reads, or as many and its name comes
first. -/
def ranksBefore (a b : IndexUsage) : Bool :=
  b.accesses < a.accesses || (a.accesses == b.accesses && a.name ≤ b.name)

/-- **Indexes in rank order**, the most used first. -/
def rank (usage : List IndexUsage) : List IndexUsage :=
  usage.mergeSort ranksBefore

end IndexUsage

/-! ## Choosing an index -/

/-- How well an index serves a read. -/
structure IndexFit where
  /-- What the leading path is to the read, the best being 0. -/
  grade : Nat
  /-- How many leading paths the read mentions. -/
  covered : Nat
  deriving DecidableEq, Repr

/-- Whether one fit is better than another. -/
def IndexFit.betterThan (a b : IndexFit) : Bool :=
  a.grade < b.grade || (a.grade == b.grade && b.covered < a.covered)

/-- How well an index over some paths serves a read; none when it does not. -/
def IndexSpec.fit? (spec : IndexSpec) (filter : Predicate) (sortPaths : List String) :
    Option IndexFit :=
  match spec.paths with
  | [] => none
  | leading :: rest =>
    let mentioned (path : String) := filter.paths.contains path || sortPaths.contains path
    let covered := ((leading :: rest).takeWhile mentioned).length
    if filter.equalityPaths.contains leading then some ⟨0, covered⟩
    else if filter.paths.contains leading then some ⟨1, covered⟩
    else if sortPaths.head? == some leading then some ⟨2, covered⟩
    else none

/-- **The index that serves a read**, of equally good ones the first by name. -/
def chooseIndex (indexes : Keyed IndexEntry) (filter : Predicate) (sortPaths : List String) :
    Option String :=
  let best := indexes.foldl (fun best (name, entry) =>
    match best, entry.spec.fit? filter sortPaths with
    | none, some fit => some (name, fit)
    | some (other, least), some fit =>
      if fit.betterThan least then some (name, fit) else some (other, least)
    | best, none => best) (none : Option (String × IndexFit))
  best.map Prod.fst

end Rollup
