import Rollup.Json.Decode

/-!
# Status of a materialization

The rows of a report are computed in the background. Each wish for that has a **generation**, counted per
report, and the status tells how far the latest one came. A run that fails leaves the rows of the run
before it in place, and so the status keeps their number and time.
-/

namespace Rollup

/-- **How far a materialization came.** -/
inductive MaterializationState where
  /-- None was asked for. -/
  | pending
  /-- It was asked for. -/
  | scheduled
  /-- It runs. -/
  | running
  /-- Its rows are published. -/
  | published
  /-- There was nothing to publish. -/
  | skipped
  /-- A newer one took its place. -/
  | superseded
  /-- It failed. -/
  | failed
  deriving DecidableEq, Repr

namespace MaterializationState

/-- The name of a state. -/
def name : MaterializationState → String
  | .pending => "pending"
  | .scheduled => "scheduled"
  | .running => "running"
  | .published => "published"
  | .skipped => "skipped"
  | .superseded => "superseded"
  | .failed => "failed"

/-- All states. -/
def all : List MaterializationState :=
  [.pending, .scheduled, .running, .published, .skipped, .superseded, .failed]

/-- The state of a name. -/
def ofName? (name : String) : Option MaterializationState :=
  all.find? fun s => s.name == name

/-- Whether the materialization is over. -/
def isTerminal : MaterializationState → Bool
  | .published | .skipped | .superseded | .failed => true
  | _ => false

/-- A state as JSON. -/
def toJson (s : MaterializationState) : Json := .string s.name

/-- Reads a state. -/
def decode? (j : Json) : Option MaterializationState := (Decode.name j).bind ofName?

end MaterializationState

/-- **Where the materialization of a report stands.** -/
structure MaterializationStatus where
  /-- How far it came. -/
  state : MaterializationState := .pending
  /-- The generation this is about. -/
  generation : UInt64 := 0
  /-- When rows were last published. -/
  lastMaterializedAt : Option Instant := none
  /-- The message of the failure. -/
  lastError : Option String := none
  /-- How many rows were last published. -/
  rows : UInt64 := 0
  deriving DecidableEq

namespace MaterializationStatus

/-- A generation was asked for. -/
def schedule (generation : UInt64) (s : MaterializationStatus) : MaterializationStatus :=
  { s with state := .scheduled, generation }

/-- **The status after publishing.** -/
def published (generation rows : UInt64) (time : Instant) : MaterializationStatus where
  state := .published
  generation := generation
  lastMaterializedAt := some time
  rows := rows

/-- **The status after a failure**: the rows published before are still there. -/
def fail (generation : UInt64) (reason : String) (s : MaterializationStatus) :
    MaterializationStatus :=
  { s with state := .failed, generation, lastError := some reason }

/-- A generation came to a state. -/
def reach (state : MaterializationState) (generation : UInt64) (s : MaterializationStatus) :
    MaterializationStatus :=
  { s with state, generation }

/-- The members in declared order. -/
def declared : List String :=
  ["state", "generation", "last_materialized_at", "last_error", "rows"]

/-- Reads a status. -/
def decode? (j : Json) : Option MaterializationStatus := do
  let m ← Decode.members? declared j
  return {
    state := ← Decode.defaulted "state" .pending MaterializationState.decode? m
    generation := ← Decode.defaulted "generation" 0 Decode.word m
    lastMaterializedAt := ← Decode.optional "last_materialized_at" Decode.instant m
    lastError := ← Decode.optional "last_error" Decode.text m
    rows := ← Decode.defaulted "rows" 0 Decode.word m }

/-- A status as JSON. -/
def toJson (s : MaterializationStatus) : Json :=
  .object [("generation", .ofWord s.generation), ("last_error", .ofString? s.lastError),
    ("last_materialized_at", (s.lastMaterializedAt.map Instant.toJson).getD .null),
    ("rows", .ofWord s.rows), ("state", s.state.toJson)]

end MaterializationStatus

end Rollup
