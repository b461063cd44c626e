/-!
# Events

What happens in the engine has names, under which it is logged. An event is a failure when someone's wish
was not fulfilled.
-/

namespace Rollup

/-- **Something that happens in the engine.** -/
inductive Event where
  /-- The configuration was read. -/
  | configLoaded
  /-- The rows of a report were asked for. -/
  | materializeScheduled
  /-- Their computation began. -/
  | materializeStart
  /-- They were published. -/
  | materializePublished
  /-- They were thrown away, since they were asked for again. -/
  | materializeSuperseded
  /-- There were none to publish. -/
  | materializeSkipped
  /-- Their computation failed. -/
  | materializeFailed
  /-- A query was answered. -/
  | queryExecuted
  /-- A query was refused. -/
  | queryRejected
  /-- A download began. -/
  | downloadStarted
  /-- A download broke off. -/
  | downloadFailed
  /-- An index was created. -/
  | indexCreated
  /-- An index was dropped to make room. -/
  | indexEvicted
  /-- The maintenance of an index failed. -/
  | indexFailed
  /-- A condition was left out. -/
  | conditionSkipped
  /-- A definition was stored. -/
  | reportSaved
  /-- A report was deleted. -/
  | reportDeleted
  deriving DecidableEq, Repr

namespace Event

/-- The name of an event. -/
def name : Event → String
  | .configLoaded => "CONFIG_LOADED"
  | .materializeScheduled => "MATERIALIZE_SCHEDULED"
  | .materializeStart => "MATERIALIZE_START"
  | .materializePublished => "MATERIALIZE_PUBLISHED"
  | .materializeSuperseded => "MATERIALIZE_SUPERSEDED"
  | .materializeSkipped => "MATERIALIZE_SKIPPED"
  | .materializeFailed => "MATERIALIZE_FAILED"
  | .queryExecuted => "QUERY_EXECUTED"
  | .queryRejected => "QUERY_REJECTED"
  | .downloadStarted => "DOWNLOAD_STARTED"
  | .downloadFailed => "DOWNLOAD_FAILED"
  | .indexCreated => "INDEX_CREATED"
  | .indexEvicted => "INDEX_EVICTED"
  | .indexFailed => "INDEX_FAILED"
  | .conditionSkipped => "CONDITION_SKIPPED"
  | .reportSaved => "REPORT_SAVED"
  | .reportDeleted => "REPORT_DELETED"

/-- All events. -/
def all : List Event :=
  [.configLoaded, .materializeScheduled, .materializeStart, .materializePublished,
    .materializeSuperseded, .materializeSkipped, .materializeFailed, .queryExecuted, .queryRejected,
    .downloadStarted, .downloadFailed, .indexCreated, .indexEvicted, .indexFailed, .conditionSkipped,
    .reportSaved, .reportDeleted]

/-- Whether someone's wish was not fulfilled. -/
def isFailure : Event → Bool
  | .materializeFailed | .queryRejected | .downloadFailed | .indexFailed => true
  | _ => false

end Event

end Rollup
