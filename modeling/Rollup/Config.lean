import Rollup.Condition.Compile
import Rollup.Json.Reader

/-!
# Configuration

Settings come as JSON, every member optional. Limits and timeouts must not be zero; the first one that is
decides the error. Level and format of logging are carried along: the level is checked where logging
starts.
-/

namespace Rollup

/-- Why there is no configuration. -/
inductive ConfigError where
  /-- The file cannot be read. -/
  | read (path : String)
  /-- The text is no configuration. -/
  | parse
  /-- A value is out of range. -/
  | invalid (reason : String)
  deriving DecidableEq

/-- The message of a configuration error. -/
def ConfigError.message : ConfigError → String
  | .read path => s!"Failed to read config {path}: <reason>"
  | .parse => "Invalid config JSON: <reason>"
  | .invalid reason => s!"Invalid config value: {reason}"

/-- How log lines are written. -/
inductive LogFormat where
  /-- One JSON object a line. -/
  | json
  /-- For reading. -/
  | pretty
  deriving DecidableEq, Repr

/-- The name of a log format. -/
def LogFormat.name : LogFormat → String
  | .json => "json"
  | .pretty => "pretty"

/-- The log format of a name. -/
def LogFormat.ofName? (name : String) : Option LogFormat :=
  if name = "json" then some .json else if name = "pretty" then some .pretty else none

/-- **The settings of the engine.** -/
structure Config where
  /-- How many indexes a collection of rows may hold. -/
  indexBudget : UInt64 := 52
  /-- Key lists of this many keys or more get no index. -/
  maxIndexKeys : UInt64 := 31
  /-- Seconds a query may take. -/
  queryTimeout : UInt64 := 30
  /-- Seconds a download may take. -/
  downloadTimeout : UInt64 := 1800
  /-- Seconds a materialization may take. -/
  materializeTimeout : UInt64 := 600
  /-- Seconds the maintenance of an index may take. -/
  indexTimeout : UInt64 := 60
  /-- Rows per batch of a download. -/
  downloadBatchSize : UInt64 := 100
  /-- How many reports are materialized at a time. -/
  materializeWorkers : UInt64 := 4
  /-- Whether conditions that make no sense are refused. -/
  strictConditions : Bool := false
  /-- What is logged. -/
  logLevel : String := "info"
  /-- How it is written. -/
  logFormat : LogFormat := .json
  deriving DecidableEq

namespace Config

/-- The members in declared order. -/
def declared : List String :=
  ["index_budget", "max_index_keys", "query_timeout_secs", "download_timeout_secs",
    "materialize_timeout_secs", "index_timeout_secs", "download_batch_size", "materialize_workers",
    "strict_conditions", "log"]

/-- The members of the log settings in declared order. -/
def declaredLog : List String := ["level", "format"]

/-- Reads the log settings. -/
def decodeLog? (j : Json) : Option (String × LogFormat) := do
  let m ← Decode.members? declaredLog j
  let level ← Decode.defaulted "level" "info" Decode.text m
  let format ← Decode.defaulted "format" .json (fun j => (Decode.name j).bind LogFormat.ofName?) m
  return (level, format)

/-- Reads settings, without a look at their values. -/
def decode? (j : Json) : Option Config := do
  let m ← Decode.members? declared j
  let (logLevel, logFormat) ← Decode.defaulted "log" ("info", .json) decodeLog? m
  return {
    indexBudget := ← Decode.defaulted "index_budget" 52 Decode.word m
    maxIndexKeys := ← Decode.defaulted "max_index_keys" 31 Decode.word m
    queryTimeout := ← Decode.defaulted "query_timeout_secs" 30 Decode.word m
    downloadTimeout := ← Decode.defaulted "download_timeout_secs" 1800 Decode.word m
    materializeTimeout := ← Decode.defaulted "materialize_timeout_secs" 600 Decode.word m
    indexTimeout := ← Decode.defaulted "index_timeout_secs" 60 Decode.word m
    downloadBatchSize := ← Decode.defaulted "download_batch_size" 100 Decode.word m
    materializeWorkers := ← Decode.defaulted "materialize_workers" 4 Decode.word m
    strictConditions := ← Decode.defaulted "strict_conditions" false Decode.flag m
    logLevel
    logFormat }

/-- The settings that must not be zero, in the order in which they are looked at. -/
def positives (c : Config) : List (String × UInt64) :=
  [("index_budget", c.indexBudget), ("max_index_keys", c.maxIndexKeys),
    ("download_batch_size", c.downloadBatchSize), ("materialize_workers", c.materializeWorkers),
    ("query_timeout_secs", c.queryTimeout), ("download_timeout_secs", c.downloadTimeout),
    ("materialize_timeout_secs", c.materializeTimeout), ("index_timeout_secs", c.indexTimeout)]

/-- **Refuses settings with a zero where there must be none.** -/
def validate (c : Config) : Except ConfigError Unit :=
  match c.positives.find? fun (_, value) => value == 0 with
  | some (name, _) => .error (.invalid s!"{name} must be > 0")
  | none => .ok ()

/-- **Reads the text of a configuration.** -/
def parse (text : String) : Except ConfigError Config := do
  match (Json.readAs? (.ofDeclared declared [("log", .ofDeclared declaredLog)]) text).bind decode? with
  | none => throw .parse
  | some c =>
    c.validate
    return c

/-- How conditions that make no sense are taken. -/
def strictness (c : Config) : Strictness :=
  if c.strictConditions then .strict else .lenient

/-- The settings as JSON. -/
def toJson (c : Config) : Json :=
  .ofMembers [("index_budget", .ofWord c.indexBudget), ("max_index_keys", .ofWord c.maxIndexKeys),
    ("query_timeout_secs", .ofWord c.queryTimeout), ("download_timeout_secs", .ofWord c.downloadTimeout),
    ("materialize_timeout_secs", .ofWord c.materializeTimeout),
    ("index_timeout_secs", .ofWord c.indexTimeout),
    ("download_batch_size", .ofWord c.downloadBatchSize),
    ("materialize_workers", .ofWord c.materializeWorkers),
    ("strict_conditions", .bool c.strictConditions),
    ("log", .ofMembers [("level", .string c.logLevel), ("format", .string c.logFormat.name)])]

end Config

end Rollup
