import Rollup.CommandLine.Arguments
import Rollup.CommandLine.Fixture
import Rollup.CommandLine.LogFilter
import Rollup.Service.Reports

/-!
# Running commands

Every command works on a fixture: it computes the rows of one report and then answers. Nothing is
answered when the rows cannot be computed.

Things that can go wrong are looked at in a fixed order: the configuration, the log level, the query on
standard input, the fixture, the rows, the answer. A download that breaks off has written the rows before
that.
-/

namespace Rollup

/-- **Why a command fails.** -/
inductive CommandError where
  /-- The configuration is faulty. -/
  | config (cause : ConfigError)
  /-- The log level makes no sense. -/
  | logLevel (level : String)
  /-- There is no query on standard input. -/
  | noQuery
  /-- What stands on standard input is no query. -/
  | malformedQuery
  /-- There is no fixture. -/
  | fixture (cause : FixtureError)
  /-- An operation failed. -/
  | operation (cause : ReportError)
  /-- The rows could not be computed. -/
  | materialization (reason : String)

namespace CommandError

/-- The code of an error. -/
def code : CommandError → String
  | .config _ | .logLevel _ => "REPORT_CLI_CONFIG_ERROR"
  | .noQuery | .malformedQuery => "REPORT_CLI_IO_ERROR"
  | .fixture _ => "REPORT_CLI_FIXTURE_ERROR"
  | .operation _ | .materialization _ => "REPORT_CLI_ENGINE_ERROR"

/-- What an error says behind its code. -/
def reason : CommandError → String
  | .config cause => cause.message
  | .logLevel level => s!"[REPORT_OBSERVABILITY_FAILED] invalid log level '{level}': <reason>"
  | .noQuery => "Empty input"
  | .malformedQuery => "JSON error: <reason>"
  | .fixture cause => cause.message
  | .operation cause => s!"[{cause.code}] {cause.message}"
  | .materialization reason => reason

/-- **The message of an error.** -/
def message (e : CommandError) : String := s!"{e.code}: {e.reason}"

end CommandError

/-- **What a command finds around it.** -/
structure Surroundings where
  /-- The text of a file, if it can be read. -/
  file : String → Option String
  /-- The first line on standard input. -/
  line : String
  /-- The time of day. -/
  time : Instant

/-- **What a command leaves**: lines on standard output, and perhaps an error. -/
structure CommandOutcome where
  /-- The lines written. -/
  lines : List Json
  /-- The error. -/
  error : Option CommandError := none

namespace CommandLine

/-- The name and the version of the program. -/
def version : String := "report-engine 0.1.0"

/-- The configuration of an invocation; without a file every setting has its default. -/
def configure (path : Option String) (around : Surroundings) : Except CommandError Config := do
  let config ← match path with
    | none => pure {}
    | some path =>
      match around.file path with
      | none => throw (.config (.read path))
      | some text => (Config.parse text).mapError .config
  if LogFilter.isValid config.logLevel then return config
  else throw (.logLevel config.logLevel)

/-- The query on a line of standard input. -/
def readQuery (line : String) : Except CommandError Query :=
  if (Text.trim line).isEmpty then .error .noQuery
  else
    match Query.parse? line with
    | some q => .ok q
    | none => .error .malformedQuery

/-- The service on a fixture. -/
def openService (fixture : String) (config : Config) (around : Surroundings) :
    Except CommandError Service := do
  let store ← (Fixture.load fixture (around.file fixture)).mapError .fixture
  return { tenant := { store, config, clock := around.time, today := around.time } }

/-- **An action of a command on the service.** -/
abbrev CommandAction (α : Type) : Type := ExceptT CommandError (StateM Service) α

/-- An operation of the service as part of a command. -/
def operate {α : Type} (operation : ServiceAction α) : CommandAction α :=
  ExceptT.mk fun s =>
    let (outcome, s) := operation.run s
    (outcome.mapError .operation, s)

/-- Computes the rows of a report, and fails where that fails. -/
def materialize (report : String) : CommandAction MaterializationStatus := do
  let status ← operate (Service.materialize report)
  if status.state = .failed then
    throw (.materialization (status.lastError.getD "materialization failed"))
  return status

/-- The line that tells that a command succeeded. -/
def success (data : Json) : CommandOutcome :=
  { lines := [.object [("data", data), ("status", .string "ok")]] }

/-- The rows of batches up to the first failure, and that failure. -/
def rowsOf : List (Except ReportError (List Json)) → CommandOutcome
  | [] => { lines := [] }
  | .ok rows :: rest =>
    let behind := rowsOf rest
    { behind with lines := rows ++ behind.lines }
  | .error e :: _ => { lines := [], error := some (.operation e) }

/-- The lines of a download: what is known of the columns, then the rows. -/
def downloadLines (d : Download) : CommandOutcome :=
  let rows := rowsOf d.batches
  { rows with lines := .object [("field_infos", FieldInfo.allToJson d.fieldInfos)] :: rows.lines }

/-- **Answers a command** on a service, given the query it has read. -/
def answer (command : Command) (q : Query) : CommandAction CommandOutcome := do
  match command with
  | .materialize _ report => return success (← materialize report).toJson
  | .query _ =>
    let _ ← materialize q.reportId
    return success (← operate (Service.query q)).toJson
  | .count _ report owners =>
    let _ ← materialize report
    return success (← operate (Service.count report owners)).toJson
  | .download _ =>
    let _ ← materialize q.reportId
    return downloadLines (← operate (Service.download q))

/-- Runs an invocation up to its outcome or the first error. -/
def attempt (i : Invocation) (around : Surroundings) : Except CommandError CommandOutcome := do
  let config ← configure i.config around
  let q ← if i.command.readsQuery then readQuery around.line else pure { reportId := "" }
  let service ← openService i.command.fixture config around
  (answer i.command q).run service |>.1

/-- **Runs an invocation.** -/
def run (i : Invocation) (around : Surroundings) : CommandOutcome :=
  match attempt i around with
  | .ok outcome => outcome
  | .error e => { lines := [], error := some e }

end CommandLine

end Rollup
