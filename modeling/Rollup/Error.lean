import Rollup.Config
import Rollup.Formula.Basic
import Rollup.Store.Error

/-!
# Errors of the engine

Every operation fails with a report error: the fault of a part, and where it matters what the engine was
doing. Each has a stable code, by which callers answer, and a message. Errors of the caller – a faulty
definition, a report that is not there, a condition that does not compile – are told apart from failures
of the engine.
-/

namespace Rollup

/-- **Why an operation of the engine fails.** -/
inductive ReportError where
  /-- The caller's input breaks a rule. -/
  | validation (reason : String)
  /-- What the caller names does not exist. -/
  | notFound (entity id : String)
  /-- The store failed during an operation. -/
  | store (operation : String) (cause : StoreError)
  /-- A condition does not compile. -/
  | compile (cause : CompileError)
  /-- The formula of a field failed. -/
  | formula (fieldId : String) (cause : Formula.Error)
  /-- An operation took longer than it may, in seconds. -/
  | timeout (operation : String) (seconds : Nat)
  /-- Nothing runs materializations any more. -/
  | queueClosed
  /-- The configuration is faulty. -/
  | config (cause : ConfigError)

namespace ReportError

/-- **The stable code of an error.** -/
def code : ReportError → String
  | .validation _ => "REPORT_VALIDATION"
  | .notFound .. => "REPORT_NOT_FOUND"
  | .store .. => "REPORT_STORE_ERROR"
  | .compile _ => "REPORT_COMPILE_ERROR"
  | .formula .. => "REPORT_FORMULA_ERROR"
  | .timeout .. => "REPORT_TIMEOUT"
  | .queueClosed => "REPORT_QUEUE_CLOSED"
  | .config _ => "REPORT_CONFIG_ERROR"

/-- The message of an error. -/
def message : ReportError → String
  | .validation reason => s!"Validation failed: {reason}"
  | .notFound entity id => s!"{entity} not found: {id}"
  | .store operation cause => s!"Store error during {operation}: {cause.message}"
  | .compile cause => cause.message
  | .formula fieldId cause => s!"Formula of field {fieldId} failed: {cause.message}"
  | .timeout operation seconds => s!"{operation} timed out after {seconds}s"
  | .queueClosed => "Materialization queue is closed"
  | .config cause => cause.message

/-- Whether the caller is at fault, and not the engine or the store. -/
def isClientError : ReportError → Bool
  | .validation _ | .notFound .. | .compile _ => true
  | _ => false

end ReportError

end Rollup
