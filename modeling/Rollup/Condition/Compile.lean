import Rollup.Condition.Interval

/-!
# Compiling conditions

Conditions become one predicate. A field is found by name when it is a static column, below `items` when
it is dynamic, and below `relations` when it belongs to a related datastore and the documents are joined
source records; in published rows related fields stand below `items` as well.

**Lenient** compilation leaves out the conditions it cannot make sense of, counts them, and takes an
operator that the type does not support for equality. **Strict** compilation refuses both.
-/

namespace Rollup

/-- How conditions that make no sense are taken. -/
inductive Strictness where
  /-- They are left out. -/
  | lenient
  /-- They are refused. -/
  | strict
  deriving DecidableEq, Repr

/-- Which documents a predicate is for. -/
inductive CompileTarget where
  /-- Source records with their relations joined. -/
  | source
  /-- Rows of a published report. -/
  | rows
  deriving DecidableEq, Repr

/-- What the meaning of conditions depends on beside them. -/
structure CompileContext where
  /-- Which documents the predicate is for. -/
  target : CompileTarget
  /-- The instant that `now` means. -/
  now : Instant
  /-- The processing period of the tenant, such as `2024-05`. -/
  period : Option String := none
  /-- How conditions that make no sense are taken. -/
  strictness : Strictness := .lenient

/-- Why a condition does not compile. -/
inductive CompileError where
  /-- Fields of the type are not filtered. -/
  | unsupportedFieldType (fieldId : String) (fieldType : DataType)
  /-- The type does not support the operator. -/
  | unsupportedOperator (fieldId : String) (fieldType : DataType) (operator : String)
  /-- The search value is none of the type. -/
  | invalidValue (fieldId : String) (fieldType : DataType) (value : String)
  /-- Conditions are not combined this way. -/
  | unknownCombinator (text : String)
  deriving DecidableEq

/-- The message of a compile error. -/
def CompileError.message : CompileError → String
  | .unsupportedFieldType fieldId fieldType =>
    s!"Field type {fieldType.name} is not filterable (field {fieldId})"
  | .unsupportedOperator fieldId fieldType operator =>
    s!"Operator '{operator}' is not valid for {fieldType.name} field {fieldId}"
  | .invalidValue fieldId fieldType value =>
    s!"Search value '{value}' is not valid for {fieldType.name} field {fieldId}"
  | .unknownCombinator text => s!"Unknown condition combinator: {text}"

/-- **The meaning of a list of conditions.** -/
structure CompiledFilter where
  /-- The predicate. -/
  predicate : Predicate
  /-- The paths worth an index, the most important first. -/
  indexKeys : List String
  /-- Whether a condition is about a related datastore. -/
  touchesRelations : Bool
  /-- How many conditions were left out. -/
  skipped : Nat

/-- The path of the access groups of a document. -/
def ownersPath : String := "owners"

namespace Condition

/-- Where the field of a condition stands. -/
def path (target : CompileTarget) (c : Condition) : String :=
  if c.isDynamic then
    match target, c.relation? with
    | .source, some (relation, field) => "relations." ++ relation ++ "." ++ field ++ ".value"
    | _, _ => "items." ++ c.fieldId ++ ".value"
  else c.fieldId

/-- The search value makes no sense. -/
def invalid (c : Condition) : CompileError :=
  .invalidValue c.fieldId c.fieldType c.searchValue

/-- The field type is not filtered. -/
def unsupported (c : Condition) : CompileError :=
  .unsupportedFieldType c.fieldId c.fieldType

/-- A value that must make sense. -/
def sensible {α : Type} (c : Condition) : Option α → Except CompileError α
  | some a => .ok a
  | none => .error c.invalid

/-- **The operator of a condition** whose type supports the allowed ones. -/
def operatorAmong (strictness : Strictness) (c : Condition) (allowed : List Operator) :
    Except CompileError Operator :=
  match c.operator?.filter allowed.contains, strictness with
  | some op, _ => .ok op
  | none, .lenient => .ok .eq
  | none, .strict => .error (.unsupportedOperator c.fieldId c.fieldType c.operatorText)

/-- The comparison of an operator. -/
def comparisonOf : Operator → Comparison
  | .ne => .ne
  | .gt => .gt
  | .ge => .ge
  | .lt => .lt
  | .le => .le
  | _ => .eq

/-- The trimmed bounds of a range, `~` standing between them. -/
def rangeBounds? (c : Condition) : Option (String × String) :=
  (Text.splitFirst? '~' c.searchValue).map fun (low, high) => (Text.trim low, Text.trim high)

/-- The listed values, trimmed, empty ones included. -/
def listedValues (c : Condition) : List String :=
  (Text.split ',' c.searchValue).map Text.trim

/-- The range between two operands. -/
def between (path : String) (low high : Operand) : Predicate :=
  .allOf [.compare path .ge low, .compare path .lt high]

/-- A condition on a text. -/
def compileText (strictness : Strictness) (c : Condition) (path : String) :
    Except CompileError Predicate := do
  match ← c.operatorAmong strictness [.eq, .ne, .like] with
  | .like => return .contains path c.searchValue
  | .ne => return .compare path .ne (.text c.searchValue)
  | _ => return .compare path .eq (.text c.searchValue)

/-- A condition on a truth value. -/
def compileSwitch (strictness : Strictness) (c : Condition) (path : String) :
    Except CompileError Predicate := do
  let _ ← c.operatorAmong strictness [.eq]
  let word := Text.trim c.searchValue
  if word = "true" then return .compare path .eq (.bool true)
  else if word = "false" then return .compare path .eq (.bool false)
  else throw c.invalid

/-- A condition on an enumerated value. Static columns that hold lists are compared as a whole. -/
def compileMembership (strictness : Strictness) (c : Condition) (path : String) :
    Except CompileError Predicate := do
  match ← c.operatorAmong strictness [.eq, .ne, .among] with
  | .among => return .among path c.listedValues
  | .ne => return .compare path .ne (.text c.searchValue)
  | _ =>
    if c.isDynamic then return .compare path .eq (.text c.searchValue)
    else return .compare path .eq (.list c.listedValues)

/-- The operators of ordered types. -/
def orderedOperators : List Operator := [.eq, .ne, .gt, .ge, .lt, .le, .range]

/-- A condition on an ordered type whose operands `operand?` reads. -/
def compileOrdered (strictness : Strictness) (c : Condition) (path : String)
    (operand? : String → Option Operand) : Except CompileError Predicate := do
  match ← c.operatorAmong strictness orderedOperators with
  | .range =>
    let (low, high) ← c.sensible c.rangeBounds?
    return between path (← c.sensible (operand? low)) (← c.sensible (operand? high))
  | op =>
    let operand ← c.sensible (operand? (Text.trim c.searchValue))
    return .compare path (comparisonOf op) operand

/-- The day on which a typed date falls. -/
def typedDay? (text : String) : Option DateInterval :=
  (Instant.parse? text).bind DateInterval.ofInstant?

/-- The interval that a date operand means: today for `now`, the first day of the year 1 for an empty
one, the day of any other date. -/
def dayOf? (now : Instant) (text : String) : Option DateInterval :=
  if text = "now" then DateInterval.ofInstant? now
  else if text = "" then DateInterval.ofDay? (Date.dayNumber ⟨1, 1, 1⟩)
  else typedDay? text

/-- **A condition on a date.** Without a usable processing period a condition on it says nothing. -/
def compileDate (ctx : CompileContext) (c : Condition) (path : String) :
    Except CompileError (Option Predicate) := do
  match ← c.operatorAmong ctx.strictness orderedOperators with
  | .range =>
    let (low, high) ← c.sensible c.rangeBounds?
    let low ← c.sensible (typedDay? low)
    let high ← c.sensible (typedDay? high)
    return some (between path (.instant low.start) (.instant high.start))
  | op =>
    let text := Text.trim c.searchValue
    if text = "handleMonth" then
      return (ctx.period.bind DateInterval.ofMonth?).bind fun month => month.predicate? path op
    else
      let day ← c.sensible (dayOf? ctx.now text)
      return day.predicate? path op

/-- A condition on a dynamic field. -/
def compileDynamic (ctx : CompileContext) (c : Condition) (path : String) :
    Except CompileError (Option Predicate) :=
  match c.fieldType with
  | .text | .textarea | .autonum | .lookup => some <$> c.compileText ctx.strictness path
  | .switch => some <$> c.compileSwitch ctx.strictness path
  | .file => .ok (some (.filled path (Text.trim c.searchValue == "true")))
  | .options | .user => some <$> c.compileMembership ctx.strictness path
  | .number =>
    some <$> c.compileOrdered ctx.strictness path fun text => (parseFloat? text).map .number
  | .time => some <$> c.compileOrdered ctx.strictness path fun text => some (.text text)
  | .date | .datetime => c.compileDate ctx path
  | .function | .type | .check | .unknown => .error c.unsupported

/-- A condition on a static column. -/
def compileStatic (ctx : CompileContext) (c : Condition) (path : String) :
    Except CompileError (Option Predicate) :=
  match c.fieldType with
  | .options | .type | .user => some <$> c.compileMembership ctx.strictness path
  | .check => do
    let _ ← c.operatorAmong ctx.strictness [.eq]
    return some (.compare path .eq (.text c.searchValue))
  | .date | .datetime => c.compileDate ctx path
  | _ => .error c.unsupported

/-- **The predicate of one condition**, which may say nothing. -/
def compile (ctx : CompileContext) (c : Condition) : Except CompileError (Option Predicate) :=
  let path := c.path ctx.target
  if c.isDynamic then c.compileDynamic ctx path else c.compileStatic ctx path

/-- The predicates of the conditions that say something, and how many were left out. -/
def compileEach (ctx : CompileContext) :
    List Condition → Except CompileError (List Predicate × Nat)
  | [] => .ok ([], 0)
  | c :: rest =>
    match c.compile ctx, ctx.strictness with
    | .ok part, _ => do
      let (parts, skipped) ← compileEach ctx rest
      return (part.toList ++ parts, skipped)
    | .error _, .lenient => do
      let (parts, skipped) ← compileEach ctx rest
      return (parts, skipped + 1)
    | .error e, .strict => .error e

end Condition

namespace CompiledFilter

/-- The combinator that a text means. -/
def combinatorOf (strictness : Strictness) (text : String) : Except CompileError Combinator :=
  match strictness with
  | .lenient => .ok (Combinator.lenient text)
  | .strict =>
    match Combinator.strict? text with
    | some c => .ok c
    | none => .error (.unknownCombinator text)

/-- **The meaning of the conditions of a report.** -/
def ofConditions (ctx : CompileContext) (conditions : List Condition) (combinator : String) :
    Except CompileError CompiledFilter := do
  let combinator ← combinatorOf ctx.strictness combinator
  let (parts, skipped) ← Condition.compileEach ctx conditions
  let predicate := match combinator with
    | .all => Predicate.allOf parts
    | .any => Predicate.anyOf parts
  return {
    predicate
    indexKeys := predicate.paths
    touchesRelations := conditions.any fun c => c.relation?.isSome
    skipped }

/-- **The meaning of the conditions of a query**, for a caller who belongs to some access groups: only
rows that name one of the groups match. The access groups always lead the index keys. -/
def ofQuery (ctx : CompileContext) (conditions : List Condition) (combinator : String)
    (owners : List String) : Except CompileError CompiledFilter := do
  let compiled ← ofConditions ctx conditions combinator
  return { compiled with
    predicate := .allOf [.among ownersPath owners, compiled.predicate]
    indexKeys := ownersPath :: compiled.indexKeys.filter fun key => key ≠ ownersPath }

end CompiledFilter

end Rollup
