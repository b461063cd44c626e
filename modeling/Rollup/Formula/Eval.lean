import Rollup.Decimal.Rounding
import Rollup.Document.Path
import Rollup.Formula.Basic
import Rollup.Json.Order

/-!
# Evaluating formulas

A missing path reads as `null`, and arithmetic and text operations give `null` as soon as one operand is
`null`. Results of arithmetic are doubles, and one that is not finite is `null`. Sums start at the
negative zero, which adds nothing to any number, and products at one.

`$cond` and `$ifNull` evaluate only the operand they give; every other operation evaluates all of its
operands first, in order.
-/

namespace Rollup

namespace Formula

/-- Whether a value counts as true: everything but `null`, `false` and zero. -/
def isTruthy : Json → Bool
  | .null => false
  | .bool b => b
  | .number n => n.toFloat != 0
  | _ => true

/-- The number of an operand. -/
def numberOf (op : Operation) : Json → Except Error Float
  | .number n => .ok n.toFloat
  | j => .error (.typeMismatch op j)

/-- The numbers of the operands, or nothing when one is `null`. -/
def numbersOf? (op : Operation) (values : List Json) : Except Error (Option (List Float)) :=
  if values.any Json.isNull then .ok none else some <$> values.mapM (numberOf op)

/-- A calculation with the numbers of the operands; `null` when one is `null`. -/
def calculate (op : Operation) (values : List Json) (result : List Float → Except Error Float) :
    Except Error Json := do
  match ← numbersOf? op values with
  | none => return .null
  | some numbers => return .ofFloat (← result numbers)

/-- The text of an operand of `$concat`. -/
def concatPart : Json → Except Error String
  | .string s => .ok s
  | j => .error (.typeMismatch .concat j)

/-- The operands put together; `null` when one is `null`. -/
def concat (values : List Json) : Except Error Json :=
  if values.any Json.isNull then .ok .null
  else do return .string (String.join (← values.mapM concatPart))

/-- A number as text: a whole one below `10 ^ 15` without a point. -/
def numberText (n : Number) : String :=
  let f := n.toFloat
  let b := Binary.ofFloat f
  if b.isWhole && f.abs < 1e15 then toString b.truncate else n.text

/-- A value as text. -/
def textOf : Json → Except Error Json
  | .null => .ok .null
  | .string s => .ok (.string s)
  | .number n => .ok (.string (numberText n))
  | .bool b => .ok (.string (if b then "true" else "false"))
  | j => .error (.typeMismatch .toString j)

/-- Whether an order is one that a comparison asks for. -/
def compares : Operation → Ordering → Bool
  | .eq, o => o == .eq
  | .ne, o => o != .eq
  | .gt, o => o == .gt
  | .ge, o => o != .lt
  | .lt, o => o == .lt
  | .le, o => o != .gt
  | _, _ => false

/-- The candidates of an extremum: the operands, or the items of a single operand that is a list. -/
def candidates : List Json → List Json
  | [.array items] => items
  | values => values

/-- **The extremum of the candidates that are not `null`**, of equal ones the first; `null` without
one. -/
def extremum (wanted : Ordering) (values : List Json) : Json :=
  let best := ((candidates values).filter fun v => !v.isNull).foldl
    (fun best v => match best with
      | some b => if Json.order v b == wanted then some v else some b
      | none => some v) none
  best.getD .null

/-- The result of an operation that evaluates all of its operands. -/
def applyTo (op : Operation) (values : List Json) : Except Error Json :=
  match op, values with
  | .add, _ => calculate op values fun ns => .ok (ns.foldl (· + ·) (-0.0))
  | .multiply, _ => calculate op values fun ns => .ok (ns.foldl (· * ·) 1)
  | .subtract, _ => calculate op values fun
    | [a, b] => .ok (a - b)
    | ns => .error (.arity op ns.length)
  | .divide, _ => calculate op values fun
    | [a, b] => if b == 0 then .error .divisionByZero else .ok (a / b)
    | ns => .error (.arity op ns.length)
  | .abs, _ => calculate op values fun
    | [a] => .ok a.abs
    | ns => .error (.arity op ns.length)
  | .round, _ => calculate op values fun
    | [a] => .ok (roundToPlaces a 0)
    | [a, places] => .ok (roundToPlaces a places)
    | ns => .error (.arity op ns.length)
  | .concat, _ => concat values
  | .toString, [a] => textOf a
  | .not, [a] => .ok (.bool !(isTruthy a))
  | .and, _ => .ok (.bool (values.all isTruthy))
  | .or, _ => .ok (.bool (values.any isTruthy))
  | .max, _ => .ok (extremum .gt values)
  | .min, _ => .ok (extremum .lt values)
  | .eq, [a, b] | .ne, [a, b] | .gt, [a, b] | .ge, [a, b] | .lt, [a, b] | .le, [a, b] =>
    .ok (.bool (compares op (Json.order a b)))
  | _, _ => .error (.arity op values.length)

mutual

/-- **The value of an expression in a document.** -/
def eval (document : Json) : Expr → Except Error Json
  | .literal value => .ok value
  | .field path => .ok (Document.getOrNull path document)
  | .list items => (evalAll document items).map .array
  | .record members => (evalMembers document members).map .object
  | .call .cond [condition, yes, no] => do
    if isTruthy (← eval document condition) then eval document yes else eval document no
  | .call .ifNull [first, other] => do
    let value ← eval document first
    if value.isNull then eval document other else return value
  | .call op operands => do applyTo op (← evalAll document operands)

/-- The values of expressions, or the first error. -/
def evalAll (document : Json) : List Expr → Except Error (List Json)
  | [] => .ok []
  | e :: rest => do
    let value ← eval document e
    return value :: (← evalAll document rest)

/-- The values of members, or the first error. -/
def evalMembers (document : Json) :
    List (String × Expr) → Except Error (List (String × Json))
  | [] => .ok []
  | (name, e) :: rest => do
    let value ← eval document e
    return (name, value) :: (← evalMembers document rest)

end

end Formula

end Rollup
