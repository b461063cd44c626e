import Rollup.Json.Reader
import Rollup.Json.Printer
import Rollup.Text.Blank

/-!
# Formulas

A function field is computed by a formula, an expression written in JSON. A text that starts with `$`
reads the document at the path behind it; an object with a single member whose name starts with `$`
applies an operation; everything else stands for itself, lists and objects part by part.

`Formula.ofJson` reads an expression and refuses unknown operations and operations with too few or too
many operands anywhere in it, also where evaluation would never come. What `$literal` is given is not
read at all.
-/

namespace Rollup

namespace Formula

/-- **An operation of formulas.** -/
inductive Operation where
  | add | subtract | multiply | divide | concat | ifNull | toString | round | abs | cond
  | eq | ne | gt | ge | lt | le | and | or | not | max | min
  deriving DecidableEq, Repr

namespace Operation

/-- The name of an operation in formulas. -/
def name : Operation → String
  | .add => "$add"
  | .subtract => "$subtract"
  | .multiply => "$multiply"
  | .divide => "$divide"
  | .concat => "$concat"
  | .ifNull => "$ifNull"
  | .toString => "$toString"
  | .round => "$round"
  | .abs => "$abs"
  | .cond => "$cond"
  | .eq => "$eq"
  | .ne => "$ne"
  | .gt => "$gt"
  | .ge => "$gte"
  | .lt => "$lt"
  | .le => "$lte"
  | .and => "$and"
  | .or => "$or"
  | .not => "$not"
  | .max => "$max"
  | .min => "$min"

/-- All operations. -/
def all : List Operation :=
  [.add, .subtract, .multiply, .divide, .concat, .ifNull, .toString, .round, .abs, .cond, .eq, .ne,
    .gt, .ge, .lt, .le, .and, .or, .not, .max, .min]

/-- The operation of a name. -/
def ofName? (name : String) : Option Operation :=
  all.find? fun op => op.name == name

/-- How many operands an operation takes: at least the first number, and at most the second if there
is one. -/
def arity : Operation → Nat × Option Nat
  | .subtract | .divide | .ifNull | .eq | .ne | .gt | .ge | .lt | .le => (2, some 2)
  | .cond => (3, some 3)
  | .round => (1, some 2)
  | .toString | .abs | .not => (1, some 1)
  | .add | .multiply | .concat | .and | .or | .max | .min => (0, none)

/-- The number of operands in words. -/
def arityText (op : Operation) : String :=
  match op.arity with
  | (_, none) => "any number of"
  | (least, some most) => if least = most then s!"{least}" else s!"{least} or {most}"

/-- Whether an operation takes a number of operands. -/
def takes (op : Operation) (count : Nat) : Bool :=
  op.arity.1 ≤ count && op.arity.2.all fun most => count ≤ most

end Operation

/-- **What goes wrong with a formula**, when it is read or when it is evaluated. -/
inductive Error where
  /-- The text is no JSON. -/
  | invalidJson
  /-- There is no such operation. -/
  | unknownOperator (name : String)
  /-- The operation does not take so many operands. -/
  | arity (op : Operation) (found : Nat)
  /-- An operand is of the wrong kind. -/
  | typeMismatch (op : Operation) (found : Json)
  /-- The divisor is zero. -/
  | divisionByZero

/-- The message of a formula error. The place of a syntax error is not told. -/
def Error.message : Error → String
  | .invalidJson => "Formula is not valid JSON: <reason>"
  | .unknownOperator name => s!"Unknown formula operator: {name}"
  | .arity op found => s!"{op.name} expects {op.arityText} arguments, got {found}"
  | .typeMismatch op found => s!"{op.name} cannot take {found.compact}"
  | .divisionByZero => "Division by zero"

/-- **An expression.** -/
inductive Expr where
  /-- Stands for a value. -/
  | literal (value : Json)
  /-- Reads the document at a path. -/
  | field (path : String)
  /-- A list, evaluated item by item. -/
  | list (items : List Expr)
  /-- An object, evaluated member by member. -/
  | record (members : List (String × Expr))
  /-- Applies an operation. -/
  | call (op : Operation) (operands : List Expr)

/-! ## Reading -/

/-- The results in order, or the first error. -/
def allOrError {α : Type} : List (Except Error α) → Except Error (List α)
  | [] => .ok []
  | .error e :: _ => .error e
  | .ok a :: rest => (allOrError rest).map (a :: ·)

/-- The members in order, or the first error. -/
def membersOrError {α : Type} : List (String × Except Error α) → Except Error (List (String × α))
  | [] => .ok []
  | (_, .error e) :: _ => .error e
  | (name, .ok a) :: rest => (membersOrError rest).map ((name, a) :: ·)

/-- The call of a named operation, given what its operands read as. The number of operands is looked at
before any of them. -/
def callOf (op? : Option Operation) (name : String) (operands : List (Except Error Expr)) :
    Except Error Expr :=
  match op? with
  | none => .error (.unknownOperator name)
  | some op =>
    if op.takes operands.length then (allOrError operands).map (.call op)
    else .error (.arity op operands.length)

/-- The expression of a text. -/
def ofText (s : String) : Expr :=
  match s.toList with
  | '$' :: path => .field (String.ofList path)
  | _ => .literal (.string s)

/-- The present members among those named, in the order of the names. -/
def pick {α : Type} (names : List String) (members : Keyed α) : List α :=
  names.filterMap fun name => Keyed.get? name members

/-- Whether operands are named, as those of `$cond` may be. -/
def isNamed (op? : Option Operation) (members : Keyed Json) : Bool :=
  op? == some .cond && Keyed.contains "if" members

mutual

/-- **Reads an expression.** The operands of a call are the items of a list, or a single operand; the
three operands of `$cond` may also be named. -/
def ofJson : Json → Except Error Expr
  | .string s => .ok (ofText s)
  | .array items => (allOrError (ofItems items)).map .list
  | .object [(name, operands)] =>
    if name.startsWith "$" then
      if name = "$literal" then .ok (.literal operands)
      else
        let op? := Operation.ofName? name
        match operands with
        | .array items => callOf op? name (ofItems items)
        | .object members =>
          if isNamed op? members then callOf op? name (pick ["if", "then", "else"] (ofMembers members))
          else callOf op? name [ofJson (.object members)]
        | j => callOf op? name [ofJson j]
    else (membersOrError [(name, ofJson operands)]).map .record
  | .object members => (membersOrError (ofMembers members)).map .record
  | j => .ok (.literal j)

/-- What each item reads as. -/
def ofItems : List Json → List (Except Error Expr)
  | [] => []
  | j :: rest => ofJson j :: ofItems rest

/-- What each member reads as. -/
def ofMembers : List (String × Json) → List (String × Except Error Expr)
  | [] => []
  | (name, j) :: rest => (name, ofJson j) :: ofMembers rest

end

/-- **Reads the text of a formula**; a blank text is the formula of `null`. -/
def parse (text : String) : Except Error Expr :=
  if (Text.trim text).isEmpty then .ok (.literal .null)
  else
    match Json.parse? text with
    | some j => ofJson j
    | none => .error .invalidJson

end Formula

end Rollup
