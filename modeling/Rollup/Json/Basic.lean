import Rollup.Keyed
import Rollup.Decimal.Power

/-!
# JSON values

Documents, report definitions and settings are JSON values. A number keeps its kind: a literal
without point and exponent that fits sixty-four bits, signed or unsigned, is a whole number, and
every other one is a finite double. The two kinds differ even where the numbers agree: `5` is not
`5.0`, though both convert to the same double.

An object is the list of its members in key order (`Keyed`), so that two objects with the same
members are the same value.
-/

namespace Rollup

/-- **A JSON number**: a whole number of sixty-four bits, or a finite double. -/
inductive Number where
  /-- A whole number that fits a signed or an unsigned word. -/
  | int (value : Int) (fits : -2 ^ 63 ≤ value ∧ value < 2 ^ 64)
  /-- A double, neither infinite nor undefined. -/
  | float (value : Float) (finite : value.isFinite = true)
  deriving DecidableEq

namespace Number

/-- The whole number of an unsigned word. -/
def ofWord (n : UInt64) : Number :=
  .int n.toNat ⟨by omega, by have := n.toNat_lt; omega⟩

/-- The whole number of a signed word. -/
def ofSigned (n : Int64) : Number :=
  .int n.toInt ⟨n.le_toInt, by have := n.toInt_lt; omega⟩

/-- **The double a number converts to**, the nearest one for whole numbers beyond `2 ^ 53`. -/
def toFloat : Number → Float
  | .int n _ => if 0 ≤ n then n.toNat.toUInt64.toFloat else -((-n).toNat.toUInt64.toFloat)
  | .float f _ => f

/-- The number as an unsigned word; doubles are none, even whole ones. -/
def toWord? : Number → Option UInt64
  | .int n _ => if 0 ≤ n then some (UInt64.ofNat n.toNat) else none
  | .float _ _ => none

/-- The number as a signed word; doubles are none, even whole ones. -/
def toSigned? : Number → Option Int64
  | .int n _ => if n < 2 ^ 63 then some (Int64.ofInt n) else none
  | .float _ _ => none

/-- Whether two numbers are the same: of one kind and equal, the two zeros of the doubles being
equal. -/
def same : Number → Number → Bool
  | .int m _, .int n _ => m == n
  | .float f _, .float g _ => f == g
  | _, _ => false

end Number

/-- **A JSON value.** -/
inductive Json where
  /-- The value `null`. -/
  | null
  /-- A truth value. -/
  | bool (value : Bool)
  /-- A number. -/
  | number (value : Number)
  /-- A text. -/
  | string (value : String)
  /-- A list of values. -/
  | array (items : List Json)
  /-- The members of an object in key order. -/
  | object (members : List (String × Json))

namespace Json

instance : Inhabited Json := ⟨.null⟩

/-- The number of an unsigned word. -/
def ofWord (n : UInt64) : Json := .number (.ofWord n)

/-- The number of a signed word. -/
def ofSigned (n : Int64) : Json := .number (.ofSigned n)

/-- The number of a count, as an unsigned word. -/
def ofCount (n : Nat) : Json := .ofWord (UInt64.ofNat n)

/-- **The number of a double**; a double that is not finite has none and becomes `null`. -/
def ofFloat (f : Float) : Json :=
  if h : f.isFinite = true then .number (.float f h) else .null

/-- A list of texts. -/
def ofStrings (texts : List String) : Json := .array (texts.map .string)

/-- A text, or `null` for none. -/
def ofString? : Option String → Json
  | some s => .string s
  | none => .null

/-- An object of the given members, which may come in any order. -/
def ofMembers (members : List (String × Json)) : Json := .object (Keyed.ofPairs members)

/-- The text of a value that is one. -/
def asString? : Json → Option String
  | .string s => some s
  | _ => none

/-- The number of a value that is one, as a double. -/
def asFloat? : Json → Option Float
  | .number n => some n.toFloat
  | _ => none

/-- The items of a value that is a list. -/
def asArray? : Json → Option (List Json)
  | .array items => some items
  | _ => none

/-- The members of a value that is an object. -/
def asObject? : Json → Option (Keyed Json)
  | .object members => some members
  | _ => none

/-- A member of a value that is an object. -/
def member? (key : String) : Json → Option Json
  | .object members => Keyed.get? key members
  | _ => none

/-- The members of an object, and none for every other value. -/
def members : Json → Keyed Json
  | .object members => members
  | _ => []

/-- Whether the value is `null`. -/
def isNull : Json → Bool
  | .null => true
  | _ => false

/-! ## Sameness -/

mutual

/-- **Whether two values are the same**: of the same shape, with the same numbers (`Number.same`) and
texts at every place. -/
def same : Json → Json → Bool
  | .null, .null => true
  | .bool a, .bool b => a == b
  | .number a, .number b => a.same b
  | .string a, .string b => a == b
  | .array a, .array b => sameItems a b
  | .object a, .object b => sameMembers a b
  | _, _ => false

/-- Whether two lists are the same item by item. -/
def sameItems : List Json → List Json → Bool
  | [], [] => true
  | a :: as, b :: bs => same a b && sameItems as bs
  | _, _ => false

/-- Whether two member lists are the same member by member. -/
def sameMembers : List (String × Json) → List (String × Json) → Bool
  | [], [] => true
  | (k, a) :: as, (l, b) :: bs => k == l && same a b && sameMembers as bs
  | _, _ => false

end

end Json

end Rollup
