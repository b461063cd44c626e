import Rollup.Calendar.Format
import Rollup.Calendar.Reader
import Rollup.Document.Path
import Rollup.Json.Order
import Rollup.Json.Printer

/-!
# Predicates on documents

Compiled conditions are predicates, trees of comparisons at paths. They match the way a document store
matches:

- a missing or `null` field equals nothing and differs from everything;
- a list matches when one of its items does, and differs from a value when none equals it;
- comparisons are typed, and a value of another kind never compares.

`Predicate.allOf` and `Predicate.anyOf` combine predicates and leave out what says nothing: the
predicate `everything` has no part in a conjunction, and a disjunction that has it for a part, or no
parts, is `everything`.
-/

namespace Rollup

/-- **What a field is compared with.** -/
inductive Operand where
  /-- A text. -/
  | text (value : String)
  /-- A number. -/
  | number (value : Float)
  /-- A truth value. -/
  | bool (value : Bool)
  /-- An instant, compared with texts that spell one. -/
  | instant (value : Instant)
  /-- A list of texts, compared with a field as a whole. -/
  | list (values : List String)

/-- **A way of comparing.** -/
inductive Comparison where
  /-- Equal. -/
  | eq
  /-- Different. -/
  | ne
  /-- Greater. -/
  | gt
  /-- Greater or equal. -/
  | ge
  /-- Less. -/
  | lt
  /-- Less or equal. -/
  | le
  deriving DecidableEq, Repr

/-- **A predicate on documents.** -/
inductive Predicate where
  /-- Matches every document. -/
  | everything
  /-- Matches when all parts do. -/
  | and (parts : List Predicate)
  /-- Matches when a part does. -/
  | or (parts : List Predicate)
  /-- Compares the field at a path. -/
  | compare (path : String) (comparison : Comparison) (operand : Operand)
  /-- The field, or an item of it, is one of the values. -/
  | among (path : String) (values : List String)
  /-- The field, or an item of it, is a text that contains another. -/
  | contains (path : String) (part : String)
  /-- The field holds something, or, for `false`, holds nothing. -/
  | filled (path : String) (expected : Bool)

namespace Operand

/-- **The order of a stored value and an operand**; none where their kinds do not compare. -/
def order? : Json → Operand → Option Ordering
  | .string a, .text b => some (compare a b)
  | .number a, .number b => some (Number.orderFloats a.toFloat b)
  | .bool a, .bool b => some (compare a b)
  | .string a, .instant b => (Instant.parse? a).map fun t => t.order b
  | .array items, .list values =>
    if items.map Json.asString? = values.map some then some .eq else none
  | .string a, .list [b] => some (compare a b)
  | _, _ => none

end Operand

namespace Comparison

/-- Whether an order satisfies a comparison; values that do not compare are different. -/
def holds : Comparison → Option Ordering → Bool
  | .eq, o => o == some .eq
  | .ne, o => o != some .eq
  | .gt, o => o == some .gt
  | .ge, o => o == some .gt || o == some .eq
  | .lt, o => o == some .lt
  | .le, o => o == some .lt || o == some .eq

/-- Whether a value that is there and is not `null` compares as asked: a list as a whole with a list,
otherwise by its items. -/
def holdsValue (c : Comparison) (operand : Operand) : Json → Bool
  | .array items =>
    match operand with
    | .list _ =>
      match c with
      | .eq => Operand.order? (.array items) operand == some .eq
      | .ne => Operand.order? (.array items) operand != some .eq
      | _ => false
    | _ =>
      match c with
      | .ne => !items.any fun item => Operand.order? item operand == some .eq
      | c => items.any fun item => c.holds (Operand.order? item operand)
  | j => c.holds (Operand.order? j operand)

/-- **Whether a field compares as asked**; a missing or `null` one only differs. -/
def holdsField (c : Comparison) (operand : Operand) : Option Json → Bool
  | none => c == .ne
  | some .null => c == .ne
  | some j => c.holdsValue operand j

end Comparison

namespace Predicate

/-- Whether the predicate is the one that matches every document. -/
def isEverything : Predicate → Bool
  | .everything => true
  | _ => false

/-- **The conjunction of predicates**, parts that say nothing left out. -/
def allOf (parts : List Predicate) : Predicate :=
  match parts.filter fun p => !p.isEverything with
  | [] => .everything
  | [p] => p
  | parts => .and parts

/-- **The disjunction of predicates**; it says nothing when a part does or when there is no part. -/
def anyOf (parts : List Predicate) : Predicate :=
  if parts.any isEverything then .everything
  else match parts with
    | [] => .everything
    | [p] => p
    | parts => .or parts

/-! ## Paths -/

mutual

/-- The paths a predicate reads, as often as it reads them. -/
def reads : Predicate → List String
  | .everything => []
  | .and parts => readsAll parts
  | .or parts => readsAll parts
  | .compare path _ _ => [path]
  | .among path _ => [path]
  | .contains path _ => [path]
  | .filled path _ => [path]

/-- The paths that the parts read. -/
def readsAll : List Predicate → List String
  | [] => []
  | p :: rest => reads p ++ readsAll rest

end

mutual

/-- The paths whose field must equal something, as often as it must. -/
def fixes : Predicate → List String
  | .and parts => fixesAll parts
  | .compare path .eq _ => [path]
  | .among path _ => [path]
  | _ => []

/-- The paths that the parts fix. -/
def fixesAll : List Predicate → List String
  | [] => []
  | p :: rest => fixes p ++ fixesAll rest

end

/-- **The paths a predicate reads**, each once, in the order of their first reading. -/
def paths (p : Predicate) : List String := p.reads.eraseDups

/-- **The paths whose field must equal something**, each once; indexes are chosen by them. -/
def equalityPaths (p : Predicate) : List String := p.fixes.eraseDups

/-! ## Matching -/

/-- Whether a value is one of the texts, a number counting as its text. -/
def isAmong (values : List String) : Json → Bool
  | .string s => values.contains s
  | .number n => values.contains n.text
  | _ => false

/-- Whether a field or an item of it is one of the texts. -/
def fieldIsAmong (values : List String) : Option Json → Bool
  | some (.array items) => items.any (isAmong values)
  | some j => isAmong values j
  | none => false

/-- Whether a value is a text that contains another. -/
def hasPart (part : String) : Json → Bool
  | .string s => Text.contains part s
  | _ => false

/-- Whether a field or an item of it is a text that contains another. -/
def fieldHasPart (part : String) : Option Json → Bool
  | some (.array items) => items.any (hasPart part)
  | some j => hasPart part j
  | none => false

/-- Whether a field holds something. Empty lists, empty texts and the text `[]` hold nothing. -/
def isFilled : Option Json → Bool
  | none => false
  | some .null => false
  | some (.array items) => !items.isEmpty
  | some (.string s) => s ≠ "" && s ≠ "[]"
  | some _ => true

mutual

/-- **Whether a document matches a predicate.** -/
def holds (document : Json) : Predicate → Bool
  | .everything => true
  | .and parts => holdsAll document parts
  | .or parts => holdsAny document parts
  | .compare path comparison operand =>
    comparison.holdsField operand (Document.get? path document)
  | .among path values => fieldIsAmong values (Document.get? path document)
  | .contains path part => fieldHasPart part (Document.get? path document)
  | .filled path expected => isFilled (Document.get? path document) == expected

/-- Whether a document matches all parts. -/
def holdsAll (document : Json) : List Predicate → Bool
  | [] => true
  | p :: rest => holds document p && holdsAll document rest

/-- Whether a document matches a part. -/
def holdsAny (document : Json) : List Predicate → Bool
  | [] => false
  | p :: rest => holds document p || holdsAny document rest

end

/-- Matching all parts is matching each of them. -/
theorem holdsAll_eq_all (document : Json) (parts : List Predicate) :
    holdsAll document parts = parts.all (holds document) := by
  induction parts with
  | nil => rfl
  | cons p rest ih => simp [holdsAll, ih]

/-- Matching a part is matching one of them. -/
theorem holdsAny_eq_any (document : Json) (parts : List Predicate) :
    holdsAny document parts = parts.any (holds document) := by
  induction parts with
  | nil => rfl
  | cons p rest ih => simp [holdsAny, ih]

end Predicate

end Rollup
