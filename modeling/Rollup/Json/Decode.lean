import Rollup.Calendar.Format
import Rollup.Calendar.Reader
import Rollup.Json.Basic

/-!
# Records in JSON

Conditions, keys, definitions and settings are records with named members. A record is written as an
object, whose unknown members are ignored, or as the list of its members in declared order, of which
the last ones may be missing. There is no conversion between kinds: a text member takes texts only, a
whole number no `1.0`, an unsigned one nothing below zero.

`Decode.members?` brings both forms to named members; `required` and `defaulted` read one of them.
Decoding fails without a reason, since no answer shows one.
-/

namespace Rollup

namespace Decode

/-- A decoder of one kind of value. -/
abbrev Decoder (α : Type) : Type := Json → Option α

/-- A text. -/
def text : Decoder String := Json.asString?

/-- A truth value. -/
def flag : Decoder Bool
  | .bool b => some b
  | _ => none

/-- A signed word. -/
def signed : Decoder Int64
  | .number n => n.toSigned?
  | _ => none

/-- An unsigned word. -/
def word : Decoder UInt64
  | .number n => n.toWord?
  | _ => none

/-- A word is read back. -/
@[simp] theorem word_ofWord (n : UInt64) : word (.ofWord n) = some n := by
  show (if (0 : Int) ≤ n.toNat then some (UInt64.ofNat (n.toNat : Int).toNat) else none) = some n
  rw [if_pos (Int.natCast_nonneg _), Int.toNat_natCast, UInt64.ofNat_toNat]

/-- An instant, in the form that records have. -/
def instant : Decoder Instant
  | .string s => Instant.decode? s
  | _ => none

/-- A list of values of one kind. -/
def list {α : Type} (item : Decoder α) : Decoder (List α)
  | .array items => items.mapM item
  | _ => none

/-- A value that may be `null`. -/
def nullable {α : Type} (value : Decoder α) : Decoder (Option α)
  | .null => some none
  | j => (value j).map some

/-- A map from texts to values of one kind; in a text read as written, the later of two entries with
one key wins. -/
def map {α : Type} (value : Decoder α) : Decoder (Keyed α)
  | .object members =>
    (members.mapM fun pair => (value pair.2).map fun v => (pair.1, v)).map Keyed.ofPairs
  | _ => none

/-- **A choice among named cases**: the name, or an object with the name as its only member and `null`
there. -/
def name : Decoder String
  | .string s => some s
  | .object [(s, .null)] => some s
  | _ => none

/-- A choice among named cases in a place **below a flattened record**, whose members are gathered before
they are told apart: there an empty object may stand for the `null`. -/
def nestedName : Decoder String
  | .object [(s, .object [])] => some s
  | j => name j

/-! ## Members -/

/-- Whether a member is given more than once. -/
def isRepeated (members : List (String × Json)) (key : String) : Bool :=
  1 < (members.filter fun pair => pair.1 == key).length

/-- **The members of a record** that is written as an object: none of the declared ones twice. -/
def namedMembers? (declared : List String) : Decoder (Keyed Json)
  | .object members => if declared.any (isRepeated members) then none else some members
  | _ => none

/-- **The members of a record** in either form. -/
def members? (declared : List String) : Decoder (Keyed Json)
  | .array items => if items.length ≤ declared.length then some (declared.zip items) else none
  | j => namedMembers? declared j

/-- A member that must be there. -/
def required {α : Type} (key : String) (value : Decoder α) (members : Keyed Json) : Option α :=
  (Keyed.get? key members).bind value

/-- A member that has a default. -/
def defaulted {α : Type} (key : String) (default : α) (value : Decoder α) (members : Keyed Json) :
    Option α :=
  match Keyed.get? key members with
  | some j => value j
  | none => some default

/-- A text member that is empty by default. -/
def textOrEmpty (key : String) (members : Keyed Json) : Option String :=
  defaulted key "" text members

/-- A member that is absent by default and may be `null`. -/
def optional {α : Type} (key : String) (value : Decoder α) (members : Keyed Json) :
    Option (Option α) :=
  defaulted key none (nullable value) members

/-- A list member that is empty by default. -/
def listOrEmpty {α : Type} (key : String) (item : Decoder α) (members : Keyed Json) :
    Option (List α) :=
  defaulted key [] (list item) members

end Decode

/-- An instant in a record. -/
def Instant.toJson (t : Instant) : Json := .string t.recorded

end Rollup
