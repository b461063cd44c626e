import Rollup.Keyed

/-!
# Shapes of JSON values

A record ignores members that it does not declare. In a text such a member is only skipped over
(`Json.skipValue?`), so that it may hold what no value can. The **shape** of a value says what a reader
makes of its text: everything, the items of a list, or the declared members of a record.
-/

namespace Rollup

/-- **What a reader makes of a value.** -/
inductive Shape where
  /-- Everything. -/
  | whole
  /-- A list of values of one shape. -/
  | list (item : Shape)
  /-- A record: its declared members in their shapes, in declared order. -/
  | record (members : List (String × Shape))

namespace Shape

/-- The shape of a record whose members are read whole, but for some that have their own shape. -/
def ofDeclared (declared : List String) (nested : Keyed Shape := []) : Shape :=
  .record (declared.map fun key => (key, (Keyed.get? key nested).getD .whole))

/-- The shape of the first item of a list, and that of the list of the others. A record may be written as
the list of its members. -/
def uncons : Shape → Shape × Shape
  | .list item => (item, .list item)
  | .record ((_, first) :: others) => (first, .record others)
  | _ => (.whole, .whole)

/-- The shape of a member; none for a member to skip. -/
def member? (key : String) : Shape → Option Shape
  | .record members => Keyed.get? key members
  | _ => some .whole

end Shape

end Rollup
