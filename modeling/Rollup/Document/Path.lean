import Rollup.Json.Basic
import Rollup.Text.Split

/-!
# Paths into documents

A place in a document is named by a path, member names with points between them:
`items.f1.value`. Reading walks down through objects; writing creates the objects that are missing and
puts an object in the place of anything else it meets; removing takes a member out of the object that
holds it, gives it back and leaves everything else alone.

The functions on lists of names are the ones to reason about. Every path has at least one name.
-/

namespace Rollup

namespace Document

/-- The member names of a path. -/
def segments (path : String) : List String :=
  Text.split '.' path

/-- Reads the value below a list of names. -/
def getAt? : List String → Json → Option Json
  | [], j => some j
  | name :: rest, .object members => (Keyed.get? name members).bind (getAt? rest)
  | _ :: _, _ => none

/-- Writes a value below a list of names. -/
def setAt : List String → Json → Json → Json
  | [], value, _ => value
  | name :: rest, value, j =>
    let members := j.members
    let inner := (Keyed.get? name members).getD (.object [])
    .object (Keyed.insert name (setAt rest value inner) members)

/-- Removes the value below a list of names, where there is one, and gives it back with what is left. -/
def removeAt : List String → Json → Option Json × Json
  | [name], .object members => (Keyed.get? name members, .object (Keyed.erase name members))
  | name :: next :: rest, .object members =>
    match Keyed.get? name members with
    | none => (none, .object members)
    | some inner =>
      let (value, left) := removeAt (next :: rest) inner
      (value, .object (Keyed.modify name (fun _ => left) members))
  | _, j => (none, j)

/-- **Reads the value at a path**, if it is there. -/
def get? (path : String) (document : Json) : Option Json :=
  getAt? (segments path) document

/-- **Writes a value at a path.** -/
def set (path : String) (value document : Json) : Json :=
  setAt (segments path) value document

/-- **Removes the value at a path**: what was there, and the document without it. -/
def remove (path : String) (document : Json) : Option Json × Json :=
  removeAt (segments path) document

/-- The value at a path, `null` if it is not there. -/
def getOrNull (path : String) (document : Json) : Json :=
  (get? path document).getD .null

end Document

end Rollup
