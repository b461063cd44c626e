import Rollup.Json.Decode

/-!
# Data types

The type tag shared by fields, conditions, keys and output columns. A name that is none of the known
ones stands for the type `unknown`, so that documents of later versions still decode.
-/

namespace Rollup

/-- **The type of a field.** -/
inductive DataType where
  /-- A line of text. -/
  | text
  /-- A text of several lines. -/
  | textarea
  /-- A number. -/
  | number
  /-- A running number, kept as text. -/
  | autonum
  /-- A day. -/
  | date
  /-- A point in time. -/
  | datetime
  /-- A time of day, kept as text. -/
  | time
  /-- A truth value. -/
  | switch
  /-- A value of an option set. -/
  | options
  /-- A list of user ids. -/
  | user
  /-- A list of attached files. -/
  | file
  /-- A reference to a record of another datastore. -/
  | lookup
  /-- A value computed by a formula. -/
  | function
  /-- The static column that holds an item type code. -/
  | type
  /-- The static column that holds a check status. -/
  | check
  /-- Any other type. -/
  | unknown
  deriving DecidableEq, Repr

namespace DataType

/-- The name of a type in documents. -/
def name : DataType → String
  | .text => "text"
  | .textarea => "textarea"
  | .number => "number"
  | .autonum => "autonum"
  | .date => "date"
  | .datetime => "datetime"
  | .time => "time"
  | .switch => "switch"
  | .options => "options"
  | .user => "user"
  | .file => "file"
  | .lookup => "lookup"
  | .function => "function"
  | .type => "type"
  | .check => "check"
  | .unknown => "unknown"

/-- All types that have a name of their own. -/
def named : List DataType :=
  [.text, .textarea, .number, .autonum, .date, .datetime, .time, .switch, .options, .user, .file,
    .lookup, .function, .type, .check]

/-- **The type of a name**; every name that is not known stands for `unknown`. -/
def ofName (name : String) : DataType :=
  (named.find? fun t => t.name == name).getD .unknown

/-- A type as JSON. -/
def toJson (t : DataType) : Json := .string t.name

/-- Reads a type. -/
def decode? (j : Json) : Option DataType := (Decode.name j).map ofName

/-- Reads a type below a flattened record. -/
def decodeNested? (j : Json) : Option DataType := (Decode.nestedName j).map ofName

/-- Names are read back. -/
@[simp] theorem ofName_name (t : DataType) : ofName t.name = t := by
  cases t <;> decide +kernel

end DataType

end Rollup
