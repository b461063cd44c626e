import Rollup.Json.Printer
import Rollup.Json.Reader
import Rollup.Text.Split
import Rollup.Value.DataType

/-!
# Values of item fields

Every dynamic field of an item is stored as a **cell**, an object with the members `data_type` and
`value`. Reading a cell brings its payload to one form per type, once, when the item comes in: number
texts become doubles, dates become instants, user lists become lists of ids, switches become truth
values. Whatever comes later – conditions, reductions, sorting – relies on that form and converts
nothing.

Main definitions: `Value.ofRaw` reads a payload for a type, `Value.payload` writes it back,
`Value.render` shows it in exports.
-/

namespace Rollup

/-- **A reference to an attached file.** -/
structure FileRef where
  /-- Where the file is. -/
  url : String
  /-- What it is called. -/
  name : String
  deriving DecidableEq

namespace FileRef

/-- A file reference as JSON. -/
def toJson (f : FileRef) : Json := .object [("name", .string f.name), ("url", .string f.url)]

/-- The members in declared order. -/
def declared : List String := ["url", "name"]

/-- Reads a file reference. -/
def decode? (j : Json) : Option FileRef := do
  let m ← Decode.members? declared j
  let url ← Decode.required "url" Decode.text m
  let name ← Decode.textOrEmpty "name" m
  return ⟨url, name⟩

end FileRef

/-- Why a payload is no value of a type. -/
inductive ValueError where
  /-- The payload is of another kind. -/
  | mismatch (dataType : DataType) (found : Json)
  /-- The type has no values. -/
  | unsupported (dataType : DataType)

/-- The message of a value error. -/
def ValueError.message : ValueError → String
  | .mismatch dataType found => s!"Cannot read {found.compact} as {dataType.name}"
  | .unsupported dataType => s!"Data type {dataType.name} cannot hold an item value"

/-- **A typed value.** -/
inductive Value where
  /-- A line of text. -/
  | text (value : String)
  /-- A text of several lines. -/
  | textarea (value : String)
  /-- A number. -/
  | number (value : Float)
  /-- A running number. -/
  | autonum (value : String)
  /-- A day or a point in time. -/
  | date (value : Instant)
  /-- A time of day. -/
  | time (value : String)
  /-- A truth value. -/
  | switch (value : Bool)
  /-- A value of an option set. -/
  | options (value : String)
  /-- User ids. -/
  | user (ids : List String)
  /-- Attached files. -/
  | file (files : List FileRef)
  /-- A reference to another record. -/
  | lookup (value : String)
  /-- A cell of a type without a payload. -/
  | empty (dataType : DataType)

namespace Value

/-! ## Reading payloads -/

/-- The text of a payload: a text, or the digits of a number. -/
def textOf? : Json → Option String
  | .string s => some s
  | .number n => some n.text
  | _ => none

/-- The number of a payload: a number, or a text that spells one. -/
def numberOf? : Json → Option Float
  | .number n => some n.toFloat
  | .string s => parseFloat? (Text.trim s)
  | _ => none

/-- The instant of a payload. -/
def instantOf? : Json → Option Instant
  | .string s => Instant.parse? s
  | _ => none

/-- The truth value of a payload. -/
def switchOf? : Json → Option Bool
  | .bool b => some b
  | .string s =>
    let word := Text.trim s
    if word = "true" then some true else if word = "false" then some false else none
  | _ => none

/-- The user ids of a payload: a list of texts and numbers, or one text with commas. -/
def usersOf? : Json → Option (List String)
  | .array items => items.mapM textOf?
  | .string s => some (Text.splitList s)
  | _ => none

/-- The files of a payload: a list, or a list written as a text; the empty text has none. -/
def filesOf? : Json → Option (List FileRef)
  | .string s =>
    if s.isEmpty then some []
    else (Json.readAs? (.list (.ofDeclared FileRef.declared)) s).bind (Decode.list FileRef.decode?)
  | j => Decode.list FileRef.decode? j

/-- The value of a payload that is not `null`, for a type that has values. -/
def ofPayload? (raw : Json) : DataType → Option Value
  | .text => (textOf? raw).map .text
  | .textarea => (textOf? raw).map .textarea
  | .autonum => (textOf? raw).map .autonum
  | .time => (textOf? raw).map .time
  | .options => (textOf? raw).map .options
  | .lookup => (textOf? raw).map .lookup
  | .number => (numberOf? raw).map .number
  | .date => (instantOf? raw).map .date
  | .datetime => (instantOf? raw).map .date
  | .switch => (switchOf? raw).map .switch
  | .user => (usersOf? raw).map .user
  | .file => (filesOf? raw).map .file
  | .function | .type | .check | .unknown => none

/-- Whether cells of a type may hold a payload. -/
def isSupported : DataType → Bool
  | .function | .type | .check | .unknown => false
  | _ => true

/-- **Reads a payload as a value of a type.** Without a payload every type has its empty cell. -/
def ofRaw (dataType : DataType) (raw : Json) : Except ValueError Value :=
  if raw.isNull then .ok (.empty dataType)
  else if isSupported dataType then
    match ofPayload? raw dataType with
    | some v => .ok v
    | none => .error (.mismatch dataType raw)
  else .error (.unsupported dataType)

/-! ## Writing values -/

/-- The type of a value; points in time are kept as dates. -/
def dataType : Value → DataType
  | .text _ => .text
  | .textarea _ => .textarea
  | .number _ => .number
  | .autonum _ => .autonum
  | .date _ => .date
  | .time _ => .time
  | .switch _ => .switch
  | .options _ => .options
  | .user _ => .user
  | .file _ => .file
  | .lookup _ => .lookup
  | .empty t => t

/-- **The payload of a value in stored form.** -/
def payload : Value → Json
  | .text s | .textarea s | .autonum s | .time s | .options s | .lookup s => .string s
  | .number n => .ofFloat n
  | .date t => .string t.stored
  | .switch b => .bool b
  | .user ids => .ofStrings ids
  | .file files => .array (files.map FileRef.toJson)
  | .empty _ => .null

/-- The number of a numeric value, as reductions see it. -/
def asFloat? : Value → Option Float
  | .number n => some n
  | _ => none

/-- **A value as exports show it**: dates by their day, lists with commas. -/
def render : Value → String
  | .text s | .textarea s | .autonum s | .time s | .options s | .lookup s => s
  | .number n => NumberFormat.exported.render n
  | .date t => t.date.render
  | .switch b => if b then "true" else "false"
  | .user ids => ",".intercalate ids
  | .file files => ",".intercalate (files.map FileRef.name)
  | .empty _ => ""

/-- A cell: a type and a payload. -/
def cell (dataType : DataType) (payload : Json) : Json :=
  .object [("data_type", dataType.toJson), ("value", payload)]

/-- A value as a cell. -/
def toJson (v : Value) : Json := cell v.dataType v.payload

/-- Reads a cell; a payload that is no value of the type fails the reading. -/
def decode? (j : Json) : Option Value := do
  let m ← Decode.members? ["data_type", "value"] j
  let dataType ← Decode.required "data_type" DataType.decode? m
  let raw ← Decode.defaulted "value" .null some m
  (ofRaw dataType raw).toOption

end Value

end Rollup
