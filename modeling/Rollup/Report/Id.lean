import Rollup.Error
import Rollup.Json.Decode
import Rollup.Store.Basic
import Rollup.Text.Quoted

/-!
# Report ids

The id of a report also names the collection of its rows, so it is kept short and plain: 1 to 64 letters,
digits, `_` and `-` of ASCII. A report that is created without an id gets 32 hexadecimal digits.
-/

namespace Rollup

/-- Whether a character may stand in a report id. -/
def isReportIdChar (c : Char) : Bool :=
  c.isAlphanum || c == '_' || c == '-'

/-- Whether a text may be a report id. -/
def isReportId (text : String) : Bool :=
  !text.isEmpty && decide (text.length ≤ 64) && text.toList.all isReportIdChar

/-- **The id of a report.** -/
structure ReportId where
  /-- The id as text. -/
  text : String
  /-- It is short and plain. -/
  valid : isReportId text = true
  deriving DecidableEq

namespace ReportId

/-- The report id of a text, if it may be one. -/
def ofText? (text : String) : Option ReportId :=
  if h : isReportId text = true then some ⟨text, h⟩ else none

/-- **Reads a report id**, refusing the texts that may not be one. -/
def parse (text : String) : Except ReportError ReportId :=
  match ofText? text with
  | some id => .ok id
  | none => .error (.validation ("invalid report id: " ++ Text.quoted text))

/-- Reads a report id in a record. -/
def decode? (j : Json) : Option ReportId := (Decode.text j).bind ofText?

/-- A report id as JSON. -/
def toJson (id : ReportId) : Json := .string id.text

/-- The collection of the rows of the report. -/
def collection (id : ReportId) : String := Store.rowsOf id.text

/-! ## New ids -/

/-- The lowest hexadecimal digits of a number, the highest of them first. -/
def hexDigits : Nat → Nat → List Char
  | 0, _ => []
  | width + 1, n => hexDigits width (n / 16) ++ [Nat.digitChar (n % 16)]

/-- There are as many digits as asked for. -/
@[simp] theorem length_hexDigits (width n : Nat) : (hexDigits width n).length = width := by
  induction width generalizing n with
  | zero => rfl
  | succ width ih => simp [hexDigits, ih]

/-- Hexadecimal digits may stand in a report id. -/
theorem isReportIdChar_of_mem_hexDigits {width n : Nat} {c : Char} (h : c ∈ hexDigits width n) :
    isReportIdChar c = true := by
  induction width generalizing n with
  | zero => simp [hexDigits] at h
  | succ width ih =>
    rcases List.mem_append.1 h with h | h
    · exact ih h
    · have digit : ∀ d : Fin 16, isReportIdChar (Nat.digitChar d) = true := by decide
      rw [List.mem_singleton.1 h]
      exact digit ⟨n % 16, Nat.mod_lt n (by decide)⟩

/-- A text of 32 hexadecimal digits may be a report id. -/
theorem isReportId_hexDigits (n : Nat) : isReportId (String.ofList (hexDigits 32 n)) = true := by
  have digits : (hexDigits 32 n).all isReportIdChar = true :=
    List.all_eq_true.2 fun _ h => isReportIdChar_of_mem_hexDigits h
  have filled : String.ofList (hexDigits 32 n) ≠ "" := by
    intro h
    have := congrArg String.length h
    simp at this
  simp [isReportId, digits, filled]

/-- **The id that a number makes**: its lowest 32 hexadecimal digits. -/
def ofNat (n : Nat) : ReportId := ⟨String.ofList (hexDigits 32 n), isReportId_hexDigits n⟩

end ReportId

end Rollup
