import Rollup.Json.Basic
import Rollup.Decimal.Format

/-!
# Compact JSON text

A value is written without blanks, members in the order in which the value holds them. Within a text
only the quote, the backslash and the control characters below the space are escaped; everything else
stands for itself. The text is built as a list of characters, which is the form statements about it
use; `Json.compact` is the same as a `String`.
-/

namespace Rollup

/-- **A number as text**: the digits of a whole number, and for a double the shortest digits that
read back. -/
def Number.text : Number → String
  | .int n _ => toString n
  | .float f _ => NumberFormat.document.render f

namespace Json

/-- A digit of a hexadecimal number, in lower case. -/
def hexDigit (n : Nat) : Char :=
  if n < 10 then Char.ofNat (n + '0'.toNat) else Char.ofNat (n - 10 + 'a'.toNat)

/-- A character inside quotes. -/
def escaped (c : Char) : List Char :=
  if c = '"' then ['\\', '"']
  else if c = '\\' then ['\\', '\\']
  else if c = '\n' then ['\\', 'n']
  else if c = '\r' then ['\\', 'r']
  else if c = '\t' then ['\\', 't']
  else if c.toNat = 8 then ['\\', 'b']
  else if c.toNat = 12 then ['\\', 'f']
  else if c.toNat < 32 then
    ['\\', 'u', '0', '0', hexDigit (c.toNat / 16), hexDigit (c.toNat % 16)]
  else [c]

/-- A text in quotes. -/
def quoted (s : String) : List Char :=
  '"' :: s.toList.flatMap escaped ++ ['"']

mutual

/-- The characters of a value. -/
def chars : Json → List Char
  | .null => "null".toList
  | .bool true => "true".toList
  | .bool false => "false".toList
  | .number n => n.text.toList
  | .string s => quoted s
  | .array [] => "[]".toList
  | .array (a :: rest) => '[' :: chars a ++ itemChars rest
  | .object [] => "\x7b\x7d".toList
  | .object ((k, a) :: rest) => '\x7b' :: quoted k ++ ':' :: chars a ++ memberChars rest

/-- The characters of the items after the first one, and the closing bracket. -/
def itemChars : List Json → List Char
  | [] => [']']
  | a :: rest => ',' :: chars a ++ itemChars rest

/-- The characters of the members after the first one, and the closing brace. -/
def memberChars : List (String × Json) → List Char
  | [] => ['\x7d']
  | (k, a) :: rest => ',' :: quoted k ++ ':' :: chars a ++ memberChars rest

end

/-- **A value as compact text.** -/
def compact (j : Json) : String :=
  String.ofList j.chars

end Json

end Rollup
