import Rollup.Text.Hexadecimal
import Rollup.Text.Printable

/-!
# Texts in messages

A message that repeats what a caller typed puts it in quotes, with everything visible: quotes and
backslashes behind a backslash, line breaks and tabs by their letters, and characters that cannot be seen
by their number.
-/

namespace Rollup.Text

/-- A character as a message shows it. -/
def visible (c : Char) : String :=
  if c.toNat = 0 then "\\0"
  else if c = '\t' then "\\t"
  else if c = '\r' then "\\r"
  else if c = '\n' then "\\n"
  else if c = '"' then "\\\""
  else if c = '\\' then "\\\\"
  else if isPrintable c then c.toString
  else "\\u\x7b" ++ hexText c.toNat ++ "\x7d"

/-- **A text in quotes**, as a message shows it. -/
def quoted (s : String) : String :=
  "\"" ++ String.join (s.toList.map visible) ++ "\""

end Rollup.Text
