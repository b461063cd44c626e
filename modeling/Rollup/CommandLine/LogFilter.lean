import Rollup.Decimal.Literal
import Rollup.Text.Pattern
import Rollup.Text.Split

/-!
# Log levels

The level in the configuration is a list of directives between commas. A directive is a level for
everything, or a target, a span in brackets, or both, with a level behind an equals sign. Levels have
names, written in any case, and the numbers from 0 to 5. A span may name a field in braces, and the value
of the field: a word, a number or a pattern.

A directive is walked through **without the blanks around it**, but its parts are cut out of the text
**with the blanks**, at the offsets in bytes at which the walk finds them. So blanks in front shift every
part, and blanks behind belong to the last one.

What is logged is no part of this library; but a level that makes no sense stops a command.
-/

namespace Rollup

namespace LogFilter

/-! ## Levels -/

/-- The names of levels. -/
def levelNames : List String := ["off", "error", "warn", "info", "debug", "trace"]

/-- Whether a text is a number from 0 to 5. -/
def isLevelNumber (text : String) : Bool :=
  !text.startsWith "-" && (Text.parseInt? text).any fun n => decide (n ≤ 5)

/-- Whether a text names a level. -/
def isLevel (text : String) : Bool :=
  levelNames.contains (text.map Char.toLower) || isLevelNumber text

/-! ## Fields -/

/-- The names of numbers that have no digits. -/
def numberNames : List String := ["inf", "infinity", "nan"]

/-- Whether a text is a number, perhaps with a sign and not finite. -/
def isNumber (text : String) : Bool :=
  (Literal.read? text).isSome
    || numberNames.contains (String.ofList ((Literal.spanSign text.toList).2.map Char.toLower))

/-- Whether a text is a value of a field. Truth values are patterns too. -/
def isFieldValue (text : String) : Bool := isNumber text || Pattern.isValid text

/-- Whether a text is a field, with a value between the first equals sign and the second one if there is
any. -/
def isField (text : String) : Bool :=
  !text.isEmpty && match Text.split '=' text with
    | _ :: value :: _ => isFieldValue value
    | _ => true

/-! ## Cutting by offsets -/

/-- What is left behind so many bytes, which must not end within a character. -/
def dropBytes? : Nat → List Char → Option (List Char)
  | 0, cs => some cs
  | _ + 1, [] => none
  | n + 1, c :: cs => if c.utf8Size ≤ n + 1 then dropBytes? (n + 1 - c.utf8Size) cs else none

/-- The characters of so many bytes, which must not end within a character. -/
def takeBytes? : Nat → List Char → Option (List Char)
  | 0, _ => some []
  | _ + 1, [] => none
  | n + 1, c :: cs =>
    if c.utf8Size ≤ n + 1 then (takeBytes? (n + 1 - c.utf8Size) cs).map (c :: ·) else none

/-- The part of a text from one offset to another. -/
def part? (text : List Char) (start stop : Nat) : Option String :=
  ((dropBytes? start text).bind (takeBytes? (stop - start))).map String.ofList

/-- The part of a text from an offset on. -/
def rest? (text : List Char) (start : Nat) : Option String :=
  (dropBytes? start text).map String.ofList

/-! ## Directives -/

/-- **Where in a directive the walk stands.** -/
inductive Place where
  /-- At its beginning. -/
  | start
  /-- Within a target, or a level for everything. -/
  | target
  /-- Within the name of a span. -/
  | span
  /-- Within a field that begins at an offset. -/
  | field (start : Nat)
  /-- Behind the fields. -/
  | fields
  /-- Behind a span. -/
  | closed
  /-- Within a level that begins at an offset. -/
  | level (start : Nat)
  deriving DecidableEq

/-- Whether a target or a level may begin with a character. -/
def isTargetStart (c : Char) : Bool :=
  c == '-' || c == ':' || c == '_' || Text.isAlphanumeric c

/-- Where the walk through a text stands behind a character at an offset; none where it cannot go on. -/
def step (text : List Char) (offset : Nat) (c : Char) : Place → Option Place
  | .start => if c = '[' then some .span else if isTargetStart c then some .target else none
  | .target =>
    if c = '=' then some (.level (offset + 1)) else if c = '[' then some .span else some .target
  | .span =>
    if c = ']' then some .closed else if c = '\x7b' then some (.field (offset + 1)) else some .span
  | .field start =>
    if c = '\x7d' then if (part? text start offset).any isField then some .fields else none
    else some (.field start)
  | .fields => if c = ']' then some .closed else none
  | .closed => if c = '=' then some (.level (offset + 1)) else none
  | .level start => some (.level start)

/-- Walks through characters from an offset on. -/
def walk (text : List Char) : Nat → Place → List Char → Option Place
  | _, place, [] => some place
  | offset, place, c :: cs => (step text offset c place).bind fun next =>
      walk text (offset + c.utf8Size) next cs

/-- Whether a directive may end where the walk stands: behind a target, behind a span, or with a level,
which may also be left out. -/
def isComplete (text : List Char) : Place → Bool
  | .target | .closed => true
  | .level start => (rest? text start).any fun level => level.isEmpty || isLevel level
  | _ => false

/-- Whether a text is a directive. -/
def isDirective (text : String) : Bool :=
  (walk text.toList 0 .start (Text.trim text).toList).any (isComplete text.toList)

/-- **Whether a level in the configuration makes sense.** -/
def isValid (text : String) : Bool :=
  ((Text.split ',' text).filter fun part => !part.isEmpty).all isDirective

end LogFilter

end Rollup
