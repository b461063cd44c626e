import Rollup.Text.Alphanumeric
import Rollup.Text.Hexadecimal

/-!
# Patterns

A regular expression is made of characters, classes in brackets, groups, alternatives and repetitions. What
matters here is only whether a text is one.

The patterns at hand stand between braces and hold no closing brace, so that nothing with braces of its
own – a counted repetition, a long escape, a named class – is ever complete. Nor are there tables of letters
and digits, so that the classes `\d`, `\s` and `\w`, the edges of words and matching without regard to
case are refused.

The reader goes from left to right and keeps the groups that are open.
-/

namespace Rollup

namespace Pattern

/-! ## Escapes -/

/-- What an escape stands for. -/
inductive Escape where
  /-- A character. -/
  | character (code : Nat)
  /-- The beginning or the end of the text. -/
  | edge
  deriving DecidableEq

/-- Whether a number is that of a character. -/
def isCode (n : Nat) : Bool := n < 0xD800 || (0xE000 ≤ n && n < 0x110000)

/-- An escape by so many hexadecimal digits. -/
def readCode? (count : Nat) (cs : List Char) : Option (Escape × List Char) := do
  let code ← Text.hexNumber? (cs.take count)
  if count ≤ cs.length ∧ isCode code then return (.character code, cs.drop count) else none

/-- The letters that stand for a control character. -/
def controls : List (Char × Nat) :=
  [('a', 7), ('f', 12), ('n', 10), ('r', 13), ('t', 9), ('v', 11)]

/-- Whether a character stands for itself behind a backslash. -/
def isSign (c : Char) : Bool :=
  c.toNat < 128 && !c.isAlphanum && c ≠ '<' && c ≠ '>'

/-- **Reads an escape** whose backslash is read. -/
def readEscape? : List Char → Option (Escape × List Char)
  | [] => none
  | 'x' :: r => readCode? 2 r
  | 'u' :: r => readCode? 4 r
  | 'U' :: r => readCode? 8 r
  | c :: r =>
    if c = 'A' ∨ c = 'z' then some (.edge, r)
    else if isSign c then some (.character c.toNat, r)
    else (controls.lookup c).map fun code => (.character code, r)

/-! ## Classes -/

/-- The classes that have a name, written between colons. -/
def classNames : List String :=
  ["alnum", "alpha", "ascii", "blank", "cntrl", "digit", "graph", "lower", "print", "punct", "space",
    "upper", "word", "xdigit"]

/-- What follows a named class, whose opening bracket is read. -/
def namedClass? (cs : List Char) : Option (List Char) :=
  match cs with
  | ':' :: r =>
    let r := if r.head? = some '^' then r.tail else r
    match r.dropWhile (· ≠ ':') with
    | ':' :: ']' :: rest =>
      if classNames.contains (String.ofList (r.takeWhile (· ≠ ':'))) then some rest else none
    | _ => none
  | _ => none

/-- A character of a class, by its number. -/
def readMember? : List Char → Option (Nat × List Char)
  | [] => none
  | '\\' :: r =>
    match readEscape? r with
    | some (.character code, r) => some (code, r)
    | _ => none
  | c :: r => some (c.toNat, r)

/-- A character of a class or a range of them. A dash before a bracket or a second dash makes no range. -/
def readRange? (cs : List Char) : Option (List Char) := do
  let (low, r) ← readMember? cs
  match r with
  | '-' :: ']' :: _ | '-' :: '-' :: _ => return r
  | '-' :: r =>
    let (high, r) ← readMember? r
    if low ≤ high then return r else none
  | r => return r

/-- What may stand behind the bracket that opens a class: a negation, dashes, and where there are none a
closing bracket that is a character of the class. -/
def enterClass (cs : List Char) : List Char :=
  let r := if cs.head? = some '^' then cs.tail else cs
  match r with
  | '-' :: _ => r.dropWhile (· = '-')
  | ']' :: r => r
  | r => r

/-- **What follows a class** that stands within so many others. -/
def readClass? : Nat → Nat → List Char → Option (List Char)
  | 0, _, _ => none
  | _ + 1, _, [] => none
  | fuel + 1, depth, '[' :: r =>
    match namedClass? r with
    | some r => readClass? fuel depth r
    | none => readClass? fuel (depth + 1) (enterClass r)
  | _ + 1, 0, ']' :: r => some r
  | fuel + 1, depth + 1, ']' :: r => readClass? fuel depth r
  | fuel + 1, depth, '&' :: '&' :: r => readClass? fuel depth r
  | fuel + 1, depth, '-' :: '-' :: r => readClass? fuel depth r
  | fuel + 1, depth, '~' :: '~' :: r => readClass? fuel depth r
  | fuel + 1, depth, cs => (readRange? cs).bind (readClass? fuel depth)

/-! ## Groups -/

/-- An open group, or the pattern itself. -/
structure Group where
  /-- Whether something stands in front that may be repeated. -/
  repeatable : Bool := false
  /-- Whether upper and lower case are the same. -/
  foldsCase : Bool := false

/-- What an opening bracket leads to. -/
inductive Opening where
  /-- A group, perhaps with a name. -/
  | group (name : Option String) (foldsCase : Bool)
  /-- A setting for the rest of the group around it. -/
  | setting (foldsCase : Bool)

/-- The letters of settings; a dash turns the ones behind it off. -/
def settings : List Char := ['i', 'm', 's', 'U', 'u', 'R', 'x', '-']

/-- Whether a text is a list of settings. -/
def isSettings (flags : List Char) : Bool :=
  flags.all settings.contains && flags.Nodup && flags.getLast? ≠ some '-'

/-- Whether upper and lower case are the same under some settings. -/
def foldsUnder (flags : List Char) (before : Bool) : Bool :=
  if (flags.takeWhile (· ≠ '-')).contains 'i' then true
  else if flags.contains 'i' then false
  else before

/-- Whether a text is the name of a group. -/
def isGroupName : List Char → Bool
  | [] => false
  | c :: r => (c == '_' || (Text.isAlphanumeric c && !c.isDigit))
      && r.all fun c => ['_', '.', '[', ']'].contains c || Text.isAlphanumeric c

/-- The name of a group behind the bracket that opens it. -/
def readGroupName? (foldsCase : Bool) (cs : List Char) : Option (Opening × List Char) :=
  let name := cs.takeWhile (· ≠ '>')
  match cs.dropWhile (· ≠ '>') with
  | _ :: r => if isGroupName name then some (.group (some (String.ofList name)) foldsCase, r) else none
  | [] => none

/-- **Reads what follows an opening bracket.** Looking ahead and behind is refused. -/
def readOpening? (foldsCase : Bool) : List Char → Option (Opening × List Char)
  | '?' :: 'P' :: '<' :: r => readGroupName? foldsCase r
  | '?' :: '<' :: r => readGroupName? foldsCase r
  | '?' :: r =>
    let flags := r.takeWhile fun c => c ≠ ':' && c ≠ ')'
    if isSettings flags then
      match r.dropWhile fun c => c ≠ ':' && c ≠ ')' with
      | ':' :: r => some (.group none (foldsUnder flags foldsCase), r)
      | _ :: r => if flags.isEmpty then none else some (.setting (foldsUnder flags foldsCase), r)
      | [] => none
    else none
  | r => some (.group none foldsCase, r)

/-! ## Patterns -/

/-- **Reads a pattern to its end**: the innermost group, the open ones around it, and the names that groups
have already. -/
def readsOn : Nat → Group → List Group → List String → List Char → Bool
  | 0, _, _, _, _ => false
  | _ + 1, _, outer, _, [] => outer.isEmpty
  | fuel + 1, inner, outer, names, c :: r =>
    if c = '(' then
      match readOpening? inner.foldsCase r with
      | some (.group name foldsCase, r) =>
        (name.all fun name => !names.contains name)
          && readsOn fuel { foldsCase } (inner :: outer) (name.toList ++ names) r
      | some (.setting foldsCase, r) => readsOn fuel { foldsCase } outer names r
      | none => false
    else if c = ')' then
      match outer with
      | group :: outer => readsOn fuel { group with repeatable := true } outer names r
      | [] => false
    else if c = '|' then readsOn fuel { inner with repeatable := false } outer names r
    else if c = '?' ∨ c = '*' ∨ c = '+' then
      inner.repeatable && readsOn fuel inner outer names (if r.head? = some '?' then r.tail else r)
    else if c = '\x7b' then false
    else if c = '.' ∨ c = '^' ∨ c = '$' then
      readsOn fuel { inner with repeatable := true } outer names r
    else if c = '[' then
      match readClass? (r.length + 1) 0 (enterClass r) with
      | some r => !inner.foldsCase && readsOn fuel { inner with repeatable := true } outer names r
      | none => false
    else if c = '\\' then
      match readEscape? r with
      | some (.character _, r) =>
        !inner.foldsCase && readsOn fuel { inner with repeatable := true } outer names r
      | some (.edge, r) => readsOn fuel { inner with repeatable := true } outer names r
      | none => false
    else !inner.foldsCase && readsOn fuel { inner with repeatable := true } outer names r

/-- **Whether a text is a pattern.** -/
def isValid (text : String) : Bool :=
  readsOn (text.length + 1) {} [] [] text.toList

end Pattern

end Rollup
