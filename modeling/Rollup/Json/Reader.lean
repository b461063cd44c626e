import Rollup.Json.Shape
import Rollup.Json.Skip

/-!
# Reading JSON text

Strict JSON: only space, tab, line feed and carriage return may stand between tokens, nothing may
follow the value, a lone surrogate escape is refused, and lists and objects nest at most 127 deep.

Two readings of one text matter. `readAs?` keeps the members of an object as they were written, also
those given twice, which records refuse (`Json.Decode`), and skips the members that its shape does not
name. `parse?` is the value of the text: members in key order, of two with one key the later one.

The readers take their fuel from the length of the text: every second call consumes a character.
-/

namespace Rollup

namespace Json

/-- Four hexadecimal digits in front of a text. -/
def readUnit? : List Char → Option (Nat × List Char)
  | a :: b :: c :: d :: r => (Text.hexNumber? [a, b, c, d]).map fun unit => (unit, r)
  | _ => none

/-- The character of a `\u` escape, whose digits come next: a second escape follows where the first
one is the upper half of a pair. -/
def readEscapedUnit? (cs : List Char) : Option (Char × List Char) := do
  let (unit, r) ← readUnit? cs
  if 0xDC00 ≤ unit ∧ unit < 0xE000 then none
  else if 0xD800 ≤ unit ∧ unit < 0xDC00 then
    match r with
    | '\\' :: 'u' :: r =>
      let (low, r) ← readUnit? r
      if 0xDC00 ≤ low ∧ low < 0xE000 then
        return (Char.ofNat (0x10000 + (unit - 0xD800) * 0x400 + (low - 0xDC00)), r)
      else none
    | _ => none
  else return (Char.ofNat unit, r)

/-- The character of an escape, what follows the backslash coming next. -/
def readEscape? : List Char → Option (Char × List Char)
  | 'u' :: r => readEscapedUnit? r
  | 'n' :: r => some ('\n', r)
  | 't' :: r => some ('\t', r)
  | 'r' :: r => some ('\r', r)
  | 'b' :: r => some (Char.ofNat 8, r)
  | 'f' :: r => some (Char.ofNat 12, r)
  | c :: r => if c = '"' ∨ c = '\\' ∨ c = '/' then some (c, r) else none
  | [] => none

/-- The rest of a text whose opening quote is read, `read` holding its characters in reverse. -/
def readQuoted? : Nat → List Char → List Char → Option (String × List Char)
  | 0, _, _ => none
  | _ + 1, _, [] => none
  | fuel + 1, read, c :: r =>
    if c = '"' then some (String.ofList read.reverse, r)
    else if c = '\\' then
      match readEscape? r with
      | some (e, r) => readQuoted? fuel (e :: read) r
      | none => none
    else if c.toNat < 32 then none
    else readQuoted? fuel (c :: read) r

/-- A text of known words in front: the value of the word that fits, and what follows. -/
def readWord? (cs : List Char) : Option (Json × List Char) :=
  match cs with
  | 'n' :: 'u' :: 'l' :: 'l' :: r => some (.null, r)
  | 't' :: 'r' :: 'u' :: 'e' :: r => some (.bool true, r)
  | 'f' :: 'a' :: 'l' :: 's' :: 'e' :: r => some (.bool false, r)
  | _ => none

mutual

/-- A value in front of a text, read as its shape says, lists and objects nesting at most `depth` deep. -/
def readValue? : Nat → Nat → Shape → List Char → Option (Json × List Char)
  | 0, _, _, _ => none
  | fuel + 1, depth, shape, cs =>
    match skipSpace cs with
    | [] => none
    | '"' :: r => (readQuoted? (r.length + 1) [] r).map fun (s, r) => (.string s, r)
    | '[' :: r =>
      match depth with
      | 0 => none
      | depth + 1 =>
        match skipSpace r with
        | ']' :: r => some (.array [], r)
        | r => (readItems? fuel depth shape r).map fun (items, r) => (.array items, r)
    | '\x7b' :: r =>
      match depth with
      | 0 => none
      | depth + 1 =>
        match skipSpace r with
        | '\x7d' :: r => some (.object [], r)
        | r => (readMembers? fuel depth shape r).map fun (members, r) => (.object members, r)
    | c :: r =>
      if c = '-' ∨ c.isDigit then (Numeral.read? (c :: r)).map fun (n, r) => (.number n, r)
      else readWord? (c :: r)

/-- The items of a list of some shape up to its closing bracket. -/
def readItems? : Nat → Nat → Shape → List Char → Option (List Json × List Char)
  | 0, _, _, _ => none
  | fuel + 1, depth, shape, cs =>
    match readValue? fuel depth shape.uncons.1 cs with
    | none => none
    | some (item, r) =>
      match skipSpace r with
      | ']' :: r => some ([item], r)
      | ',' :: r => (readItems? fuel depth shape.uncons.2 r).map fun (items, r) => (item :: items, r)
      | _ => none

/-- The members of an object of some shape up to its closing brace, without the skipped ones. -/
def readMembers? : Nat → Nat → Shape → List Char → Option (List (String × Json) × List Char)
  | 0, _, _, _ => none
  | fuel + 1, depth, shape, cs =>
    match skipSpace cs with
    | '"' :: r =>
      match readQuoted? (r.length + 1) [] r with
      | none => none
      | some (key, r) =>
        match skipSpace r with
        | ':' :: r =>
          match readMember? fuel depth key (shape.member? key) r with
          | none => none
          | some (read, r) =>
            match skipSpace r with
            | '\x7d' :: r => some (read, r)
            | ',' :: r =>
              (readMembers? fuel depth shape r).map fun (members, r) => (read ++ members, r)
            | _ => none
        | _ => none
    | _ => none

/-- The value of a member with its key, or nothing for a member that is skipped. -/
def readMember? :
    Nat → Nat → String → Option Shape → List Char → Option (List (String × Json) × List Char)
  | 0, _, _, _, _ => none
  | fuel + 1, depth, key, some shape, cs =>
    (readValue? fuel depth shape cs).map fun (value, r) => ([(key, value)], r)
  | fuel + 1, _, _, none, cs => (skipValue? fuel cs).map fun r => ([], r)

end

/-- **Reads a whole text as a shape says**, members as written. -/
def readAs? (shape : Shape) (text : String) : Option Json :=
  let cs := text.toList
  match readValue? (2 * cs.length + 2) 127 shape cs with
  | some (value, r) => if (skipSpace r).isEmpty then some value else none
  | none => none

/-! ## Members in order -/

mutual

/-- The value with the members of its objects in key order, of two with one key the later one. -/
def canonical : Json → Json
  | .array items => .array (canonicalItems items)
  | .object members => .object (Keyed.ofPairs (canonicalMembers members))
  | j => j

/-- The items in canonical form. -/
def canonicalItems : List Json → List Json
  | [] => []
  | a :: rest => canonical a :: canonicalItems rest

/-- The members in canonical form, in the order given. -/
def canonicalMembers : List (String × Json) → List (String × Json)
  | [] => []
  | (k, a) :: rest => (k, canonical a) :: canonicalMembers rest

end

/-- **The value of a whole text**, members in key order. -/
def parse? (text : String) : Option Json :=
  (readAs? .whole text).map canonical

end Json

end Rollup
