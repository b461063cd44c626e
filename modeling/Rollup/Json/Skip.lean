import Rollup.Json.Numeral
import Rollup.Text.Hexadecimal

/-!
# Skipping JSON text

A reader that has no use for a value skips over it. The value has to follow the grammar, but is not made:
a number may lie beyond the largest double, an escape may be half of a pair, and lists and objects may
nest as deep as they like.

The skippers give what follows, and take their fuel from the length of the text as the readers do.
-/

namespace Rollup

namespace Json

/-- Whether a character may stand between tokens. -/
def isSpace (c : Char) : Bool :=
  c == ' ' || c == '\t' || c == '\n' || c == '\r'

/-- Skips the characters that may stand between tokens. -/
def skipSpace (cs : List Char) : List Char :=
  cs.dropWhile isSpace

/-- The letters and signs that may follow a backslash, but for the `u` of a number. -/
def escapes : List Char := ['"', '\\', '/', 'b', 'f', 'n', 'r', 't']

/-- Skips the rest of a text whose opening quote is read. -/
def skipQuoted? : List Char → Option (List Char)
  | '"' :: r => some r
  | '\\' :: 'u' :: a :: b :: c :: d :: r =>
    if (Text.hexNumber? [a, b, c, d]).isSome then skipQuoted? r else none
  | '\\' :: e :: r => if escapes.contains e then skipQuoted? r else none
  | c :: r => if c.toNat < 32 then none else skipQuoted? r
  | [] => none

/-- Skips one of the known words. -/
def skipWord? : List Char → Option (List Char)
  | 'n' :: 'u' :: 'l' :: 'l' :: r => some r
  | 't' :: 'r' :: 'u' :: 'e' :: r => some r
  | 'f' :: 'a' :: 'l' :: 's' :: 'e' :: r => some r
  | _ => none

mutual

/-- **Skips a value** in front of a text. -/
def skipValue? : Nat → List Char → Option (List Char)
  | 0, _ => none
  | fuel + 1, cs =>
    match skipSpace cs with
    | [] => none
    | '"' :: r => skipQuoted? r
    | '[' :: r =>
      match skipSpace r with
      | ']' :: r => some r
      | r => skipItems? fuel r
    | '\x7b' :: r =>
      match skipSpace r with
      | '\x7d' :: r => some r
      | r => skipMembers? fuel r
    | c :: r =>
      if c = '-' ∨ c.isDigit then (Numeral.readParts? (c :: r)).map Prod.snd
      else skipWord? (c :: r)

/-- Skips the items of a list and its closing bracket. -/
def skipItems? : Nat → List Char → Option (List Char)
  | 0, _ => none
  | fuel + 1, cs =>
    match skipValue? fuel cs with
    | none => none
    | some r =>
      match skipSpace r with
      | ']' :: r => some r
      | ',' :: r => skipItems? fuel r
      | _ => none

/-- Skips the members of an object and its closing brace. -/
def skipMembers? : Nat → List Char → Option (List Char)
  | 0, _ => none
  | fuel + 1, cs =>
    match skipSpace cs with
    | '"' :: r =>
      match (skipQuoted? r).map skipSpace with
      | some (':' :: r) =>
        match (skipValue? fuel r).map skipSpace with
        | some ('\x7d' :: r) => some r
        | some (',' :: r) => skipMembers? fuel r
        | _ => none
      | _ => none
    | _ => none

end

end Json

end Rollup
