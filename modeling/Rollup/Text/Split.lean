import Rollup.Text.Blank

/-!
# Cutting texts apart

Paths, lists and qualified names are texts cut at a separating character. `split` keeps every part,
also empty ones, so that a text without the separator is its own only part; `splitList` is the typed
list of ids, trimmed and without empty entries.
-/

namespace Rollup.Text

/-- The parts between separators; there is always at least one. -/
def splitChars (separator : Char) : List Char → List (List Char)
  | [] => [[]]
  | c :: rest =>
    match splitChars separator rest with
    | [] => [[c]]
    | part :: parts => if c = separator then [] :: part :: parts else (c :: part) :: parts

/-- **The parts of a text between separators**, empty ones included. -/
def split (separator : Char) (s : String) : List String :=
  (splitChars separator s.toList).map String.ofList

/-- The parts before and behind the first separator, if there is one. -/
def splitFirst? (separator : Char) (s : String) : Option (String × String) :=
  let cs := s.toList
  match cs.dropWhile (· ≠ separator) with
  | [] => none
  | _ :: rest => some (String.ofList (cs.takeWhile (· ≠ separator)), String.ofList rest)

/-- **A typed list**: the parts between commas, trimmed, the empty ones left out. -/
def splitList (s : String) : List String :=
  ((split ',' s).map trim).filter fun part => !part.isEmpty

/-- Whether characters occur within others. -/
def containsChars (part : List Char) : List Char → Bool
  | [] => part.isEmpty
  | c :: rest => part.isPrefixOf (c :: rest) || containsChars part rest

/-- **Whether a text occurs within another**; the empty text occurs in every one. -/
def contains (part s : String) : Bool :=
  containsChars part.toList s.toList

/-- The whole number that a text spells: an optional sign and at least one digit. -/
def parseInt? (s : String) : Option Int :=
  let (negative, digits) := match s.toList with
    | '-' :: r => (true, r)
    | '+' :: r => (false, r)
    | r => (false, r)
  if digits.isEmpty || !digits.all Char.isDigit then none
  else
    let n : Int := digits.foldl (fun n c => 10 * n + (c.toNat - '0'.toNat : Nat)) 0
    some (if negative then -n else n)

/-- A text always has a part. -/
theorem splitChars_ne_nil (separator : Char) (cs : List Char) : splitChars separator cs ≠ [] := by
  cases cs with
  | nil => simp [splitChars]
  | cons c rest => rw [splitChars]; split <;> try split
                   all_goals simp

end Rollup.Text
