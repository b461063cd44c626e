/-!
# Blank characters and trimming

Texts that people type – numbers, dates, lists of users – arrive with blanks around them. A
**blank** is any of the twenty-five characters with the `White_Space` property, not only the ASCII
ones, and `trim` cuts them at both ends.

The statements below say what cutting at the front does: it removes blanks only, and what is left
does not start with one.
-/

namespace Rollup.Text

/-- **The blank characters**: tab to carriage return, space, next line, no-break space, and the
space, line and paragraph separators beyond Latin-1. -/
def isBlank (c : Char) : Bool :=
  let n := c.toNat
  (9 ≤ n && n ≤ 13) || n == 0x20 || n == 0x85 || n == 0xA0 || n == 0x1680
    || (0x2000 ≤ n && n ≤ 0x200A) || n == 0x2028 || n == 0x2029 || n == 0x202F
    || n == 0x205F || n == 0x3000

/-- Characters without the blanks in front. -/
def trimStart (cs : List Char) : List Char :=
  cs.dropWhile isBlank

/-- Characters without the blanks behind. -/
def trimEnd (cs : List Char) : List Char :=
  (cs.reverse.dropWhile isBlank).reverse

/-- **Trimming** cuts the blanks at both ends of a text. -/
def trim (s : String) : String :=
  String.ofList (trimEnd (trimStart s.toList))

/-- Every character that core calls whitespace is blank. -/
theorem isBlank_of_isWhitespace {c : Char} (h : c.isWhitespace = true) : isBlank c = true := by
  simp only [Char.isWhitespace, Bool.or_eq_true, decide_eq_true_eq] at h
  rcases h with ((h | h) | h) | h <;> subst h <;> rfl

/-- What is left after trimming the front does not start with a blank. -/
theorem trimStart_head (cs : List Char) (c : Char) (r : List Char)
    (h : trimStart cs = c :: r) : isBlank c = false := by
  have := List.head?_dropWhile_not isBlank cs
  rw [trimStart] at h
  rw [h] at this
  simpa using this

/-- Trimming the front twice is trimming it once. -/
@[simp] theorem trimStart_trimStart (cs : List Char) : trimStart (trimStart cs) = trimStart cs := by
  cases h : trimStart cs with
  | nil => rfl
  | cons c r => rw [trimStart, List.dropWhile_cons, trimStart_head cs c r h]; rfl

end Rollup.Text
