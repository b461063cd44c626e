import Mathlib.Data.String.Basic
import Rollup.Document.Sort
import Rollup.Proofs.CalendarDays

/-!
# Stored instants are ordered as texts

The stored form of an instant of the years 0 to 9999 is a row of numbers of fixed widths, the larger units in front
and the same marks between them (`Calendar.columns`). Texts of one width are ordered as their numbers are, column by
column, and the numbers as the instants: a day that comes later has a later date, and the leap second, which is the
second 60 of its minute, stands behind the fifty-ninth and before the next minute.

Such a text is read back as the instant without what is below the milliseconds (`Instant.parse?_stored`). A year
that needs a sign is written all the same, but the reader takes a sign only in front of bare dates and of times
without a zone, so that no other stored form is read.
-/

namespace Rollup

/-! ## Columns of numbers -/

namespace Literal

/-- The first digit counts for most. -/
theorem natOf_cons (c : Char) (rest : List Char) :
    natOf (c :: rest) = (c.toNat - '0'.toNat) * 10 ^ rest.length + natOf rest := by
  have hone : natOf [c] = c.toNat - '0'.toNat := by simp [natOf]
  rw [← hone, ← natOf_append]
  rfl

/-- Digits spell a number below the power of ten to their number. -/
theorem natOf_lt {digits : List Char} (h : ∀ c ∈ digits, c.isDigit = true) : natOf digits < 10 ^ digits.length := by
  induction digits with
  | nil => exact Nat.one_pos
  | cons c rest ih =>
    have hrest := ih fun other hother => h other (List.mem_cons_of_mem _ hother)
    have hc : c.toNat - '0'.toNat ≤ 9 := Nat.sub_le_sub_right (Char.isDigit_iff_toNat.1 (h c List.mem_cons_self)).2 _
    have hfirst := Nat.mul_le_mul_right (10 ^ rest.length) hc
    rw [natOf_cons, List.length_cons, pow_succ]
    omega

/-- **Digits of one width are ordered as the numbers that they spell.** -/
theorem lt_of_natOf_lt {first second : List Char} (hlength : first.length = second.length)
    (hfirst : ∀ c ∈ first, c.isDigit = true) (hsecond : ∀ c ∈ second, c.isDigit = true)
    (h : natOf first < natOf second) : first < second := by
  induction first generalizing second with
  | nil =>
    obtain rfl := List.length_eq_zero_iff.1 hlength.symm
    exact absurd h (lt_irrefl _)
  | cons c rest ih =>
    obtain ⟨d, others, rfl⟩ := List.exists_cons_of_length_eq_add_one hlength.symm
    obtain ⟨hc, hrest⟩ := List.forall_mem_cons.1 hfirst
    obtain ⟨hd, hothers⟩ := List.forall_mem_cons.1 hsecond
    have hlengths : rest.length = others.length := Nat.succ.inj hlength
    rw [natOf_cons, natOf_cons, hlengths] at h
    rw [List.cons_lt_cons_iff]
    rcases lt_trichotomy c.toNat d.toNat with hlt | heq | hgt
    · exact .inl hlt
    · rw [heq] at h
      exact .inr ⟨Char.toNat_inj.1 heq, ih hlengths hrest hothers (Nat.add_lt_add_iff_left.1 h)⟩
    · -- the digits behind cannot make up for a larger first digit
      have hzero := (Char.isDigit_iff_toNat.1 hd).1
      have hbehind := natOf_lt hothers
      have hfront := Nat.mul_le_mul_right (10 ^ others.length)
        (show d.toNat - '0'.toNat + 1 ≤ c.toNat - '0'.toNat by omega)
      rw [Nat.succ_mul] at hfront
      omega

end Literal

/-- Of texts that begin with parts of one length the smaller part decides. -/
theorem Text.append_lt_append {front front' back back' : List Char} (hlength : front.length = front'.length)
    (h : front < front' ∨ front = front' ∧ back < back') : front ++ back < front' ++ back' := by
  induction front generalizing front' with
  | nil =>
    obtain rfl := List.length_eq_zero_iff.1 hlength.symm
    exact h.elim (fun hlt => absurd hlt (List.not_lt_nil _)) And.right
  | cons a rest ih =>
    obtain ⟨b, rest', rfl⟩ := List.exists_cons_of_length_eq_add_one hlength.symm
    rw [List.cons_append, List.cons_append, List.cons_lt_cons_iff]
    rw [List.cons_lt_cons_iff, List.cons.injEq] at h
    rcases h with (hlt | ⟨rfl, hlt⟩) | ⟨⟨rfl, rfl⟩, hlt⟩
    · exact .inl hlt
    · exact .inr ⟨rfl, ih (Nat.succ.inj hlength) (.inl hlt)⟩
    · exact .inr ⟨rfl, ih rfl (.inr ⟨rfl, hlt⟩)⟩

namespace Calendar

/-- Padded numbers of one width are ordered as the numbers. -/
theorem padded_lt {width m n : ℕ} (hm : m < 10 ^ width) (hn : n < 10 ^ width) (hwidth : 0 < width) (h : m < n) :
    (padded width m).toList < (padded width n).toList := by
  have hfirst := spells_padded width m
  have hsecond := spells_padded width n
  refine Literal.lt_of_natOf_lt ?_ hfirst.isDigit hsecond.isDigit ?_
  · rw [length_padded hwidth hm, length_padded hwidth hn]
  · rwa [hfirst.natOf, hsecond.natOf]

/-- Digits are read at their width. -/
theorem Spells.digits_append {front rest : List Char} {n count : ℕ} (h : Spells front n)
    (hlength : front.length = count) : digits count (front ++ rest) = some (n, rest) := by
  have hall : front.all Char.isDigit = true := List.all_eq_true.2 h.isDigit
  unfold digits
  rw [← hlength, List.take_left, List.drop_left]
  simp [hall, h.natOf]

/-- **Numbers in columns**: each is padded to the width of its column, and a mark follows. -/
def columns : List (ℕ × Char) → List ℕ → List Char
  | (width, mark) :: layout, n :: numbers => (padded width n).toList ++ mark :: columns layout numbers
  | _, _ => []

/-- **Numbers that fit** into the columns of a layout, one into each. -/
def Fits (layout : List (ℕ × Char)) (numbers : List ℕ) : Prop :=
  List.Forall₂ (fun column n => 0 < column.1 ∧ n < 10 ^ column.1) layout numbers

/-- **Columns are ordered as their numbers**, of which the first that differ decide. -/
theorem columns_lt {layout : List (ℕ × Char)} {first second : List ℕ} (hfirst : Fits layout first)
    (hsecond : Fits layout second) (h : first < second) : columns layout first < columns layout second := by
  induction hfirst generalizing second with
  | nil =>
    cases hsecond
    exact absurd h (lt_irrefl _)
  | @cons column m layout numbers hm hrest ih =>
    cases hsecond with
    | @cons _ n _ others hn hothers =>
      have hlength : (padded column.1 m).toList.length = (padded column.1 n).toList.length := by
        rw [length_padded hm.1 hm.2, length_padded hm.1 hn.2]
      refine Text.append_lt_append hlength ?_
      rcases List.cons_lt_cons_iff.1 h with hlt | ⟨rfl, hlt⟩
      · exact .inl (padded_lt hm.2 hn.2 hm.1 hlt)
      · exact .inr ⟨rfl, List.cons_lt_cons_iff.2 (.inr ⟨rfl, ih hothers hlt⟩)⟩

end Calendar

/-! ## What is stored of an instant -/

namespace Instant

open Calendar

/-- **The instant without what is below its milliseconds.** -/
def truncated (t : Instant) : Instant where
  seconds := t.seconds
  nanos := t.nanos / 10 ^ 6 * 10 ^ 6
  inRange := t.inRange
  nanos_valid := by
    obtain ⟨hlt, hleap⟩ := t.nanos_valid
    exact ⟨by omega, fun h => hleap (by omega)⟩

/-- **A year that is written without a sign**, with four digits. -/
def HasPlainYear (t : Instant) : Prop := 0 ≤ t.date.year ∧ t.date.year ≤ 9999

instance : DecidablePred HasPlainYear := fun t => by unfold HasPlainYear; infer_instance

variable {s t : Instant}

/-- What is cut off does not change the day. -/
@[simp] theorem date_truncated (t : Instant) : t.truncated.date = t.date := rfl

/-- Nor does it change the second of the day. -/
@[simp] theorem secondOfDay_truncated (t : Instant) : t.truncated.secondOfDay = t.secondOfDay := rfl

/-- The seconds of a day are fewer than a day has. -/
theorem secondOfDay_eq (t : Instant) : (t.secondOfDay : ℤ) = t.seconds % 86400 := by
  have hfmod : t.seconds.fmod 86400 = t.seconds % 86400 := Int.fmod_eq_emod_of_nonneg _ (by decide)
  unfold secondOfDay
  rw [hfmod]
  omega

/-- **The columns of the stored form**: year, month, day, hour, minute, second and milliseconds. -/
def layout : List (ℕ × Char) :=
  [(4, '-'), (2, '-'), (2, 'T'), (2, ':'), (2, ':'), (2, '.'), (3, 'Z')]

/-- The numbers that stand in them. -/
def numbers (t : Instant) : List ℕ :=
  [t.date.year.toNat, t.date.month, t.date.day, t.secondOfDay / 3600, t.secondOfDay / 60 % 60,
    t.secondOfDay % 60 + t.nanos / 10 ^ 9, t.nanos % 10 ^ 9 / 10 ^ 6]

/-- The characters of the stored form. -/
theorem toList_stored (t : Instant) : t.stored.toList = (Date.yearText t.date.year).toList
    ++ '-' :: ((padded 2 t.date.month).toList ++ '-' :: ((padded 2 t.date.day).toList
      ++ 'T' :: ((padded 2 (t.secondOfDay / 3600)).toList
        ++ ':' :: ((padded 2 (t.secondOfDay / 60 % 60)).toList
          ++ ':' :: ((padded 2 (t.secondOfDay % 60 + t.nanos / 10 ^ 9)).toList
            ++ '.' :: ((padded 3 (t.nanos % 10 ^ 9 / 10 ^ 6)).toList ++ ['Z'])))))) := by
  simp [stored, secondsText, Date.render]

/-- **The stored form stands in columns**, if the year is plain. -/
theorem toList_stored_of_hasPlainYear (h : t.HasPlainYear) : t.stored.toList = columns layout t.numbers := by
  have hyear : Date.yearText t.date.year = padded 4 t.date.year.toNat := if_pos h
  rw [toList_stored, hyear]
  rfl

/-- The numbers fit. -/
theorem fits_numbers (h : t.HasPlainYear) : Fits layout t.numbers := by
  obtain ⟨hlow, hhigh⟩ := h
  have hmonth := t.isValid_date.month_le
  have hday := t.isValid_date.day_le
  have hsecond := t.secondOfDay_eq
  have hnanos := t.nanos_valid.1
  unfold Fits layout numbers
  simp only [List.forall₂_cons, List.forall₂_nil_right_iff, and_true]
  omega

/-- Which of two instants comes first. -/
theorem order_eq_lt_iff : s.order t = .lt ↔ s.seconds < t.seconds ∨ s.seconds = t.seconds ∧ s.nanos < t.nanos := by
  rw [order, Ordering.then_eq_lt, compare_lt_iff_lt, compare_eq_iff_eq, compare_lt_iff_lt]

/-- On a later day the date is later. -/
theorem calendar_date_lt (h : s.dayNumber < t.dayNumber) : s.date.calendar < t.date.calendar := by
  rw [← dayNumber_date, ← dayNumber_date] at h
  exact not_le.1 fun hle => absurd ((Date.dayNumber_le_iff t.isValid_date s.isValid_date).2 hle) (not_le.2 h)

/-- **Later instants have larger numbers**, if milliseconds tell them apart. -/
theorem numbers_lt (hs : s.HasPlainYear) (ht : t.HasPlainYear) (h : s.truncated.order t.truncated = .lt) :
    s.numbers < t.numbers := by
  have hyears := hs.1
  have hyears' := ht.1
  unfold numbers
  simp only [List.cons_lt_cons_iff]
  rcases lt_or_ge s.dayNumber t.dayNumber with hday | hday
  · have hdate := Date.calendar_lt_iff.1 (calendar_date_lt hday)
    omega
  · -- on one day the dates are one, and the times decide
    have hseconds := order_eq_lt_iff.1 h
    have hsecond := s.secondOfDay_eq
    have hsecond' := t.secondOfDay_eq
    have hleap := s.nanos_valid
    have hleap' := t.nanos_valid
    rw [dayNumber_eq, dayNumber_eq] at hday
    have hsame : s.dayNumber = t.dayNumber := by
      rw [dayNumber_eq, dayNumber_eq]
      simp only [truncated] at hseconds
      omega
    have hdate : s.date = t.date := congrArg Date.ofDayNumber hsame
    rw [hdate]
    simp only [truncated, lt_irrefl, false_or, true_and] at hseconds ⊢
    omega

/-- Instants that milliseconds do not tell apart have the same numbers. -/
theorem numbers_congr (h : s.truncated = t.truncated) : s.numbers = t.numbers := by
  obtain ⟨hseconds, hnanos⟩ := Instant.mk.inj h
  have hday : s.date = t.date := congrArg (fun seconds : ℤ => Date.ofDayNumber (seconds.fdiv 86400)) hseconds
  have hsecond : s.secondOfDay = t.secondOfDay := congrArg (fun seconds : ℤ => (seconds.fmod 86400).toNat) hseconds
  have hleap : s.nanos / 10 ^ 9 = t.nanos / 10 ^ 9 := by omega
  have hmillis : s.nanos % 10 ^ 9 / 10 ^ 6 = t.nanos % 10 ^ 9 / 10 ^ 6 := by omega
  unfold numbers
  rw [hday, hsecond, hleap, hmillis]

/-- Instants are told apart by the order. -/
theorem order_eq_eq_iff : s.order t = .eq ↔ s = t := by
  rw [order, Ordering.then_eq_eq, compare_eq_iff_eq, compare_eq_iff_eq]
  constructor
  · rintro ⟨hseconds, hnanos⟩
    cases s
    cases t
    obtain rfl : _ = _ := hseconds
    obtain rfl : _ = _ := hnanos
    rfl
  · rintro rfl
    exact ⟨rfl, rfl⟩

/-- Turned round, the order is the opposite one. -/
theorem order_swap (s t : Instant) : (s.order t).swap = t.order s := by
  unfold order
  rw [Ordering.swap_then, ← Std.OrientedCmp.eq_swap, ← Std.OrientedCmp.eq_swap]

/-- **Stored forms are ordered as texts in time**, as far as they tell the time. -/
theorem compare_stored (hs : s.HasPlainYear) (ht : t.HasPlainYear) :
    compare s.stored t.stored = s.truncated.order t.truncated := by
  have hlt : ∀ {s t : Instant}, s.HasPlainYear → t.HasPlainYear → s.truncated.order t.truncated = .lt →
      s.stored < t.stored := by
    intro s t hs ht h
    rw [String.lt_iff_toList_lt, toList_stored_of_hasPlainYear hs, toList_stored_of_hasPlainYear ht]
    exact columns_lt (fits_numbers hs) (fits_numbers ht) (numbers_lt hs ht h)
  cases h : s.truncated.order t.truncated with
  | lt => exact compare_lt_iff_lt.2 (hlt hs ht h)
  | eq =>
    have hchars : s.stored.toList = t.stored.toList := by
      rw [toList_stored_of_hasPlainYear hs, toList_stored_of_hasPlainYear ht, numbers_congr (order_eq_eq_iff.1 h)]
    exact compare_eq_iff_eq.2 (String.toList_inj.1 hchars)
  | gt =>
    have hswap : t.truncated.order s.truncated = .lt := by rw [← order_swap, h]; rfl
    exact compare_gt_iff_gt.2 (hlt ht hs hswap)

/-! ### Reading stored forms -/

/-- The stored form consists of digits and marks. -/
theorem isDigit_or_mem_marks {c : Char} (h : c ∈ t.stored.toList) :
    c.isDigit = true ∨ c ∈ ['-', '+', 'T', ':', '.', 'Z'] := by
  have hpadded : ∀ {width n : ℕ}, c ∈ (padded width n).toList → c.isDigit = true := fun hmem =>
    (spells_padded _ _).isDigit c hmem
  have hyear : c ∈ (Date.yearText t.date.year).toList → c.isDigit = true ∨ c = '-' ∨ c = '+' := by
    intro hmem
    have hminus : "-".toList = ['-'] := rfl
    have hplus : "+".toList = ['+'] := rfl
    unfold Date.yearText at hmem
    split_ifs at hmem
    · exact .inl (hpadded hmem)
    · rw [String.toList_append, hminus, List.mem_append, List.mem_singleton] at hmem
      exact hmem.elim (fun hsign => .inr (.inl hsign)) fun hdigit => .inl (hpadded hdigit)
    · rw [String.toList_append, hplus, List.mem_append, List.mem_singleton] at hmem
      exact hmem.elim (fun hsign => .inr (.inr hsign)) fun hdigit => .inl (hpadded hdigit)
  rw [toList_stored] at h
  simp only [List.mem_append, List.mem_cons] at h ⊢
  grind

/-- Nothing is trimmed of a stored form. -/
theorem trim_stored (t : Instant) : Text.trim t.stored = t.stored := by
  refine Text.trim_of_forall fun c hc => ?_
  rcases isDigit_or_mem_marks hc with hdigit | hmark
  · exact Text.isBlank_of_isDigit hdigit
  · have hmarks : ['-', '+', 'T', ':', '.', 'Z'].all (fun c => Text.isBlank c == false) = true := by decide
    exact beq_iff_eq.1 (List.all_eq_true.1 hmarks c hmark)

/-- The stored form is one of ASCII characters. -/
theorem toNat_le_of_mem_stored (t : Instant) : ∀ c ∈ t.stored.toList, c.toNat ≤ 127 := by
  intro c hc
  rcases isDigit_or_mem_marks hc with hdigit | hmark
  · exact (Char.isDigit_iff_toNat.1 hdigit).2.trans (by decide)
  · have hmarks : ['-', '+', 'T', ':', '.', 'Z'].all (fun c => decide (c.toNat ≤ 127)) = true := by decide
    exact of_decide_eq_true (List.all_eq_true.1 hmarks c hmark)

/-- **A stored form with a plain year is read** with all its numbers at full width. -/
theorem zoned?_stored (h : t.HasPlainYear) : zoned? t.stored.toList = some t.truncated := by
  have hfits := fits_numbers h
  unfold Fits layout numbers at hfits
  simp only [List.forall₂_cons, List.forall₂_nil_right_iff, and_true] at hfits
  have hread : ∀ {width n : ℕ} {rest : List Char}, 0 < width ∧ n < 10 ^ width →
      digits width ((padded width n).toList ++ rest) = some (n, rest) := fun hn =>
    (spells_padded _ _).digits_append (length_padded hn.1 hn.2)
  have hnanos : optionalNanos ('.' :: ((padded 3 (t.nanos % 10 ^ 9 / 10 ^ 6)).toList ++ ['Z']))
      = some (t.truncated.nanos % 10 ^ 9, ['Z']) := by
    have hmillis := hfits.2.2.2.2.2.2
    have hlength := length_padded hmillis.1 hmillis.2
    rw [optionalNanos_point, (spells_padded 3 _).nanoDigits_append (hlength.trans_le (by decide)) (by simp), hlength]
    simp only [truncated, Option.some.injEq, Prod.mk.injEq, and_true]
    omega
  have hyear : Date.yearText t.date.year = padded 4 t.date.year.toNat := if_pos h
  have hseparator : isDateTimeMark 'T' = true := rfl
  rw [toList_stored, hyear]
  unfold zoned?
  rw [hread hfits.1, some_bind]
  dsimp only
  rw [mark_cons, some_bind, hread hfits.2.1, some_bind]
  dsimp only
  rw [mark_cons, some_bind, hread hfits.2.2.1, some_bind]
  dsimp only
  rw [if_pos hseparator, some_bind, hread hfits.2.2.2.1, some_bind]
  dsimp only
  rw [mark_cons, some_bind, hread hfits.2.2.2.2.1, some_bind]
  dsimp only
  rw [mark_cons, some_bind, hread hfits.2.2.2.2.2.1, some_bind]
  dsimp only
  rw [hnanos, some_bind]
  simp only [some_bind, List.isEmpty_nil, if_true]
  -- what is read are the numbers of the instant that was cut off
  have hwhole : (t.date.year.toNat : ℤ) = t.date.year := Int.toNat_of_nonneg h.1
  have hleap : t.nanos / 10 ^ 9 = t.truncated.nanos / 10 ^ 9 := by
    simp only [truncated]
    omega
  have hparts := t.truncated.instantOf?_parts
  rw [date_truncated, secondOfDay_truncated] at hparts
  rw [hwhole, hleap]
  exact hparts

/-- A date of short numbers is read in front of every stored form. -/
theorem shortDate_stored (t : Instant) : ∃ rest,
    shortDate t.stored.toList = some ((t.date.year, t.date.month, t.date.day), 'T' :: rest) := by
  have hmonth := t.isValid_date.month_le
  have hday := t.isValid_date.day_le
  unfold shortDate
  rw [toList_stored, shortYear_yearText _ (by simp), some_bind]
  dsimp only
  rw [mark_cons, some_bind, short_padded (by omega), some_bind]
  dsimp only
  rw [mark_cons, some_bind, short_padded (by omega), some_bind]
  exact ⟨_, rfl⟩

/-- **A stored form with another year is read in none of the three ways.** -/
theorem parse?_stored_of_not_hasPlainYear (h : ¬ t.HasPlainYear) : parse? t.stored = none := by
  have hzoned : zoned? t.stored.toList = none := by
    have hyear : Date.yearText t.date.year
        = (if t.date.year < 0 then "-" else "+") ++ padded 4 t.date.year.natAbs := if_neg h
    have hsign : ∃ c rest, t.stored.toList = c :: rest ∧ c.isDigit = false := by
      rw [toList_stored, hyear, String.toList_append]
      split_ifs
      · exact ⟨'-', _, rfl, rfl⟩
      · exact ⟨'+', _, rfl, rfl⟩
    obtain ⟨c, rest, hchars, hc⟩ := hsign
    have hnone : digits 4 (c :: rest) = none := by simp [digits, hc]
    unfold zoned?
    rw [hchars, hnone]
    rfl
  obtain ⟨rest, hdate⟩ := t.shortDate_stored
  have hunzoned : unzoned? t.stored.toList = none := by
    have hnone : short ('T' :: rest) = none := by simp [short, Text.trimStart, Text.isBlank, digitsUpTo]
    unfold unzoned?
    rw [hdate, some_bind]
    dsimp only
    rw [hnone]
    rfl
  have hdateOnly : dateOnly? t.stored.toList = none := by
    unfold dateOnly?
    rw [hdate]
    rfl
  unfold parse?
  dsimp only
  rw [trim_stored, hzoned, hunzoned, hdateOnly]
  rfl

/-- **What is read of a stored form**: the instant without what is below its milliseconds, if its year is plain, and
else nothing. -/
theorem parse?_stored (t : Instant) : parse? t.stored = if t.HasPlainYear then some t.truncated else none := by
  split
  · next h =>
    unfold parse?
    dsimp only
    rw [trim_stored, zoned?_stored h]
    rfl
  · next h => exact parse?_stored_of_not_hasPlainYear h

/-- What is cut off once is cut off. -/
@[simp] theorem truncated_truncated (t : Instant) : t.truncated.truncated = t.truncated := by
  simp [truncated]

/-- **Stored forms show the milliseconds only.** -/
@[simp] theorem stored_truncated (t : Instant) : t.truncated.stored = t.stored := by
  have hmillis : t.truncated.nanos % 10 ^ 9 / 10 ^ 6 = t.nanos % 10 ^ 9 / 10 ^ 6 := by
    simp only [truncated]
    omega
  have hleap : t.truncated.nanos / 10 ^ 9 = t.nanos / 10 ^ 9 := by
    simp only [truncated]
    omega
  unfold stored secondsText
  rw [hmillis, hleap, date_truncated, secondOfDay_truncated]

end Instant

/-! ### Texts as bytes -/

namespace Text

/-- **The bytes of a text**, in UTF-8. -/
def bytes (s : String) : List UInt8 := s.toUTF8.data.toList

/-- A text of ASCII characters has one byte for each. -/
theorem bytes_eq_map {s : String} (h : ∀ c ∈ s.toList, c.toNat ≤ 127) :
    bytes s = s.toList.map fun c => UInt8.ofNat c.toNat := by
  have hutf8 : bytes s = s.toList.flatMap String.utf8EncodeChar := by
    unfold bytes
    rw [← s.ofList_toList]
    show (String.ofList s.toList).toByteArray.data.toList = _
    rw [String.toByteArray_ofList, String.toList_ofList]
    simp [List.utf8Encode]
  rw [hutf8, List.map_eq_flatMap]
  exact List.flatMap_congr fun c hc => if_pos (h c hc)

/-- **Texts of ASCII characters are ordered as their bytes.** -/
theorem bytes_lt {s t : String} (hs : ∀ c ∈ s.toList, c.toNat ≤ 127) (ht : ∀ c ∈ t.toList, c.toNat ≤ 127)
    (h : s < t) : bytes s < bytes t := by
  rw [String.lt_iff_toList_lt] at h
  rw [bytes_eq_map hs, bytes_eq_map ht]
  generalize s.toList = front at hs h
  generalize t.toList = front' at ht h
  induction front generalizing front' with
  | nil =>
    cases front' with
    | nil => exact absurd h (List.not_lt_nil _)
    | cons d others => exact List.nil_lt_cons _ _
  | cons c rest ih =>
    cases front' with
    | nil => exact absurd h (List.not_lt_nil _)
    | cons d others =>
      obtain ⟨hc, hrest⟩ := List.forall_mem_cons.1 hs
      obtain ⟨hd, hothers⟩ := List.forall_mem_cons.1 ht
      rw [List.map_cons, List.map_cons, List.cons_lt_cons_iff]
      rcases List.cons_lt_cons_iff.1 h with hlt | ⟨rfl, hlt⟩
      · refine .inl (UInt8.lt_iff_toNat_lt.2 ?_)
        have hnat : c.toNat < d.toNat := hlt
        rw [UInt8.toNat_ofNat', UInt8.toNat_ofNat']
        omega
      · exact .inr ⟨rfl, ih hrest others hothers hlt⟩

end Text

namespace Instant

variable {s t : Instant}

/-- Which of two instants comes no later. -/
theorem isLE_order_iff : (s.order t).isLE ↔ s.seconds < t.seconds ∨ s.seconds = t.seconds ∧ s.nanos ≤ t.nanos := by
  rw [order, Ordering.isLE_then_iff_or, compare_lt_iff_lt, compare_eq_iff_eq, Nat.isLE_compare]

/-- The order in time of what milliseconds show. -/
theorem isLE_order_truncated (h : (s.order t).isLE) : (s.truncated.order t.truncated).isLE := by
  rw [isLE_order_iff] at h ⊢
  simp only [truncated]
  omega

/-- Later instants have larger texts, if milliseconds tell them apart. -/
theorem bytes_stored_lt (hs : s.HasPlainYear) (ht : t.HasPlainYear) (h : s.truncated.order t.truncated = .lt) :
    Text.bytes s.stored < Text.bytes t.stored :=
  Text.bytes_lt s.toNat_le_of_mem_stored t.toNat_le_of_mem_stored (compare_lt_iff_lt.1 ((compare_stored hs ht).trans h))

/-- **Rows are sorted by a column of stored instants** as by the instants, in as far as these are stored. -/
theorem sort_stored {path : String} {time : Json → Instant} {rows : List Json}
    (h : ∀ row ∈ rows, (time row).HasPlainYear ∧ Document.get? path row = some (.string (time row).stored)) :
    Document.sort [.ascending path] rows
      = rows.mergeSort fun a b => ((time a).truncated.order (time b).truncated).isLE := by
  have hsort : Document.sort [.ascending path] rows
      = rows.mergeSort fun a b => (Document.order [.ascending path] a b).isLE := rfl
  have hsame : ∀ a ∈ rows, ∀ b ∈ rows, (Document.order [.ascending path] a b).isLE
      = ((time (id a)).truncated.order (time (id b)).truncated).isLE := by
    intro a ha b hb
    obtain ⟨hyear, hcell⟩ := h a ha
    obtain ⟨hyear', hcell'⟩ := h b hb
    have horder : Document.order [.ascending path] a b
        = (Json.order? (Document.get? path a) (Document.get? path b)).then .eq := rfl
    rw [horder, hcell, hcell', Ordering.then_eq]
    exact congrArg Ordering.isLE (compare_stored hyear hyear')
  have hmap := List.map_mergeSort (r := fun a b => (Document.order [.ascending path] a b).isLE)
    (s := fun a b => ((time a).truncated.order (time b).truncated).isLE) hsame
  rwa [List.map_id, List.map_id, ← hsort] at hmap

/-- **Stored instants are read back and are ordered as texts.** An instant with a year of 0 to 9999 is read back from
its stored form without what is below its milliseconds. Of two of them the stored form of the one that comes later is
no smaller byte by byte, and it is larger if milliseconds tell the two apart. So rows that are sorted by a column of
stored instants are sorted in time. -/
theorem stored_faithful :
    (∀ t : Instant, t.HasPlainYear → parse? t.stored = some t.truncated)
      ∧ (∀ s t : Instant, s.HasPlainYear → t.HasPlainYear → (s.order t).isLE →
        Text.bytes s.stored ≤ Text.bytes t.stored
          ∧ (s.truncated ≠ t.truncated → Text.bytes s.stored < Text.bytes t.stored))
      ∧ ∀ (path : String) (time : Json → Instant) (rows : List Json),
        (∀ row ∈ rows, (time row).HasPlainYear ∧ Document.get? path row = some (.string (time row).stored)) →
        Document.sort [.ascending path] rows
          = rows.mergeSort fun a b => ((time a).truncated.order (time b).truncated).isLE := by
  refine ⟨fun t ht => (parse?_stored t).trans (if_pos ht), fun s t hs ht h => ?_, fun path time rows h => sort_stored h⟩
  have hle := isLE_order_truncated h
  cases horder : s.truncated.order t.truncated with
  | lt =>
    have hlt := bytes_stored_lt hs ht horder
    exact ⟨List.le_of_lt hlt, fun _ => hlt⟩
  | eq =>
    have hsame := order_eq_eq_iff.1 horder
    rw [← stored_truncated s, ← stored_truncated t, hsame]
    exact ⟨List.le_refl _, fun hne => absurd rfl hne⟩
  | gt => exact absurd (horder ▸ hle) nofun

/-! ### A leap second -/

/-- Half a second, and a bit more, into the leap second at the end of 2016. -/
def leapSecond : Instant := ⟨1483228799, 1500000001, by decide, by decide⟩

/-- The beginning of 2017. -/
def newYear : Instant := ⟨1483228800, 0, by decide, by decide⟩

/-- A note of an instant. -/
def noteOf (t : Instant) : Json := .object [("at", .string t.stored)]

/-- When a note was taken. -/
def takenAt (note : Json) : Instant :=
  if (Document.get? "at" note).bind Json.asString? = some leapSecond.stored then leapSecond else newYear

/-- **The leap second** is the last one of its year, as an instant and as a text. -/
theorem stored_leapSecond : leapSecond.HasPlainYear ∧ newYear.HasPlainYear
    ∧ leapSecond.stored = "2016-12-31T23:59:60.500Z" ∧ newYear.stored = "2017-01-01T00:00:00.000Z"
    ∧ parse? leapSecond.stored = some leapSecond.truncated
    ∧ Text.bytes leapSecond.stored < Text.bytes newYear.stored
    ∧ Document.sort [.ascending "at"] [noteOf newYear, noteOf leapSecond] = [noteOf leapSecond, noteOf newYear] := by
  have hleap : leapSecond.HasPlainYear := by decide
  have hyear : newYear.HasPlainYear := by decide
  obtain ⟨hread, hordered, hsorted⟩ := stored_faithful
  refine ⟨hleap, hyear, by decide +kernel, by decide +kernel, hread _ hleap, ?_, ?_⟩
  · exact (hordered _ _ hleap hyear (by decide)).2 (by decide)
  · have hnewYear : takenAt (noteOf newYear) = newYear := by decide +kernel
    have hleapSecond : takenAt (noteOf leapSecond) = leapSecond := by decide +kernel
    have hnotes : ∀ note ∈ [noteOf newYear, noteOf leapSecond],
        (takenAt note).HasPlainYear ∧ Document.get? "at" note = some (.string (takenAt note).stored) := by
      simp only [List.forall_mem_cons, List.not_mem_nil, false_implies, implies_true, and_true, hnewYear, hleapSecond]
      exact ⟨⟨hyear, rfl⟩, hleap, rfl⟩
    have hlater : (newYear.truncated.order leapSecond.truncated).isLE = false := by decide
    rw [hsorted "at" takenAt _ hnotes]
    simp [List.mergeSort, hnewYear, hleapSecond, hlater]

end Instant

end Rollup
