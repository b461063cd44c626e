import Rollup.Json.Decode
import Rollup.Proofs.Dates
import Rollup.Proofs.Numeral

/-!
# Recorded instants are read back

Records hold instants as text. The rule by which they are read is laxer than the one by which they are written:
numbers may be short, blanks may stand almost anywhere, and a year may have any number of digits if it has a sign.
What is written is read back all the same (`Instant.decode?_recorded`), the years outside 0 to 9999, the leap
seconds and all nanoseconds included.

A reader stops where the digits do. So each number is read up to the mark behind it (`Calendar.Spells`), and the
parts are put together as the text has them.
-/

namespace Rollup

/-- A digit is not blank. -/
theorem Text.isBlank_of_isDigit {c : Char} (h : c.isDigit = true) : isBlank c = false := by
  have hrange : 48 ≤ c.toNat ∧ c.toNat ≤ 57 := by
    simpa [Char.isDigit, UInt32.le_iff_toNat_le] using h
  simp only [isBlank, Bool.or_eq_false_iff, Bool.and_eq_false_iff, beq_eq_false_iff_ne, decide_eq_false_iff_not]
  omega

namespace Calendar

open Text (trimStart)

/-- **Digits that spell a number.** -/
structure Spells (digits : List Char) (n : ℕ) : Prop where
  /-- There are some. -/
  nonempty : digits ≠ []
  /-- They are digits. -/
  isDigit : ∀ c ∈ digits, c.isDigit = true
  /-- They spell the number. -/
  natOf : Literal.natOf digits = n

/-- The zeros in front of a padded number are digits as well. -/
theorem toList_padded (width n : ℕ) : (padded width n).toList
    = List.replicate (width - (Nat.toDigits 10 n).length) '0' ++ Nat.toDigits 10 n := by
  have htext : toString n = String.ofList (Nat.toDigits 10 n) := rfl
  unfold padded
  simp [htext]

/-- **A padded number spells the number.** -/
theorem spells_padded (width n : ℕ) : Spells (padded width n).toList n := by
  rw [toList_padded]
  refine ⟨by simp, ?_, ?_⟩
  · intro c hc
    rcases List.mem_append.1 hc with hzero | hdigit
    · rw [List.eq_of_mem_replicate hzero]
      rfl
    · exact Nat.isDigit_of_mem_toDigits (by decide) (by decide) hdigit
  · rw [Literal.natOf_append, Literal.natOf_replicate_zero, Literal.natOf_toDigits, Nat.zero_mul, Nat.zero_add]

/-- A number below a power of ten is padded to its exponent. -/
theorem length_padded {width n : ℕ} (hwidth : 0 < width) (h : n < 10 ^ width) :
    (padded width n).toList.length = width := by
  have hdigits : (Nat.toDigits 10 n).length ≤ width := (Nat.length_toDigits_le_iff (by decide) hwidth).2 h
  rw [toList_padded, List.length_append, List.length_replicate]
  omega

namespace Spells

variable {digits rest : List Char} {n limit : ℕ} (h : Spells digits n)
include h

/-- Nothing is trimmed in front of digits. -/
theorem trimStart_append : trimStart (digits ++ rest) = digits ++ rest := by
  obtain ⟨c, others, rfl⟩ := List.exists_cons_of_ne_nil h.nonempty
  have hblank := Text.isBlank_of_isDigit (h.isDigit c List.mem_cons_self)
  unfold trimStart
  rw [List.cons_append, List.dropWhile_cons, hblank]
  rfl

/-- **Digits are read up to the limit**, or up to the first character that is none. -/
theorem digitsUpTo_append (hlength : digits.length ≤ limit)
    (hrest : digits.length = limit ∨ ∀ c ∈ rest.head?, c.isDigit = false) :
    digitsUpTo limit (digits ++ rest) = some (n, rest) := by
  have hfront : ((digits ++ rest).take limit).takeWhile Char.isDigit = digits := by
    rw [List.take_append, List.take_of_length_le hlength, List.takeWhile_append_of_pos h.isDigit]
    rcases hrest with hlimit | hhead
    · simp [hlimit]
    · cases rest with
      | nil => simp
      | cons c others =>
        have hc := hhead c rfl
        cases limit - digits.length <;> simp [hc]
  unfold digitsUpTo
  simp [hfront, h.natOf, h.nonempty]

/-- All digits are read up to the first character that is none. -/
theorem allDigits_append (hrest : ∀ c ∈ rest.head?, c.isDigit = false) :
    allDigits (digits ++ rest) = some (n, rest) :=
  h.digitsUpTo_append (by simp) (.inr hrest)

/-- Two digits are read. -/
theorem short_append (hlength : digits.length = 2) : short (digits ++ rest) = some (n, rest) := by
  unfold short
  rw [h.trimStart_append]
  exact h.digitsUpTo_append hlength.le (.inl hlength)

/-- A fraction is read up to the first character that is no digit. -/
theorem nanoDigits_append (hlength : digits.length ≤ 9) (hrest : ∀ c ∈ rest.head?, c.isDigit = false) :
    nanoDigits (digits ++ rest) = some (n * 10 ^ (9 - digits.length), rest) := by
  unfold nanoDigits
  rw [Literal.spanDigits_append h.isDigit hrest]
  simp [h.nonempty, List.take_of_length_le hlength, h.natOf]

/-- A year of four digits is read without a sign. -/
theorem shortYear_append (hlength : digits.length = 4) :
    shortYear (digits ++ rest) = some ((n : ℤ), rest) := by
  have hread : digitsUpTo 4 (digits ++ rest) = some (n, rest) := h.digitsUpTo_append hlength.le (.inl hlength)
  have htrim : trimStart (digits ++ rest) = digits ++ rest := h.trimStart_append
  -- the reader looks for a sign in the place of the first digit
  obtain ⟨c, others, rfl⟩ := List.exists_cons_of_ne_nil h.nonempty
  have hdigit := h.isDigit c List.mem_cons_self
  have hminus : c ≠ '-' := by rintro rfl; exact absurd hdigit (by decide)
  have hplus : c ≠ '+' := by rintro rfl; exact absurd hdigit (by decide)
  unfold shortYear
  rw [htrim]
  rw [List.cons_append] at hread ⊢
  split
  · next heq => exact absurd (List.cons.inj heq).1 hminus
  · next heq => exact absurd (List.cons.inj heq).1 hplus
  · rw [hread]
    rfl

end Spells

/-- A year behind a minus. -/
theorem shortYear_minus (cs : List Char) :
    shortYear ('-' :: cs) = (allDigits cs).map fun (n, r) => (-(n : ℤ), r) := by
  have htrim : trimStart ('-' :: cs) = '-' :: cs := rfl
  unfold shortYear
  rw [htrim]
  rfl

/-- A year behind a plus. -/
theorem shortYear_plus (cs : List Char) :
    shortYear ('+' :: cs) = (allDigits cs).map fun (n, r) => ((n : ℤ), r) := by
  have htrim : trimStart ('+' :: cs) = '+' :: cs := rfl
  unfold shortYear
  rw [htrim]
  rfl

/-- A fraction behind a point. -/
theorem optionalNanos_point (cs : List Char) : optionalNanos ('.' :: cs) = nanoDigits cs := rfl

/-- A mark is read where it stands, unless it is blank. -/
theorem looseMark_cons {c : Char} (h : Text.isBlank c = false) (cs : List Char) :
    looseMark c (c :: cs) = some ((), cs) := by
  simp [looseMark, mark, trimStart, h]

/-- A number of two digits is read in front of anything. -/
theorem short_padded {n : ℕ} (h : n < 10 ^ 2) (rest : List Char) :
    short ((padded 2 n).toList ++ rest) = some (n, rest) :=
  (spells_padded 2 n).short_append (length_padded (by decide) h)

/-- A mark is read where it stands. -/
theorem mark_cons (c : Char) (cs : List Char) : mark c (c :: cs) = some ((), cs) := if_pos rfl

/-- After what was read one goes on. -/
theorem some_bind {α β : Type} (x : α) (f : α → Option β) : (some x >>= f) = f x := rfl

/-- A year ends in front of a mark. -/
theorem shortYear_yearText (year : ℤ) {rest : List Char} (hrest : ∀ c ∈ rest.head?, c.isDigit = false) :
    shortYear ((Date.yearText year).toList ++ rest) = some (year, rest) := by
  unfold Date.yearText
  split
  · next hyear =>
    have hlength : (padded 4 year.toNat).toList.length = 4 := length_padded (by decide) (by omega)
    rw [(spells_padded 4 year.toNat).shortYear_append hlength, Int.toNat_of_nonneg hyear.1]
  · next hyear =>
    have hread := (spells_padded 4 year.natAbs).allDigits_append hrest
    by_cases hsign : year < 0
    · rw [if_pos hsign]
      have hchars : ("-" ++ padded 4 year.natAbs).toList ++ rest = '-' :: ((padded 4 year.natAbs).toList ++ rest) := by
        simp
      rw [hchars, shortYear_minus, hread]
      simp only [Option.map_some, Option.some.injEq, Prod.mk.injEq, and_true]
      omega
    · rw [if_neg hsign]
      have hchars : ("+" ++ padded 4 year.natAbs).toList ++ rest = '+' :: ((padded 4 year.natAbs).toList ++ rest) := by
        simp
      rw [hchars, shortYear_plus, hread]
      simp only [Option.map_some, Option.some.injEq, Prod.mk.injEq, and_true]
      omega

/-- **A fraction is read back.** -/
theorem optionalNanos_fractionText {nanos : ℕ} (h : nanos < 10 ^ 9) :
    optionalNanos ((Instant.fractionText nanos).toList ++ ['Z']) = some (nanos, ['Z']) := by
  have hread : ∀ width n : ℕ, 0 < width → width ≤ 9 → n < 10 ^ width →
      optionalNanos (("." ++ padded width n).toList ++ ['Z']) = some (n * 10 ^ (9 - width), ['Z']) := by
    intro width n hpos hle hn
    have hlength := length_padded hpos hn
    have hchars : ("." ++ padded width n).toList ++ ['Z'] = '.' :: ((padded width n).toList ++ ['Z']) := by simp
    rw [hchars, optionalNanos_point, (spells_padded width n).nanoDigits_append (hlength.trans_le hle) (by simp), hlength]
  unfold Instant.fractionText
  split_ifs with hzero hmillis hmicros
  · rw [hzero]
    rfl
  · rw [hread 3 _ (by decide) (by decide) (by omega)]
    simp only [Option.some.injEq, Prod.mk.injEq, and_true]
    omega
  · rw [hread 6 _ (by decide) (by decide) (by omega)]
    simp only [Option.some.injEq, Prod.mk.injEq, and_true]
    omega
  · rw [hread 9 _ (by decide) (by decide) (by omega)]
    simp

end Calendar

namespace Instant

open Calendar

/-- The date on which an instant falls exists. -/
theorem isValid_date (t : Instant) : t.date.IsValid := by
  have hday : t.dayNumber = t.seconds / 86400 := Int.fdiv_eq_ediv_of_nonneg _ (by decide)
  have hrange := t.inRange
  exact Date.isValid_ofDayNumber (by omega) (by omega)

/-- **The instant of the date and the time that an instant shows** is this instant. -/
theorem instantOf?_parts (t : Instant) : instantOf? t.date.year t.date.month t.date.day
    (t.secondOfDay / 3600) (t.secondOfDay / 60 % 60) (t.secondOfDay % 60 + t.nanos / 10 ^ 9) (t.nanos % 10 ^ 9) 0
      = some t := by
  have hday : t.dayNumber = t.seconds / 86400 := Int.fdiv_eq_ediv_of_nonneg _ (by decide)
  have hsecond : t.secondOfDay = (t.seconds % 86400).toNat :=
    congrArg Int.toNat (Int.fmod_eq_emod_of_nonneg _ (by decide))
  obtain ⟨hnanos, hleap⟩ := t.nanos_valid
  have hdate : Date.ofParts? t.date.year t.date.month t.date.day = some t.date := if_pos t.isValid_date
  have hnumber : t.date.dayNumber = t.dayNumber := Date.dayNumber_ofDayNumber _
  unfold instantOf?
  rw [hdate, Option.bind_eq_bind, Option.bind_some, hnumber, if_pos (by omega)]
  -- the second 60 is shown exactly for a leap second
  by_cases hsixty : t.secondOfDay % 60 + t.nanos / 10 ^ 9 = 60
  · rw [if_pos hsixty]
    have hseconds : 86400 * t.dayNumber + 3600 * ((t.secondOfDay / 3600 : ℕ) : ℤ)
        + 60 * ((t.secondOfDay / 60 % 60 : ℕ) : ℤ) + (59 : ℕ) - 0 = t.seconds := by omega
    have hparts : t.nanos % 10 ^ 9 + 10 ^ 9 = t.nanos := by omega
    dsimp only
    rw [hseconds, hparts, ofParts?, dif_pos t.inRange, dif_pos t.nanos_valid]
  · rw [if_neg hsixty]
    have hseconds : 86400 * t.dayNumber + 3600 * ((t.secondOfDay / 3600 : ℕ) : ℤ)
        + 60 * ((t.secondOfDay / 60 % 60 : ℕ) : ℤ) + ((t.secondOfDay % 60 + t.nanos / 10 ^ 9 : ℕ) : ℤ) - 0
          = t.seconds := by omega
    have hparts : t.nanos % 10 ^ 9 = t.nanos := by omega
    dsimp only
    rw [hseconds, hparts, ofParts?, dif_pos t.inRange, dif_pos t.nanos_valid]

/-- The characters of the record form. -/
theorem toList_recorded (t : Instant) : t.recorded.toList = (Date.yearText t.date.year).toList
    ++ '-' :: ((padded 2 t.date.month).toList ++ '-' :: ((padded 2 t.date.day).toList
      ++ 'T' :: ((padded 2 (t.secondOfDay / 3600)).toList
        ++ ':' :: ((padded 2 (t.secondOfDay / 60 % 60)).toList
          ++ ':' :: ((padded 2 (t.secondOfDay % 60 + t.nanos / 10 ^ 9)).toList
            ++ ((fractionText (t.nanos % 10 ^ 9)).toList ++ ['Z'])))))) := by
  simp [recorded, secondsText, Date.render]

/-- **A recorded instant is read back.** -/
@[simp] theorem decode?_recorded (t : Instant) : decode? t.recorded = some t := by
  have hsecond : t.secondOfDay < 86400 := by
    have hfmod : t.secondOfDay = (t.seconds % 86400).toNat :=
      congrArg Int.toNat (Int.fmod_eq_emod_of_nonneg _ (by decide))
    omega
  have hmonth := t.isValid_date.month_le
  have hday := t.isValid_date.day_le
  have hnanos := t.nanos_valid.1
  have hdash := looseMark_cons (show Text.isBlank '-' = false from rfl)
  have hcolon := looseMark_cons (show Text.isBlank ':' = false from rfl)
  have hzone : looseZone (Text.trimStart ['Z']) = some (0, []) := rfl
  have hend : (Text.trimStart []).isEmpty = true := rfl
  have hmark : isDateTimeMark 'T' = true := rfl
  -- the text is read part by part, and each part has its law; the pairs in between are taken apart by `dsimp`
  unfold decode?
  rw [toList_recorded, shortYear_yearText _ (by simp), some_bind]
  dsimp only
  rw [hdash, some_bind, short_padded (by omega), some_bind]
  dsimp only
  rw [hdash, some_bind, short_padded (by omega), some_bind]
  dsimp only
  rw [if_pos hmark, some_bind, short_padded (by omega), some_bind]
  dsimp only
  rw [hcolon, some_bind, short_padded (by omega), some_bind]
  dsimp only
  rw [hcolon, some_bind, short_padded (by omega), some_bind]
  dsimp only
  rw [optionalNanos_fractionText (Nat.mod_lt _ (by decide)), some_bind]
  dsimp only
  rw [hzone, some_bind, if_pos hend]
  exact t.instantOf?_parts

end Instant

/-- An instant in a record is read back. -/
@[simp] theorem Decode.instant_toJson (t : Instant) : Decode.instant t.toJson = some t := t.decode?_recorded

end Rollup
