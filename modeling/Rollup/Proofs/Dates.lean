import Mathlib.Data.Int.Init
import Mathlib.Data.Nat.Basic
import Rollup.Calendar.Date

/-!
# Day numbers are dates

`Date.ofDayNumber` divides a count of days by the lengths of cycles and `Date.dayNumber` counts the days before
a date; they share no formula. Both are compared with the counts of days before years and before months: the year
that is found begins on or before the day and ends behind it, and so does the month. So the date of a day number
has this day number (`Date.dayNumber_ofDayNumber`), and it exists as long as its year is in range
(`Date.isValid_ofDayNumber`).
-/

namespace Rollup

namespace Date

/-! ## Years -/

/-- The length of a year. -/
def daysInYear (year : ℤ) : ℕ := if isLeap year then 366 else 365

/-- Which years are leap years. -/
theorem isLeap_iff (year : ℤ) :
    isLeap year = true ↔ year % 4 = 0 ∧ year % 100 ≠ 0 ∨ year % 400 = 0 := by
  simp [isLeap]

/-- The days before a year, in divisions of whole numbers. -/
theorem daysBeforeYear_eq (year : ℤ) : daysBeforeYear year
    = 365 * (year - 1) + (year - 1) / 4 - (year - 1) / 100 + (year - 1) / 400 := by
  unfold daysBeforeYear
  simp only [Int.fdiv_eq_ediv_of_nonneg _ (by decide : (0 : ℤ) ≤ 4),
    Int.fdiv_eq_ediv_of_nonneg _ (by decide : (0 : ℤ) ≤ 100),
    Int.fdiv_eq_ediv_of_nonneg _ (by decide : (0 : ℤ) ≤ 400)]

/-- **A year begins when the one before is over.** -/
theorem daysBeforeYear_succ (year : ℤ) :
    daysBeforeYear (year + 1) = daysBeforeYear year + daysInYear year := by
  -- each of the three cycles is one further exactly in the years that it divides
  have h4 : year / 4 = (year - 1) / 4 + if year % 4 = 0 then 1 else 0 := by split <;> omega
  have h100 : year / 100 = (year - 1) / 100 + if year % 100 = 0 then 1 else 0 := by split <;> omega
  have h400 : year / 400 = (year - 1) / 400 + if year % 400 = 0 then 1 else 0 := by split <;> omega
  have hcentury : year % 100 = 0 → year % 4 = 0 := by omega
  have hera : year % 400 = 0 → year % 100 = 0 := by omega
  rw [daysBeforeYear_eq, daysBeforeYear_eq, Int.add_sub_cancel, h4, h100, h400]
  by_cases hleap : isLeap year = true
  · rw [daysInYear, if_pos hleap]
    rw [isLeap_iff] at hleap
    split_ifs <;> omega
  · rw [daysInYear, if_neg hleap]
    rw [isLeap_iff] at hleap
    split_ifs <;> omega

/-- Years begin one after the other. -/
theorem daysBeforeYear_le {first last : ℤ} (h : first ≤ last) : daysBeforeYear first ≤ daysBeforeYear last := by
  induction last, h using Int.leInduction with
  | base => exact Int.le_refl _
  | succ year _ ih =>
    rw [daysBeforeYear_succ]
    omega

section Cycles

variable (era : ℤ) {century four one : ℕ} (hcentury : century ≤ 3) (hfour : four ≤ 24) (hone : one ≤ 3)
include hcentury hfour hone

/-- The days before a year that is given by its place in the cycles. -/
theorem daysBeforeYear_cycles : daysBeforeYear (400 * era + 100 * century + 4 * four + one + 1)
    = 146097 * era + 36524 * century + 1461 * four + 365 * one := by
  rw [daysBeforeYear_eq, Int.add_sub_cancel]
  have h4 : (400 * era + 100 * century + 4 * four + one) / 4 = 100 * era + 25 * century + four := by omega
  have h100 : (400 * era + 100 * century + 4 * four + one) / 100 = 4 * era + century := by omega
  have h400 : (400 * era + 100 * century + 4 * four + one) / 400 = era := by omega
  rw [h4, h100, h400]
  omega

/-- The leap years are the last ones of four years, but for those that are the last ones of a century and not of
four of them. -/
theorem isLeap_cycles : isLeap (400 * era + 100 * century + 4 * four + one + 1) = true
    ↔ one = 3 ∧ (four ≠ 24 ∨ century = 3) := by
  rw [isLeap_iff]
  omega

end Cycles

/-- **A day lies in its year.** -/
theorem yearOfDay_spec (n : ℤ) :
    daysBeforeYear (yearOfDay n) ≤ n ∧ n < daysBeforeYear (yearOfDay n) + daysInYear (yearOfDay n) := by
  unfold yearOfDay
  dsimp only
  rw [Int.fdiv_eq_ediv_of_nonneg _ (by decide), Int.fmod_eq_emod_of_nonneg _ (by decide)]
  have hn : n = 146097 * (n / 146097) + (n % 146097).toNat := by omega
  have hera : (n % 146097).toNat < 146097 := by omega
  generalize n / 146097 = era at hn ⊢
  generalize (n % 146097).toNat = inEra at hn hera ⊢
  -- the last day of a cycle belongs to the last of its parts, which is why the quotients are bounded by three
  generalize hcentury : min (inEra / 36524) 3 = century
  have hin : inEra - century * 36524 < 36525 ∧ century * 36524 ≤ inEra
      ∧ (century ≠ 3 → inEra - century * 36524 < 36524) := by omega
  generalize hinCentury : inEra - century * 36524 = inCentury at *
  generalize hfour : inCentury / 1461 = four
  generalize hinFour : inCentury % 1461 = inFour
  generalize hone : min (inFour / 365) 3 = one
  rw [daysBeforeYear_cycles era (by omega) (by omega) (by omega), daysInYear]
  split
  · next hleap =>
    rw [isLeap_cycles era (by omega) (by omega) (by omega)] at hleap
    omega
  · next hleap =>
    rw [isLeap_cycles era (by omega) (by omega) (by omega)] at hleap
    omega

/-- The year of a day of one of the years in range. -/
theorem yearOfDay_mem {n first last : ℤ} (hfirst : daysBeforeYear first ≤ n) (hlast : n < daysBeforeYear (last + 1)) :
    first ≤ yearOfDay n ∧ yearOfDay n ≤ last := by
  obtain ⟨hle, hlt⟩ := yearOfDay_spec n
  rw [← daysBeforeYear_succ] at hlt
  constructor
  · by_contra h
    have hmono := daysBeforeYear_le (show yearOfDay n + 1 ≤ first by omega)
    omega
  · by_contra h
    have hmono := daysBeforeYear_le (show last + 1 ≤ yearOfDay n by omega)
    omega

/-! ## Months -/

/-- A month begins when the one before is over. -/
theorem daysBeforeMonth_succ (year : ℤ) {month : ℕ} (h : 1 ≤ month) :
    daysBeforeMonth year (month + 1) = daysBeforeMonth year month + daysInMonth year month := by
  obtain ⟨before, rfl⟩ : ∃ before, month = before + 1 := ⟨month - 1, by omega⟩
  rfl

/-- The months of a year are the year. -/
theorem daysBeforeMonth_thirteen (year : ℤ) : daysBeforeMonth year 13 = daysInYear year := by
  simp only [daysBeforeMonth, daysInMonth, daysInYear]
  split <;> rfl

/-- **A day lies in its month**, in as far as there are enough months to look at. -/
theorem monthAndDay_spec (year : ℤ) {left month n : ℕ} (hmonth : 1 ≤ month)
    (hn : daysBeforeMonth year month + n < daysBeforeMonth year (month + left + 1)) :
    daysBeforeMonth year (monthAndDay year left month n).1 + (monthAndDay year left month n).2
        = daysBeforeMonth year month + n + 1
      ∧ 1 ≤ (monthAndDay year left month n).2
      ∧ (monthAndDay year left month n).2 ≤ daysInMonth year (monthAndDay year left month n).1 := by
  induction left generalizing month n with
  | zero =>
    rw [Nat.add_zero, daysBeforeMonth_succ year hmonth] at hn
    have hday : n + 1 ≤ daysInMonth year month := by omega
    exact ⟨rfl, Nat.succ_pos n, hday⟩
  | succ left ih =>
    have hnext := daysBeforeMonth_succ year hmonth
    unfold monthAndDay
    split
    · next hlt => exact ⟨rfl, Nat.succ_pos n, hlt⟩
    · next hlt =>
      have hsum : month + 1 + left + 1 = month + (left + 1) + 1 := by omega
      have hstep := @ih (month + 1) (n - daysInMonth year month) (by omega) (by rw [hsum]; omega)
      exact ⟨hstep.1.trans (by omega), hstep.2⟩

/-- No month has more than thirty-one days. -/
theorem daysInMonth_le (year : ℤ) (month : ℕ) : daysInMonth year month ≤ 31 := by
  unfold daysInMonth
  split <;> grind

/-- A number beyond twelve is no month. -/
theorem daysInMonth_of_lt (year : ℤ) {month : ℕ} (h : 12 < month) : daysInMonth year month = 0 := by
  unfold daysInMonth
  split <;> omega

/-! ## Dates -/

/-- A date has one of twelve months. -/
theorem IsValid.month_le {d : Date} (h : d.IsValid) : d.month ≤ 12 := by
  obtain ⟨-, -, hpos, hle⟩ := h
  by_contra hlt
  rw [daysInMonth_of_lt d.year (not_le.1 hlt)] at hle
  omega

/-- A date has a day of at most thirty-one. -/
theorem IsValid.day_le {d : Date} (h : d.IsValid) : d.day ≤ 31 :=
  le_trans h.2.2.2 (daysInMonth_le _ _)

/-- What finding a date finds. -/
theorem ofDayNumber_spec (number : ℤ) :
    ∃ month day, ofDayNumber number = ⟨yearOfDay (number + epochDays), month, day⟩
      ∧ daysBeforeYear (yearOfDay (number + epochDays))
          + daysBeforeMonth (yearOfDay (number + epochDays)) month + day = number + epochDays + 1
      ∧ 1 ≤ day ∧ day ≤ daysInMonth (yearOfDay (number + epochDays)) month := by
  obtain ⟨hle, hlt⟩ := yearOfDay_spec (number + epochDays)
  have hfound : ofDayNumber number = ⟨yearOfDay (number + epochDays),
      (monthAndDay (yearOfDay (number + epochDays)) 11 1
        (number + epochDays - daysBeforeYear (yearOfDay (number + epochDays))).toNat).1,
      (monthAndDay (yearOfDay (number + epochDays)) 11 1
        (number + epochDays - daysBeforeYear (yearOfDay (number + epochDays))).toNat).2⟩ := rfl
  rw [hfound]
  generalize yearOfDay (number + epochDays) = year at hle hlt ⊢
  generalize hn : (number + epochDays - daysBeforeYear year).toNat = n
  have hyear : daysBeforeMonth year 1 + n < daysBeforeMonth year (1 + 11 + 1) := by
    rw [daysBeforeMonth_thirteen]
    show 0 + n < _
    omega
  obtain ⟨hsum, hday⟩ := monthAndDay_spec year le_rfl hyear
  have hfirst : daysBeforeMonth year 1 = 0 := rfl
  refine ⟨_, _, rfl, ?_, hday⟩
  omega

/-- **The date of a day number has this day number.** -/
theorem dayNumber_ofDayNumber (number : ℤ) : (ofDayNumber number).dayNumber = number := by
  obtain ⟨month, day, hfound, hsum, -⟩ := ofDayNumber_spec number
  rw [hfound]
  unfold dayNumber
  dsimp only
  omega

/-- **The date of a day number exists**, if its year is in range. -/
theorem isValid_ofDayNumber {number : ℤ} (hfirst : -96465292 ≤ number) (hlast : number ≤ 95026236) :
    (ofDayNumber number).IsValid := by
  have hlow : daysBeforeYear (-262143) = -96465292 + epochDays := by decide
  have hhigh : daysBeforeYear (262142 + 1) = 95026236 + 1 + epochDays := by decide
  obtain ⟨hyear, hyear'⟩ := @yearOfDay_mem (number + epochDays) (-262143) 262142 (by omega) (by omega)
  obtain ⟨month, day, hfound, -, hday⟩ := ofDayNumber_spec number
  rw [hfound]
  exact ⟨hyear, hyear', hday⟩

end Date

end Rollup
