import Rollup.Decimal.Shortest
import Rollup.Proofs.Double

/-!
# The shortest decimal identifies the double

The reals that round to a double form an interval around it (`Binary.Rounds`). The intervals of two doubles
meet in one point at most, an end of both, and of two neighbours only one has an even mantissa; so no real
rounds to two doubles (`Binary.Rounds.unique`).

The search for the shortest decimal ends on a grid that has a point in the interval. Seventeen digits are
enough: there the grid is so fine, against the width of the interval, that the nearer neighbour of the value
falls inside. What the search returns therefore rounds back to the double (`Decimal.rounds_shortest`).
-/

namespace Rollup

namespace Binary

/-- The lower end of the interval, on the side where the doubles may lie denser. -/
def lower (b : Binary) : ℚ :=
  (b.mantissa - if b.narrowBelow then 1 / 4 else 1 / 2) * 2 ^ b.exponent

/-- The upper end of the interval. -/
def upper (b : Binary) : ℚ :=
  (b.mantissa + 1 / 2) * 2 ^ b.exponent

/-- **A real rounds to a fraction**: it lies between the ends, and on one only if the mantissa is even. -/
structure Rounds (b : Binary) (x : ℚ) : Prop where
  lower_le : b.lower ≤ x
  le_upper : x ≤ b.upper
  strict : b.mantissa % 2 = 1 → b.lower < x ∧ x < b.upper

/-- Twice a power is the next one. -/
theorem two_zpow_succ (e : ℤ) : (2 : ℚ) ^ (e + 1) = 2 * 2 ^ e := by
  rw [zpow_add_one₀ (two_ne_zero' ℚ), mul_comm]

/-- A fraction with a bare leading bit is narrow below, unless its exponent is the lowest. -/
theorem narrowBelow_iff (b : Binary) :
    b.narrowBelow = true ↔ b.mantissa = 2 ^ 52 ∧ -1074 < b.exponent := by
  unfold narrowBelow
  rw [Bool.and_eq_true, beq_iff_eq, decide_eq_true_iff, gt_iff_lt]

/-- With one exponent, the intervals lie in the order of the mantissas. -/
theorem upper_le_lower_of_mantissa_lt {a b : Binary} (he : a.exponent = b.exponent)
    (hm : a.mantissa < b.mantissa) :
    a.upper ≤ b.lower ∧ (a.upper = b.lower → a.mantissa % 2 = 1 ∨ b.mantissa % 2 = 1) := by
  have hw := two_zpow_pos b.exponent
  have hcast : (a.mantissa : ℚ) + 1 ≤ b.mantissa := by exact_mod_cast hm
  unfold upper lower
  rw [he]
  constructor
  · refine mul_le_mul_of_nonneg_right ?_ hw.le
    split <;> linarith
  · intro heq
    have hmid := mul_right_cancel₀ hw.ne' heq
    by_contra hpar
    have hfar : (a.mantissa : ℚ) + 2 ≤ b.mantissa := by
      exact_mod_cast (by omega : a.mantissa + 2 ≤ b.mantissa)
    split at hmid <;> linarith

/-- With different exponents, the intervals lie in the order of the exponents. -/
theorem upper_le_lower_of_exponent_lt {a b : Binary} (ha : a.Canonical) (hb : b.Canonical)
    (he : a.exponent < b.exponent) :
    a.upper ≤ b.lower ∧ (a.upper = b.lower → a.mantissa % 2 = 1 ∨ b.mantissa % 2 = 1) := by
  have hlow : -1074 < b.exponent := lt_of_le_of_lt ha.lowest_le he
  have hw := two_zpow_pos a.exponent
  have hman : (a.mantissa : ℚ) + 1 ≤ 2 ^ 53 := by exact_mod_cast ha.mantissa_lt
  have hstep : 2 * (2 : ℚ) ^ a.exponent ≤ 2 ^ b.exponent := by
    rw [← two_zpow_succ]
    exact zpow_le_zpow_right₀ one_le_two he
  rcases (hb.full hlow).eq_or_lt with hbare | hmore
  · have hnarrow : b.lower = (2 ^ 52 - 1 / 4) * 2 ^ b.exponent := by
      unfold lower
      rw [if_pos ((narrowBelow_iff b).2 ⟨hbare.symm, hlow⟩), ← hbare]
      norm_num
    have hmid : a.upper ≤ (2 ^ 53 - 1 / 2) * 2 ^ a.exponent :=
      mul_le_mul_of_nonneg_right (by linarith) hw.le
    have hend : (2 ^ 53 - 1 / 2) * (2 : ℚ) ^ a.exponent ≤ b.lower := by
      rw [hnarrow]
      linarith
    refine ⟨hmid.trans hend, fun heq => Or.inl ?_⟩
    have hlast : a.upper = (2 ^ 53 - 1 / 2) * 2 ^ a.exponent := le_antisymm hmid (heq ▸ hend)
    have hmax : (a.mantissa : ℚ) + 1 = 2 ^ 53 := by
      have := mul_right_cancel₀ hw.ne' hlast
      linarith
    have hmaxNat : a.mantissa + 1 = 2 ^ 53 := by exact_mod_cast hmax
    omega
  · have hbman : (2 : ℚ) ^ 52 + 1 ≤ b.mantissa := by exact_mod_cast hmore
    have hstrict : a.upper < b.lower := by
      unfold upper lower
      rw [if_neg fun h => hmore.ne' ((narrowBelow_iff b).1 h).1]
      calc (a.mantissa + 1 / 2) * (2 : ℚ) ^ a.exponent
          < (2 ^ 52 + 1 / 2) * (2 * 2 ^ a.exponent) := by nlinarith
        _ ≤ (2 ^ 52 + 1 / 2) * 2 ^ b.exponent :=
            mul_le_mul_of_nonneg_left hstep (by norm_num)
        _ ≤ (b.mantissa - 1 / 2) * 2 ^ b.exponent :=
            mul_le_mul_of_nonneg_right (by linarith) (two_zpow_pos _).le
    exact ⟨hstrict.le, fun heq => absurd heq hstrict.ne⟩

/-- Intervals that touch do not share their end: one of the mantissas is odd. -/
theorem Rounds.not_both {a b : Binary} {x : ℚ} (hax : a.Rounds x) (hbx : b.Rounds x)
    (h : a.upper ≤ b.lower ∧ (a.upper = b.lower → a.mantissa % 2 = 1 ∨ b.mantissa % 2 = 1)) :
    False := by
  have heq : a.upper = b.lower := le_antisymm h.1 (hbx.lower_le.trans hax.le_upper)
  rcases h.2 heq with hodd | hodd
  · exact absurd ((hax.strict hodd).2) (not_lt.2 (heq ▸ hbx.lower_le))
  · exact absurd ((hbx.strict hodd).1) (not_lt.2 (heq ▸ hax.le_upper))

/-- **No real rounds to two fractions.** -/
theorem Rounds.unique {a b : Binary} {x : ℚ} (ha : a.Canonical) (hb : b.Canonical)
    (hax : a.Rounds x) (hbx : b.Rounds x) :
    a.mantissa = b.mantissa ∧ a.exponent = b.exponent := by
  rcases lt_trichotomy a.exponent b.exponent with he | he | he
  · exact (hax.not_both hbx (upper_le_lower_of_exponent_lt ha hb he)).elim
  · rcases lt_trichotomy a.mantissa b.mantissa with hm | hm | hm
    · exact (hax.not_both hbx (upper_le_lower_of_mantissa_lt he hm)).elim
    · exact ⟨hm, he⟩
    · exact (hbx.not_both hax (upper_le_lower_of_mantissa_lt he.symm hm)).elim
  · exact (hbx.not_both hax (upper_le_lower_of_exponent_lt hb ha he)).elim

end Binary

namespace Decimal

/-- **The number that a decimal stands for.** -/
def value (d : Decimal) : ℚ := d.digits * 10 ^ d.exponent

/-! ## The interval on common scales -/

/-- A whole power of a base is a quotient of two natural ones. -/
theorem zpow_eq_div {base : ℕ} (h : base ≠ 0) (k : ℤ) :
    (base : ℚ) ^ k = (base ^ k.toNat : ℕ) / (base ^ (-k).toNat : ℕ) := by
  have hb : (base : ℚ) ≠ 0 := Nat.cast_ne_zero.2 h
  rcases le_total 0 k with hk | hk
  · obtain ⟨n, rfl⟩ := Int.eq_ofNat_of_zero_le hk
    simp
  · obtain ⟨n, hn⟩ := Int.eq_ofNat_of_zero_le (Int.neg_nonneg_of_nonpos hk)
    obtain rfl : k = -n := by omega
    simp

/-- An interval multiplied with a number. -/
def Interval.scaleBy (i : Interval) (factor : ℕ) : Interval where
  value := i.value * factor
  low := i.low * factor
  high := i.high * factor
  unit := i.unit
  closed := i.closed

/-- The common denominator is positive. -/
theorem unit_pos (b : Binary) : 0 < (intervalOf b).unit := Nat.two_pow_pos _

/-- A quarter of the last place on the common scale. -/
theorem scale_div_unit (b : Binary) :
    ((2 ^ (b.exponent - 2).toNat : ℕ) : ℚ) / (intervalOf b).unit = 2 ^ b.exponent / 4 := by
  have h := zpow_eq_div two_ne_zero (b.exponent - 2)
  rw [show -(b.exponent - 2) = 2 - b.exponent by ring] at h
  show ((2 ^ (b.exponent - 2).toNat : ℕ) : ℚ) / (2 ^ (2 - b.exponent).toNat : ℕ) = _
  rw [← h, Nat.cast_two, zpow_sub₀ two_ne_zero]
  norm_num

/-- The value on the common scale. -/
theorem value_div_unit (b : Binary) :
    ((intervalOf b).value : ℚ) / (intervalOf b).unit = b.size := by
  have h := scale_div_unit b
  show ((4 * b.mantissa * 2 ^ (b.exponent - 2).toNat : ℕ) : ℚ) / _ = b.mantissa * 2 ^ b.exponent
  rw [Nat.cast_mul, mul_div_assoc, h]
  push_cast
  ring

/-- The lower end on the common scale. -/
theorem low_div_unit {b : Binary} (hm : b.mantissa ≠ 0) :
    ((intervalOf b).low : ℚ) / (intervalOf b).unit = b.lower := by
  have h := scale_div_unit b
  show (((4 * b.mantissa - if b.narrowBelow then 1 else 2) * 2 ^ (b.exponent - 2).toNat : ℕ) : ℚ) / _
    = (b.mantissa - if b.narrowBelow then 1 / 4 else 1 / 2) * 2 ^ b.exponent
  rw [Nat.cast_mul, mul_div_assoc, h]
  split <;> rw [Nat.cast_sub (by omega)] <;> push_cast <;> ring

/-- The upper end on the common scale. -/
theorem high_div_unit (b : Binary) :
    ((intervalOf b).high : ℚ) / (intervalOf b).unit = b.upper := by
  have h := scale_div_unit b
  show (((4 * b.mantissa + 2) * 2 ^ (b.exponent - 2).toNat : ℕ) : ℚ) / _
    = (b.mantissa + 1 / 2) * 2 ^ b.exponent
  rw [Nat.cast_mul, mul_div_assoc, h]
  push_cast
  ring

/-- **The test of the search is the rounding of the real.** -/
theorem scaleBy_holds_iff {b : Binary} (hm : b.mantissa ≠ 0) {factor : ℕ} (hf : 0 < factor)
    (numerator : ℕ) :
    ((intervalOf b).scaleBy factor).holds numerator = true
      ↔ b.Rounds (numerator / ((intervalOf b).unit * factor)) := by
  have hu : (0 : ℚ) < (intervalOf b).unit := Nat.cast_pos.2 (unit_pos b)
  have hfq : (0 : ℚ) < factor := Nat.cast_pos.2 hf
  have hlow : ∀ n : ℕ, b.lower ≤ n / ((intervalOf b).unit * factor)
      ↔ (intervalOf b).low * factor ≤ n := by
    intro n
    rw [← low_div_unit hm, le_div_iff₀ (mul_pos hu hfq), ← mul_assoc, div_mul_cancel₀ _ hu.ne']
    exact_mod_cast Iff.rfl
  have hhigh : ∀ n : ℕ, (n : ℚ) / ((intervalOf b).unit * factor) ≤ b.upper
      ↔ n ≤ (intervalOf b).high * factor := by
    intro n
    rw [← high_div_unit, div_le_iff₀ (mul_pos hu hfq), ← mul_assoc, div_mul_cancel₀ _ hu.ne']
    exact_mod_cast Iff.rfl
  have hlow' : ∀ n : ℕ, b.lower < n / ((intervalOf b).unit * factor)
      ↔ (intervalOf b).low * factor < n := by
    intro n
    rw [← low_div_unit hm, lt_div_iff₀ (mul_pos hu hfq), ← mul_assoc, div_mul_cancel₀ _ hu.ne']
    exact_mod_cast Iff.rfl
  have hhigh' : ∀ n : ℕ, (n : ℚ) / ((intervalOf b).unit * factor) < b.upper
      ↔ n < (intervalOf b).high * factor := by
    intro n
    rw [← high_div_unit, div_lt_iff₀ (mul_pos hu hfq), ← mul_assoc, div_mul_cancel₀ _ hu.ne']
    exact_mod_cast Iff.rfl
  show (if (b.mantissa % 2 == 0) = true then
      decide ((intervalOf b).low * factor ≤ numerator)
        && decide (numerator ≤ (intervalOf b).high * factor)
    else decide ((intervalOf b).low * factor < numerator)
        && decide (numerator < (intervalOf b).high * factor)) = true ↔ _
  by_cases heven : b.mantissa % 2 = 0
  · rw [if_pos (beq_iff_eq.2 heven), Bool.and_eq_true, decide_eq_true_iff, decide_eq_true_iff,
      ← hlow, ← hhigh]
    exact ⟨fun h => ⟨h.1, h.2, fun hodd => by omega⟩, fun h => ⟨h.lower_le, h.le_upper⟩⟩
  · rw [if_neg (mt beq_iff_eq.1 heven), Bool.and_eq_true, decide_eq_true_iff, decide_eq_true_iff,
      ← hlow', ← hhigh']
    exact ⟨fun h => ⟨h.1.le, h.2.le, fun _ => h⟩, fun h => h.strict (by omega)⟩

/-! ## The grid -/

/-- Which neighbour of the value a grid step gives, when it is known which of them are hits. -/
def nearer (tie : Tie) (below above : Bool) (rest step d : ℕ) : Option ℕ :=
  if below && above then
    if rest < step then some d
    else if step < rest then some (d + 1)
    else match tie with
      | .toEven => some (if d % 2 = 0 then d else d + 1)
      | .up => some (d + 1)
  else if below then some d
  else if above then some (d + 1)
  else none

/-- A grid step gives a hit, and gives one if there is any. -/
theorem nearer_spec (tie : Tie) (below above : Bool) (rest step d : ℕ) :
    match nearer tie below above rest step d with
    | some e => e = d ∧ below = true ∨ e = d + 1 ∧ above = true
    | none => below = false ∧ above = false := by
  unfold nearer
  cases below <;> cases above
  · exact ⟨rfl, rfl⟩
  · exact Or.inr ⟨rfl, rfl⟩
  · exact Or.inl ⟨rfl, rfl⟩
  · rw [if_pos (by rfl)]
    split_ifs
    · exact Or.inl ⟨rfl, rfl⟩
    · exact Or.inr ⟨rfl, rfl⟩
    · cases tie
      · exact Or.inl ⟨rfl, rfl⟩
      · exact Or.inr ⟨rfl, rfl⟩
    · cases tie <;> exact Or.inr ⟨rfl, rfl⟩

/-- The largest grid point that is not above the value. -/
def floorPoint (b : Binary) (k : ℤ) : ℕ :=
  ((intervalOf b).value * 10 ^ (-k).toNat) / ((intervalOf b).unit * 10 ^ k.toNat)

section Grid

variable {b : Binary} (hm : b.mantissa ≠ 0) (tie : Tie) (k : ℤ)
include hm

/-- A point of the grid, on the common scale, is tested for rounding to the value. -/
theorem holds_gridPoint (d : ℕ) :
    ((intervalOf b).scaleBy (10 ^ (-k).toNat)).holds (d * ((intervalOf b).unit * 10 ^ k.toNat)) = true
      ↔ b.Rounds (d * 10 ^ k) := by
  have hu : ((intervalOf b).unit : ℚ) ≠ 0 := Nat.cast_ne_zero.2 (unit_pos b).ne'
  have h10 : (10 : ℚ) ^ k = (10 ^ k.toNat : ℕ) / (10 ^ (-k).toNat : ℕ) :=
    zpow_eq_div (by decide) k
  rw [scaleBy_holds_iff hm (Nat.pow_pos (by decide)), h10]
  push_cast
  rw [show (d : ℚ) * ((intervalOf b).unit * 10 ^ k.toNat) / ((intervalOf b).unit * 10 ^ (-k).toNat)
    = d * (10 ^ k.toNat / 10 ^ (-k).toNat) by field_simp]

/-- **A grid step**: a hit is a neighbour of the value that rounds to it and is not zero; without a hit,
no such neighbour does. -/
theorem onGrid_spec :
    match onGrid tie (intervalOf b) k with
    | some d => d ≠ 0 ∧ b.Rounds (d * 10 ^ k)
    | none => ¬(floorPoint b k ≠ 0 ∧ b.Rounds (floorPoint b k * 10 ^ k))
        ∧ ¬b.Rounds ((floorPoint b k + 1 : ℕ) * 10 ^ k) := by
  have hbelow : (decide (floorPoint b k ≠ 0) && ((intervalOf b).scaleBy (10 ^ (-k).toNat)).holds
      (floorPoint b k * ((intervalOf b).unit * 10 ^ k.toNat))) = true
      ↔ floorPoint b k ≠ 0 ∧ b.Rounds (floorPoint b k * 10 ^ k) := by
    rw [Bool.and_eq_true, decide_eq_true_iff, holds_gridPoint hm]
  have habove := holds_gridPoint hm k (floorPoint b k + 1)
  have h := nearer_spec tie
    (decide (floorPoint b k ≠ 0) && ((intervalOf b).scaleBy (10 ^ (-k).toNat)).holds
      (floorPoint b k * ((intervalOf b).unit * 10 ^ k.toNat)))
    (((intervalOf b).scaleBy (10 ^ (-k).toNat)).holds
      ((floorPoint b k + 1) * ((intervalOf b).unit * 10 ^ k.toNat)))
    (2 * ((intervalOf b).value * 10 ^ (-k).toNat
      - floorPoint b k * ((intervalOf b).unit * 10 ^ k.toNat)))
    ((intervalOf b).unit * 10 ^ k.toNat) (floorPoint b k)
  change match onGrid tie (intervalOf b) k with
    | some e => _ | none => _ at h
  cases hg : onGrid tie (intervalOf b) k with
  | some d =>
    rw [hg] at h
    rcases h with ⟨rfl, hhit⟩ | ⟨rfl, hhit⟩
    · exact hbelow.1 hhit
    · exact ⟨Nat.succ_ne_zero _, habove.1 hhit⟩
  | none =>
    rw [hg] at h
    exact ⟨fun hr => by rw [hbelow.2 hr] at h; exact absurd h.1 (by decide),
      fun hr => by rw [habove.2 hr] at h; exact absurd h.2 (by decide)⟩

omit hm in
/-- The grid points next to the value stand on either side of it. -/
theorem floorPoint_bounds :
    floorPoint b k * (10 : ℚ) ^ k ≤ b.size ∧ b.size < (floorPoint b k + 1 : ℕ) * (10 : ℚ) ^ k := by
  have hu : 0 < (intervalOf b).unit := unit_pos b
  have hdown : 0 < 10 ^ k.toNat := Nat.pow_pos (by decide)
  have hup : (0 : ℚ) < (10 ^ (-k).toNat : ℕ) := Nat.cast_pos.2 (Nat.pow_pos (by decide))
  have huq : (0 : ℚ) < (intervalOf b).unit := Nat.cast_pos.2 hu
  have hpoint : ∀ d : ℕ, (d : ℚ) * 10 ^ k
      = (d * ((intervalOf b).unit * 10 ^ k.toNat) : ℕ)
        / ((intervalOf b).unit * (10 ^ (-k).toNat : ℕ)) := by
    intro d
    have h10 : (10 : ℚ) ^ k = (10 ^ k.toNat : ℕ) / (10 ^ (-k).toNat : ℕ) :=
      zpow_eq_div (by decide) k
    rw [h10]
    push_cast
    field_simp
  have hsize : b.size = ((intervalOf b).value * 10 ^ (-k).toNat : ℕ)
      / ((intervalOf b).unit * (10 ^ (-k).toNat : ℕ)) := by
    rw [← value_div_unit]
    push_cast
    field_simp
  rw [hpoint, hpoint, hsize]
  constructor
  · exact div_le_div_of_nonneg_right (Nat.cast_le.2 (Nat.div_mul_le_self _ _)) (mul_pos huq hup).le
  · refine div_lt_div_of_pos_right (Nat.cast_lt.2 ?_) (mul_pos huq hup)
    exact Nat.lt_mul_of_div_lt (Nat.lt_succ_self _) (Nat.mul_pos hu hdown)

/-- **A fine grid has a hit.** Seventeen digits make the grid so fine that the nearer neighbour of the
value is closer than the nearer end of its interval. -/
theorem onGrid_isSome (hc : b.Canonical) (hfine : (10 : ℚ) ^ k * 10 ^ 16 ≤ b.size) :
    (onGrid tie (intervalOf b) k).isSome = true := by
  obtain ⟨hle, hlt⟩ := floorPoint_bounds (b := b) k
  have hg : (0 : ℚ) < 10 ^ k := by positivity
  have hw := Binary.two_zpow_pos b.exponent
  have hman : (b.mantissa : ℚ) ≤ 2 ^ 53 := by exact_mod_cast hc.mantissa_lt.le
  have hsize : b.size = b.mantissa * 2 ^ b.exponent := rfl
  have hspec := onGrid_spec hm tie k
  cases hgrid : onGrid tie (intervalOf b) k with
  | some d => rfl
  | none =>
    rw [hgrid] at hspec
    generalize hd : floorPoint b k = d at hle hlt hspec
    push_cast at hlt hspec
    have hd0 : d ≠ 0 := by
      rintro rfl
      norm_num at hlt
      linarith
    rcases le_total (2 * (b.size - d * 10 ^ k)) (10 ^ k) with hnear | hnear
    · refine absurd ⟨hd0, ?_⟩ hspec.1
      have hlower : b.lower < d * 10 ^ k := by
        unfold Binary.lower
        split
        · rename_i hnarrow
          have hbare : (b.mantissa : ℚ) = 2 ^ 52 := by
            exact_mod_cast ((Binary.narrowBelow_iff b).1 hnarrow).1
          rw [hbare] at hsize ⊢
          linarith
        · nlinarith
      have hupper : d * 10 ^ k < b.upper := by
        unfold Binary.upper
        linarith
      exact ⟨hlower.le, hupper.le, fun _ => ⟨hlower, hupper⟩⟩
    · refine absurd ?_ hspec.2
      have hlower : b.lower < ((d : ℚ) + 1) * 10 ^ k := by
        unfold Binary.lower
        split <;> linarith
      have hupper : ((d : ℚ) + 1) * 10 ^ k < b.upper := by
        unfold Binary.upper
        nlinarith
      exact ⟨hlower.le, hupper.le, fun _ => ⟨hlower, hupper⟩⟩

end Grid

/-! ## The search -/

/-- The decimal logarithm of a power of two, by the fraction that the search takes for it. -/
def logGuess (t : ℤ) : ℤ := (t * 30103).fdiv 100000

/-- The guess is right or too small for every binary logarithm of a double. -/
theorem pow_logGuess_le : ∀ i < 2098,
    10 ^ (logGuess (Int.ofNat i - 1074)).toNat * 2 ^ (-(Int.ofNat i - 1074)).toNat
      ≤ 2 ^ (Int.ofNat i - 1074).toNat * 10 ^ (-logGuess (Int.ofNat i - 1074)).toNat := by
  decide +kernel

/-- The same as rational numbers. -/
theorem zpow_logGuess_le {t : ℤ} (hlow : -1074 ≤ t) (hhigh : t ≤ 1023) :
    (10 : ℚ) ^ logGuess t ≤ 2 ^ t := by
  obtain ⟨i, hi⟩ := Int.eq_ofNat_of_zero_le (by omega : 0 ≤ t + 1074)
  obtain rfl : t = Int.ofNat i - 1074 := by
    rw [Int.ofNat_eq_natCast]
    omega
  have h := pow_logGuess_le i (by rw [Int.ofNat_eq_natCast] at hhigh; omega)
  have h10 := zpow_eq_div (by decide : 10 ≠ 0) (logGuess (Int.ofNat i - 1074))
  have h2 := zpow_eq_div (by decide : 2 ≠ 0) (Int.ofNat i - 1074)
  rw [Nat.cast_ofNat] at h10 h2
  rw [h10, h2, div_le_div_iff₀ (Nat.cast_pos.2 (Nat.pow_pos (by decide)))
    (Nat.cast_pos.2 (Nat.pow_pos (by decide)))]
  exact_mod_cast h

/-- **The search starts at a power of ten that is not above the value.** -/
theorem zpow_leadingExponent_le {b : Binary} (hc : b.Canonical) (hm : b.mantissa ≠ 0) :
    (10 : ℚ) ^ leadingExponent b ≤ b.size := by
  have hlog : b.mantissa.log2 < 53 := (Nat.log2_lt hm).2 hc.mantissa_lt
  have hguess : (10 : ℚ) ^ logGuess (b.mantissa.log2 + b.exponent) ≤ b.size := by
    have hlead : ((2 : ℚ) ^ b.mantissa.log2) ≤ b.mantissa := by
      exact_mod_cast Nat.log2_self_le hm
    have := hc.lowest_le
    have := hc.exponent_le
    calc (10 : ℚ) ^ logGuess (b.mantissa.log2 + b.exponent)
        ≤ 2 ^ ((b.mantissa.log2 : ℤ) + b.exponent) := zpow_logGuess_le (by omega) (by omega)
      _ = 2 ^ b.mantissa.log2 * 2 ^ b.exponent := by
          rw [zpow_add₀ two_ne_zero, zpow_natCast]
      _ ≤ b.size := mul_le_mul_of_nonneg_right hlead (Binary.two_zpow_pos _).le
  unfold leadingExponent
  dsimp only
  split
  · rename_i hnext
    change 10 ^ (logGuess (b.mantissa.log2 + b.exponent) + 1).toNat * _ ≤ b.mantissa * _ * 10
      ^ (-(logGuess (b.mantissa.log2 + b.exponent) + 1)).toNat at hnext
    show (10 : ℚ) ^ (logGuess (b.mantissa.log2 + b.exponent) + 1) ≤ b.size
    generalize logGuess (b.mantissa.log2 + b.exponent) + 1 = next at hnext ⊢
    have h10 := zpow_eq_div (by decide : 10 ≠ 0) next
    have h2 := zpow_eq_div (by decide : 2 ≠ 0) b.exponent
    rw [Nat.cast_ofNat] at h10 h2
    rw [Binary.size, h10, h2, ← mul_div_assoc, div_le_div_iff₀
      (Nat.cast_pos.2 (Nat.pow_pos (by decide))) (Nat.cast_pos.2 (Nat.pow_pos (by decide)))]
    exact_mod_cast hnext
  · exact hguess

/-- What the search finds rounds to the value. -/
theorem rounds_of_firstGrid {b : Binary} (hm : b.mantissa ≠ 0) (tie : Tie) {count : ℕ} {k : ℤ}
    {d : Decimal} (h : firstGrid tie (intervalOf b) count k = some d) :
    d.digits ≠ 0 ∧ b.Rounds d.value := by
  induction count generalizing k with
  | zero => cases h
  | succ count ih =>
    rw [firstGrid] at h
    have hspec := onGrid_spec hm tie k
    cases hgrid : onGrid tie (intervalOf b) k with
    | some digits =>
      rw [hgrid] at h hspec
      cases h
      exact hspec
    | none =>
      rw [hgrid] at h
      exact ih h

/-- The search finds something when its last grid has a hit. -/
theorem firstGrid_isSome {i : Interval} {tie : Tie} {count : ℕ} {k : ℤ}
    (h : (onGrid tie i (k - count)).isSome = true) :
    (firstGrid tie i (count + 1) k).isSome = true := by
  induction count generalizing k with
  | zero =>
    rw [Nat.cast_zero, sub_zero] at h
    obtain ⟨d, hd⟩ := Option.isSome_iff_exists.1 h
    rw [firstGrid, hd]
    rfl
  | succ count ih =>
    rw [firstGrid]
    cases onGrid tie i k with
    | some d => rfl
    | none =>
      refine ih ?_
      rwa [show k - 1 - count = k - (count + 1 : ℕ) by push_cast; ring]

/-- Moving zeros into the exponent does not change the number. -/
theorem value_stripZeros (fuel : ℕ) (d : Decimal) : (stripZeros fuel d).value = d.value := by
  induction fuel generalizing d with
  | zero => rfl
  | succ fuel ih =>
    rw [stripZeros]
    split
    · rename_i h
      have hten : (d.digits : ℚ) = 10 * (d.digits / 10 : ℕ) := by
        exact_mod_cast (by omega : d.digits = 10 * (d.digits / 10))
      rw [ih, value, value, zpow_add_one₀ (by norm_num), hten]
      ring
    · rfl

/-- **The shortest decimal rounds back to the double.** -/
theorem rounds_shortest {b : Binary} (hc : b.Canonical) (tie : Tie) :
    b.Rounds (shortest tie b).value := by
  unfold shortest
  by_cases hm : b.mantissa = 0
  · have hw := Binary.two_zpow_pos b.exponent
    have hnarrow : ¬b.narrowBelow = true := fun h => by
      have := ((Binary.narrowBelow_iff b).1 h).1
      omega
    have hlower : b.lower < 0 := by
      rw [Binary.lower, hm, if_neg hnarrow, Nat.cast_zero]
      linarith
    have hupper : 0 < b.upper := by
      rw [Binary.upper, hm, Nat.cast_zero]
      linarith
    rw [if_pos hm, value, Nat.cast_zero, zero_mul]
    exact ⟨hlower.le, hupper.le, fun _ => ⟨hlower, hupper⟩⟩
  · have hlead := zpow_leadingExponent_le hc hm
    have hlast : (10 : ℚ) ^ (leadingExponent b - (16 : ℕ)) * 10 ^ 16 ≤ b.size := by
      rw [zpow_sub₀ (by norm_num), zpow_natCast, div_mul_cancel₀ _ (by norm_num)]
      exact hlead
    obtain ⟨d, hd⟩ := Option.isSome_iff_exists.1
      (firstGrid_isSome (onGrid_isSome hm tie _ hc hlast))
    rw [if_neg hm, hd]
    show b.Rounds (stripZeros 20 d).value
    rw [value_stripZeros]
    exact (rounds_of_firstGrid hm tie hd).2

end Decimal

end Rollup
