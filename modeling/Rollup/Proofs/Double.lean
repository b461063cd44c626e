import Mathlib.Tactic
import Rollup.Decimal.Binary
import Rollup.Json.Order

/-!
# Finite doubles are rational numbers

`Binary.ofFloat` reads a double off its bits, and the arithmetic of doubles reads the same bits in a
form of its own. For finite doubles the two agree, and so what the library prints and what it compares is
one number: the rational `Binary.value`. Comparing finite doubles is comparing these
(`lt_iff_value_lt`, `beq_iff_value_eq`), which makes the order of doubles total; and a double is known by
its fraction (`Binary.ofFloat_injective`), the two zeros being told apart by their sign.
-/

namespace Rollup

open Float.Model Float.Model.UnpackedFloat

namespace Binary

/-- **The number that a fraction stands for.** -/
def value (b : Binary) : ℚ :=
  (if b.negative then -1 else 1) * (b.mantissa * 2 ^ b.exponent)

/-- **The fractions of finite doubles**: fifty-three bits, all of them used unless the exponent is the
lowest. -/
structure Canonical (b : Binary) : Prop where
  mantissa_lt : b.mantissa < 2 ^ 53
  lowest_le : -1074 ≤ b.exponent
  exponent_le : b.exponent ≤ 971
  full : -1074 < b.exponent → 2 ^ 52 ≤ b.mantissa

/-- The sign of a fraction, as the arithmetic of doubles has it. -/
def sign (b : Binary) : Sign := if b.negative then .negative else .positive

/-! ## Reading the bits -/

/-- The exponent bits. -/
theorem toNat_unpackExponent (x : BitVec 64) :
    (@unpackExponent .binary64 x).toNat = x.toNat / 2 ^ 52 % 2 ^ 11 := by
  simp [unpackExponent, BitVec.extractLsb_toNat, Nat.shiftRight_eq_div_pow]

/-- The mantissa bits. -/
theorem toNat_unpackMantissa (x : BitVec 64) :
    (@unpackMantissa .binary64 x).toNat = x.toNat % 2 ^ 52 := by
  simp [unpackMantissa, BitVec.extractLsb_toNat]

/-- The sign bit. -/
theorem toNat_unpackSign (x : BitVec 64) :
    (@unpackSign .binary64 x).toNat = x.toNat / 2 ^ 63 := by
  have h : x.toNat < 2 ^ 64 := x.isLt
  have hbit : (@unpackSign .binary64 x).toNat = (x.extractLsb 63 63).toNat := BitVec.toNat_cast _ _
  rw [hbit, BitVec.extractLsb_toNat, Nat.shiftRight_eq_div_pow]
  omega

/-- The sign bit says whether the fraction is negative. -/
theorem ofBitVec_unpackSign (f : Float) :
    Sign.ofBitVec (@unpackSign .binary64 f.toModel.toBits.toBitVec)
      = (ofFloat f).sign := by
  have hlt : f.toModel.toBits.toNat < 2 ^ 64 := f.toModel.toBits.toNat_lt
  have hs := toNat_unpackSign f.toModel.toBits.toBitVec
  have hneg : (ofFloat f).negative = decide (2 ^ 63 ≤ f.toModel.toBits.toNat) := by
    unfold ofFloat
    dsimp only
    split <;> rfl
  have hz : @unpackSign .binary64 f.toModel.toBits.toBitVec = 0#1
      ↔ f.toModel.toBits.toNat < 2 ^ 63 := by
    rw [← BitVec.toNat_inj, hs]
    show f.toModel.toBits.toNat / 2 ^ 63 = 0 ↔ _
    omega
  unfold Sign.ofBitVec sign
  rw [hneg]
  by_cases h : f.toModel.toBits.toNat < 2 ^ 63
  · rw [if_pos (hz.2 h), if_neg (by simpa using h)]
  · rw [if_neg (mt hz.1 h), if_pos (by simpa using h)]

/-- A finite double does not have all exponent bits set. -/
theorem biased_ne_of_isFinite {f : Float} (h : f.isFinite = true) :
    f.toModel.toBits.toNat / 2 ^ 52 % 2 ^ 11 ≠ 2047 := by
  intro hall
  have hvec : @unpackExponent .binary64 f.toModel.toBits.toBitVec = -1#11 := by
    rw [← BitVec.toNat_inj, toNat_unpackExponent]
    exact hall
  have hun : f.toModel.unpack.isFinite = true := h
  unfold Float.Model.unpack UnpackedFloat.unpack at hun
  dsimp only at hun
  rw [if_pos hvec] at hun
  split at hun <;> exact Bool.false_ne_true hun

/-- **The fraction of a finite double is canonical.** -/
theorem canonical_ofFloat {f : Float} (h : f.isFinite = true) : (ofFloat f).Canonical := by
  have hb := biased_ne_of_isFinite h
  have hbits : f.toBits.toNat = f.toModel.toBits.toNat := rfl
  unfold ofFloat
  dsimp only
  rw [hbits]
  split
  all_goals constructor <;> dsimp only <;> omega

/-- Finite numbers with the same sign, mantissa and exponent are the same. -/
theorem finite_congr {s : Sign} {m m' : ℕ} {e e' : ℤ} {h : 0 < m} {h' : 0 < m'} (hm : m = m')
    (he : e = e') : UnpackedFloat.finite s m e h = .finite s m' e' h' := by
  subst hm he
  rfl

/-- The mantissa with its leading bit. -/
theorem toNat_one_append (x : BitVec 52) : (1#1 ++ x).toNat = 2 ^ 52 + x.toNat := by
  rw [BitVec.toNat_append, ← Nat.shiftLeft_add_eq_or_of_lt x.isLt]
  rfl

/-- **A finite double as the arithmetic of doubles has it**: zero, or the fraction itself. -/
theorem unpack_eq {f : Float} (h : f.isFinite = true) :
    f.toModel.unpack
      = if hm : (ofFloat f).mantissa = 0 then .zero (ofFloat f).sign
        else .finite (ofFloat f).sign (ofFloat f).mantissa (ofFloat f).exponent
          (Nat.pos_of_ne_zero hm) := by
  have hb := biased_ne_of_isFinite h
  have hexp : (@unpackExponent .binary64 f.toModel.toBits.toBitVec).toNat
      = f.toModel.toBits.toNat / 2 ^ 52 % 2 ^ 11 := toNat_unpackExponent _
  have hman : (@unpackMantissa .binary64 f.toModel.toBits.toBitVec).toNat
      = f.toModel.toBits.toNat % 2 ^ 52 := toNat_unpackMantissa _
  have hfraction : ofFloat f
      = if f.toModel.toBits.toNat / 2 ^ 52 % 2 ^ 11 = 0 then
          ⟨decide (2 ^ 63 ≤ f.toModel.toBits.toNat), f.toModel.toBits.toNat % 2 ^ 52, -1074⟩
        else ⟨decide (2 ^ 63 ≤ f.toModel.toBits.toNat), 2 ^ 52 + f.toModel.toBits.toNat % 2 ^ 52,
          (f.toModel.toBits.toNat / 2 ^ 52 % 2 ^ 11 : Nat) - 1075⟩ := rfl
  have hall : @unpackExponent .binary64 f.toModel.toBits.toBitVec ≠ -1#11 :=
    fun he => hb (by rw [← hexp, he]; rfl)
  unfold Float.Model.unpack UnpackedFloat.unpack
  dsimp only
  rw [if_neg hall, ofBitVec_unpackSign]
  by_cases hz : f.toModel.toBits.toNat / 2 ^ 52 % 2 ^ 11 = 0
  · rw [if_pos hz] at hfraction
    have hvec : @unpackExponent .binary64 f.toModel.toBits.toBitVec = 0#11 := by
      rw [← BitVec.toNat_inj, hexp, hz]
      rfl
    have hzero : @unpackMantissa .binary64 f.toModel.toBits.toBitVec = 0#52
        ↔ (ofFloat f).mantissa = 0 := by
      rw [← BitVec.toNat_inj, hman, hfraction]
      rfl
    rw [if_pos hvec]
    by_cases hm : (ofFloat f).mantissa = 0
    · rw [dif_pos hm, dif_pos (hzero.2 hm)]
    · rw [dif_neg hm, dif_neg (mt hzero.1 hm)]
      apply finite_congr
      · rw [hman, hfraction]
      · rw [hexp, hz, hfraction]
        rfl
  · rw [if_neg hz] at hfraction
    have hvec : @unpackExponent .binary64 f.toModel.toBits.toBitVec ≠ 0#11 :=
      fun he => hz (by rw [← hexp, he]; rfl)
    have hm : (ofFloat f).mantissa ≠ 0 := by
      rw [hfraction]
      exact (Nat.add_pos_left (Nat.two_pow_pos 52) _).ne'
    rw [if_neg hvec, dif_neg hm]
    apply finite_congr
    · rw [hfraction]
      exact (toNat_one_append _).trans (congrArg _ hman)
    · rw [hexp, hfraction]
      rfl

/-- **A double is known by its fraction.** -/
theorem ofFloat_injective {f g : Float} (h : ofFloat f = ofFloat g) : f = g := by
  have fields : ∀ f : Float, f.toBits.toNat < 2 ^ 64 ∧
      ((ofFloat f).negative = true ↔ 2 ^ 63 ≤ f.toBits.toNat) ∧
      ((f.toBits.toNat / 2 ^ 52 % 2 ^ 11 = 0 ∧ (ofFloat f).exponent = -1074
          ∧ (ofFloat f).mantissa = f.toBits.toNat % 2 ^ 52)
        ∨ (f.toBits.toNat / 2 ^ 52 % 2 ^ 11 ≠ 0
          ∧ (ofFloat f).exponent = (f.toBits.toNat / 2 ^ 52 % 2 ^ 11 : Nat) - 1075
          ∧ (ofFloat f).mantissa = 2 ^ 52 + f.toBits.toNat % 2 ^ 52)) := by
    intro f
    refine ⟨f.toBits.toNat_lt, ?_, ?_⟩ <;> unfold ofFloat <;> dsimp only <;> split
    · exact decide_eq_true_iff
    · exact decide_eq_true_iff
    · exact Or.inl ⟨by assumption, rfl, rfl⟩
    · exact Or.inr ⟨by assumption, rfl, rfl⟩
  obtain ⟨hf, hfneg, hfcase⟩ := fields f
  obtain ⟨hg, hgneg, hgcase⟩ := fields g
  rw [h] at hfneg hfcase
  have hsign : 2 ^ 63 ≤ f.toBits.toNat ↔ 2 ^ 63 ≤ g.toBits.toNat := hfneg.symm.trans hgneg
  have hbits : f.toBits.toNat = g.toBits.toNat := by omega
  have hword : f.toModel.toBits = g.toModel.toBits := UInt64.toNat_inj.1 hbits
  obtain ⟨⟨wf, vf⟩⟩ := f
  obtain ⟨⟨wg, vg⟩⟩ := g
  have hw : wf = wg := hword
  subst hw
  rfl

/-! ## The order -/

/-- Powers of two are positive. -/
theorem two_zpow_pos (e : ℤ) : (0 : ℚ) < 2 ^ e := by positivity

/-- The absolute value of a fraction. -/
def size (b : Binary) : ℚ := b.mantissa * 2 ^ b.exponent

/-- **Of two canonical fractions the one with the larger exponent is larger**, and with equal exponents
the one with the larger mantissa. -/
theorem Canonical.compare_size {a b : Binary} (ha : a.Canonical) (hb : b.Canonical) :
    (compare a.exponent b.exponent).then (compare a.mantissa b.mantissa)
      = compare a.size b.size := by
  -- a larger exponent wins because a mantissa has a leading bit unless its exponent is the lowest
  have wins : ∀ {a b : Binary}, a.Canonical → b.Canonical → a.exponent < b.exponent →
      a.size < b.size := by
    intro a b ha hb hlt
    have hman : (a.mantissa : ℚ) < 2 * b.mantissa := by
      have h₁ := ha.mantissa_lt
      have h₂ := hb.full (lt_of_le_of_lt ha.lowest_le hlt)
      exact_mod_cast (by omega : a.mantissa < 2 * b.mantissa)
    calc (a.mantissa : ℚ) * 2 ^ a.exponent
        < 2 * b.mantissa * 2 ^ a.exponent := mul_lt_mul_of_pos_right hman (two_zpow_pos _)
      _ = b.mantissa * 2 ^ (a.exponent + 1) := by
          rw [zpow_add_one₀ (two_ne_zero' ℚ)]
          ring
      _ ≤ b.mantissa * 2 ^ b.exponent :=
          mul_le_mul_of_nonneg_left (zpow_le_zpow_right₀ one_le_two hlt) (Nat.cast_nonneg _)
  rcases lt_trichotomy a.exponent b.exponent with h | h | h
  · rw [compare_lt_iff_lt.2 h, compare_lt_iff_lt.2 (wins ha hb h)]
    rfl
  · rw [compare_eq_iff_eq.2 h]
    show compare a.mantissa b.mantissa = _
    unfold size
    rw [h]
    rcases lt_trichotomy a.mantissa b.mantissa with hm | hm | hm
    · rw [compare_lt_iff_lt.2 hm, compare_lt_iff_lt.2
        (mul_lt_mul_of_pos_right (Nat.cast_lt.2 hm) (two_zpow_pos _))]
    · rw [compare_eq_iff_eq.2 hm, hm, compare_eq_iff_eq.2 rfl]
    · rw [compare_gt_iff_gt.2 hm, compare_gt_iff_gt.2
        (mul_lt_mul_of_pos_right (Nat.cast_lt.2 hm) (two_zpow_pos _))]
  · rw [compare_gt_iff_gt.2 h, compare_gt_iff_gt.2 (wins hb ha h)]
    rfl

/-- A negative fraction stands for minus its absolute value. -/
theorem value_eq (b : Binary) : b.value = if b.negative then -b.size else b.size := by
  unfold value size
  split <;> ring

/-- The absolute value is zero when the mantissa is. -/
theorem size_eq_zero {b : Binary} (h : b.mantissa = 0) : b.size = 0 := by
  rw [size, h, Nat.cast_zero, zero_mul]

/-- The absolute value is positive when the mantissa is. -/
theorem size_pos {b : Binary} (h : b.mantissa ≠ 0) : 0 < b.size :=
  mul_pos (Nat.cast_pos.2 (Nat.pos_of_ne_zero h)) (two_zpow_pos _)

/-- Changing both signs turns a comparison around. -/
theorem compare_neg_neg (x y : ℚ) : compare (-x) (-y) = (compare x y).swap := by
  rcases lt_trichotomy x y with h | h | h
  · rw [compare_lt_iff_lt.2 h, compare_gt_iff_gt.2 (neg_lt_neg h)]
    rfl
  · rw [compare_eq_iff_eq.2 h, compare_eq_iff_eq.2 (congrArg Neg.neg h)]
    rfl
  · rw [compare_gt_iff_gt.2 h, compare_lt_iff_lt.2 (neg_lt_neg h)]
    rfl

/-- **The arithmetic of doubles compares the rational numbers.** -/
theorem compare_unpack {f g : Float} (hf : f.isFinite = true) (hg : g.isFinite = true) :
    f.toModel.unpack.compare g.toModel.unpack
      = some (compare (ofFloat f).value (ofFloat g).value) := by
  have hsize := (canonical_ofFloat hf).compare_size (canonical_ofFloat hg)
  rw [unpack_eq hf, unpack_eq hg, value_eq, value_eq]
  generalize ofFloat f = a at hsize ⊢
  generalize ofFloat g = b at hsize ⊢
  unfold sign
  have below : ∀ {x y : ℚ}, x < y → some Ordering.lt = some (compare x y) :=
    fun h => congrArg some (compare_lt_iff_lt.2 h).symm
  have above : ∀ {x y : ℚ}, y < x → some Ordering.gt = some (compare x y) :=
    fun h => congrArg some (compare_gt_iff_gt.2 h).symm
  by_cases ha : a.mantissa = 0 <;> by_cases hb : b.mantissa = 0
  · rw [dif_pos ha, dif_pos hb, size_eq_zero ha, size_eq_zero hb, neg_zero, ite_self, ite_self,
      compare_eq_iff_eq.2 rfl]
    rfl
  · rw [dif_pos ha, dif_neg hb, size_eq_zero ha, neg_zero, ite_self]
    have hpos := size_pos hb
    cases b.negative
    · exact below hpos
    · exact above (neg_lt_zero.2 hpos)
  · rw [dif_neg ha, dif_pos hb, size_eq_zero hb, neg_zero, ite_self]
    have hpos := size_pos ha
    cases a.negative
    · exact above hpos
    · exact below (neg_lt_zero.2 hpos)
  · rw [dif_neg ha, dif_neg hb]
    have hapos := size_pos ha
    have hbpos := size_pos hb
    cases a.negative <;> cases b.negative
    · exact congrArg some hsize
    · exact above (lt_trans (neg_lt_zero.2 hbpos) hapos)
    · exact below (lt_trans (neg_lt_zero.2 hapos) hbpos)
    · show some (Ordering.swap _) = some (compare (-a.size) (-b.size))
      rw [compare_neg_neg, hsize]

/-- **One finite double is below another when its number is.** -/
theorem lt_iff_value_lt {f g : Float} (hf : f.isFinite = true) (hg : g.isFinite = true) :
    f < g ↔ (ofFloat f).value < (ofFloat g).value := by
  have h : f < g ↔ f.toModel.unpack.compare g.toModel.unpack = some .lt := by
    show decide (f.toModel < g.toModel) = true ↔ _
    rw [decide_eq_true_iff]
    show (f.toModel.unpack.compare g.toModel.unpack == some .lt) = true ↔ _
    exact beq_iff_eq
  rw [h, compare_unpack hf hg, Option.some.injEq, compare_lt_iff_lt]

/-- **Two finite doubles are equal when their numbers are**; this makes the two zeros equal. -/
theorem beq_iff_value_eq {f g : Float} (hf : f.isFinite = true) (hg : g.isFinite = true) :
    (f == g) = true ↔ (ofFloat f).value = (ofFloat g).value := by
  have h : (f == g) = true ↔ f.toModel.unpack.compare g.toModel.unpack = some .eq := by
    show (f.toModel.unpack.compare g.toModel.unpack == some .eq) = true ↔ _
    exact beq_iff_eq
  rw [h, compare_unpack hf hg, Option.some.injEq, compare_eq_iff_eq]

/-! ## Whole numbers convert to finite doubles -/

/-- **Not too large**: zero, or a fraction whose exponent a double can have. -/
def Modest : UnpackedFloat → Prop
  | .zero _ => True
  | .finite _ _ exponent _ => exponent ≤ 971
  | _ => False

/-- What is not too large packs to exponent bits that are not all set. -/
theorem Modest.unpackExponent_pack {u : UnpackedFloat} (h : Modest u) :
    @unpackExponent .binary64 (UnpackedFloat.pack .binary64 u) ≠ -1#11 := by
  cases u with
  | infinity s => exact h.elim
  | notANumber => exact h.elim
  | zero s =>
    show unpackExponent (packedZero Format.binary64 s) ≠ _
    rw [packedZero, unpackExponent_packComponents]
    decide
  | finite s m e hm =>
    have he : e ≤ 971 := h
    have hbias : Format.binary64.exponentBias = 1023 := by decide
    unfold UnpackedFloat.pack
    dsimp only
    rw [hbias, if_neg (by omega)]
    split
    · rw [unpackExponent_packComponents, ← BitVec.toNat_inj.ne, BitVec.toNat_ofNat]
      show (e + 1023 + 52).toNat % 2 ^ 11 ≠ 2047
      omega
    · rw [unpackExponent_packComponents]
      decide

/-- **What is not too large packs to a finite double.** -/
theorem Modest.isFinite_pack {u : UnpackedFloat} (h : Modest u) :
    (Float.ofModel (Float.Model.pack u)).isFinite = true := by
  show (UnpackedFloat.unpack Format.binary64 (UnpackedFloat.pack .binary64 u)).isFinite = true
  generalize hpack : UnpackedFloat.pack .binary64 u = bits
  have hall : @unpackExponent .binary64 bits ≠ -1#11 := hpack ▸ h.unpackExponent_pack
  show (ite (@unpackExponent .binary64 bits = -1#11) _ _ : UnpackedFloat).isFinite = true
  rw [if_neg hall]
  by_cases hexp : @unpackExponent .binary64 bits = 0#11
  · rw [if_pos hexp]
    by_cases hman : @unpackMantissa .binary64 bits = 0#52
    · rw [dif_pos hman]
      rfl
    · rw [dif_neg hman]
      rfl
  · rw [if_neg hexp]
    rfl

/-- What is zero or has a small exponent is not too large. -/
theorem modest_dite {c : Prop} [Decidable c] {s : Sign} {m : ℕ} {e : ℤ} {hm : ¬c → 0 < m}
    (he : e ≤ 971) : Modest (if h : c then .zero s else .finite s m e (hm h)) := by
  by_cases h : c
  · rw [dif_pos h]
    trivial
  · rw [dif_neg h]
    exact he

/-- A finite double is not too large. -/
theorem modest_unpack {f : Float} (h : f.isFinite = true) : Modest f.toModel.unpack := by
  rw [unpack_eq h]
  exact modest_dite (canonical_ofFloat h).exponent_le

/-- **The negative of a finite double is finite.** -/
theorem isFinite_neg {f : Float} (h : f.isFinite = true) : (-f).isFinite = true := by
  have hm := modest_unpack h
  refine Modest.isFinite_pack (u := f.toModel.unpack.neg) ?_
  generalize f.toModel.unpack = u at hm
  cases u <;> exact hm

/-- Shifting to the right does not enlarge a mantissa. -/
theorem mantissa_shiftRight_le (em : ExtendedMantissa) (n : ℕ) :
    (em >>> n).mantissa ≤ em.mantissa := by
  show (n.repeat ExtendedMantissa.shiftRightOne em).mantissa ≤ em.mantissa
  induction n with
  | zero => exact le_rfl
  | succ n ih => exact (Nat.div_le_self _ 2).trans ih

/-- Rounding adds at most one. -/
theorem roundedMantissa_le (em : ExtendedMantissa) : em.roundedMantissa ≤ em.mantissa + 1 := by
  obtain ⟨m, r, s⟩ := em
  show (ExtendedMantissa.accuracy ⟨m, r, s⟩).roundToNearestEven m ≤ m + 1
  have hmod : m % 2 < 2 := Nat.mod_lt m two_pos
  cases r <;> cases s <;> simp only [ExtendedMantissa.accuracy, Accuracy.roundToNearestEven] <;> omega

/-- **Rounding a fraction of moderate size gives one that is not too large.** The bound is crude: a
mantissa of at most sixty-four bits and an exponent of at most eleven are all that occurs. -/
theorem modest_roundWithAccuracy {m : ℕ} {e : ℤ} (s : Sign) (hm : m < 2 ^ 64) (he : e ≤ 11) :
    Modest (roundWithAccuracy .binary64 s m e .exact) := by
  have target : ∀ t, Format.binary64.targetExponent t = max (t - 53) (-1074) := fun _ => rfl
  have hlog : m.log2 < 64 := by
    by_cases hz : m = 0
    · rw [hz]
      decide
    · exact (Nat.log2_lt hz).2 hm
  refine modest_dite ?_
  simp only [totalExponent, target]
  generalize hk : (max ((m.log2 : ℤ) + 1 + e - 53) (-1074) - e).toNat = k
  generalize hr : ExtendedMantissa.roundedMantissa _ = r
  have hrle : r ≤ 2 ^ 64 := by
    have h₁ := roundedMantissa_le (ExtendedMantissa.ofMantissaAndAccuracy m .exact >>> k)
    have h₂ := mantissa_shiftRight_le (ExtendedMantissa.ofMantissaAndAccuracy m .exact) k
    have h₃ : (ExtendedMantissa.ofMantissaAndAccuracy m .exact).mantissa = m := rfl
    omega
  have hrlog : r.log2 < 65 := by
    by_cases hz : r = 0
    · rw [hz]
      decide
    · exact (Nat.log2_lt hz).2 (lt_of_le_of_lt hrle (by decide))
  omega

/-- A word rounds to a fraction that is not too large. -/
theorem modest_ofNat {n : ℕ} (hn : n < 2 ^ 64) : Modest (UnpackedFloat.ofNat .binary64 n) := by
  unfold UnpackedFloat.ofNat UnpackedFloat.ofInt UnpackedFloat.normalize
  split
  · rename_i hneg
    exact absurd (compare_lt_iff_lt.1 hneg) (by omega)
  · trivial
  · rename_i hpos
    have hpos : 0 < n := by
      have := compare_gt_iff_gt.1 hpos
      omega
    have target : Format.binary64.targetExponent (totalExponent n 0)
        = max ((n.log2 : ℤ) + 1 + 0 - 53) (-1074) := rfl
    have hlog := Nat.lt_log2_self (n := n)
    have hlog64 : n.log2 < 64 := (Nat.log2_lt hpos.ne').2 hn
    unfold UnpackedFloat.round decreaseExponent
    simp only [Int.toNat_natCast, target]
    refine modest_roundWithAccuracy .positive ?_ (by omega)
    -- a mantissa is moved up only to fill fifty-three bits
    rw [Nat.shiftLeft_eq]
    by_cases hfull : 53 ≤ n.log2 + 1
    · rw [show (0 - max ((n.log2 : ℤ) + 1 + 0 - 53) (-1074)).toNat = 0 by omega, pow_zero, mul_one]
      exact hn
    · calc n * 2 ^ (0 - max ((n.log2 : ℤ) + 1 + 0 - 53) (-1074)).toNat
          < 2 ^ (n.log2 + 1) * 2 ^ (0 - max ((n.log2 : ℤ) + 1 + 0 - 53) (-1074)).toNat :=
            Nat.mul_lt_mul_of_pos_right hlog (Nat.two_pow_pos _)
        _ = 2 ^ 53 := by
            rw [← pow_add]
            congr 1
            omega
        _ ≤ 2 ^ 64 := by decide

/-- **A word converts to a finite double.** -/
theorem isFinite_toFloat (n : UInt64) : n.toFloat.isFinite = true :=
  Modest.isFinite_pack (u := UnpackedFloat.ofNat .binary64 n.toNat) (modest_ofNat n.toNat_lt)

end Binary

/-- **Every number converts to a finite double.** -/
theorem Number.isFinite_toFloat (n : Number) : n.toFloat.isFinite = true := by
  cases n with
  | int n fits =>
    unfold Number.toFloat
    dsimp only
    split
    · exact Binary.isFinite_toFloat _
    · exact Binary.isFinite_neg (Binary.isFinite_toFloat _)
  | float f finite => exact finite

end Rollup
