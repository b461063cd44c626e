import Rollup.Proofs.ValueOrder

/-!
# Doubles of whole numbers

A whole number converts to the double next to it. Up to `2 ^ 53` this is the number itself, and beyond it is the
number with its first fifty-three binary digits, rounded. So the conversion keeps the order of whole numbers but not
their differences: `2 ^ 53` and `2 ^ 53 + 1` convert to the same double.

Main results: `Binary.ofFloat_toFloat` says which fraction the double of a word is, and `Number.value_int_mono` and
`Number.value_int_of_abs_le` what this means for the order of whole numbers.
-/

namespace Rollup

open Float.Model Float.Model.UnpackedFloat

namespace Binary

/-! ### Packing fractions -/

/-- A fraction as the arithmetic of doubles has it. -/
def unpacked (b : Binary) : UnpackedFloat :=
  if h : b.mantissa = 0 then .zero b.sign else .finite b.sign b.mantissa b.exponent (Nat.pos_of_ne_zero h)

/-- The bits of a double by their parts. -/
theorem toNat_packComponents (s : Sign) (e : BitVec 11) (m : BitVec 52) :
    (packComponents .binary64 s e m).toNat = (s.toBitVec.toNat * 2 ^ 11 + e.toNat) * 2 ^ 52 + m.toNat := by
  show (s.toBitVec ++ e ++ m).toNat = _
  rw [BitVec.toNat_append, BitVec.toNat_append, ← Nat.shiftLeft_add_eq_or_of_lt m.isLt,
    ← Nat.shiftLeft_add_eq_or_of_lt e.isLt, Nat.shiftLeft_eq, Nat.shiftLeft_eq]

/-- **The fraction of a double** by the parts of its bits. -/
theorem ofFloat_pack {b : Binary} {u : UnpackedFloat} {e : BitVec 11} {m : BitVec 52}
    (h : UnpackedFloat.pack .binary64 u = packComponents .binary64 b.sign e m) :
    ofFloat (Float.ofModel (Float.Model.pack u))
      = if e.toNat = 0 then ⟨b.negative, m.toNat, -1074⟩ else ⟨b.negative, 2 ^ 52 + m.toNat, (e.toNat : ℤ) - 1075⟩ := by
  have hbits : (Float.ofModel (Float.Model.pack u)).toBits.toNat
      = (b.sign.toBitVec.toNat * 2 ^ 11 + e.toNat) * 2 ^ 52 + m.toNat := by
    rw [← toNat_packComponents, ← h]
    rfl
  have he : e.toNat < 2 ^ 11 := e.isLt
  have hm : m.toNat < 2 ^ 52 := m.isLt
  have hsign : b.sign.toBitVec.toNat = if b.negative then 1 else 0 := by
    unfold sign
    cases b.negative <;> rfl
  have hnegative : decide (2 ^ 63 ≤ (b.sign.toBitVec.toNat * 2 ^ 11 + e.toNat) * 2 ^ 52 + m.toNat) = b.negative := by
    rw [hsign]
    cases b.negative
    · exact decide_eq_false (by simp only [Bool.false_eq_true, if_false]; omega)
    · exact decide_eq_true (by simp only [if_true]; omega)
  have hexponent : ((b.sign.toBitVec.toNat * 2 ^ 11 + e.toNat) * 2 ^ 52 + m.toNat) / 2 ^ 52 % 2 ^ 11 = e.toNat := by
    omega
  have hmantissa : ((b.sign.toBitVec.toNat * 2 ^ 11 + e.toNat) * 2 ^ 52 + m.toNat) % 2 ^ 52 = m.toNat := by
    omega
  unfold ofFloat
  dsimp only
  rw [hbits, hnegative, hexponent, hmantissa]

/-- The exponent that is used when all digits are. -/
theorem log2_eq {m : ℕ} (hlow : 2 ^ 52 ≤ m) (hhigh : m < 2 ^ 53) : m.log2 = 52 :=
  (Nat.log2_eq_iff (by omega)).2 ⟨hlow, hhigh⟩

/-- An exponent that is not too large leaves one for what is not finite. -/
theorem not_overflows {e : ℤ} (h : e ≤ 971) : ¬ 2 ^ 11 ≤ (e + (1023 : ℕ) + (52 : ℕ)).toNat + 1 := by omega

/-- A mantissa with all of its digits is packed without the first one. -/
theorem pack_full (s : Sign) {m : ℕ} {e : ℤ} (hpos : 0 < m) (hlow : 2 ^ 52 ≤ m) (hlt : m < 2 ^ 53) (he : e ≤ 971) :
    UnpackedFloat.pack .binary64 (.finite s m e hpos)
      = packComponents .binary64 s (BitVec.ofNat 11 (e + (1023 : ℕ) + (52 : ℕ)).toNat) (BitVec.ofNat 52 m) := by
  have hbias : Format.binary64.exponentBias = 1023 := by decide
  unfold UnpackedFloat.pack
  dsimp only
  rw [hbias, if_neg (not_overflows he), log2_eq hlow hlt]
  rfl

/-- A mantissa that lacks its first digit is packed without its exponent, which is the lowest. -/
theorem pack_small (s : Sign) {m : ℕ} {e : ℤ} (hpos : 0 < m) (hlt : m < 2 ^ 52) (he : e ≤ 971) :
    UnpackedFloat.pack .binary64 (.finite s m e hpos) = packComponents .binary64 s 0#11 (BitVec.ofNat 52 m) := by
  have hbias : Format.binary64.exponentBias = 1023 := by decide
  have hlog : m.log2 + 1 ≠ Format.binary64.mantissaBits := by
    have hlog : m.log2 < 52 := (Nat.log2_lt hpos.ne').2 hlt
    exact Nat.ne_of_lt (by show m.log2 + 1 < 53; omega)
  unfold UnpackedFloat.pack
  dsimp only
  rw [hbias, if_neg (not_overflows he), if_neg hlog]

/-- **A canonical fraction is the fraction of the double** that it is packed to. -/
theorem ofFloat_pack_unpacked {b : Binary} (h : b.Canonical) :
    ofFloat (Float.ofModel (Float.Model.pack b.unpacked)) = b := by
  obtain ⟨negative, m, e⟩ := b
  have hlt : m < 2 ^ 53 := h.mantissa_lt
  have hlowest : -1074 ≤ e := h.lowest_le
  have hhighest : e ≤ 971 := h.exponent_le
  have hfull : -1074 < e → 2 ^ 52 ≤ m := h.full
  by_cases hm : m = 0
  · have hpack : UnpackedFloat.pack .binary64 (unpacked ⟨negative, m, e⟩)
        = packComponents .binary64 (sign ⟨negative, m, e⟩) 0 0 := by
      unfold unpacked
      rw [dif_pos hm]
      rfl
    have he : e = -1074 := by omega
    rw [ofFloat_pack hpack, hm, he]
    rfl
  · have hpos : 0 < m := Nat.pos_of_ne_zero hm
    have hunpacked : unpacked ⟨negative, m, e⟩ = .finite (sign ⟨negative, m, e⟩) m e hpos := dif_neg hm
    by_cases hlow : 2 ^ 52 ≤ m
    · have he : (BitVec.ofNat 11 (e + (1023 : ℕ) + (52 : ℕ)).toNat).toNat = (e + 1075).toNat := by
        rw [BitVec.toNat_ofNat]
        omega
      have hfraction : (BitVec.ofNat 52 m).toNat = m - 2 ^ 52 := by
        rw [BitVec.toNat_ofNat]
        omega
      rw [ofFloat_pack (hunpacked ▸ pack_full _ hpos hlow hlt hhighest), he, hfraction, if_neg (by omega),
        Binary.mk.injEq]
      exact ⟨rfl, by omega, by omega⟩
    · have he : e = -1074 := by omega
      have hfraction : (BitVec.ofNat 52 m).toNat = m := by
        rw [BitVec.toNat_ofNat]
        omega
      rw [ofFloat_pack (hunpacked ▸ pack_small _ hpos (not_le.1 hlow) hhighest), hfraction, he]
      rfl

/-! ### Rounding a word -/

/-- **What is left of a number** that was shifted to the right: its quotient, the first of the digits that were shifted
out, and whether there is another one among them. -/
structure Shifted (em : ExtendedMantissa) (n k : ℕ) : Prop where
  mantissa : em.mantissa = n / 2 ^ k
  roundBit : em.roundBit = true ↔ 2 ^ k ≤ 2 * (n % 2 ^ k)
  stickyBit : em.stickyBit = true ↔ 2 * (n % 2 ^ k) % 2 ^ k ≠ 0

namespace Shifted

variable {em : ExtendedMantissa} {n k : ℕ}

/-- A number that was not shifted. -/
theorem zero (n : ℕ) : Shifted (.ofMantissaAndAccuracy n .exact) n 0 where
  mantissa := (Nat.div_one n).symm
  roundBit := by simp [ExtendedMantissa.ofMantissaAndAccuracy, Nat.mod_one]
  stickyBit := by simp [ExtendedMantissa.ofMantissaAndAccuracy, Nat.mod_one]

/-- **One digit more** is shifted out. -/
theorem succ (h : Shifted em n k) : Shifted em.shiftRightOne n (k + 1) := by
  have hpos : 0 < 2 ^ k := Nat.two_pow_pos k
  have hlt : n % 2 ^ k < 2 ^ k := Nat.mod_lt n hpos
  have hmod : n % 2 ^ (k + 1) = n % 2 ^ k + 2 ^ k * (n / 2 ^ k % 2) := by
    rw [pow_succ, Nat.mod_mul]
  have hdouble : 2 * (n % 2 ^ (k + 1)) % 2 ^ (k + 1) = 2 * (n % 2 ^ k) := by
    rw [pow_succ', Nat.mul_mod_mul_left, ← pow_succ', hmod, Nat.add_mul_mod_self_left, Nat.mod_mod]
  refine ⟨?_, ?_, ?_⟩
  · show em.mantissa / 2 = _
    rw [h.mantissa, Nat.div_div_eq_div_mul, ← pow_succ]
  · show (em.mantissa % 2 != 0) = true ↔ _
    rw [h.mantissa, bne_iff_ne, hmod, pow_succ']
    rcases Nat.mod_two_eq_zero_or_one (n / 2 ^ k) with hdigit | hdigit
    · rw [hdigit]
      omega
    · rw [hdigit]
      omega
  · show (em.roundBit || em.stickyBit) = true ↔ _
    rw [Bool.or_eq_true, h.roundBit, h.stickyBit, hdouble]
    constructor
    · rintro (hround | hsticky) hzero
      · omega
      · exact hsticky (by rw [hzero, Nat.zero_mod])
    · intro hne
      by_cases hround : 2 ^ k ≤ 2 * (n % 2 ^ k)
      · exact .inl hround
      · rw [Nat.mod_eq_of_lt (not_le.1 hround)]
        exact .inr hne

/-- A number that was shifted by any number of digits. -/
theorem shiftRight (n k : ℕ) : Shifted (ExtendedMantissa.ofMantissaAndAccuracy n .exact >>> k) n k := by
  show Shifted (k.repeat ExtendedMantissa.shiftRightOne _) n k
  induction k with
  | zero => exact zero n
  | succ k ih => exact ih.succ

/-- **Rounding what is left** is rounding the quotient. -/
theorem roundedMantissa (h : Shifted em n k) : em.roundedMantissa = divideEven n (2 ^ k) := by
  obtain ⟨m, r, s⟩ := em
  obtain ⟨hm, hr, hs⟩ := h
  have hpos : 0 < 2 ^ k := Nat.two_pow_pos k
  have hlt : n % 2 ^ k < 2 ^ k := Nat.mod_lt n hpos
  have hm : m = n / 2 ^ k := hm
  show (ExtendedMantissa.accuracy ⟨m, r, s⟩).roundToNearestEven m = _
  unfold divideEven
  dsimp only at hr hs ⊢
  rw [← hm]
  cases r with
  | false =>
    have hbelow : 2 * (n % 2 ^ k) < 2 ^ k := by simpa using hr
    rw [if_pos hbelow]
    cases s <;> rfl
  | true =>
    have habove : 2 ^ k ≤ 2 * (n % 2 ^ k) := hr.1 rfl
    rw [if_neg (not_lt.2 habove)]
    cases s with
    | true =>
      have hne : 2 * (n % 2 ^ k) ≠ 2 ^ k := fun heq => hs.1 rfl (by rw [heq, Nat.mod_self])
      rw [if_pos (lt_of_le_of_ne habove hne.symm)]
      rfl
    | false =>
      -- a remainder below the divisor whose double the divisor divides is half of it
      have hhalf : 2 * (n % 2 ^ k) % 2 ^ k = 0 := by simpa using hs
      have heq : 2 * (n % 2 ^ k) = 2 ^ k := by
        rw [Nat.mod_eq_sub_mod habove, Nat.mod_eq_of_lt (by omega)] at hhalf
        omega
      rw [if_neg (not_lt.2 heq.le)]
      show m + m % 2 = _
      split <;> omega

end Shifted

/-- A rounded quotient is the quotient or the next number. -/
theorem divideEven_bounds (n d : ℕ) : n / d ≤ divideEven n d ∧ divideEven n d ≤ n / d + 1 := by
  unfold divideEven
  dsimp only
  split
  · omega
  · split
    · omega
    · split <;> omega

/-- A quotient without remainder is not rounded. -/
theorem divideEven_mul_right (q : ℕ) {d : ℕ} (hd : 0 < d) : divideEven (q * d) d = q := by
  unfold divideEven
  dsimp only
  rw [Nat.mul_mod_left, Nat.mul_div_cancel _ hd, if_pos (by omega)]

/-- **Rounding keeps the order** of quotients. -/
theorem divideEven_mono {m n : ℕ} (h : m ≤ n) (d : ℕ) : divideEven m d ≤ divideEven n d := by
  have hquotients : m / d ≤ n / d := Nat.div_le_div_right h
  rcases Nat.lt_or_ge (m / d) (n / d) with hlt | hge
  · exact (divideEven_bounds m d).2.trans (hlt.trans_le (divideEven_bounds n d).1)
  · have hsame : m / d = n / d := le_antisymm hquotients hge
    have hrest : m % d ≤ n % d := by
      have hm := Nat.div_add_mod m d
      have hn := Nat.div_add_mod n d
      rw [hsame] at hm
      omega
    unfold divideEven
    dsimp only
    rw [hsame]
    split_ifs <;> omega

/-- **The first fifty-three binary digits** of a positive number, rounded; they may round up to one digit more. -/
def leadingDigits (n : ℕ) : ℕ := divideEven (n * 2 ^ (52 - n.log2)) (2 ^ (n.log2 - 52))

/-- The fraction that has these digits. -/
def ofNat (n : ℕ) : Binary :=
  if n = 0 then ⟨false, 0, -1074⟩
  else if leadingDigits n = 2 ^ 53 then ⟨false, 2 ^ 52, (n.log2 : ℤ) - 51⟩
  else ⟨false, leadingDigits n, (n.log2 : ℤ) - 52⟩

/-- The number of binary digits of a number that is moved up. -/
theorem log2_mul_two_pow {n : ℕ} (hn : n ≠ 0) (k : ℕ) : (n * 2 ^ k).log2 = n.log2 + k := by
  have hpos : 0 < 2 ^ k := Nat.two_pow_pos k
  refine (Nat.log2_eq_iff (Nat.mul_ne_zero hn hpos.ne')).2 ⟨?_, ?_⟩
  · rw [pow_add]
    exact Nat.mul_le_mul_right _ (Nat.log2_self_le hn)
  · rw [Nat.add_right_comm, pow_add]
    exact Nat.mul_lt_mul_of_pos_right Nat.lt_log2_self hpos

/-- There are fifty-three digits, or one more of them after rounding. -/
theorem leadingDigits_bounds {n : ℕ} (hn : n ≠ 0) : 2 ^ 52 ≤ leadingDigits n ∧ leadingDigits n ≤ 2 ^ 53 := by
  have hlog : (n * 2 ^ (52 - n.log2)).log2 = 52 + (n.log2 - 52) := by
    rw [log2_mul_two_pow hn]
    omega
  have hne : n * 2 ^ (52 - n.log2) ≠ 0 := Nat.mul_ne_zero hn (Nat.two_pow_pos _).ne'
  have hpos : 0 < 2 ^ (n.log2 - 52) := Nat.two_pow_pos _
  have hlow : 2 ^ 52 ≤ n * 2 ^ (52 - n.log2) / 2 ^ (n.log2 - 52) := by
    rw [Nat.le_div_iff_mul_le hpos, ← pow_add, ← hlog]
    exact Nat.log2_self_le hne
  have hhigh : n * 2 ^ (52 - n.log2) / 2 ^ (n.log2 - 52) < 2 ^ 53 := by
    rw [Nat.div_lt_iff_lt_mul hpos, ← pow_add]
    calc n * 2 ^ (52 - n.log2) < 2 ^ ((n * 2 ^ (52 - n.log2)).log2 + 1) := Nat.lt_log2_self
      _ = 2 ^ (53 + (n.log2 - 52)) := by rw [hlog]; congr 1; omega
  have hbounds := divideEven_bounds (n * 2 ^ (52 - n.log2)) (2 ^ (n.log2 - 52))
  unfold leadingDigits
  omega

/-- **Rounding a positive number** to the digits that a double has. -/
theorem round_eq {n : ℕ} (hn : n ≠ 0) : UnpackedFloat.round .binary64 .positive n 0 = (ofNat n).unpacked := by
  have htarget : ∀ m e, Format.binary64.targetExponent (totalExponent m e)
      = max ((m.log2 : ℤ) + 1 + e - 53) (-1074) := fun _ _ => rfl
  obtain ⟨hlow, hhigh⟩ := leadingDigits_bounds hn
  have hshift : (0 - max ((n.log2 : ℤ) + 1 + 0 - 53) (-1074)).toNat = 52 - n.log2 := by omega
  have hlog := log2_mul_two_pow hn (52 - n.log2)
  unfold UnpackedFloat.round decreaseExponent
  dsimp only
  rw [htarget, hshift, Nat.shiftLeft_eq]
  unfold roundWithAccuracy shiftToTargetExponent shiftToExponent
  dsimp only
  rw [htarget, hlog]
  have hright : (max (((n.log2 + (52 - n.log2) : ℕ) : ℤ) + 1 + (0 - ((52 - n.log2 : ℕ) : ℤ)) - 53) (-1074)
      - (0 - ((52 - n.log2 : ℕ) : ℤ))).toNat = n.log2 - 52 := by omega
  rw [hright, (Shifted.shiftRight (n * 2 ^ (52 - n.log2)) (n.log2 - 52)).roundedMantissa]
  have hdigits : divideEven (n * 2 ^ (52 - n.log2)) (2 ^ (n.log2 - 52)) = leadingDigits n := rfl
  have hexponent : (0 - ((52 - n.log2 : ℕ) : ℤ)) + ((n.log2 - 52 : ℕ) : ℤ) = (n.log2 : ℤ) - 52 := by omega
  rw [hdigits, htarget, hexponent]
  by_cases hover : leadingDigits n = 2 ^ 53
  · -- one digit too many, which is shifted out
    have honce : (max (((2 ^ 53 : ℕ).log2 : ℤ) + 1 + ((n.log2 : ℤ) - 52) - 53) (-1074) - ((n.log2 : ℤ) - 52)).toNat = 1 := by
      rw [Nat.log2_two_pow]
      omega
    rw [hover, honce]
    have hfraction : (⟨false, (ExtendedMantissa.ofMantissaAndAccuracy (2 ^ 53) .exact >>> 1).mantissa,
        (n.log2 : ℤ) - 52 + (1 : ℕ)⟩ : Binary) = ofNat n := by
      rw [(Shifted.shiftRight (2 ^ 53) 1).mantissa, ofNat, if_neg hn, if_pos hover, Binary.mk.injEq]
      exact ⟨rfl, by decide, by omega⟩
    exact congrArg unpacked hfraction
  · have hnone : (max (((leadingDigits n).log2 : ℤ) + 1 + ((n.log2 : ℤ) - 52) - 53) (-1074) - ((n.log2 : ℤ) - 52)).toNat
        = 0 := by
      rw [log2_eq hlow (lt_of_le_of_ne hhigh hover)]
      omega
    rw [hnone]
    have hfraction : (⟨false, (ExtendedMantissa.ofMantissaAndAccuracy (leadingDigits n) .exact >>> 0).mantissa,
        (n.log2 : ℤ) - 52 + (0 : ℕ)⟩ : Binary) = ofNat n := by
      rw [(Shifted.shiftRight (leadingDigits n) 0).mantissa, ofNat, if_neg hn, if_neg hover, Binary.mk.injEq]
      exact ⟨rfl, Nat.div_one _, by omega⟩
    exact congrArg unpacked hfraction

/-- The fraction of a word is canonical. -/
theorem canonical_ofNat {n : ℕ} (h : n < 2 ^ 64) : (ofNat n).Canonical := by
  unfold ofNat
  split
  · exact ⟨by decide, by decide, by decide, by decide⟩
  · next hn =>
    have hlog : n.log2 < 64 := (Nat.log2_lt hn).2 h
    obtain ⟨hlow, hhigh⟩ := leadingDigits_bounds hn
    split
    · constructor <;> dsimp only <;> omega
    · constructor <;> dsimp only <;> omega

/-- **The fraction of the double of a word.** -/
theorem ofFloat_toFloat (n : UInt64) : ofFloat n.toFloat = ofNat n.toNat := by
  have hunpacked : UnpackedFloat.ofNat .binary64 n.toNat = (ofNat n.toNat).unpacked := by
    by_cases hn : n.toNat = 0
    · rw [hn]
      rfl
    · rw [← round_eq hn]
      have hpos : compare (n.toNat : ℤ) 0 = .gt := compare_gt_iff_gt.2 (by omega)
      unfold UnpackedFloat.ofNat UnpackedFloat.ofInt UnpackedFloat.normalize
      rw [hpos]
      rfl
  show ofFloat (Float.ofModel (Float.Model.pack (UnpackedFloat.ofNat .binary64 n.toNat))) = _
  rw [hunpacked]
  exact ofFloat_pack_unpacked (canonical_ofNat n.toNat_lt)

/-- **The fraction of the negative of a double.** -/
theorem ofFloat_neg {f : Float} (hf : f.isFinite = true) :
    ofFloat (-f) = { ofFloat f with negative := !(ofFloat f).negative } := by
  have hunpacked : f.toModel.unpack.neg = unpacked { ofFloat f with negative := !(ofFloat f).negative } := by
    rw [unpack_eq hf]
    unfold unpacked sign
    by_cases hm : (ofFloat f).mantissa = 0
    · rw [dif_pos hm, dif_pos hm]
      cases (ofFloat f).negative <;> rfl
    · rw [dif_neg hm, dif_neg hm]
      cases (ofFloat f).negative <;> rfl
  have hcanonical := canonical_ofFloat hf
  show ofFloat (Float.ofModel (Float.Model.pack f.toModel.unpack.neg)) = _
  rw [hunpacked]
  exact ofFloat_pack_unpacked ⟨hcanonical.mantissa_lt, hcanonical.lowest_le, hcanonical.exponent_le, hcanonical.full⟩

/-! ### The order of whole numbers -/

/-- **The number that the double of a word stands for.** -/
def nearest (n : ℕ) : ℚ := (ofNat n).value

/-- It is made of the leading digits. -/
theorem nearest_eq {n : ℕ} (hn : n ≠ 0) : nearest n = leadingDigits n * 2 ^ ((n.log2 : ℤ) - 52) := by
  unfold nearest ofNat
  rw [if_neg hn]
  split
  · next hover =>
    have hmore : (2 : ℚ) ^ ((n.log2 : ℤ) - 51) = 2 * 2 ^ ((n.log2 : ℤ) - 52) := by
      rw [show (n.log2 : ℤ) - 51 = (n.log2 : ℤ) - 52 + 1 by ring, zpow_add_one₀ (two_ne_zero' ℚ)]
      ring
    rw [hover, value]
    dsimp only
    rw [hmore]
    push_cast
    ring
  · simp [value]

/-- It has as many binary digits, or is the next power of two. -/
theorem nearest_bounds {n : ℕ} (hn : n ≠ 0) : (2 : ℚ) ^ n.log2 ≤ nearest n ∧ nearest n ≤ 2 ^ (n.log2 + 1) := by
  obtain ⟨hlow, hhigh⟩ := leadingDigits_bounds hn
  have hpos := two_zpow_pos ((n.log2 : ℤ) - 52)
  have hsplit : ∀ k : ℕ, (2 : ℚ) ^ k * 2 ^ ((n.log2 : ℤ) - 52) = 2 ^ ((n.log2 : ℤ) - 52 + k) := fun k => by
    rw [← zpow_natCast, ← zpow_add₀ (two_ne_zero' ℚ), add_comm]
  rw [nearest_eq hn]
  constructor
  · calc (2 : ℚ) ^ n.log2 = 2 ^ 52 * 2 ^ ((n.log2 : ℤ) - 52) := by
          rw [hsplit, ← zpow_natCast]
          congr 1
          omega
      _ ≤ leadingDigits n * 2 ^ ((n.log2 : ℤ) - 52) := mul_le_mul_of_nonneg_right (by exact_mod_cast hlow) hpos.le
  · calc (leadingDigits n : ℚ) * 2 ^ ((n.log2 : ℤ) - 52)
        ≤ 2 ^ 53 * 2 ^ ((n.log2 : ℤ) - 52) := mul_le_mul_of_nonneg_right (by exact_mod_cast hhigh) hpos.le
      _ = 2 ^ (n.log2 + 1) := by
          rw [hsplit, ← zpow_natCast]
          congr 1
          omega

/-- The number zero is kept. -/
@[simp] theorem nearest_zero : nearest 0 = 0 := by
  simp [nearest, ofNat, value]

/-- No number becomes negative. -/
theorem nearest_nonneg (n : ℕ) : 0 ≤ nearest n := by
  by_cases hn : n = 0
  · rw [hn, nearest_zero]
  · exact le_trans (by positivity) (nearest_bounds hn).1

/-- **The conversion keeps the order** of words. -/
theorem nearest_mono {m n : ℕ} (h : m ≤ n) : nearest m ≤ nearest n := by
  by_cases hm : m = 0
  · rw [hm, nearest_zero]
    exact nearest_nonneg n
  · have hn : n ≠ 0 := by omega
    have hlog : m.log2 ≤ n.log2 := (Nat.le_log2 hn).2 ((Nat.log2_self_le hm).trans h)
    rcases hlog.eq_or_lt with hsame | hless
    · -- the same digits are left out of both
      have hdigits : leadingDigits m ≤ leadingDigits n := by
        unfold leadingDigits
        rw [hsame]
        exact divideEven_mono (Nat.mul_le_mul_right _ h) _
      rw [nearest_eq hm, nearest_eq hn, hsame]
      exact mul_le_mul_of_nonneg_right (by exact_mod_cast hdigits) (two_zpow_pos _).le
    · calc nearest m ≤ 2 ^ (m.log2 + 1) := (nearest_bounds hm).2
        _ ≤ 2 ^ n.log2 := pow_le_pow_right₀ one_le_two hless
        _ ≤ nearest n := (nearest_bounds hn).1

/-- A number is kept if its digits that are left out are zeros. -/
theorem nearest_of_dvd {n : ℕ} (h : 2 ^ (n.log2 - 52) ∣ n) : nearest n = n := by
  by_cases hn : n = 0
  · rw [hn, nearest_zero, Nat.cast_zero]
  · obtain ⟨q, hq⟩ := h
    have hdigits : leadingDigits n = q * 2 ^ (52 - n.log2) := by
      have hproduct : n * 2 ^ (52 - n.log2) = q * 2 ^ (52 - n.log2) * 2 ^ (n.log2 - 52) := by
        calc n * 2 ^ (52 - n.log2) = 2 ^ (n.log2 - 52) * q * 2 ^ (52 - n.log2) := by rw [← hq]
          _ = q * 2 ^ (52 - n.log2) * 2 ^ (n.log2 - 52) := by ring
      unfold leadingDigits
      rw [hproduct, divideEven_mul_right _ (Nat.two_pow_pos _)]
    have hpower : (2 : ℚ) ^ (52 - n.log2) * 2 ^ ((n.log2 : ℤ) - 52) = 2 ^ (n.log2 - 52) := by
      rw [← zpow_natCast, ← zpow_natCast, ← zpow_add₀ (two_ne_zero' ℚ)]
      congr 1
      omega
    calc nearest n = (q * 2 ^ (52 - n.log2) : ℕ) * 2 ^ ((n.log2 : ℤ) - 52) := by rw [nearest_eq hn, hdigits]
      _ = q * (2 ^ (52 - n.log2) * 2 ^ ((n.log2 : ℤ) - 52)) := by push_cast; ring
      _ = ((2 ^ (n.log2 - 52) * q : ℕ) : ℚ) := by rw [hpower]; push_cast; ring
      _ = n := by rw [← hq]

/-- **Numbers up to `2 ^ 53`** are kept. -/
theorem nearest_of_le {n : ℕ} (h : n ≤ 2 ^ 53) : nearest n = n := by
  refine nearest_of_dvd ?_
  rcases h.eq_or_lt with rfl | hlt
  · decide
  · have hlog : n.log2 - 52 = 0 := by
      by_cases hn : n = 0
      · rw [hn]
        rfl
      · have := (Nat.log2_lt hn).2 hlt
        omega
    rw [hlog]
    exact one_dvd n

end Binary

namespace Number

/-- **The number that a whole number converts to**: the one next to it that is a double. -/
theorem value_int (n : ℤ) (fits : -2 ^ 63 ≤ n ∧ n < 2 ^ 64) :
    (int n fits).value = if 0 ≤ n then Binary.nearest n.toNat else -Binary.nearest (-n).toNat := by
  have hword : ∀ m : ℕ, m < 2 ^ 64 → (Binary.ofFloat m.toUInt64.toFloat).value = Binary.nearest m := by
    intro m hm
    rw [Binary.ofFloat_toFloat, Binary.nearest]
    congr 2
    exact Nat.mod_eq_of_lt hm
  unfold value toFloat
  dsimp only
  split
  · exact hword _ (by omega)
  · rw [Binary.ofFloat_neg (Binary.isFinite_toFloat _), ← hword _ (by omega), Binary.value_eq, Binary.value_eq]
    unfold Binary.size
    dsimp only
    cases (Binary.ofFloat (-n).toNat.toUInt64.toFloat).negative <;> simp

/-- **Whole numbers keep their order** when they are converted. -/
theorem value_int_mono {m n : ℤ} {hm : -2 ^ 63 ≤ m ∧ m < 2 ^ 64} {hn : -2 ^ 63 ≤ n ∧ n < 2 ^ 64} (h : m ≤ n) :
    (int m hm).value ≤ (int n hn).value := by
  rw [value_int, value_int]
  split_ifs with hpos hpos'
  · exact Binary.nearest_mono (by omega)
  · omega
  · exact (neg_nonpos.2 (Binary.nearest_nonneg _)).trans (Binary.nearest_nonneg _)
  · exact neg_le_neg (Binary.nearest_mono (by omega))

/-- **Whole numbers up to `2 ^ 53`**, of either sign, are kept. -/
theorem value_int_of_abs_le {n : ℤ} {fits : -2 ^ 63 ≤ n ∧ n < 2 ^ 64} (h : |n| ≤ 2 ^ 53) :
    (int n fits).value = n := by
  obtain ⟨hlow, hhigh⟩ := abs_le.1 h
  rw [value_int]
  split
  · next hpos =>
    rw [Binary.nearest_of_le (by omega)]
    exact_mod_cast Int.toNat_of_nonneg hpos
  · next hneg =>
    rw [Binary.nearest_of_le (by omega), neg_eq_iff_eq_neg]
    exact_mod_cast Int.toNat_of_nonneg (by omega : 0 ≤ -n)

/-- **Two numbers of one double**: `2 ^ 53` and the next one. -/
theorem value_succ : (ofSigned (2 ^ 53 + 1)).value = (ofSigned (2 ^ 53)).value :=
  congrArg (fun f => (Binary.ofFloat f).value)
    (by decide +kernel : (ofSigned (2 ^ 53 + 1)).toFloat = (ofSigned (2 ^ 53)).toFloat)

end Number

end Rollup
