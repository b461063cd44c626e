import Rollup.Decimal.Format
import Rollup.Decimal.Literal
import Rollup.Json.Printer
import Rollup.Proofs.Shortest

/-!
# What is written of a number

A number is written as a **numeral**: perhaps a minus, digits, perhaps a point with digits behind it,
perhaps an exponent. `Literal.read?` takes such a text apart again, so the text determines its parts and
with them the rational number that it spells. As the digits of a double round back to it, two finite
doubles with the same text are the same (`NumberFormat.render_injective`), the two zeros included.
-/

namespace Rollup

namespace Literal

/-- **The number that a literal spells**, its sign left out. -/
def magnitude (l : Literal) : ℚ := natOf l.digits * 10 ^ l.exponent

/-- Digits behind others count for less. -/
theorem natOf_append (front back : List Char) :
    natOf (front ++ back) = natOf front * 10 ^ back.length + natOf back := by
  have shift : ∀ (cs : List Char) (n : ℕ),
      cs.foldl (fun n c => 10 * n + (c.toNat - '0'.toNat)) n = n * 10 ^ cs.length + natOf cs := by
    intro cs
    induction cs with
    | nil => exact fun n => by simp [natOf]
    | cons c cs ih =>
      intro n
      have hc : natOf (c :: cs) = (c.toNat - '0'.toNat) * 10 ^ cs.length + natOf cs := by
        unfold natOf
        rw [List.foldl_cons, Nat.mul_zero, Nat.zero_add, ih]
        rfl
      rw [List.foldl_cons, ih, hc, List.length_cons, pow_succ]
      ring
  unfold natOf
  rw [List.foldl_append, shift]
  rfl

/-- Zeros spell zero. -/
theorem natOf_replicate_zero (n : ℕ) : natOf (List.replicate n '0') = 0 := by
  induction n with
  | zero => rfl
  | succ n ih => exact ih

/-- The digits of a number spell it. -/
theorem natOf_toDigits (n : ℕ) : natOf (Nat.toDigits 10 n) = n := by
  have h := Nat.ofDigitChars_ten_toDigits (n := n)
  rwa [Nat.ofDigitChars_eq_foldl] at h

/-- Digits end at the first character that is none. -/
theorem spanDigits_append {digits rest : List Char} (hd : ∀ c ∈ digits, c.isDigit = true)
    (hr : ∀ c ∈ rest.head?, c.isDigit = false) : spanDigits (digits ++ rest) = (digits, rest) := by
  unfold spanDigits
  rw [List.takeWhile_append_of_pos hd, List.dropWhile_append_of_pos hd]
  cases rest with
  | nil => simp
  | cons c rest =>
    have hc := hr c rfl
    simp [hc]

end Literal

/-- **The parts of a written number.** -/
structure Numeral where
  /-- Whether it starts with a minus. -/
  negative : Bool
  /-- The digits in front of the point. -/
  whole : List Char
  /-- The digits behind the point, where there is one. -/
  fraction : Option (List Char)
  /-- The exponent, where there is one: whether it is negative, and its digits. -/
  exponent : Option (Bool × List Char)

namespace Numeral

/-- The point and what stands behind it. -/
def pointChars : Option (List Char) → List Char
  | some digits => '.' :: digits
  | none => []

/-- The exponent as it is written. -/
def exponentChars : Option (Bool × List Char) → List Char
  | some (negative, digits) => 'e' :: (if negative then '-' else '+') :: digits
  | none => []

/-- **A numeral as text.** -/
def chars (n : Numeral) : List Char :=
  (if n.negative then ['-'] else []) ++ n.whole ++ pointChars n.fraction ++ exponentChars n.exponent

/-- The number that an exponent spells. -/
def exponentValue : Option (Bool × List Char) → ℤ
  | some (negative, digits) => if negative then -(Literal.natOf digits : ℤ) else Literal.natOf digits
  | none => 0

/-- **Digits where digits belong**, and at least one in front of the point and in an exponent. -/
structure WellFormed (n : Numeral) : Prop where
  whole_ne_nil : n.whole ≠ []
  whole_digits : ∀ c ∈ n.whole, c.isDigit = true
  fraction_digits : ∀ digits ∈ n.fraction, ∀ c ∈ digits, c.isDigit = true
  exponent_digits : ∀ e ∈ n.exponent, e.2 ≠ [] ∧ ∀ c ∈ e.2, c.isDigit = true

/-- The literal that a numeral spells. -/
def literal (n : Numeral) : Literal where
  negative := n.negative
  digits := n.whole ++ n.fraction.getD []
  exponent := exponentValue n.exponent - (n.fraction.getD []).length

/-- A digit is no sign. -/
theorem spanSign_of_isDigit {c : Char} (hc : c.isDigit = true) (rest : List Char) :
    Literal.spanSign (c :: rest) = (false, c :: rest) := by
  unfold Literal.spanSign
  split
  · rename_i h
    cases h
    exact absurd hc (by decide)
  · rename_i h
    cases h
    exact absurd hc (by decide)
  · rfl

/-- An exponent is read back. -/
theorem exponent?_exponentChars {e : Option (Bool × List Char)}
    (h : ∀ d ∈ e, d.2 ≠ [] ∧ ∀ c ∈ d.2, c.isDigit = true) :
    Literal.exponent? (exponentChars e) = some (exponentValue e) := by
  cases e with
  | none => rfl
  | some e =>
    obtain ⟨negative, digits⟩ := e
    obtain ⟨hne, hd⟩ := h _ rfl
    have hspan : Literal.spanDigits digits = (digits, []) := by
      have := @Literal.spanDigits_append _ [] hd (by simp)
      rwa [List.append_nil] at this
    have hempty : digits.isEmpty = false := by simpa using hne
    unfold exponentChars Literal.exponent?
    cases negative <;> simp [Literal.spanSign, hspan, hempty, exponentValue]

/-- **A numeral is read back.** -/
theorem read?_chars {n : Numeral} (h : n.WellFormed) :
    Literal.read? (String.ofList n.chars) = some n.literal := by
  obtain ⟨negative, whole, fraction, exponent⟩ := n
  obtain ⟨hne, hwhole, hfraction, hexponent⟩ := h
  dsimp only at hne hwhole hfraction hexponent
  obtain ⟨c, cs, rfl⟩ := List.exists_cons_of_ne_nil hne
  have hc : c.isDigit = true := hwhole c List.mem_cons_self
  have hsign : ∀ rest, Literal.spanSign ((if negative then ['-'] else []) ++ (c :: cs) ++ rest)
      = (negative, c :: cs ++ rest) := by
    intro rest
    cases negative
    · exact spanSign_of_isDigit hc _
    · rfl
  have hehead : ∀ d ∈ (exponentChars exponent).head?, d.isDigit = false := by
    cases exponent with
    | none => simp [exponentChars]
    | some e =>
      intro d hd
      cases hd
      decide
  have hwholeSpan : Literal.spanDigits
      (c :: cs ++ (pointChars fraction ++ exponentChars exponent))
        = (c :: cs, pointChars fraction ++ exponentChars exponent) := by
    refine Literal.spanDigits_append hwhole ?_
    cases fraction with
    | none => exact hehead
    | some f =>
      intro d hd
      cases hd
      decide
  have hvalue := exponent?_exponentChars hexponent
  unfold Literal.read? chars
  rw [String.toList_ofList, List.append_assoc]
  simp only [hsign, hwholeSpan]
  cases fraction with
  | none =>
    cases exponent with
    | none => rfl
    | some e =>
      exact congrArg (Option.map fun x => (⟨negative, c :: cs ++ [], x - (0 : ℕ)⟩ : Literal)) hvalue
  | some digits =>
    have hspan := Literal.spanDigits_append (hfraction digits rfl) hehead
    simp only [pointChars, List.cons_append, hspan, hvalue]
    rfl

/-! ### Numerals that spell a number -/

/-- **A numeral that spells a number**, its sign left out, with digits where digits belong. -/
structure Spells (n : Numeral) (x : ℚ) : Prop extends WellFormed n where
  /-- The number. -/
  magnitude : n.literal.magnitude = x

/-- The exponent of a number in scientific form spells it. -/
theorem exponentValue_signed (lead : ℤ) :
    exponentValue (some (decide (lead < 0), Nat.toDigits 10 lead.natAbs)) = lead := by
  show (if decide (lead < 0) = true then -(Literal.natOf _ : ℤ) else Literal.natOf _) = lead
  rw [Literal.natOf_toDigits]
  split <;> rename_i h <;> rw [decide_eq_true_eq] at h <;> omega

/-- It has digits behind its sign. -/
theorem exponent_digits_signed (lead : ℤ) : ∀ e ∈ some (decide (lead < 0), Nat.toDigits 10 lead.natAbs),
    e.2 ≠ [] ∧ ∀ c ∈ e.2, c.isDigit = true := by
  rintro _ ⟨⟩
  exact ⟨Nat.toDigits_ne_nil, fun c hc => Nat.isDigit_of_mem_toDigits (by decide) (by decide) hc⟩

/-- Zeros are digits. -/
theorem isDigit_of_mem_zeros {k : ℕ} {c : Char} (hc : c ∈ List.replicate k '0') : c.isDigit = true := by
  rw [List.eq_of_mem_replicate hc]
  decide

section Spelling

variable (negative : Bool) {text : List Char}

/-- **Zeros behind digits** are powers of ten, and one behind a point is nothing. -/
theorem spells_zerosBehind (hne : text ≠ []) (hdigits : ∀ c ∈ text, c.isDigit = true)
    {fraction : Option (List Char)} (hfraction : fraction = none ∨ fraction = some ['0']) {e : ℤ} (he : 0 ≤ e) :
    Spells ⟨negative, text ++ List.replicate e.toNat '0', fraction, none⟩ (Literal.natOf text * 10 ^ e) := by
  obtain ⟨k, rfl⟩ := Int.eq_ofNat_of_zero_le he
  rw [Int.toNat_natCast]
  have hwhole : ∀ c ∈ text ++ List.replicate k '0', c.isDigit = true :=
    fun c hc => (List.mem_append.1 hc).elim (hdigits c) isDigit_of_mem_zeros
  have hvalue : Literal.natOf (text ++ List.replicate k '0') = Literal.natOf text * 10 ^ k := by
    rw [Literal.natOf_append, Literal.natOf_replicate_zero, List.length_replicate, Nat.add_zero]
  rcases hfraction with rfl | rfl
  · refine ⟨⟨by simp [hne], hwhole, nofun, nofun⟩, ?_⟩
    show (Literal.natOf (text ++ List.replicate k '0' ++ []) : ℚ) * 10 ^ ((0 : ℤ) - (0 : ℕ)) = _
    rw [List.append_nil, hvalue]
    push_cast
    norm_num
  · refine ⟨⟨by simp [hne], hwhole, ?_, nofun⟩, ?_⟩
    · rintro _ ⟨⟩ c hc
      exact isDigit_of_mem_zeros (k := 1) hc
    · show (Literal.natOf (text ++ List.replicate k '0' ++ ['0']) : ℚ) * 10 ^ ((0 : ℤ) - (1 : ℕ)) = _
      rw [Literal.natOf_append, hvalue, show Literal.natOf ['0'] = 0 from rfl]
      push_cast
      norm_num
      ring

/-- **Zeros between a point and digits** are powers of a tenth. -/
theorem spells_zerosBefore (hdigits : ∀ c ∈ text, c.isDigit = true) {k : ℕ} {e : ℤ}
    (he : e + (k + text.length : ℕ) = 0) :
    Spells ⟨negative, ['0'], some (List.replicate k '0' ++ text), none⟩ (Literal.natOf text * 10 ^ e) where
  whole_ne_nil := nofun
  whole_digits _ hc := isDigit_of_mem_zeros (k := 1) hc
  fraction_digits := by
    rintro _ ⟨⟩ c hc
    exact (List.mem_append.1 hc).elim isDigit_of_mem_zeros (hdigits c)
  exponent_digits := nofun
  magnitude := by
    have hvalue : Literal.natOf (['0'] ++ (List.replicate k '0' ++ text)) = Literal.natOf text := by
      rw [Literal.natOf_append, Literal.natOf_append, Literal.natOf_replicate_zero,
        show Literal.natOf ['0'] = 0 from rfl]
      ring
    have hexponent : (0 : ℤ) - ((List.replicate k '0' ++ text).length : ℕ) = e := by
      rw [List.length_append, List.length_replicate]
      omega
    show (Literal.natOf (['0'] ++ (List.replicate k '0' ++ text)) : ℚ)
      * 10 ^ ((0 : ℤ) - ((List.replicate k '0' ++ text).length : ℕ)) = _
    rw [hvalue, hexponent]

/-- **Digits that are split** by a point, or by nothing, are those digits. -/
theorem spells_split {whole : List Char} {fraction : Option (List Char)} {exponent : Option (Bool × List Char)}
    (hwhole : whole ≠ []) (hdigits : ∀ c ∈ text, c.isDigit = true) (htext : whole ++ fraction.getD [] = text)
    (hexponent : ∀ d ∈ exponent, d.2 ≠ [] ∧ ∀ c ∈ d.2, c.isDigit = true) {e : ℤ}
    (he : exponentValue exponent - ((fraction.getD []).length : ℕ) = e) :
    Spells ⟨negative, whole, fraction, exponent⟩ (Literal.natOf text * 10 ^ e) where
  whole_ne_nil := hwhole
  whole_digits c hc := hdigits c (htext ▸ List.mem_append_left _ hc)
  fraction_digits := by
    rintro digits rfl c hc
    exact hdigits c (htext ▸ List.mem_append_right _ hc)
  exponent_digits := hexponent
  magnitude := by
    subst htext he
    rfl

end Spelling

end Numeral

namespace NumberFormat

/-- Whether numbers of some decimal exponent are written in positional form. -/
def isPositional (n : NumberFormat) (lead : ℤ) : Bool :=
  match n.positional with
  | none => true
  | some (lowest, limit) => lowest ≤ lead && lead < limit

/-- **The numeral of a decimal**, its leading digit having the exponent `lead`. -/
def numeral (n : NumberFormat) (negative : Bool) (d : Decimal) : Numeral :=
  let text := Nat.toDigits 10 d.digits
  let lead : ℤ := d.exponent + text.length - 1
  if n.isPositional lead then
    if 0 ≤ d.exponent then
      { negative, whole := text ++ List.replicate d.exponent.toNat '0'
        fraction := if n.pointZero then some ['0'] else none, exponent := none }
    else if lead < 0 then
      { negative, whole := ['0'], exponent := none
        fraction := some (List.replicate (-lead - 1).toNat '0' ++ text) }
    else
      { negative, whole := text.take (lead + 1).toNat, exponent := none
        fraction := some (text.drop (lead + 1).toNat) }
  else
    { negative, whole := text.take 1
      fraction := if (text.drop 1).isEmpty then none else some (text.drop 1)
      exponent := some (decide (lead < 0), Nat.toDigits 10 lead.natAbs) }

/-- **The text of a decimal is its numeral.** -/
theorem decimalText_eq (n : NumberFormat) (negative : Bool) (d : Decimal) :
    (if negative then "-" else "") ++ n.decimalText d
      = String.ofList (n.numeral negative d).chars := by
  have htext : toString d.digits = String.ofList (Nat.toDigits 10 d.digits) := rfl
  have hsign : (if negative then "-" else "") = String.ofList (if negative then ['-'] else []) := by
    cases negative <;> rfl
  unfold decimalText numeral
  rw [htext, hsign]
  dsimp only
  rw [String.length_ofList]
  generalize d.exponent + ((Nat.toDigits 10 d.digits).length : ℤ) - 1 = lead
  change _ ++ (if n.isPositional lead = true then _ else _) = _
  refine String.toList_inj.1 ?_
  by_cases hin : n.isPositional lead = true
  · rw [if_pos hin, if_pos hin, positionalText]
    by_cases he : 0 ≤ d.exponent
    · rw [if_pos he, if_pos he]
      cases n.pointZero <;>
        simp [zeros, Numeral.chars, Numeral.pointChars, Numeral.exponentChars]
    · rw [if_neg he, if_neg he]
      by_cases hl : lead < 0
      · rw [if_pos hl, if_pos hl]
        simp [zeros, Numeral.chars, Numeral.pointChars, Numeral.exponentChars]
      · rw [if_neg hl, if_neg hl]
        simp [Numeral.chars, Numeral.pointChars, Numeral.exponentChars]
  · rw [if_neg hin, if_neg hin, scientificText]
    simp only [String.toList_ofList]
    by_cases hone : ((Nat.toDigits 10 d.digits).drop 1).isEmpty = true
    · rw [if_pos hone, if_pos hone]
      by_cases hl : lead < 0 <;>
        simp [Numeral.chars, Numeral.pointChars, Numeral.exponentChars, hl]
    · rw [if_neg hone, if_neg hone]
      by_cases hl : lead < 0 <;>
        simp [Numeral.chars, Numeral.pointChars, Numeral.exponentChars, hl]

/-- **The numeral of a decimal spells it.** -/
theorem spells_numeral (n : NumberFormat) (negative : Bool) (d : Decimal) :
    (n.numeral negative d).Spells d.value := by
  have hdigits : ∀ c ∈ Nat.toDigits 10 d.digits, c.isDigit = true :=
    fun c hc => Nat.isDigit_of_mem_toDigits (by decide) (by decide) hc
  have hlength : 0 < (Nat.toDigits 10 d.digits).length := Nat.length_toDigits_pos
  have hspell := Literal.natOf_toDigits d.digits
  unfold numeral Decimal.value
  dsimp only
  generalize hlead : d.exponent + ((Nat.toDigits 10 d.digits).length : ℤ) - 1 = lead
  generalize Nat.toDigits 10 d.digits = text at hdigits hlength hspell hlead ⊢
  have hne : text ≠ [] := List.ne_nil_of_length_pos hlength
  rw [← hspell]
  split_ifs with hin he hp hl hone
  · -- zeros behind the digits, and a point
    exact Numeral.spells_zerosBehind negative hne hdigits (.inr rfl) he
  · -- zeros behind the digits
    exact Numeral.spells_zerosBehind negative hne hdigits (.inl rfl) he
  · -- zeros behind the point
    exact Numeral.spells_zerosBefore negative hdigits (by omega)
  · -- the point among the digits
    refine Numeral.spells_split negative ?_ hdigits (List.take_append_drop _ _) ?_ ?_
    · rw [Ne, List.take_eq_nil_iff, not_or]
      exact ⟨by omega, hne⟩
    · exact nofun
    · show (0 : ℤ) - ((text.drop (lead + 1).toNat).length : ℕ) = d.exponent
      rw [List.length_drop]
      omega
  all_goals
    have hfirst : text.take 1 ≠ [] := by simpa using hne
  · -- one digit and an exponent
    have hdrop : text.drop 1 = [] := by simpa using hone
    refine Numeral.spells_split negative hfirst hdigits ?_ (Numeral.exponent_digits_signed lead) ?_
    · exact (congrArg _ hdrop.symm).trans (List.take_append_drop 1 text)
    · have hone : text.length - 1 = 0 := (List.length_drop ..).symm.trans (congrArg List.length hdrop)
      rw [Numeral.exponentValue_signed, Option.getD_none, List.length_nil]
      omega
  · -- a point behind the first digit, and an exponent
    refine Numeral.spells_split negative hfirst hdigits ?_ (Numeral.exponent_digits_signed lead) ?_
    · exact List.take_append_drop 1 text
    · rw [Numeral.exponentValue_signed, Option.getD_some, List.length_drop]
      omega

/-- The sign of a numeral is the one it was made with. -/
theorem negative_numeral (n : NumberFormat) (negative : Bool) (d : Decimal) :
    (n.numeral negative d).negative = negative := by
  unfold numeral
  dsimp only
  split_ifs <;> rfl

/-- **What is written of a finite double reads back as a number that rounds to it.** -/
theorem read?_render (n : NumberFormat) {f : Float} (hf : f.isFinite = true) :
    ∃ l, Literal.read? (n.render f) = some l ∧ l.negative = (Binary.ofFloat f).negative
      ∧ (Binary.ofFloat f).Rounds l.magnitude := by
  have hspells := n.spells_numeral (Binary.ofFloat f).negative (Decimal.shortest n.tie (Binary.ofFloat f))
  refine ⟨_, (congrArg Literal.read? (n.decimalText_eq _ _)).trans (Numeral.read?_chars hspells.toWellFormed),
    n.negative_numeral _ _, ?_⟩
  rw [hspells.magnitude]
  exact Decimal.rounds_shortest (Binary.canonical_ofFloat hf) n.tie

/-- **Finite doubles with the same text are the same.** -/
theorem render_injective (n : NumberFormat) {f g : Float} (hf : f.isFinite = true)
    (hg : g.isFinite = true) (h : n.render f = n.render g) : f = g := by
  obtain ⟨l, hl, hlsign, hlround⟩ := n.read?_render hf
  obtain ⟨m, hm, hmsign, hmround⟩ := n.read?_render hg
  have hlm : l = m := Option.some.inj (by rw [← hl, ← hm, h])
  subst hlm
  obtain ⟨hman, hexp⟩ := hlround.unique (Binary.canonical_ofFloat hf) (Binary.canonical_ofFloat hg) hmround
  refine Binary.ofFloat_injective ?_
  have hsign := hlsign.symm.trans hmsign
  generalize Binary.ofFloat f = a at *
  generalize Binary.ofFloat g = b at *
  obtain ⟨sa, ma, ea⟩ := a
  obtain ⟨sb, mb, eb⟩ := b
  cases hman
  cases hexp
  cases hsign
  rfl

end NumberFormat

/-! ## The texts of JSON numbers -/

/-- **The characters of a written number**: digits, signs, the point and the exponent's letter. -/
def isNumeralChar (c : Char) : Bool :=
  c.isDigit || c == '-' || c == '+' || c == '.' || c == 'e'

namespace Numeral

/-- A numeral holds nothing else. -/
theorem isNumeralChar_of_mem {n : Numeral} (h : n.WellFormed) {c : Char} (hc : c ∈ n.chars) :
    isNumeralChar c = true := by
  have digit : ∀ {c : Char}, c.isDigit = true → isNumeralChar c = true := by
    intro c hc
    simp [isNumeralChar, hc]
  obtain ⟨negative, whole, fraction, exponent⟩ := n
  simp only [chars, List.mem_append] at hc
  rcases hc with ((hc | hc) | hc) | hc
  · cases negative
    · cases hc
    · rw [List.mem_singleton.1 hc]
      decide
  · exact digit (h.whole_digits c hc)
  · cases fraction with
    | none => cases hc
    | some digits =>
      rcases List.mem_cons.1 hc with rfl | hc
      · decide
      · exact digit (h.fraction_digits digits rfl c hc)
  · cases exponent with
    | none => cases hc
    | some e =>
      rcases List.mem_cons.1 hc with rfl | hc
      · decide
      · rcases List.mem_cons.1 hc with rfl | hc
        · cases e.1 <;> decide
        · exact digit ((h.exponent_digits e rfl).2 c hc)

/-- The point and the letter show that a numeral has a fraction or an exponent. -/
theorem plain_iff {n : Numeral} (h : n.WellFormed) :
    (n.fraction = none ∧ n.exponent = none) ↔ ∀ c ∈ n.chars, c.isDigit = true ∨ c = '-' := by
  obtain ⟨negative, whole, fraction, exponent⟩ := n
  constructor
  · rintro ⟨rfl, rfl⟩ c hc
    simp only [chars, pointChars, exponentChars, List.append_nil, List.mem_append] at hc
    rcases hc with hc | hc
    · cases negative
      · cases hc
      · exact Or.inr (List.mem_singleton.1 hc)
    · exact Or.inl (h.whole_digits c hc)
  · intro hall
    constructor
    · cases fraction with
      | none => rfl
      | some digits => exact absurd (hall '.' (by simp [chars, pointChars])) (by decide)
    · cases exponent with
      | none => rfl
      | some e => exact absurd (hall 'e' (by simp [chars, exponentChars])) (by decide)

end Numeral

namespace Number

/-- **The numeral of a JSON number.** -/
def numeral : Number → Numeral
  | .int n _ =>
    { negative := decide (n < 0), whole := Nat.toDigits 10 n.natAbs, fraction := none, exponent := none }
  | .float f _ => NumberFormat.document.numeral (Binary.ofFloat f).negative
      (Decimal.shortest NumberFormat.document.tie (Binary.ofFloat f))

/-- The text of a number is its numeral. -/
theorem toList_text (n : Number) : n.text.toList = n.numeral.chars := by
  cases n with
  | int n fits =>
    show (Int.repr n).toList = _
    cases n with
    | ofNat k =>
      show (Nat.repr k).toList = _
      rw [Nat.toList_repr]
      simp [numeral, Numeral.chars, Numeral.pointChars, Numeral.exponentChars]
    | negSucc k =>
      show ("-" ++ Nat.repr (k + 1)).toList = _
      rw [String.toList_append, Nat.toList_repr]
      simp [numeral, Numeral.chars, Numeral.pointChars, Numeral.exponentChars, Int.natAbs]
  | float f finite =>
    show ((if (Binary.ofFloat f).negative then "-" else "")
      ++ NumberFormat.document.decimalText _).toList = _
    rw [NumberFormat.decimalText_eq, String.toList_ofList]
    rfl

/-- The numeral of a number has digits where digits belong. -/
theorem wellFormed_numeral (n : Number) : n.numeral.WellFormed := by
  cases n with
  | int n fits =>
    exact ⟨Nat.toDigits_ne_nil,
      fun c hc => Nat.isDigit_of_mem_toDigits (by decide) (by decide) hc, nofun, nofun⟩
  | float f finite => exact (NumberFormat.spells_numeral _ _ _).toWellFormed

/-- A double is written with a point or an exponent. -/
theorem not_plain_of_float (f : Float) (finite : f.isFinite = true) :
    ¬((Number.float f finite).numeral.fraction = none
      ∧ (Number.float f finite).numeral.exponent = none) := by
  unfold numeral NumberFormat.numeral
  dsimp only
  split_ifs with hin he hp hl
  · exact fun h => nomatch h.1
  · exact fun _ => hp rfl
  · exact fun h => nomatch h.1
  · exact fun h => nomatch h.1
  · exact fun h => nomatch h.2
  · exact fun h => nomatch h.2

/-- **Numbers with the same text are the same.** -/
theorem text_injective {m n : Number} (h : m.text = n.text) : m = n := by
  have hchars : m.numeral.chars = n.numeral.chars := by
    rw [← toList_text, ← toList_text, h]
  have hplain : (m.numeral.fraction = none ∧ m.numeral.exponent = none)
      ↔ (n.numeral.fraction = none ∧ n.numeral.exponent = none) := by
    rw [Numeral.plain_iff m.wellFormed_numeral, Numeral.plain_iff n.wellFormed_numeral, hchars]
  cases m with
  | int k fits =>
    cases n with
    | int l fits' =>
      have hlit : (Number.int k fits).numeral.literal = (Number.int l fits').numeral.literal := by
        have hk := Numeral.read?_chars (wellFormed_numeral (.int k fits))
        have hl := Numeral.read?_chars (wellFormed_numeral (.int l fits'))
        rw [hchars] at hk
        exact Option.some.inj (hk.symm.trans hl)
      have hsign : decide (k < 0) = decide (l < 0) := congrArg Literal.negative hlit
      have habs : k.natAbs = l.natAbs := by
        have hdigits := congrArg (fun x => Literal.natOf x.digits) hlit
        simp only [Numeral.literal, numeral, Option.getD_none, List.append_nil,
          Literal.natOf_toDigits] at hdigits
        exact hdigits
      rw [decide_eq_decide] at hsign
      obtain rfl : k = l := by omega
      rfl
    | float g finite => exact absurd (hplain.1 ⟨rfl, rfl⟩) (not_plain_of_float g finite)
  | float f finite =>
    cases n with
    | int l fits' => exact absurd (hplain.2 ⟨rfl, rfl⟩) (not_plain_of_float f finite)
    | float g finite' =>
      obtain rfl : f = g := NumberFormat.document.render_injective finite finite' h
      rfl

end Number

end Rollup
