import Rollup.Proofs.Equality
import Rollup.Proofs.NestedLoop

/-!
# Keys and the order

Records are grouped and joined by the canonical texts of their key values, and sorted in the order of values. Both take
numbers as doubles, whether they are written as integers or not, and a missing value as `null`. But there are two zeros
among the doubles: they are equal in the order, and have different texts. So values without objects have the same key
exactly if they are equal in the order and, number by number, **share their negative zeros** (`Json.agrees_iff_order`).

Objects are equal in the order whatever they hold, and have different texts.
-/

namespace Rollup

/-! ## Doubles that are equal -/

namespace Binary

variable {a b : Binary} {f g : Float}

/-- A canonical fraction without a mantissa is one of the two zeros. -/
theorem Canonical.eq_of_mantissa_eq_zero (h : a.Canonical) (hzero : a.mantissa = 0) : a = ⟨a.negative, 0, -1074⟩ := by
  have hexponent : a.exponent = -1074 := by
    refine le_antisymm (not_lt.1 fun hlt => ?_) h.lowest_le
    have := h.full hlt
    omega
  rw [← hzero, ← hexponent]

/-- Fractions of one value have a mantissa or have none together. -/
theorem mantissa_eq_zero_of_value_eq (hvalue : a.value = b.value) (hzero : a.mantissa = 0) : b.mantissa = 0 := by
  by_contra hne
  have hpos := size_pos hne
  rw [value_eq, value_eq, size_eq_zero hzero, neg_zero, ite_self] at hvalue
  split at hvalue <;> linarith

/-- **Canonical fractions of one value are the same**, if this is not zero. -/
theorem Canonical.eq_of_value_eq (ha : a.Canonical) (hb : b.Canonical) (hvalue : a.value = b.value)
    (hne : a.mantissa ≠ 0) : a = b := by
  have hapos := size_pos hne
  have hbpos := size_pos (mt (mantissa_eq_zero_of_value_eq hvalue.symm) hne)
  rw [value_eq, value_eq] at hvalue
  have hsign : a.negative = b.negative := by
    cases hminus : a.negative <;> cases hminus' : b.negative <;> simp [hminus, hminus'] at hvalue ⊢ <;> linarith
  have hsize : a.size = b.size := by
    rw [hsign] at hvalue
    split at hvalue <;> linarith
  have hsame := (ha.compare_size hb).trans (compare_eq_iff_eq.2 hsize)
  obtain ⟨hexponent, hmantissa⟩ := Ordering.then_eq_eq.1 hsame
  obtain ⟨an, am, ae⟩ := a
  obtain ⟨bn, bm, be⟩ := b
  rw [Binary.mk.injEq]
  exact ⟨hsign, compare_eq_iff_eq.1 hmantissa, compare_eq_iff_eq.1 hexponent⟩

/-- The bits of the negative zero. -/
theorem ofFloat_negativeZero : ofFloat (-0.0) = ⟨true, 0, -1074⟩ := by decide +kernel

/-- A zero is the negative one if its sign is minus. -/
theorem eq_negativeZero_iff (hf : f.isFinite = true) (hzero : (ofFloat f).mantissa = 0) :
    f = -0.0 ↔ (ofFloat f).negative = true := by
  constructor
  · rintro rfl
    rw [ofFloat_negativeZero]
  · intro hnegative
    refine ofFloat_injective ?_
    rw [(canonical_ofFloat hf).eq_of_mantissa_eq_zero hzero, hnegative, ofFloat_negativeZero]

/-- **Doubles that are equal are the same**, if both or none of them are the negative zero. -/
theorem eq_of_value_eq (hf : f.isFinite = true) (hg : g.isFinite = true)
    (hvalue : (ofFloat f).value = (ofFloat g).value) (hshared : f = -0.0 ↔ g = -0.0) : f = g := by
  have hcf := canonical_ofFloat hf
  have hcg := canonical_ofFloat hg
  refine ofFloat_injective ?_
  by_cases hzero : (ofFloat f).mantissa = 0
  · have hzero' := mantissa_eq_zero_of_value_eq hvalue hzero
    have hsign : (ofFloat f).negative = (ofFloat g).negative :=
      Bool.eq_iff_iff.2 ((eq_negativeZero_iff hf hzero).symm.trans (hshared.trans (eq_negativeZero_iff hg hzero')))
    rw [hcf.eq_of_mantissa_eq_zero hzero, hcg.eq_of_mantissa_eq_zero hzero', hsign]
  · exact hcf.eq_of_value_eq hcg hvalue hzero

end Binary

namespace Number

/-- Whether a number is the negative zero. -/
def isNegativeZero (n : Number) : Bool := decide (n.toFloat = -0.0)

/-- **Numbers convert to the same double** if they are equal in the order, and both or none of them are the negative
zero. -/
theorem toFloat_eq_iff (m n : Number) :
    m.toFloat = n.toFloat ↔ m.order n = .eq ∧ m.isNegativeZero = n.isNegativeZero := by
  unfold isNegativeZero
  rw [order_eq_compare, compare_eq_iff_eq, decide_eq_decide]
  constructor
  · intro h
    unfold value
    rw [h]
    exact ⟨rfl, Iff.rfl⟩
  · exact fun h => Binary.eq_of_value_eq m.isFinite_toFloat n.isFinite_toFloat h.1 h.2

end Number

namespace Json

/-! ## Sharing negative zeros -/

mutual

/-- **Whether two values share their negative zeros**: where both have numbers, both or none of these are the negative
zero. -/
def sharesNegativeZeros : Json → Json → Bool
  | .number m, .number n => m.isNegativeZero == n.isNegativeZero
  | .array as, .array bs => sharesNegativeZerosItems as bs
  | _, _ => true

/-- Whether two lists share their negative zeros item by item. -/
def sharesNegativeZerosItems : List Json → List Json → Bool
  | a :: as, b :: bs => sharesNegativeZeros a b && sharesNegativeZerosItems as bs
  | _, _ => true

end

mutual

/-- **Whether there is a negative zero** in a value, at any depth of its lists. -/
def hasNegativeZero : Json → Bool
  | .number n => n.isNegativeZero
  | .array items => haveNegativeZero items
  | _ => false

/-- Whether there is one in some items. -/
def haveNegativeZero : List Json → Bool
  | [] => false
  | a :: rest => hasNegativeZero a || haveNegativeZero rest

end

/-- Values of two kinds do not agree. -/
theorem agrees_of_rank_ne {a b : Json} (h : a.rank ≠ b.rank) : a.agrees b = false := by
  cases a <;> cases b <;> first | rfl | exact absurd rfl h

/-- **Where there are no negative zeros**, they are shared. -/
theorem sharesNegativeZeros_of_not_has : ∀ a b : Json, a.hasNegativeZero = false → b.hasNegativeZero = false →
    a.sharesNegativeZeros b = true :=
  Nested.values (q := fun as bs => haveNegativeZero as = false → haveNegativeZero bs = false →
      sharesNegativeZerosItems as bs = true) {
    differ := fun {a b} h _ _ => by cases a <;> cases b <;> first | rfl | exact absurd rfl h
    null := fun _ _ => rfl
    bool := fun _ _ _ _ => rfl
    number := fun m n hm hn => beq_iff_eq.2 (Eq.trans hm (Eq.symm hn))
    string := fun _ _ _ _ => rfl
    array := fun h => h
    object := fun _ _ _ _ => rfl
    nil := fun _ _ => rfl
    nil_cons := fun _ _ _ _ => rfl
    cons_nil := fun _ _ _ _ => rfl
    cons := fun hvalue hrest ha hb => by
      rw [haveNegativeZero, Bool.or_eq_false_iff] at ha hb
      exact Bool.and_eq_true_iff.2 ⟨hvalue ha.1 hb.1, hrest ha.2 hb.2⟩ }

/-- **Values without objects agree** exactly if they are equal in the order and share their negative zeros. -/
theorem agrees_iff_order : ∀ a b : Json, a.isObjectFree = true →
    (a.agrees b = true ↔ order a b = .eq ∧ a.sharesNegativeZeros b = true) :=
  Nested.values (q := fun as bs => areObjectFree as = true →
      (agreesItems as bs = true ↔ orderItems as bs = .eq ∧ sharesNegativeZerosItems as bs = true)) {
    differ := fun h _ => by simp [agrees_of_rank_ne h, order_ne_eq_of_rank_ne h]
    null := fun _ => by simp [agrees, order, rank, sharesNegativeZeros]
    bool := fun x y _ => by simp [agrees, order, sharesNegativeZeros]
    number := fun m n _ => by
      simp only [agrees, order, sharesNegativeZeros, decide_eq_true_eq, beq_iff_eq]
      exact m.toFloat_eq_iff n
    string := fun s t _ => by simp [agrees, order, sharesNegativeZeros]
    array := fun h => h
    object := fun _ _ h => by simp [isObjectFree] at h
    nil := fun _ => by simp [agreesItems, orderItems, sharesNegativeZerosItems]
    nil_cons := fun b bs _ => by simp [agreesItems, orderItems]
    cons_nil := fun a as _ => by simp [agreesItems, orderItems]
    cons := fun hvalue hrest hfree => by
      rw [areObjectFree, Bool.and_eq_true] at hfree
      rw [agreesItems, Bool.and_eq_true, hvalue hfree.1, hrest hfree.2, orderItems, Ordering.then_eq_eq,
        sharesNegativeZerosItems, Bool.and_eq_true]
      exact and_and_and_comm }

end Json

/-- Lists correspond item by item if their items do so in another way. -/
theorem forall₂_congr_of_mem {α β : Type} {R S : α → β → Prop} {xs : List α} {ys : List β}
    (h : ∀ x ∈ xs, ∀ y ∈ ys, (R x y ↔ S x y)) : List.Forall₂ R xs ys ↔ List.Forall₂ S xs ys := by
  rw [List.forall₂_iff_zip, List.forall₂_iff_zip]
  refine and_congr_right fun _ => forall_congr' fun x => forall_congr' fun y => forall_congr' fun hxy => ?_
  exact h x (List.of_mem_zip hxy).1 y (List.of_mem_zip hxy).2

namespace Document

/-- **Two values that may be missing go together**: they are equal in the order, and share their negative zeros. -/
def Together (v w : Option Json) : Prop :=
  Json.order? v w = .eq ∧ (v.getD .null).sharesNegativeZeros (w.getD .null) = true

/-- Values without objects are canonically the same exactly if they go together. -/
theorem canonical_eq_iff {v w : Option Json} (hv : (v.getD .null).isObjectFree = true) :
    canonical v = canonical w ↔ Together v w :=
  (Json.agrees_iff _ _).symm.trans (Json.agrees_iff_order _ _ hv)

/-- **When keys agree with the order.** Two tuples of values without objects have the same key exactly if one by one
their values are equal in the order and share their negative zeros. So where there are no negative zeros, they have the
same key exactly if their values are equal in the order. -/
theorem tupleKey_eq_iff_order {values others : List (Option Json)}
    (hvalues : ∀ v ∈ values, (v.getD .null).isObjectFree = true) :
    (tupleKey values = tupleKey others ↔ List.Forall₂ Together values others)
      ∧ ((∀ v ∈ values, (v.getD .null).hasNegativeZero = false) →
        (∀ w ∈ others, (w.getD .null).hasNegativeZero = false) →
        (tupleKey values = tupleKey others ↔ List.Forall₂ (fun v w => Json.order? v w = .eq) values others)) := by
  have hkey : tupleKey values = tupleKey others ↔ List.Forall₂ Together values others := by
    rw [tupleKey_eq_iff, ← List.forall₂_eq_eq_eq, List.forall₂_map_left_iff, List.forall₂_map_right_iff]
    exact forall₂_congr_of_mem fun v hv w _ => canonical_eq_iff (hvalues v hv)
  refine ⟨hkey, fun hzero hzero' => hkey.trans ?_⟩
  refine forall₂_congr_of_mem fun v hv w hw => ?_
  exact and_iff_left (Json.sharesNegativeZeros_of_not_has _ _ (hzero v hv) (hzero' w hw))

/-- Three and nothing have one key, as an integer and `null` or as a double and missing. -/
theorem tupleKey_three : tupleKey [some (.ofSigned 3), some .null] = tupleKey [some (.ofFloat 3.0), none] := by
  refine ((tupleKey_eq_iff_order ?_).2 ?_ ?_).2 ?_
  · decide +kernel
  · decide +kernel
  · decide +kernel
  · exact .cons (by decide +kernel) (.cons (by decide +kernel) .nil)

/-- **The two zeros are equal in the order and have different keys.** Rounding makes a negative one. -/
theorem tupleKey_zeros : Json.order (.ofSigned 0) (.ofFloat (-0.0)) = .eq
    ∧ tupleKey [some (.ofSigned 0)] = "[0.0]" ∧ tupleKey [some (.ofFloat (-0.0))] = "[-0.0]"
    ∧ (Formula.eval .null (.call .round [.literal (.ofFloat (-0.3))])).toOption.map (fun v => tupleKey [some v])
      = some "[-0.0]" := by
  decide +kernel

end Document

end Rollup
