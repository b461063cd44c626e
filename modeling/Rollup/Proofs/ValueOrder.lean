import Rollup.Document.Sort
import Rollup.Proofs.Double

/-!
# Values are in a total preorder

Doubles are compared as the rational numbers that they are, and so the order of values is a preorder in which any two
values are comparable: turned round it is the opposite one (`Json.order_swap`), and of three values in order the first
stands to the last as the first difference among them tells (`Json.order_eq_then`). Between kinds the rank decides, and
within lists the law of the items carries over to the lists; `Json.Nested` is that induction.

Whatever is put together of such orders is one again: a missing value counts as `null`, a direction may turn an order
round, and of several keys the first that tells two documents apart decides. All of these are instances of
`Std.TransCmp`, which has the laws of comparisons.
-/

namespace Rollup

open Std (TransCmp)

/-! ## Numbers -/

namespace Number

/-- **What a number is**, as far as it is compared: the double that it converts to. -/
def value (n : Number) : ℚ := (Binary.ofFloat n.toFloat).value

/-- Finite doubles are ordered as the numbers that they are. -/
theorem orderFloats_eq_compare {f g : Float} (hf : f.isFinite = true) (hg : g.isFinite = true) :
    orderFloats f g = compare (Binary.ofFloat f).value (Binary.ofFloat g).value := by
  unfold orderFloats
  simp only [Binary.lt_iff_value_lt hf hg, Binary.lt_iff_value_lt hg hf]
  rcases lt_trichotomy (Binary.ofFloat f).value (Binary.ofFloat g).value with h | h | h
  · rw [if_pos h, compare_lt_iff_lt.2 h]
  · rw [if_neg h.not_lt, if_neg h.not_gt, compare_eq_iff_eq.2 h]
  · rw [if_neg h.not_gt, if_pos h, compare_gt_iff_gt.2 h]

/-- **Numbers are ordered as their values.** -/
theorem order_eq_compare (m n : Number) : m.order n = compare m.value n.value :=
  orderFloats_eq_compare m.isFinite_toFloat n.isFinite_toFloat

instance : TransCmp order := by
  rw [show order = compareOn value from funext₂ order_eq_compare]
  infer_instance

end Number

/-- **Of three things in order** the first stands to the last as the first difference tells. -/
theorem eq_then_of_isLE {α : Type} (cmp : α → α → Ordering) [TransCmp cmp] {a b c : α}
    (hab : (cmp a b).isLE) (hbc : (cmp b c).isLE) : cmp a c = (cmp a b).then (cmp b c) := by
  cases h : cmp a b with
  | lt => exact TransCmp.lt_of_lt_of_isLE h hbc
  | eq => exact TransCmp.congr_left h
  | gt => simp [h] at hab

/-- Of lexicographic comparisons in order, the first stands to the last as the first difference tells. -/
theorem then_eq_then {o₁ o₂ p₁ p₂ p : Ordering} (h₁ : (o₁.then p₁).isLE) (h₂ : (o₂.then p₂).isLE)
    (hp : p₁.isLE → p₂.isLE → p = p₁.then p₂) :
    (o₁.then o₂).then p = (o₁.then p₁).then (o₂.then p₂) := by
  cases o₁ <;> cases o₂ <;> simp at h₁ h₂ ⊢
  all_goals cases p₁ <;> simp_all

namespace Json

/-! ## Induction on two values -/

/-- **What carries over from the items to the lists** of two values, and holds where there are no items. -/
structure Nested (p : Json → Json → Prop) (q : List Json → List Json → Prop) : Prop where
  /-- Values of two kinds. -/
  differ : ∀ {a b : Json}, a.rank ≠ b.rank → p a b
  null : p .null .null
  bool : ∀ a b, p (.bool a) (.bool b)
  number : ∀ m n, p (.number m) (.number n)
  string : ∀ s t, p (.string s) (.string t)
  array : ∀ {as bs : List Json}, q as bs → p (.array as) (.array bs)
  /-- Objects are not looked into. -/
  object : ∀ ms ns, p (.object ms) (.object ns)
  nil : q [] []
  nil_cons : ∀ b bs, q [] (b :: bs)
  cons_nil : ∀ a as, q (a :: as) []
  cons : ∀ {a b : Json} {as bs : List Json}, p a b → q as bs → q (a :: as) (b :: bs)

namespace Nested

variable {p : Json → Json → Prop} {q : List Json → List Json → Prop} (h : Nested p q)
include h

mutual

/-- It holds of all values. -/
theorem values : ∀ a b : Json, p a b
  | a, b => by
    by_cases hrank : a.rank = b.rank
    · cases a with
      | null =>
        cases b with
        | null => exact h.null
        | _ => cases hrank
      | bool x =>
        cases b with
        | bool y => exact h.bool x y
        | _ => cases hrank
      | number m =>
        cases b with
        | number n => exact h.number m n
        | _ => cases hrank
      | string s =>
        cases b with
        | string t => exact h.string s t
        | _ => cases hrank
      | array as =>
        cases b with
        | array bs => exact h.array (items as bs)
        | _ => cases hrank
      | object ms =>
        cases b with
        | object ns => exact h.object ms ns
        | _ => cases hrank
    · exact h.differ hrank

/-- It holds of all lists. -/
theorem items : ∀ as bs : List Json, q as bs
  | [], [] => h.nil
  | [], b :: bs => h.nil_cons b bs
  | a :: as, [] => h.cons_nil a as
  | a :: as, b :: bs => h.cons (values a b) (items as bs)

end

end Nested

/-! ## The order of values -/

/-- Between kinds the rank decides. -/
theorem order_of_rank_ne {a b : Json} (h : a.rank ≠ b.rank) : order a b = compare a.rank b.rank := by
  cases a <;> cases b <;> first | rfl | exact absurd rfl h

/-- Values of a lower kind come first. -/
theorem order_of_rank_lt {a b : Json} (h : a.rank < b.rank) : order a b = .lt :=
  (order_of_rank_ne h.ne).trans (compare_lt_iff_lt.2 h)

/-- What does not come behind a value is of no higher kind. -/
theorem rank_le_of_isLE {a b : Json} (h : (order a b).isLE) : a.rank ≤ b.rank := by
  by_contra hlt
  rw [order_of_rank_ne (not_le.1 hlt).ne', compare_gt_iff_gt.2 (not_le.1 hlt)] at h
  exact absurd h (by decide)

/-- **Turned round, the order is the opposite one.** -/
theorem order_swap : ∀ a b : Json, order a b = (order b a).swap :=
  Nested.values (q := fun as bs => orderItems as bs = (orderItems bs as).swap) {
    differ := fun h => by
      rw [order_of_rank_ne h, order_of_rank_ne h.symm]
      exact Std.OrientedCmp.eq_swap
    null := rfl
    bool := fun x y => by
      show compare x y = (compare y x).swap
      exact Std.OrientedCmp.eq_swap
    number := fun m n => by
      show m.order n = (n.order m).swap
      exact Std.OrientedCmp.eq_swap
    string := fun s t => by
      show compare s t = (compare t s).swap
      exact Std.OrientedCmp.eq_swap
    array := fun h => h
    object := fun _ _ => rfl
    nil := rfl
    nil_cons := fun _ _ => rfl
    cons_nil := fun _ _ => rfl
    cons := fun hvalue hrest => by
      rw [orderItems, orderItems, Ordering.swap_then, ← hvalue, ← hrest] }

/-- Behind a value of its own kind or a lower one comes everything of a higher kind. -/
theorem order_eq_then_of_rank_ne {a b c : Json} (h : b.rank ≠ c.rank) (hab : (order a b).isLE)
    (hbc : (order b c).isLE) : order a c = (order a b).then (order b c) := by
  have hlt : b.rank < c.rank := lt_of_le_of_ne (rank_le_of_isLE hbc) h
  rw [order_of_rank_lt hlt, order_of_rank_lt ((rank_le_of_isLE hab).trans_lt hlt)]
  cases ho : order a b with
  | gt => simp [ho] at hab
  | _ => rfl

/-- **Of three values in order** the first stands to the last as the first difference tells. -/
theorem order_eq_then : ∀ a b c : Json, (order a b).isLE → (order b c).isLE →
    order a c = (order a b).then (order b c) :=
  Nested.values
    (q := fun as bs => ∀ cs, (orderItems as bs).isLE → (orderItems bs cs).isLE →
      orderItems as cs = (orderItems as bs).then (orderItems bs cs)) {
    differ := fun h c hab hbc => by
      have hlt := lt_of_le_of_ne (rank_le_of_isLE hab) h
      rw [order_of_rank_lt hlt, order_of_rank_lt (hlt.trans_le (rank_le_of_isLE hbc))]
      rfl
    null := fun _ _ _ => rfl
    bool := fun x y c hab hbc => by
      cases c with
      | bool z => exact eq_then_of_isLE compare hab hbc
      | _ => exact order_eq_then_of_rank_ne (by simp [rank]) hab hbc
    number := fun l m c hab hbc => by
      cases c with
      | number n => exact eq_then_of_isLE Number.order hab hbc
      | _ => exact order_eq_then_of_rank_ne (by simp [rank]) hab hbc
    string := fun s t c hab hbc => by
      cases c with
      | string u => exact eq_then_of_isLE compare hab hbc
      | _ => exact order_eq_then_of_rank_ne (by simp [rank]) hab hbc
    array := fun h c hab hbc => by
      cases c with
      | array cs => exact h cs hab hbc
      | _ => exact order_eq_then_of_rank_ne (by simp [rank]) hab hbc
    object := fun _ _ _ _ _ => rfl
    nil := fun _ _ _ => rfl
    nil_cons := fun b bs cs _ hbc => by
      cases cs with
      | nil => simp [orderItems] at hbc
      | cons c cs => rfl
    cons_nil := fun a as cs hab => by simp [orderItems] at hab
    cons := fun {a b as bs} hvalue hrest cs hab hbc => by
      cases cs with
      | nil => simp [orderItems] at hbc
      | cons c cs =>
        simp only [orderItems] at hab hbc ⊢
        rw [hvalue c (Ordering.isLE_then_iff_and.1 hab).1 (Ordering.isLE_then_iff_and.1 hbc).1]
        exact then_eq_then hab hbc (hrest cs) }

instance : TransCmp order where
  eq_swap := order_swap _ _
  isLE_trans hab hbc := by
    rw [order_eq_then _ _ _ hab hbc]
    exact Ordering.isLE_then_iff_and.2 ⟨hab, .inr hbc⟩

instance : TransCmp order? where
  eq_swap := order_swap _ _
  isLE_trans {_ _ _} hab hbc := @TransCmp.isLE_trans _ order _ _ _ _ hab hbc

end Json

/-! ## The order of documents -/

/-- In a direction there is an order again. -/
instance Direction.transCmp_apply {α : Type} (d : Direction) (cmp : α → α → Ordering) [TransCmp cmp] :
    TransCmp fun a b => d.apply (cmp a b) := by
  cases d with
  | ascending => exact inferInstanceAs (TransCmp cmp)
  | descending =>
    rw [show (fun a b => Direction.descending.apply (cmp a b)) = fun a b => cmp b a from
      funext₂ fun _ _ => Std.OrientedCmp.eq_swap.symm]
    exact TransCmp.opposite

/-- **Documents are in a total preorder** under any keys. -/
instance Document.transCmp_order (keys : List SortKey) : TransCmp (Document.order keys) := by
  induction keys with
  | nil => exact { eq_swap := rfl, isLE_trans := fun _ _ => rfl }
  | cons key rest ih =>
    have hfirst : TransCmp fun a b =>
        key.direction.apply (Json.order? (Document.get? key.path a) (Document.get? key.path b)) := {
      eq_swap := (key.direction.transCmp_apply Json.order?).eq_swap
      isLE_trans := (key.direction.transCmp_apply Json.order?).isLE_trans }
    exact inferInstanceAs (TransCmp (compareLex (fun a b =>
      key.direction.apply (Json.order? (Document.get? key.path a) (Document.get? key.path b)))
      (Document.order rest)))

end Rollup
