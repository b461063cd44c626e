import Rollup.Proofs.Formulas
import Rollup.Proofs.ValueOrder

/-!
# The best candidate

`$max` and `$min` go through their candidates and keep one of them, which a later one replaces only if it is better.
What is kept is the **first best** one of those gone through (`Operation.Keeps.concat`): a candidate that is better than
the one kept is better than all before it, the order of values being transitive whatever their kinds and however they
are nested. Candidates that are `null` are passed over, and nothing is kept only if all are.

In another order the candidates may have another first best one, but the two are equal in the order of values
(`Operation.Keeps.order_eq`).
-/

namespace Rollup

open Std (TransCmp)

/-- Only `null` is `null`. -/
theorem Json.isNull_iff {j : Json} : j.isNull = true ↔ j = .null := by
  cases j <;> simp [isNull]

namespace Formula

namespace Operation

/-- The operations that choose one of their candidates. -/
def chooses : Operation → Bool
  | .max | .min => true
  | _ => false

/-- **How candidates compare**: the larger one is better, and for `$min` the smaller one. -/
def merit : Operation → Json → Json → Ordering
  | .min, a, b => Json.order b a
  | _, a, b => Json.order a b

instance transCmp_merit (op : Operation) : TransCmp op.merit := by
  cases op with
  | min => exact inferInstanceAs (TransCmp fun a b => Json.order b a)
  | _ => exact inferInstanceAs (TransCmp Json.order)

/-- Candidates of equal merit are equal in the order. -/
theorem merit_eq_iff (op : Operation) (a b : Json) : op.merit a b = .eq ↔ Json.order a b = .eq := by
  cases op with
  | min => exact Std.OrientedCmp.eq_comm
  | _ => exact Iff.rfl

/-- A candidate is as good as itself. -/
theorem isGE_merit_self (op : Operation) (a : Json) : (op.merit a a).isGE :=
  Std.OrientedCmp.isGE_of_isLE Std.ReflCmp.isLE_rfl

/-- **The first best one of some candidates.** -/
structure FirstBest (op : Operation) (candidates : List Json) (r : Json) : Prop where
  /-- It is a value. -/
  not_null : r ≠ .null
  /-- It is as good as every other value among them. -/
  best : ∀ x ∈ candidates, x ≠ .null → (op.merit r x).isGE
  /-- It is one of them, and better than those that stand before it. -/
  first : ∃ before after, candidates = before ++ r :: after ∧ ∀ x ∈ before, x ≠ .null → op.merit r x = .gt

namespace FirstBest

variable {op : Operation} {vs : List Json} {b v : Json}

/-- The first best candidate is one of the candidates. -/
theorem mem (h : op.FirstBest vs b) : b ∈ vs := by
  obtain ⟨before, after, rfl, -⟩ := h.first
  exact List.mem_append_right _ List.mem_cons_self

/-- **A candidate that is better than all others before it** is the first best one so far. -/
theorem concat_self (hv : v ≠ .null) (h : ∀ x ∈ vs, x ≠ .null → op.merit v x = .gt) : op.FirstBest (vs ++ [v]) v where
  not_null := hv
  best := by
    refine List.forall_mem_append.2 ⟨fun x hx hnull => ?_, List.forall_mem_singleton.2 fun _ => op.isGE_merit_self v⟩
    rw [h x hx hnull]
    rfl
  first := ⟨vs, [], rfl, h⟩

/-- **Any other candidate** leaves the first best one what it is. -/
theorem concat (h : op.FirstBest vs b) (hv : v ≠ .null → op.merit v b ≠ .gt) : op.FirstBest (vs ++ [v]) b where
  not_null := h.not_null
  best := by
    refine List.forall_mem_append.2 ⟨h.best, List.forall_mem_singleton.2 fun hnull => ?_⟩
    exact Std.OrientedCmp.isGE_of_isLE (Ordering.ne_gt_iff_isLE.1 (hv hnull))
  first := by
    obtain ⟨before, after, rfl, hbefore⟩ := h.first
    exact ⟨before, after ++ [v], by simp, hbefore⟩

end FirstBest

/-! ### Going through the candidates -/

/-- What is kept after one more candidate. -/
def keepFirst (op : Operation) (kept : Option Json) (v : Json) : Option Json :=
  if v.isNull then kept
  else match kept with
    | none => some v
    | some b => if op.merit v b == .gt then some v else some b

/-- **What is to be kept of some candidates**: nothing if all of them are `null`, or else the first best one. -/
def Keeps (op : Operation) (candidates : List Json) : Option Json → Prop
  | none => ∀ v ∈ candidates, v = .null
  | some r => op.FirstBest candidates r

namespace Keeps

variable {op : Operation} {vs ws : List Json} {kept other : Option Json}

/-- **One more candidate** is taken into account. -/
theorem concat (h : op.Keeps vs kept) (v : Json) : op.Keeps (vs ++ [v]) (op.keepFirst kept v) := by
  unfold keepFirst
  split_ifs with hnull
  · rw [Json.isNull_iff] at hnull
    cases kept with
    | none => exact List.forall_mem_append.2 ⟨h, List.forall_mem_singleton.2 hnull⟩
    | some b => exact FirstBest.concat h fun hv => absurd hnull hv
  · rw [Json.isNull_iff] at hnull
    cases kept with
    | none => exact .concat_self hnull fun x hx hx' => absurd (h x hx) hx'
    | some b =>
      dsimp only
      split_ifs with hbetter
      -- what is better than the best one so far is better than all
      · refine .concat_self hnull fun x hx hx' => ?_
        exact TransCmp.gt_of_gt_of_isGE (beq_iff_eq.1 hbetter) (FirstBest.best h x hx hx')
      · exact FirstBest.concat h fun _ => mt beq_iff_eq.2 hbetter

/-- **So are all.** -/
theorem foldl (op : Operation) (vs : List Json) : op.Keeps vs (vs.foldl op.keepFirst none) := by
  induction vs using List.reverseRecOn with
  | nil => exact nofun
  | append_singleton vs v ih =>
    rw [List.foldl_append]
    exact ih.concat v

/-- **What is kept of the same candidates is equal** in the order of values. -/
theorem order_eq (h : op.Keeps vs kept) (hother : op.Keeps ws other) (hmem : ∀ v, v ∈ vs ↔ v ∈ ws) :
    Json.order (kept.getD .null) (other.getD .null) = .eq := by
  cases kept with
  | none =>
    cases other with
    | none => rfl
    | some s => exact absurd (h s ((hmem s).2 hother.mem)) hother.not_null
  | some r =>
    cases other with
    | none => exact absurd (hother r ((hmem r).1 h.mem)) h.not_null
    | some s =>
      have hrs : (op.merit r s).isGE := h.best s ((hmem s).2 hother.mem) hother.not_null
      have hsr : (op.merit s r).isGE := hother.best r ((hmem r).1 h.mem) h.not_null
      exact (op.merit_eq_iff r s).1 (Std.OrientedCmp.isLE_antisymm (Std.OrientedCmp.isLE_of_isGE hsr)
        (Std.OrientedCmp.isLE_of_isGE hrs))

end Keeps

end Operation

/-- **Choosing is going through the candidates.** -/
theorem applyTo_of_chooses {op : Operation} (hop : op.chooses = true) (values : List Json) :
    applyTo op values = .ok (((candidates values).foldl op.keepFirst none).getD .null) := by
  have hwanted : ∃ wanted, applyTo op values = .ok (extremum wanted values)
      ∧ ∀ a b, (Json.order a b == wanted) = (op.merit a b == .gt) := by
    cases op with
    | max => exact ⟨.gt, rfl, fun _ _ => rfl⟩
    | min =>
      refine ⟨.lt, rfl, fun a b => ?_⟩
      rw [Json.order_swap]
      show ((Json.order b a).swap == .lt) = (Json.order b a == .gt)
      cases Json.order b a <;> rfl
    | _ => exact absurd hop Bool.false_ne_true
  obtain ⟨wanted, hextremum, hmerit⟩ := hwanted
  rw [hextremum, extremum, List.foldl_filter]
  congr 2
  congr 1
  funext kept v
  unfold Operation.keepFirst
  cases v.isNull <;> cases kept <;> simp [hmerit]

namespace Expr

variable {document : Json} {op : Operation} {operands : List Expr} {values : List Json}

/-- **What is chosen is kept.** -/
theorem exists_keeps (hop : op.chooses = true) (h : evalAll document operands = .ok values) :
    ∃ kept, op.Keeps (candidates values) kept ∧ eval document (.call op operands) = .ok (kept.getD .null) := by
  refine ⟨_, .foldl op _, ?_⟩
  have hne : op ≠ .cond ∧ op ≠ .ifNull := by
    constructor <;> rintro rfl <;> exact absurd hop Bool.false_ne_true
  rw [eval_call hne.1 hne.2, h]
  exact applyTo_of_chooses hop values

/-- **`$max` and `$min` choose the first best candidate.** If all operands have values, there is a result. It is `null`
if and only if all candidates are, and otherwise the first of those that are as good as every candidate but `null`:
that compare as greater or equal for `$max`, and as less or equal for `$min`. In whatever order the candidates come, and
from whatever operands, the results are equal in the order of values. -/
theorem choice_firstBest (hop : op.chooses = true) (h : evalAll document operands = .ok values) :
    ∃ r, eval document (.call op operands) = .ok r
      ∧ (r = .null ↔ ∀ v ∈ candidates values, v = .null)
      ∧ (r ≠ .null → op.FirstBest (candidates values) r)
      ∧ ∀ (document' : Json) (operands' : List Expr) (values' : List Json) (r' : Json),
        evalAll document' operands' = .ok values' → (candidates values').Perm (candidates values) →
        eval document' (.call op operands') = .ok r' → Json.order r r' = .eq := by
  obtain ⟨kept, hkept, heval⟩ := exists_keeps hop h
  refine ⟨_, heval, ?_, ?_, fun document' operands' values' r' h' hperm heval' => ?_⟩
  case refine_1 =>
    cases kept with
    | none => exact iff_of_true rfl hkept
    | some r => exact iff_of_false hkept.not_null fun hall => hkept.not_null (hall r hkept.mem)
  case refine_2 =>
    cases kept with
    | none => exact fun hne => absurd rfl hne
    | some r => exact fun _ => hkept
  case refine_3 =>
    obtain ⟨other, hother, hresult⟩ := exists_keeps hop h'
    rw [← Except.ok.inj (hresult.symm.trans heval')]
    exact hkept.order_eq hother fun v => (hperm.mem_iff).symm

/-- Four amounts, one of which is missing. -/
def amounts : List Json := [.ofSigned 1, .ofFloat 4.0, .null, .ofSigned 4]

/-- **The largest amount** is the earlier one of the two that are four, and in any other order it is four again. -/
theorem largest_amount : eval .null (.call .max [.literal (.array amounts)]) = .ok (.ofFloat 4.0)
    ∧ ∀ (others : List Json) (r : Json), others.Perm amounts →
      eval .null (.call .max [.literal (.array others)]) = .ok r → Json.order (.ofFloat 4.0) r = .eq := by
  have hmax : eval .null (.call .max [.literal (.array amounts)]) = .ok (.ofFloat 4.0) := rfl
  obtain ⟨r, hr, -, -, hperm⟩ := choice_firstBest (show Operation.max.chooses = true from rfl)
    (show evalAll .null [.literal (.array amounts)] = .ok [.array amounts] from rfl)
  obtain rfl := Except.ok.inj (hmax.symm.trans hr)
  exact ⟨hmax, fun others r hothers => hperm .null _ [.array others] r rfl hothers⟩

end Expr

end Formula

end Rollup
