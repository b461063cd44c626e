import Rollup.Plan.Reduction
import Rollup.Proofs.Double

/-!
# Largest and smallest numbers

A tally keeps the largest and the smallest of the numbers pushed into it. Both are **best** numbers, of which
no other number of the list is better, by a score: the number itself for the largest one, its negative for
the smallest one. Which of several equal best numbers is kept depends on their order, since the two zeros
are equal and different; as JSON values they are the same.

A best one of the best numbers of parts is a best number of the whole (`Reduction.IsBest.flatMap`). Sums have no
such law: adding doubles in another order may give another double.
-/

namespace Rollup

namespace Reduction

/-- The reductions that choose one of the numbers. -/
def Chooses (r : Reduction) : Prop := r = .max ∨ r = .min

instance (r : Reduction) : Decidable r.Chooses :=
  inferInstanceAs (Decidable (_ ∨ _))

/-- **How good a number is**: for a minimum the smaller ones are better. -/
def score (r : Reduction) (x : Float) : ℚ :=
  if r = .min then -(Binary.ofFloat x).value else (Binary.ofFloat x).value

/-- **A best number of a list**; only the empty list has none. -/
def IsBest (r : Reduction) (xs : List Float) : Option Float → Prop
  | none => xs = []
  | some m => m ∈ xs ∧ ∀ x ∈ xs, r.score x ≤ r.score m

namespace IsBest

variable {r : Reduction} {xs ys : List Float} {m n : Option Float}

/-- What is best depends on which numbers there are, not on their order. -/
theorem congr (h : r.IsBest xs m) (hmem : ∀ x, x ∈ xs ↔ x ∈ ys) : r.IsBest ys m := by
  cases m with
  | none =>
    have hxs : xs = [] := h
    exact List.eq_nil_iff_forall_not_mem.2 fun x hx =>
      absurd ((hmem x).2 hx) (hxs ▸ List.not_mem_nil)
  | some m => exact ⟨(hmem m).1 h.1, fun x hx => h.2 x ((hmem x).2 hx)⟩

/-- Of a best number and one more number the better one is best. -/
theorem concat (h : r.IsBest xs m) (x : Float) :
    r.IsBest (xs ++ [x]) (some (m.elim x fun m => if r.score m < r.score x then x else m)) := by
  cases m with
  | none =>
    rw [show xs = [] from h]
    exact ⟨List.mem_singleton_self x, fun y hy => (List.mem_singleton.1 hy) ▸ le_rfl⟩
  | some m =>
    rw [Option.elim_some]
    split
    · rename_i hlt
      refine ⟨List.mem_append_right _ (List.mem_singleton_self x), fun y hy => ?_⟩
      rcases List.mem_append.1 hy with hy | hy
      · exact (h.2 y hy).trans hlt.le
      · exact (List.mem_singleton.1 hy) ▸ le_rfl
    · rename_i hlt
      refine ⟨List.mem_append_left _ h.1, fun y hy => ?_⟩
      rcases List.mem_append.1 hy with hy | hy
      · exact h.2 y hy
      · exact (List.mem_singleton.1 hy) ▸ not_lt.1 hlt

/-- **A best one of the best numbers of parts is a best number of the whole.** -/
theorem flatMap {α : Type} {parts : List α} {numbers : α → List Float} {best : α → Option Float}
    (hparts : ∀ part ∈ parts, r.IsBest (numbers part) (best part))
    (h : r.IsBest (parts.filterMap best) m) : r.IsBest (parts.flatMap numbers) m := by
  have some_of_mem : ∀ part ∈ parts, ∀ x ∈ numbers part,
      ∃ b ∈ parts.filterMap best, r.score x ≤ r.score b := by
    intro part hpart x hx
    have hbest := hparts part hpart
    cases hb : best part with
    | none =>
      rw [hb] at hbest
      rw [show numbers part = [] from hbest] at hx
      exact absurd hx List.not_mem_nil
    | some b =>
      rw [hb] at hbest
      exact ⟨b, List.mem_filterMap.2 ⟨part, hpart, hb⟩, hbest.2 x hx⟩
  cases m with
  | none =>
    refine List.eq_nil_iff_forall_not_mem.2 fun x hx => ?_
    obtain ⟨part, hpart, hx⟩ := List.mem_flatMap.1 hx
    obtain ⟨b, hb, -⟩ := some_of_mem part hpart x hx
    rw [show parts.filterMap best = [] from h] at hb
    exact List.not_mem_nil hb
  | some m =>
    obtain ⟨part, hpart, hm⟩ := List.mem_filterMap.1 h.1
    have hbest := hparts part hpart
    rw [hm] at hbest
    refine ⟨List.mem_flatMap.2 ⟨part, hpart, hbest.1⟩, fun x hx => ?_⟩
    obtain ⟨other, hother, hx⟩ := List.mem_flatMap.1 hx
    obtain ⟨b, hb, hle⟩ := some_of_mem other hother x hx
    exact hle.trans (h.2 b hb)

/-- **Best numbers of one list are the same as JSON values.** -/
theorem same (hfinite : ∀ x ∈ xs, x.isFinite = true) (hm : r.IsBest xs m) (hn : r.IsBest xs n) :
    ((m.map Json.ofFloat).getD .null).same ((n.map Json.ofFloat).getD .null) = true := by
  cases m with
  | none =>
    cases n with
    | none => rfl
    | some n =>
      rw [show xs = [] from hm] at hn
      exact absurd hn.1 List.not_mem_nil
  | some m =>
    cases n with
    | none =>
      rw [show xs = [] from hn] at hm
      exact absurd hm.1 List.not_mem_nil
    | some n =>
      have hscore : r.score m = r.score n := le_antisymm (hn.2 m hm.1) (hm.2 n hn.1)
      have hvalue : (Binary.ofFloat m).value = (Binary.ofFloat n).value := by
        unfold score at hscore
        split at hscore
        · exact neg_injective hscore
        · exact hscore
      have hfm := hfinite m hm.1
      have hfn := hfinite n hn.1
      show (Json.ofFloat m).same (Json.ofFloat n) = true
      rw [Json.ofFloat, Json.ofFloat, dif_pos hfm, dif_pos hfn]
      exact (Binary.beq_iff_value_eq hfm hfn).2 hvalue

end IsBest

end Reduction

namespace Tally

/-- The number that a tally keeps for a reduction. -/
def kept (r : Reduction) (t : Tally) : Option Float := if r = .min then t.min? else t.max?

/-- A reduction that chooses shows the number that is kept. -/
theorem reduce_eq_kept {r : Reduction} (hr : r.Chooses) (t : Tally) :
    t.reduce r = ((t.kept r).map Json.ofFloat).getD .null := by
  rcases hr with rfl | rfl <;> rfl

/-- Of the number that is kept and the one that is pushed the better one is kept. -/
theorem kept_push {r : Reduction} {t : Tally} {x : Float} (hx : x.isFinite = true)
    (ht : ∀ m ∈ t.kept r, m.isFinite = true) :
    (t.push x).kept r
      = some ((t.kept r).elim x fun m => if r.score m < r.score x then x else m) := by
  unfold kept Reduction.score at *
  split
  · rename_i hmin
    rw [if_pos hmin] at ht
    show some (t.min?.elim x fun m => smaller m x) = _
    cases hm : t.min? with
    | none => rfl
    | some m =>
      exact congrArg some <| if_congr
        ((Binary.lt_iff_value_lt hx (ht m hm)).trans neg_lt_neg_iff.symm) rfl rfl
  · rename_i hmin
    rw [if_neg hmin] at ht
    show some (t.max?.elim x fun m => larger m x) = _
    cases hm : t.max? with
    | none => rfl
    | some m =>
      exact congrArg some <| if_congr (Binary.lt_iff_value_lt (ht m hm) hx) rfl rfl

/-- **A tally keeps a best one of the numbers pushed into it.** -/
theorem isBest_kept {r : Reduction} {xs : List Float} (hxs : ∀ x ∈ xs, x.isFinite = true) :
    r.IsBest xs ((xs.foldl push {}).kept r) := by
  suffices h : ∀ (ys : List Float) (t : Tally), (∀ y ∈ ys, y.isFinite = true) →
      r.IsBest ys (t.kept r) → r.IsBest (ys ++ xs) ((xs.foldl push t).kept r) from
    h [] {} (fun _ hy => absurd hy List.not_mem_nil) (by unfold kept; split <;> rfl)
  induction xs with
  | nil =>
    intro ys t _ ht
    rw [List.append_nil]
    exact ht
  | cons x xs ih =>
    intro ys t hys ht
    have hx := hxs x List.mem_cons_self
    have hkept : ∀ m ∈ t.kept r, m.isFinite = true := by
      intro m hm
      rw [show t.kept r = some m from hm] at ht
      exact hys m ht.1
    rw [List.append_cons, List.foldl_cons]
    refine ih (fun y hy => hxs y (List.mem_cons_of_mem _ hy)) (ys ++ [x]) (t.push x) ?_ ?_
    · intro y hy
      rcases List.mem_append.1 hy with hy | hy
      · exact hys y hy
      · exact (List.mem_singleton.1 hy) ▸ hx
    · rw [kept_push hx hkept]
      exact ht.concat x

end Tally

end Rollup
