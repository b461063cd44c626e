import Rollup.Condition.Compile
import Rollup.Proofs.Path

/-!
# What combined predicates match

Conjunctions and disjunctions are built without the parts that say nothing. They match as if these were
there: a conjunction matches when all its parts do (`Predicate.holds_allOf`), a disjunction when one of
them does or when it has none (`Predicate.holds_anyOf`).
-/

namespace Rollup

namespace Predicate

variable (document : Json)

/-- The predicate that says nothing matches. -/
theorem holds_of_isEverything {p : Predicate} (h : p.isEverything = true) :
    p.holds document = true := by
  cases p with
  | everything => rfl
  | _ => exact absurd h Bool.false_ne_true

/-- **A conjunction matches when all its parts do.** -/
theorem holds_allOf (parts : List Predicate) :
    (allOf parts).holds document = parts.all (holds document) := by
  have hsaying : parts.all (holds document)
      = (parts.filter fun p => !p.isEverything).all (holds document) := by
    rw [List.all_filter]
    refine congrArg parts.all (funext fun p => ?_)
    cases hp : p.isEverything with
    | true => simp [holds_of_isEverything document hp]
    | false => simp
  rw [hsaying]
  unfold allOf
  split
  · simp [holds, *]
  · simp [*]
  · rw [holds, holdsAll_eq_all]

/-- **A disjunction matches when one of its parts does**, or when it has none. -/
theorem holds_anyOf (parts : List Predicate) :
    (anyOf parts).holds document = (parts.isEmpty || parts.any (holds document)) := by
  unfold anyOf
  split
  · next h =>
    obtain ⟨p, hp, hsays⟩ := List.any_eq_true.1 h
    have hany : parts.any (holds document) = true :=
      List.any_eq_true.2 ⟨p, hp, holds_of_isEverything document hsays⟩
    rw [hany, Bool.or_true]
    rfl
  · match parts with
    | [] => rfl
    | [p] => simp
    | p :: q :: rest =>
      rw [holds, holdsAny_eq_any]
      rfl

/-- **Whether a text equals another.** -/
theorem holds_compare_text {path text other : String} {document : Json}
    (h : Document.get? path document = some (.string text)) :
    (compare path .eq (.text other)).holds document = decide (text = other) := by
  show Comparison.holdsField .eq (.text other) (Document.get? path document) = _
  rw [h]
  show (some (Ord.compare text other) == some Ordering.eq) = _
  rw [Bool.eq_iff_iff, beq_iff_eq, Option.some_inj, Std.compare_eq_iff_eq, decide_eq_true_iff]

end Predicate

end Rollup
