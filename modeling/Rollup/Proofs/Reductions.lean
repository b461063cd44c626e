import Rollup.Proofs.Extrema
import Rollup.Proofs.Partition
import Rollup.Stage.Group
import Rollup.Stage.Regroup

/-!
# What reductions make of numbers

Numbers are collected in a tally, one after the other, and a reduction is read off the tally at the end. What
comes out can be said of the numbers themselves (`Reduction.ofNumbers`): their sum from zero on, the mean as
that sum through how many they are, the largest and the smallest one by going through them from the first to
the last. That is what a tally gives (`Tally.reduce_foldl_push`), in the order of the numbers, so that nothing
has to be known of how doubles are added.

Merged rows contribute to a mean what is kept beside the mean of each row, or the mean itself as a single
number (`Regroup.contribution?`); the other reductions are those of the numbers that the rows show
(`Regroup.reduce_tally`). Numbers of records are words of sixty-four bits everywhere.
-/

namespace Rollup

namespace Reduction

/-- The sum of numbers, from zero on and in their order. -/
def total (xs : List Float) : Float := xs.foldl (· + ·) 0

/-- **The mean of so many numbers with this sum**; without numbers there is none. -/
def mean (sum : Float) (count : UInt64) : Json := if count = 0 then .null else .ofFloat (sum / count.toFloat)

/-- The number that is left when each of two is chosen from, from the first to the last one. -/
def chosen (choose : Float → Float → Float) : List Float → Json
  | [] => .null
  | x :: rest => .ofFloat (rest.foldl choose x)

/-- **What a reduction makes of numbers.** -/
def ofNumbers : Reduction → List Float → Json
  | .sum, xs => .ofFloat (total xs)
  | .avg, xs => mean (total xs) (UInt64.ofNat xs.length)
  | .max, xs => chosen Tally.larger xs
  | .min, xs => chosen Tally.smaller xs

end Reduction

/-- A reduction that chooses is no mean. -/
theorem Reduction.Chooses.ne_avg {r : Reduction} (h : r.Chooses) : r ≠ .avg := by
  rcases h with rfl | rfl <;> decide

namespace Tally

variable (xs : List Float) (t : Tally)

/-- The sum goes on from what it was. -/
theorem sum_foldl_push : (xs.foldl push t).sum = xs.foldl (· + ·) t.sum := by
  induction xs generalizing t with
  | nil => rfl
  | cons x xs ih => exact ih (t.push x)

/-- So does the number. -/
theorem count_foldl_push : (xs.foldl push t).count = t.count + UInt64.ofNat xs.length := by
  induction xs generalizing t with
  | nil => exact (UInt64.add_zero _).symm
  | cons x xs ih =>
    rw [List.foldl_cons, ih, List.length_cons, Nat.add_comm, UInt64.ofNat_add, ← UInt64.add_assoc]
    rfl

variable {t} {m : Float}

/-- The largest number is chosen from one to the next. -/
theorem max?_foldl_push (h : t.max? = some m) : (xs.foldl push t).max? = some (xs.foldl larger m) := by
  induction xs generalizing t m with
  | nil => exact h
  | cons x xs ih =>
    refine @ih (t.push x) (larger m x) ?_
    show some (t.max?.elim x fun m => larger m x) = _
    rw [h, Option.elim_some]

/-- So is the smallest. -/
theorem min?_foldl_push (h : t.min? = some m) : (xs.foldl push t).min? = some (xs.foldl smaller m) := by
  induction xs generalizing t m with
  | nil => exact h
  | cons x xs ih =>
    refine @ih (t.push x) (smaller m x) ?_
    show some (t.min?.elim x fun m => smaller m x) = _
    rw [h, Option.elim_some]

/-- **A tally of numbers is reduced to what the reduction makes of them.** -/
theorem reduce_foldl_push (r : Reduction) : (xs.foldl push {}).reduce r = r.ofNumbers xs := by
  have hmean : (xs.foldl push {}).reduce .avg = Reduction.mean (xs.foldl push {}).sum (xs.foldl push {}).count := rfl
  cases r with
  | sum => exact congrArg Json.ofFloat (sum_foldl_push xs {})
  | avg =>
    rw [hmean, sum_foldl_push, count_foldl_push]
    exact congrArg (Reduction.mean _) (UInt64.zero_add _)
  | max =>
    cases xs with
    | nil => rfl
    | cons x rest =>
      show ((rest.foldl push (push {} x)).max?.map Json.ofFloat).getD .null = _
      rw [@max?_foldl_push rest (push {} x) x rfl]
      rfl
  | min =>
    cases xs with
    | nil => rfl
    | cons x rest =>
      show ((rest.foldl push (push {} x)).min?.map Json.ofFloat).getD .null = _
      rw [@min?_foldl_push rest (push {} x) x rfl]
      rfl

/-- What is kept beside a mean: the number of the numbers, and their sum. -/
theorem partials_foldl_push : (xs.foldl push {}).partials
    = .object [("n", .ofCount xs.length), ("sum", .ofFloat (Reduction.total xs))] := by
  unfold partials
  rw [sum_foldl_push, count_foldl_push, show ({} : Tally).count = 0 from rfl, UInt64.zero_add]
  rfl

end Tally

/-! ## Numbers of documents -/

/-- A value that is read as a double is finite. -/
theorem Json.isFinite_of_asFloat? {j : Json} {x : Float} (h : j.asFloat? = some x) :
    x.isFinite = true := by
  cases j with
  | number n =>
    rw [← Option.some.inj h]
    exact n.isFinite_toFloat
  | _ => exact absurd h nofun

/-- The numbers of documents are finite. -/
theorem isFinite_of_mem_filterMap {path : String} {documents : List Json} {x : Float}
    (h : x ∈ documents.filterMap fun d => (Document.get? path d).bind Json.asFloat?) :
    x.isFinite = true := by
  obtain ⟨d, -, hd⟩ := List.mem_filterMap.1 h
  obtain ⟨v, -, hv⟩ := Option.bind_eq_some_iff.1 hd
  exact Json.isFinite_of_asFloat? hv

/-! ## Merged rows -/

/-- What is counted in words adds up like numbers, both modulo `2 ^ 64`. -/
theorem foldl_add_ofNat (ns : List ℕ) (n : ℕ) :
    (ns.map UInt64.ofNat).foldl (· + ·) (UInt64.ofNat n) = UInt64.ofNat (n + ns.sum) := by
  induction ns generalizing n with
  | nil => rfl
  | cons m rest ih =>
    rw [List.map_cons, List.foldl_cons, ← UInt64.ofNat_add, ih, List.sum_cons, Nat.add_assoc]

namespace Regroup

/-- **What a row contributes to a mean**: the sum and the number kept beside its mean, or the mean itself as a
single number. -/
def contribution? (fieldId : String) (row : Json) : Option (Float × UInt64) :=
  (partialsOf? fieldId row).or ((valueOf? fieldId row).map fun value => (value, 1))

/-- **What merging makes of an aggregate of some rows.** -/
def reduced (a : MergedAggregate) (rows : List Json) : Json :=
  match a.reduction with
  | .avg =>
    let contributions := rows.filterMap (contribution? a.fieldId)
    Reduction.mean (Reduction.total (contributions.map Prod.fst))
      (UInt64.ofNat (contributions.map fun c => c.2.toNat).sum)
  | r => r.ofNumbers (rows.filterMap (valueOf? a.fieldId))

/-- A reduction that is no mean is merged from the numbers that the rows show. -/
theorem tally_of_ne_avg {fieldId : String} {r : Reduction} (hr : r ≠ .avg) (rows : List Json) :
    tally ⟨fieldId, r⟩ rows = (rows.filterMap (valueOf? fieldId)).foldl Tally.push {} := by
  unfold tally
  generalize ({} : Tally) = t
  induction rows generalizing t with
  | nil => rfl
  | cons row rest ih =>
    have habsorb : absorb ⟨fieldId, r⟩ t row
        = ((valueOf? fieldId row).map t.push).getD t := by
      unfold absorb
      cases r with
      | avg => exact absurd rfl hr
      | _ => cases valueOf? fieldId row <;> rfl
    rw [List.foldl_cons, ih, habsorb, List.filterMap_cons]
    cases valueOf? fieldId row <;> rfl

/-- A row that contributes to a mean adds its sum and its number. -/
theorem absorb_avg (fieldId : String) (t : Tally) (row : Json) :
    (absorb ⟨fieldId, .avg⟩ t row).sum = ((contribution? fieldId row).elim t.sum fun c => t.sum + c.1)
      ∧ (absorb ⟨fieldId, .avg⟩ t row).count
        = (contribution? fieldId row).elim t.count fun c => t.count + c.2 := by
  unfold absorb contribution?
  cases partialsOf? fieldId row with
  | some kept => exact ⟨rfl, rfl⟩
  | none => cases valueOf? fieldId row <;> exact ⟨rfl, rfl⟩

/-- A mean is merged from what the rows contribute. -/
theorem foldl_absorb_avg (fieldId : String) (t : Tally) (rows : List Json) :
    let contributions := rows.filterMap (contribution? fieldId)
    (rows.foldl (absorb ⟨fieldId, .avg⟩) t).sum = (contributions.map Prod.fst).foldl (· + ·) t.sum
      ∧ (rows.foldl (absorb ⟨fieldId, .avg⟩) t).count
        = t.count + UInt64.ofNat (contributions.map fun c => c.2.toNat).sum := by
  induction rows generalizing t with
  | nil => exact ⟨rfl, (UInt64.add_zero _).symm⟩
  | cons row rest ih =>
    obtain ⟨hsum, hcount⟩ := absorb_avg fieldId t row
    obtain ⟨ihsum, ihcount⟩ := ih (absorb ⟨fieldId, .avg⟩ t row)
    dsimp only
    rw [List.foldl_cons, ihsum, ihcount, hsum, hcount, List.filterMap_cons]
    cases contribution? fieldId row with
    | none => exact ⟨rfl, rfl⟩
    | some c =>
      refine ⟨rfl, ?_⟩
      dsimp only [Option.elim_some]
      rw [List.map_cons, List.sum_cons, UInt64.ofNat_add, UInt64.ofNat_toNat, UInt64.add_assoc]

/-- **Merging reduces what the rows show and contribute.** -/
theorem reduce_tally (a : MergedAggregate) (rows : List Json) :
    (tally a rows).reduce a.reduction = reduced a rows := by
  obtain ⟨fieldId, r⟩ := a
  have hnumbers : r ≠ .avg → (tally ⟨fieldId, r⟩ rows).reduce r
      = r.ofNumbers (rows.filterMap (valueOf? fieldId)) := by
    intro hr
    rw [tally_of_ne_avg hr, Tally.reduce_foldl_push]
  cases r with
  | avg =>
    obtain ⟨hsum, hcount⟩ := foldl_absorb_avg fieldId {} rows
    show Reduction.mean (tally ⟨fieldId, .avg⟩ rows).sum (tally ⟨fieldId, .avg⟩ rows).count = _
    unfold tally
    rw [hsum, hcount, show ({} : Tally).count = 0 from rfl, UInt64.zero_add]
    rfl
  | sum | max | min => exact hnumbers (by decide)

/-- **What is merged for a reduction that chooses** is a best one of the numbers that the rows show. -/
theorem exists_isBest_reduced {fieldId : String} {r : Reduction} (hr : r.Chooses) (rows : List Json) :
    ∃ m, r.IsBest (rows.filterMap (valueOf? fieldId)) m
      ∧ reduced ⟨fieldId, r⟩ rows = (m.map Json.ofFloat).getD .null := by
  refine ⟨_, Tally.isBest_kept fun x hx => isFinite_of_mem_filterMap hx, ?_⟩
  rw [← reduce_tally, Tally.reduce_eq_kept hr, tally_of_ne_avg hr.ne_avg]

/-- The number of records of a row. -/
def countIn (row : Json) : UInt64 := ((Document.get? Stage.countPath row).bind Decode.word).getD 0

/-- The number of the records of all rows, were it not a word. -/
def records (rows : List Json) : ℕ := (rows.map fun row => (countIn row).toNat).sum

/-- **Counts are added up.** -/
theorem countOf_eq_records (rows : List Json) : countOf rows = UInt64.ofNat (records rows) := by
  have hwords : rows.map countIn = (rows.map fun row => (countIn row).toNat).map UInt64.ofNat := by
    rw [List.map_map]
    exact List.map_congr_left fun row _ => UInt64.ofNat_toNat.symm
  show (rows.map countIn).foldl (· + ·) (UInt64.ofNat 0) = _
  rw [hwords, foldl_add_ofNat, Nat.zero_add]
  rfl

/-- What is added up in groups adds up to what there is of all documents. -/
theorem sum_sum_partitionBy (key : Json → String) (weight : Json → ℕ) (documents : List Json) :
    ((Stage.partitionBy key documents).map fun group => (group.2.map weight).sum).sum
      = (documents.map weight).sum := by
  rw [← ((Stage.perm_partitionBy key documents).map weight).sum_eq, List.map_flatMap, List.flatMap_def,
    List.sum_flatten, List.map_map]
  rfl

section Groups

variable {key : Json → String} {row : List Json → Json} {documents : List Json} (weight : Json → ℕ)
  (h : ∀ group ∈ Stage.partitionBy key documents,
    Document.get? Stage.countPath (row group.2) = some (.ofCount (group.2.map weight).sum))
include h

/-- What the row of a group counts. -/
theorem countIn_row {group : String × List Json} (hgroup : group ∈ Stage.partitionBy key documents) :
    countIn (row group.2) = UInt64.ofNat (group.2.map weight).sum := by
  unfold countIn
  rw [h group hgroup]
  exact congrArg (Option.getD · 0) (Decode.word_ofWord _)

/-- **What the rows of groups count** adds up to what there is of all documents. -/
theorem countOf_groups : countOf ((Stage.partitionBy key documents).map fun group => row group.2)
    = UInt64.ofNat (documents.map weight).sum := by
  have hwords : ((Stage.partitionBy key documents).map fun group => row group.2).map countIn
      = ((Stage.partitionBy key documents).map fun group => (group.2.map weight).sum).map UInt64.ofNat := by
    rw [List.map_map, List.map_map]
    exact List.map_congr_left fun group hgroup => countIn_row weight h hgroup
  show ((_ : List Json).map countIn).foldl (· + ·) (UInt64.ofNat 0) = _
  rw [hwords, foldl_add_ofNat, Nat.zero_add, sum_sum_partitionBy]

/-- So it does without wrapping, unless this is too much for a word. -/
theorem records_groups (hfits : (documents.map weight).sum < UInt64.size) :
    records ((Stage.partitionBy key documents).map fun group => row group.2) = (documents.map weight).sum := by
  rw [← sum_sum_partitionBy key weight documents] at hfits ⊢
  unfold records
  rw [List.map_map]
  refine congrArg List.sum (List.map_congr_left fun group hgroup => ?_)
  have hgroupfits : (group.2.map weight).sum < UInt64.size :=
    (List.le_sum_of_mem (List.mem_map_of_mem hgroup)).trans_lt hfits
  exact (congrArg UInt64.toNat (countIn_row weight h hgroup)).trans (UInt64.toNat_ofNat_of_lt hgroupfits)

end Groups

/-- **Grouped rows that count their records** count all of them together. -/
theorem countOf_run_grouping {g : Grouping}
    (h : ∀ members, Document.get? Stage.countPath (g.row members) = some (.ofCount members.length))
    (documents : List Json) : countOf (g.run documents) = UInt64.ofNat documents.length
      ∧ (documents.length < UInt64.size → records (g.run documents) = documents.length) := by
  have hlength : ∀ members : List Json, (members.map fun _ => 1).sum = members.length := fun members => by simp
  have hrows : ∀ group ∈ Stage.partitionBy g.keyOf documents, Document.get? Stage.countPath (g.row group.2)
      = some (.ofCount (group.2.map fun _ => 1).sum) := by
    intro group _
    rw [h, hlength]
  rw [← hlength documents]
  exact ⟨countOf_groups (fun _ => 1) hrows, records_groups (fun _ => 1) hrows⟩

end Regroup

end Rollup
