import Mathlib.Data.List.Basic
import Rollup.Proofs.GroupedRows
import Rollup.Proofs.Reductions
import Rollup.Proofs.TupleKey

/-!
# Merging grouped rows

Records are grouped by their key values and their access groups, and what a caller may see of the rows is
merged again by the key values alone. The merged rows should not depend on how the records were split over
access groups. They do in one place: a value missing in a related datastore agrees with `null` when records
are grouped, but its empty cell differs from the cell that holds `null` when rows are merged.

Where no two records differ in just that, which is what `GroupSpec.Consistent` says, there is one merged row
for each tuple of key values, it counts the records of the tuple, and its largest and smallest numbers are
those of these records (`GroupSpec.Plain.mergesOf`); so no split matters. Where two records do differ in
that, two access groups are enough to tear their row apart.
-/

namespace Rollup

open Materialization (grouping outputKey aggregation)
open Presentation (regrouping)

namespace Key

/-- Where the value that a record had is read in a row. -/
def shownPath (k : Key) : String := if k.isRelated then k.valuePath else k.outputPath

/-- What a row shows of a key is decided by the column of the key. -/
theorem get?_shownPath (k : Key) (row : Json) :
    Document.get? k.shownPath row
      = if k.isRelated then (Document.get? k.outputPath row).bind (Document.getAt? ["value"])
        else Document.get? k.outputPath row := by
  unfold shownPath
  cases hr : k.isRelated with
  | true =>
    have hitem := isItem_of_isRelated hr
    have hvalue : k.valuePath = Stage.valuePath k.fieldId := if_pos hitem
    have hcell : k.outputPath = Stage.cellPath k.fieldId := if_pos hitem
    rw [if_pos rfl, if_pos rfl, hvalue, hcell, Stage.get?_valuePath]
  | false => rw [if_neg (by decide), if_neg (by decide)]

/-- **A row shows the value that the record had**, where it holds what is written of the record. -/
theorem get?_shownPath_of_written {k : Key} {row source : Json}
    (h : Document.get? k.outputPath row = k.written source) :
    Document.get? k.shownPath row = Document.get? (outputKey k).source source := by
  rw [get?_shownPath, h]
  unfold written outputKey
  cases hr : k.isRelated with
  | true =>
    rw [show k.relation?.isSome = true from hr, if_pos rfl, if_pos rfl, if_pos rfl]
    cases Document.get? k.sourcePath source <;> rfl
  | false =>
    rw [show k.relation?.isSome = false from hr, if_neg (by decide), if_neg (by decide),
      if_neg (by decide)]

end Key

namespace GroupSpec

variable {spec : GroupSpec} {time : Instant}

/-! ## Tuples of key values -/

/-- **The key values of a record**, as the text by which they are compared: a missing value counts as
`null`. -/
def tuple (spec : GroupSpec) (record : Json) : String :=
  Document.tupleKey (spec.keys.map fun k => Document.get? (outputKey k).source record)

/-- **The key values that a row shows**, as such a text. -/
def shownTuple (spec : GroupSpec) (row : Json) : String :=
  Document.tupleKey (spec.keys.map fun k => Document.get? k.shownPath row)

/-- **Whether two records have values in the same related fields.** -/
def SamePresence (spec : GroupSpec) (d e : Json) : Prop :=
  ∀ k ∈ spec.keys, k.isRelated = true →
    ((Document.get? k.sourcePath d).isSome ↔ (Document.get? k.sourcePath e).isSome)

/-- **Records with equal key values have values in the same related fields**: none lacks a value where
another one has `null`. -/
def Consistent (spec : GroupSpec) (records : List Json) : Prop :=
  ∀ d ∈ records, ∀ e ∈ records, spec.tuple d = spec.tuple e → spec.SamePresence d e

/-- Key values are equal when they agree one by one. -/
theorem tuple_eq_iff {d e : Json} : spec.tuple d = spec.tuple e ↔ ∀ k ∈ spec.keys,
    Document.canonical (Document.get? (outputKey k).source d)
      = Document.canonical (Document.get? (outputKey k).source e) := by
  unfold tuple
  rw [Document.tupleKey_eq_iff, List.map_map, List.map_map, List.map_inj_left]
  rfl

/-- **Records are in one group when their key values and their access groups agree.** -/
theorem keyOf_grouping_eq_iff {d e : Json} :
    (grouping spec time).keyOf d = (grouping spec time).keyOf e ↔ spec.tuple d = spec.tuple e ∧
      Document.canonical (Document.get? Stage.ownersPath d)
        = Document.canonical (Document.get? Stage.ownersPath e) := by
  unfold Grouping.keyOf grouping
  rw [Document.tupleKey_concat_eq_iff, ← Document.tupleKey_eq_iff, List.map_map, List.map_map]
  rfl

/-- The columns of a key agree when the values do, and a related one is missing in both or in neither. -/
theorem canonical_written_eq_iff {k : Key} {d e : Json} :
    Document.canonical (k.written d) = Document.canonical (k.written e) ↔
      Document.canonical (Document.get? (outputKey k).source d)
          = Document.canonical (Document.get? (outputKey k).source e) ∧
        (k.isRelated = true →
          ((Document.get? k.sourcePath d).isSome ↔ (Document.get? k.sourcePath e).isSome)) := by
  unfold Key.written outputKey
  cases hr : k.isRelated with
  | true =>
    rw [show k.relation?.isSome = true from hr, if_pos rfl, if_pos rfl, if_pos rfl]
    refine (Document.canonicalValue_openCell_eq_iff).trans ?_
    exact and_congr_right fun _ => ⟨fun h _ => h, fun h => h rfl⟩
  | false =>
    rw [show k.relation?.isSome = false from hr, if_neg (by decide), if_neg (by decide),
      if_neg (by decide)]
    exact (and_iff_left (fun h => absurd h (by decide))).symm

namespace Plain

/-- **Grouped rows are merged when the key values of their records are equal, and these have values in the
same related fields.** -/
theorem keyOf_regrouping_eq_iff (h : spec.Plain) {members others : List Json} :
    (regrouping spec).keyOf ((grouping spec time).row members)
        = (regrouping spec).keyOf ((grouping spec time).row others) ↔
      spec.tuple (members.headD .null) = spec.tuple (others.headD .null) ∧
        spec.SamePresence (members.headD .null) (others.headD .null) := by
  have hkeys : ∀ members, ((regrouping spec).keys.map fun path =>
      Document.get? path ((grouping spec time).row members))
      = spec.keys.map fun k => k.written (members.headD .null) := by
    intro members
    unfold regrouping
    rw [List.map_map]
    exact List.map_congr_left fun k hk => h.separate.get?_key time members hk
  unfold Regroup.keyOf
  rw [Document.tupleKey_concat_eq_iff, hkeys, hkeys, h.separate.get?_time, h.separate.get?_time, List.map_map,
    List.map_map, List.map_inj_left, tuple_eq_iff]
  simp only [Function.comp_apply, canonical_written_eq_iff, and_true]
  exact ⟨fun hall => ⟨fun k hk => (hall k hk).1, fun k hk => (hall k hk).2⟩,
    fun hall k hk => ⟨hall.1 k hk, hall.2 k hk⟩⟩

/-- A grouped row shows the key values of its first record. -/
theorem shownTuple_row (h : spec.Plain) (members : List Json) :
    spec.shownTuple ((grouping spec time).row members) = spec.tuple (members.headD .null) :=
  congrArg Document.tupleKey <| List.map_congr_left fun _ hk =>
    Key.get?_shownPath_of_written (h.separate.get?_key time members hk)

/-- A merged row shows what its first row shows. -/
theorem shownTuple_mergedRow (h : spec.Plain) (rows : List Json) :
    spec.shownTuple ((regrouping spec).row rows) = spec.shownTuple (rows.headD .null) := by
  refine congrArg Document.tupleKey <| List.map_congr_left fun k hk => ?_
  rw [Key.get?_shownPath, Key.get?_shownPath, h.separate.get?_mergedKey rows hk]

end Plain

/-! ## Counts and best numbers of merged rows -/

namespace Plain

variable (h : spec.Plain)
include h

/-- **The counts of grouped rows add up to the number of the records.** -/
theorem countOf_run (hcount : spec.showCount = true) (records : List Json) :
    Regroup.countOf ((grouping spec time).run records) = UInt64.ofNat records.length := by
  refine (Regroup.countOf_run_grouping (fun members => ?_) records).1
  rw [h.separate.get?_count _ _ h.count_not_mem, if_pos hcount]

/-- The number that a grouped row shows for a reduction that chooses is a best one of its records. -/
theorem isBest_valueOf? {a : AggregateKey} (ha : a ∈ spec.aggregates) (hr : a.reduction.Chooses)
    (members : List Json) :
    a.reduction.IsBest (Grouping.numbers (aggregation a) members)
      (Regroup.valueOf? a.key.fieldId ((grouping spec time).row members)) := by
  have hbest : a.reduction.IsBest (Grouping.numbers (aggregation a) members)
      ((Grouping.tally (aggregation a) members).kept a.reduction) :=
    Tally.isBest_kept fun x hx => isFinite_of_mem_filterMap hx
  have hvalue : Regroup.valueOf? a.key.fieldId ((grouping spec time).row members)
      = (Grouping.tally (aggregation a) members).kept a.reduction := by
    unfold Regroup.valueOf?
    rw [h.separate.get?_aggregate time members ha, Tally.reduce_eq_kept hr, Option.bind_some]
    cases hkept : (Grouping.tally (aggregation a) members).kept a.reduction with
    | none => rfl
    | some m =>
      rw [hkept] at hbest
      show (Json.ofFloat m).asFloat? = some m
      rw [Json.ofFloat, dif_pos (isFinite_of_mem_filterMap hbest.1)]
      rfl
  rw [hvalue]
  exact hbest

/-- **The numbers that a merged row shows for a reduction that chooses are best ones of all records.** -/
theorem isBest_run {a : AggregateKey} (ha : a ∈ spec.aggregates) (hr : a.reduction.Chooses)
    (records : List Json) :
    a.reduction.IsBest (Grouping.numbers (aggregation a) records)
      ((Regroup.tally ⟨a.key.fieldId, a.reduction⟩ ((grouping spec time).run records)).kept
        a.reduction) := by
  let groups := Stage.partitionBy (grouping spec time).keyOf records
  have hbest : a.reduction.IsBest
      (groups.filterMap fun group =>
        Regroup.valueOf? a.key.fieldId ((grouping spec time).row group.2))
      ((Regroup.tally ⟨a.key.fieldId, a.reduction⟩ ((grouping spec time).run records)).kept
        a.reduction) := by
    rw [Regroup.tally_of_ne_avg hr.ne_avg, Grouping.run, List.filterMap_map]
    refine Tally.isBest_kept fun x hx => ?_
    obtain ⟨group, -, hgroup⟩ := List.mem_filterMap.1 hx
    obtain ⟨v, -, hv⟩ := Option.bind_eq_some_iff.1 hgroup
    exact Json.isFinite_of_asFloat? hv
  have hwhole : groups.flatMap (fun group => Grouping.numbers (aggregation a) group.2)
      = Grouping.numbers (aggregation a) (groups.flatMap Prod.snd) := by
    unfold Grouping.numbers
    rw [List.filterMap_flatMap]
  refine (Reduction.IsBest.flatMap (fun group _ => h.isBest_valueOf? ha hr group.2) hbest).congr ?_
  intro x
  rw [hwhole]
  exact ((Stage.perm_partitionBy _ records).filterMap _).mem_iff

end Plain

/-! ## One row for each tuple -/

/-- **One row for each tuple of key values.** -/
structure OnePerTuple (spec : GroupSpec) (records rows : List Json) : Prop where
  /-- No two rows show the same tuple. -/
  nodup : (rows.map spec.shownTuple).Nodup
  /-- The tuples that are shown are those of the records. -/
  mem_iff : ∀ t, t ∈ rows.map spec.shownTuple ↔ t ∈ records.map spec.tuple

/-- **Rows that merge the groups of some records**: one row for each tuple of key values, which counts the
records of the tuple and shows their best numbers. -/
structure MergesOf (spec : GroupSpec) (records rows : List Json) : Prop
    extends OnePerTuple spec records rows where
  /-- The number of the records of a tuple is shown, where records are counted. -/
  count : ∀ row ∈ rows, Document.get? Stage.countPath row = if spec.showCount then
    some (.ofCount (Stage.sharing spec.tuple (spec.shownTuple row) records).length) else none
  /-- The largest and smallest numbers are those of the records of the tuple. -/
  best : ∀ row ∈ rows, ∀ a ∈ spec.aggregates, a.reduction.Chooses → ∃ m,
    a.reduction.IsBest (Grouping.numbers (aggregation a)
      (Stage.sharing spec.tuple (spec.shownTuple row) records)) m ∧
    Document.get? (Stage.valuePath a.key.fieldId) row = some ((m.map Json.ofFloat).getD .null)

/-- **The rows of some records after grouping and merging.** -/
def merged (spec : GroupSpec) (time : Instant) (records : List Json) : List Json :=
  (regrouping spec).run ((grouping spec time).run records)

namespace Plain

variable (h : spec.Plain) {records : List Json} {group : String × List Json}

/-- The first row that is merged is the row of a group of records, and decides the text that is merged
by. -/
theorem exists_head
    (hgroup : group ∈ Stage.partitionBy (regrouping spec).keyOf ((grouping spec time).run records)) :
    ∃ members : List Json, members.headD .null ∈ records ∧
      group.2.headD .null = (grouping spec time).row members ∧
      (regrouping spec).keyOf ((grouping spec time).row members) = group.1 := by
  obtain ⟨hhead, hkey⟩ := Stage.head_of_mem_partitionBy _ hgroup
  obtain ⟨inner, hinner, hrow⟩ := List.mem_map.1 hhead
  refine ⟨inner.2, (Stage.head_of_mem_partitionBy _ hinner).1, hrow.symm, ?_⟩
  rw [← hkey, ← hrow]

include h

/-- The row of merged rows shows the tuple of a record. -/
theorem shownTuple_of_head {members : List Json}
    (hhead : group.2.headD .null = (grouping spec time).row members) :
    spec.shownTuple ((regrouping spec).row group.2) = spec.tuple (members.headD .null) := by
  rw [h.shownTuple_mergedRow, hhead, h.shownTuple_row]

/-- **Each record has its group of merged rows**: the one that the row of its own group is in. -/
theorem exists_group {d : Json} (hd : d ∈ records) :
    ∃ group ∈ Stage.partitionBy (regrouping spec).keyOf ((grouping spec time).run records),
      spec.shownTuple ((regrouping spec).row group.2) = spec.tuple d ∧
      ∃ members : List Json, members.headD .null ∈ records ∧
        (grouping spec time).keyOf (members.headD .null) = (grouping spec time).keyOf d ∧
        (regrouping spec).keyOf ((grouping spec time).row members) = group.1 := by
  have hinner := Stage.sharing_mem_partitionBy (grouping spec time).keyOf hd
  obtain ⟨hmem, hkey⟩ := Stage.head_of_mem_partitionBy _ hinner
  have hrow := List.mem_map_of_mem (f := fun group => (grouping spec time).row group.2) hinner
  have hgroup := Stage.sharing_mem_partitionBy (regrouping spec).keyOf hrow
  refine ⟨_, hgroup, ?_, _, hmem, hkey, rfl⟩
  obtain ⟨members, -, hhead, hsame⟩ := exists_head hgroup
  rw [h.shownTuple_of_head hhead, (h.keyOf_regrouping_eq_iff.1 hsame).1]
  exact (keyOf_grouping_eq_iff.1 hkey).1

/-- **Consistent records: what is merged are the rows of all records of a tuple.** -/
theorem eq_run_sharing (hconsistent : spec.Consistent records)
    (hgroup : group ∈ Stage.partitionBy (regrouping spec).keyOf ((grouping spec time).run records)) :
    group.2 = (grouping spec time).run
      (Stage.sharing spec.tuple (spec.shownTuple ((regrouping spec).row group.2)) records) := by
  obtain ⟨members, hmem, hhead, hkey⟩ := exists_head hgroup
  rw [h.shownTuple_of_head hhead, ((Stage.mem_partitionBy _).1 hgroup).1]
  unfold Grouping.run
  have hpart : Stage.partitionBy (grouping spec time).keyOf
      (Stage.sharing spec.tuple (spec.tuple (members.headD .null)) records)
      = (Stage.partitionBy (grouping spec time).keyOf records).filter fun inner =>
          decide (spec.tuple (inner.2.headD .null) = spec.tuple (members.headD .null)) := by
    refine Stage.partitionBy_filter _ fun d _ e _ hde => ?_
    rw [(keyOf_grouping_eq_iff.1 hde).1]
  rw [hpart, Stage.sharing, List.filter_map]
  refine congrArg (List.map _) (List.filter_congr fun inner hinner => ?_)
  have hinnerMem := (Stage.head_of_mem_partitionBy _ hinner).1
  refine decide_eq_decide.2 ?_
  rw [← hkey, h.keyOf_regrouping_eq_iff]
  exact ⟨And.left, fun ht => ⟨ht, hconsistent _ hinnerMem _ hmem ht⟩⟩

/-- **Consistent records are merged to one row for each tuple**, however they are split over access
groups. -/
theorem mergesOf (hconsistent : spec.Consistent records) :
    spec.MergesOf records (spec.merged time records) where
  nodup := by
    unfold merged Regroup.run
    rw [List.map_map]
    refine List.pairwise_map.2 ((Stage.sorted_partitionBy _ _).imp_of_mem fun ha hb hlt htuple => ?_)
    obtain ⟨members, hmem, hhead, hkey⟩ := exists_head ha
    obtain ⟨others, hother, hhead', hkey'⟩ := exists_head hb
    have htuple : spec.tuple (members.headD .null) = spec.tuple (others.headD .null) := by
      rw [← h.shownTuple_of_head hhead, ← h.shownTuple_of_head hhead']
      exact htuple
    have hsame := (@keyOf_regrouping_eq_iff spec time h _ _).2
      ⟨htuple, hconsistent _ hmem _ hother htuple⟩
    exact absurd (hkey.symm.trans (hsame.trans hkey')) (ne_of_lt hlt)
  mem_iff := by
    intro t
    constructor
    · intro ht
      obtain ⟨row, hrow, rfl⟩ := List.mem_map.1 ht
      obtain ⟨group, hgroup, rfl⟩ := List.mem_map.1 hrow
      obtain ⟨members, hmem, hhead, -⟩ := exists_head hgroup
      exact List.mem_map.2 ⟨_, hmem, (h.shownTuple_of_head hhead).symm⟩
    · intro ht
      obtain ⟨d, hd, rfl⟩ := List.mem_map.1 ht
      obtain ⟨group, hgroup, htuple, -⟩ := @exists_group spec time h _ _ hd
      exact List.mem_map.2 ⟨_, List.mem_map.2 ⟨group, hgroup, rfl⟩, htuple⟩
  count := by
    intro row hrow
    obtain ⟨group, hgroup, rfl⟩ := List.mem_map.1 hrow
    show Document.get? Stage.countPath ((regrouping spec).row group.2) = _
    rw [h.separate.get?_mergedCount _ h.count_not_mem]
    cases hcount : spec.showCount with
    | false => rfl
    | true =>
      rw [if_pos rfl, if_pos rfl]
      conv_lhs => rw [h.eq_run_sharing hconsistent hgroup, h.countOf_run hcount]
      rfl
  best := by
    intro row hrow a ha hr
    obtain ⟨group, hgroup, rfl⟩ := List.mem_map.1 hrow
    have hbest := @isBest_run spec time h a ha hr
      (Stage.sharing spec.tuple (spec.shownTuple ((regrouping spec).row group.2)) records)
    rw [← h.eq_run_sharing hconsistent hgroup] at hbest
    refine ⟨_, hbest, ?_⟩
    rw [← Tally.reduce_eq_kept hr]
    exact h.separate.get?_mergedAggregate group.2 ha

end Plain

end GroupSpec

end Rollup
