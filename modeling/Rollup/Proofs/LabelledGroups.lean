import Mathlib.Data.Finset.Card
import Mathlib.Data.List.Dedup
import Mathlib.Data.List.Perm.Basic
import Rollup.Proofs.Labels
import Rollup.Proofs.Summaries
import Rollup.Proofs.WholeGroups

/-!
# Labels and groups

The keys of grouped rows are labelled before the rows are merged, and rows are merged that show the same labels. So a
group is kept only if no other one **looks alike** (`GroupSpec.LooksAlike`): unlabelled keys agree, and of labelled keys
the same texts are known. Where labels are distinct that is all there is to it, and the number of shown rows is right
exactly if stored rows that look alike have one tuple of keys (`GroupSpec.length_shown_eq_iff`); then each shown row
tells the numbers of its own tuple and of no other (`GroupSpec.TellsApart.keepsGroups`).

Rows of known values are told apart. But all values without a label are shown as `null`, and users without a name are
left out, so that groups of different unknown values become one.
-/

namespace Rollup

open Document (Independent segments)
open Presentation (regrouping)

/-- **As many things are told apart** by one reading as by a finer one exactly if it is as fine. -/
theorem length_dedup_map_eq_iff {α β γ : Type} [DecidableEq β] [DecidableEq γ] {f : α → β} {g : α → γ} {xs : List α}
    (h : ∀ x ∈ xs, ∀ y ∈ xs, f x = f y → g x = g y) :
    (xs.map g).dedup.length = (xs.map f).dedup.length ↔ ∀ x ∈ xs, ∀ y ∈ xs, g x = g y → f x = f y := by
  let pairs : Finset (β × γ) := (xs.map fun x => (f x, g x)).toFinset
  have hpairs : ∀ p ∈ pairs, ∃ x ∈ xs, (f x, g x) = p := fun p hp => List.mem_map.1 (List.mem_toFinset.1 hp)
  have hmem : ∀ x ∈ xs, (f x, g x) ∈ pairs := fun x hx => List.mem_toFinset.2 (List.mem_map_of_mem hx)
  have hfst : pairs.image Prod.fst = (xs.map f).toFinset := by
    ext b
    simp [pairs]
  have hsnd : pairs.image Prod.snd = (xs.map g).toFinset := by
    ext c
    simp [pairs]
  have hfine : (pairs.image Prod.fst).card = pairs.card := by
    refine Finset.card_image_of_injOn fun p hp q hq hpq => ?_
    obtain ⟨x, hx, rfl⟩ := hpairs p hp
    obtain ⟨y, hy, rfl⟩ := hpairs q hq
    exact Prod.ext hpq (h x hx y hy hpq)
  rw [← List.card_toFinset, ← List.card_toFinset, ← hfst, ← hsnd, hfine, Finset.card_image_iff]
  constructor
  · intro hinj x hx y hy hxy
    exact (Prod.mk.inj (hinj (hmem x hx) (hmem y hy) hxy)).1
  · intro hcoarse p hp q hq hpq
    obtain ⟨x, hx, rfl⟩ := hpairs p hp
    obtain ⟨y, hy, rfl⟩ := hpairs q hq
    exact Prod.ext (hcoarse x hx y hy hpq) hpq

namespace Stage

/-! ## Arranging by texts that tell the same -/

section Finer

variable {key other : Json → String} {documents : List Json}
  (h : ∀ d ∈ documents, ∀ e ∈ documents, key d = key e ↔ other d = other e)
include h

/-- A group by one text is a group by another one that tells the same. -/
theorem eq_sharing_of_mem_partitionBy {group : String × List Json} (hgroup : group ∈ partitionBy key documents) :
    group.2 = sharing other (other (group.2.headD .null)) documents := by
  obtain ⟨hfirst, hkey⟩ := head_of_mem_partitionBy key hgroup
  refine ((mem_partitionBy key).1 hgroup).1.trans (List.filter_congr fun d hd => ?_)
  rw [decide_eq_decide, ← hkey]
  exact h d hd _ hfirst

/-- **The groups by one text** have each of the texts of another one once, if it tells the same. -/
theorem perm_dedup_of_partitionBy :
    ((partitionBy key documents).map fun group => other (group.2.headD .null)).Perm (documents.map other).dedup := by
  refine (List.perm_ext_iff_of_nodup (List.pairwise_map.2 ?_) (List.nodup_dedup _)).2 fun text => ?_
  · refine (sorted_partitionBy key documents).imp_of_mem fun hgroup hgroup' hlt hsame => ?_
    obtain ⟨hd, hkey⟩ := head_of_mem_partitionBy key hgroup
    obtain ⟨he, hkey'⟩ := head_of_mem_partitionBy key hgroup'
    rw [← hkey, ← hkey', (h _ hd _ he).2 hsame] at hlt
    exact lt_irrefl _ hlt
  · rw [List.mem_dedup, List.mem_map, List.mem_map]
    constructor
    · rintro ⟨group, hgroup, rfl⟩
      exact ⟨_, (head_of_mem_partitionBy key hgroup).1, rfl⟩
    · rintro ⟨d, hd, rfl⟩
      have hgroup := sharing_mem_partitionBy key hd
      obtain ⟨hfirst, hkey⟩ := head_of_mem_partitionBy key hgroup
      exact ⟨_, hgroup, (h _ hfirst d hd).1 hkey⟩

end Finer

/-- There are as many groups as there are texts. -/
theorem length_partitionBy (key : Json → String) (documents : List Json) :
    (partitionBy key documents).length = (documents.map key).dedup.length := by
  rw [← (perm_dedup_of_partitionBy fun _ _ _ _ => Iff.rfl).length_eq, List.length_map]

end Stage

namespace Regroup

variable {f : Json → Json} {rows : List Json}

/-- Rows that show and contribute the same numbers are reduced to the same. -/
theorem reduced_map {a : MergedAggregate} (hvalue : ∀ row ∈ rows, valueOf? a.fieldId (f row) = valueOf? a.fieldId row)
    (hpartials : ∀ row ∈ rows, partialsOf? a.fieldId (f row) = partialsOf? a.fieldId row) :
    reduced a (rows.map f) = reduced a rows := by
  have hcontributions : (rows.map f).filterMap (contribution? a.fieldId) = rows.filterMap (contribution? a.fieldId) := by
    rw [List.filterMap_map]
    refine List.filterMap_congr fun row hrow => ?_
    show (partialsOf? a.fieldId (f row)).or _ = (partialsOf? a.fieldId row).or _
    rw [hpartials row hrow, hvalue row hrow]
  have hvalues : (rows.map f).filterMap (valueOf? a.fieldId) = rows.filterMap (valueOf? a.fieldId) := by
    rw [List.filterMap_map]
    exact List.filterMap_congr hvalue
  unfold reduced
  rw [hcontributions, hvalues]

/-- Rows that tell the same numbers of records have as many. -/
theorem records_map (h : ∀ row ∈ rows, countIn (f row) = countIn row) : records (rows.map f) = records rows := by
  unfold records
  rw [List.map_map]
  exact congrArg List.sum (List.map_congr_left fun row hrow => congrArg UInt64.toNat (h row hrow))

end Regroup

namespace GroupSpec

variable {spec : GroupSpec} {appId : String} {labels : LabelLookup → Keyed String}

/-- The labelled keys of a grouping. -/
def lookups (spec : GroupSpec) (appId : String) : List LabelLookup := spec.keys.filterMap (Presentation.lookup? appId)

/-- **A row as it is labelled**, before rows are merged. -/
def label (spec : GroupSpec) (appId : String) (labels : LabelLookup → Keyed String) (row : Json) : Json :=
  LabelLookup.labelled (spec.lookups appId) labels row

/-- **What a labelled row shows of a key.** -/
def shownColumn (appId : String) (labels : LabelLookup → Keyed String) (k : Key) (row : Json) : Option Json :=
  match Presentation.lookup? appId k with
  | some l => some (l.labelCell (labels l) (l.valueIn row))
  | none => Document.get? k.outputPath row

/-- **The tuple of keys of a stored row**, as the text by which tuples are compared. -/
def storedTuple (spec : GroupSpec) (row : Json) : String :=
  Document.tupleKey (spec.keys.map fun k => Document.get? k.outputPath row)

/-- **Rows that look alike**: of labelled keys the same texts are known, and all other keys agree. -/
def LooksAlike (spec : GroupSpec) (appId : String) (labels : LabelLookup → Keyed String) (d e : Json) : Prop :=
  ∀ k ∈ spec.keys, match Presentation.lookup? appId k with
    | some l => l.known (labels l) (l.valueIn d) = l.known (labels l) (l.valueIn e)
    | none => Document.canonical (Document.get? k.outputPath d) = Document.canonical (Document.get? k.outputPath e)

/-- **Rows whose groups are told apart**: those that look alike have one tuple of keys. -/
def TellsApart (spec : GroupSpec) (appId : String) (labels : LabelLookup → Keyed String) (rows : List Json) : Prop :=
  ∀ d ∈ rows, ∀ e ∈ rows, spec.LooksAlike appId labels d e → spec.storedTuple d = spec.storedTuple e

/-- **A row that shows a group of stored rows**, and nothing else. -/
structure ShowsGroup (spec : GroupSpec) (appId : String) (labels : LabelLookup → Keyed String) (members : List Json)
    (row : Json) : Prop where
  /-- Its keys are those of the first of them, labelled. -/
  key : ∀ k ∈ spec.keys, Document.get? k.outputPath row = shownColumn appId labels k (members.headD .null)
  /-- In the cell of each aggregate stands what merging makes of their numbers. -/
  cell : ∀ a ∈ spec.aggregates, Document.get? (Stage.cellPath a.key.fieldId) row
    = some (Stage.numberCell (Regroup.reduced ⟨a.key.fieldId, a.reduction⟩ members))
  /-- Their counts are added up. -/
  count : Document.get? Stage.countPath row = if spec.showCount then some (.ofCount (Regroup.records members)) else none

/-- **Groups that are kept**: there is one row for each tuple of keys, and it shows the stored rows of this tuple. -/
def KeepsGroups (spec : GroupSpec) (appId : String) (labels : LabelLookup → Keyed String) (rows shown : List Json) :
    Prop :=
  ∃ tuples : List String, tuples.Perm (rows.map spec.storedTuple).dedup ∧ List.Forall₂
    (fun tuple row => spec.ShowsGroup appId labels (Stage.sharing spec.storedTuple tuple rows) row) tuples shown

/-- Groups that are kept are as many as there are tuples of keys. -/
theorem KeepsGroups.length_eq {rows shown : List Json} (h : spec.KeepsGroups appId labels rows shown) :
    shown.length = (rows.map spec.storedTuple).dedup.length := by
  obtain ⟨tuples, hperm, hshown⟩ := h
  rw [← hshown.length_eq, hperm.length_eq]

/-- **Rows of one run**: they tell one time. -/
def OfOneRun (rows : List Json) : Prop :=
  ∀ d ∈ rows, ∀ e ∈ rows, Document.get? Stage.updateTimePath d = Document.get? Stage.updateTimePath e

/-- **A row of known values**: the labelled cells hold nothing but texts that are known. -/
def HoldsKnown (spec : GroupSpec) (appId : String) (labels : LabelLookup → Keyed String) (row : Json) : Prop :=
  ∀ l ∈ spec.lookups appId, Document.get? (Stage.cellPath l.fieldId) row
    = some (Stage.openCell l.dataType (some (l.valueOf (l.known (labels l) (l.valueIn row)))))

/-! ## Looking alike -/

/-- The labels of a key are put where the key stands. -/
theorem cellPath_of_lookup? {k : Key} {l : LabelLookup} (h : Presentation.lookup? appId k = some l) :
    Stage.cellPath l.fieldId = k.outputPath := by
  unfold Presentation.lookup? at h
  split at h
  · next hdynamic =>
    obtain ⟨source, -, rfl⟩ := Option.map_eq_some_iff.1 h
    have hitem : k.isItem = true := by
      unfold Key.isItem
      rw [hdynamic, Bool.or_true]
    exact (if_pos hitem).symm
  · exact absurd h nofun

/-- Tuples of keys are the same if the keys agree one by one. -/
theorem storedTuple_eq_iff {d e : Json} : spec.storedTuple d = spec.storedTuple e ↔ ∀ k ∈ spec.keys,
    Document.canonical (Document.get? k.outputPath d) = Document.canonical (Document.get? k.outputPath e) := by
  unfold storedTuple
  rw [Document.tupleKey_eq_iff, List.map_map, List.map_map, List.map_inj_left]
  rfl

/-- **Rows of one tuple look alike**, whatever the labels. -/
theorem LooksAlike.of_storedTuple_eq {d e : Json} (h : spec.storedTuple d = spec.storedTuple e) :
    spec.LooksAlike appId labels d e := by
  intro k hk
  have hcolumn := storedTuple_eq_iff.1 h k hk
  split
  · next l hl =>
    refine l.known_congr (labels l) ?_
    rw [l.valueIn_eq, l.valueIn_eq, cellPath_of_lookup? hl]
    exact Document.canonical_bind_getAt? hcolumn "value"
  · exact hcolumn

/-- **Rows look alike if their labelled columns agree**, where labels are distinct. -/
theorem looksAlike_iff (hdistinct : ∀ l ∈ spec.lookups appId, (labels l).Distinct) {d e : Json} :
    spec.LooksAlike appId labels d e ↔ ∀ k ∈ spec.keys,
      Document.canonical (shownColumn appId labels k d) = Document.canonical (shownColumn appId labels k e) := by
  refine forall₂_congr fun k hk => ?_
  unfold shownColumn
  split
  · next l hl => exact (l.canonical_labelCell_eq_iff (hdistinct l (List.mem_filterMap.2 ⟨k, hk, hl⟩))).symm
  · exact Iff.rfl

/-- **Rows of known values are told apart.** -/
theorem TellsApart.of_holdsKnown {rows : List Json} (h : ∀ row ∈ rows, spec.HoldsKnown appId labels row) :
    spec.TellsApart appId labels rows := by
  intro d hd e he halike
  refine storedTuple_eq_iff.2 fun k hk => ?_
  have hsame := halike k hk
  split at hsame
  · next l hl =>
    have hmem : l ∈ spec.lookups appId := List.mem_filterMap.2 ⟨k, hk, hl⟩
    rw [← cellPath_of_lookup? hl, h d hd l hmem, h e he l hmem, hsame]
  · exact hsame

/-! ## Labelled rows of a grouping -/

section Labelled

variable (h : (regrouping spec).WritesApart)
include h

/-- Keys stand apart from each other. -/
theorem keys_pairwise : spec.keys.Pairwise fun k m => Independent k.outputPath m.outputPath :=
  List.pairwise_map.1 (List.pairwise_append.1 (List.pairwise_append.1 h).1).1

/-- So do the cells that are labelled. -/
theorem apart_lookups : LabelLookup.Apart (spec.lookups appId) := by
  refine List.pairwise_filterMap.2 ((keys_pairwise h).imp fun hkm l hl m hm => ?_)
  rw [cellPath_of_lookup? hl, cellPath_of_lookup? hm]
  exact hkm.symm

/-- Aggregates stand apart from the keys. -/
theorem independent_aggregate {a : AggregateKey} (ha : a ∈ spec.aggregates) {k : Key} (hk : k ∈ spec.keys) :
    Independent k.outputPath (Stage.cellPath a.key.fieldId) :=
  (List.pairwise_append.1 h).2.2 _ (List.mem_append_left _ (List.mem_map_of_mem hk)) _
    (List.mem_append_left _ (List.mem_map.2 ⟨_, List.mem_map_of_mem ha, rfl⟩))

/-- **A labelled row shows labelled keys.** -/
theorem get?_label_key {k : Key} (hk : k ∈ spec.keys) (row : Json) :
    Document.get? k.outputPath (spec.label appId labels row) = shownColumn appId labels k row := by
  unfold shownColumn label
  split
  · next l hl =>
    rw [← cellPath_of_lookup? hl]
    exact LabelLookup.get?_labelled_cell (apart_lookups h) labels (List.mem_filterMap.2 ⟨k, hk, hl⟩) row
  · next hnone =>
    refine LabelLookup.get?_labelled_of_independent (apart_lookups h) labels (fun l hl => ?_) row
    obtain ⟨m, hm, hl⟩ := List.mem_filterMap.1 hl
    have hne : k ≠ m := by
      rintro rfl
      rw [hl] at hnone
      cases hnone
    have hsymm : Std.Symm fun k m : Key => Independent k.outputPath m.outputPath := ⟨fun _ _ => And.symm⟩
    rw [cellPath_of_lookup? hl]
    exact (keys_pairwise h).forall hk hm hne

/-- What stands elsewhere than below `items` is left by labels. -/
theorem get?_label_of_ne {path name : String} {rest : List String} (hpath : segments path = name :: rest)
    (hne : name ≠ "items") (row : Json) :
    Document.get? path (spec.label appId labels row) = Document.get? path row := by
  refine LabelLookup.get?_labelled_of_independent (apart_lookups h) labels (fun l _ => Document.part_iff.1 ?_) row
  rw [hpath, Stage.segments_cellPath]
  exact Document.part_of_ne hne _ _

/-- The cell of an aggregate is left by labels. -/
theorem get?_label_aggregate {a : AggregateKey} (ha : a ∈ spec.aggregates) (row : Json) :
    Document.get? (Stage.cellPath a.key.fieldId) (spec.label appId labels row)
      = Document.get? (Stage.cellPath a.key.fieldId) row := by
  refine LabelLookup.get?_labelled_of_independent (apart_lookups h) labels (fun l hl => ?_) row
  obtain ⟨k, hk, hl⟩ := List.mem_filterMap.1 hl
  rw [cellPath_of_lookup? hl]
  exact (independent_aggregate h ha hk).symm

/-- **Labels leave the numbers of a row**: what an aggregate shows and contributes. -/
theorem reduced_label {a : AggregateKey} (ha : a ∈ spec.aggregates) (rows : List Json) :
    Regroup.reduced ⟨a.key.fieldId, a.reduction⟩ (rows.map (spec.label appId labels))
      = Regroup.reduced ⟨a.key.fieldId, a.reduction⟩ rows := by
  refine Regroup.reduced_map (fun row _ => ?_) fun row _ => ?_
  · unfold Regroup.valueOf?
    rw [Stage.get?_valuePath, Stage.get?_valuePath, get?_label_aggregate h ha]
  · unfold Regroup.partialsOf?
    rw [get?_label_of_ne h (Stage.segments_partialsPath _) (by decide)]

/-- They leave the number of its records. -/
theorem records_label (rows : List Json) :
    Regroup.records (rows.map (spec.label appId labels)) = Regroup.records rows := by
  refine Regroup.records_map fun row _ => ?_
  unfold Regroup.countIn
  rw [get?_label_of_ne h (Document.segments_of_isName (by decide)) (by decide)]

/-- **The row of labelled rows shows their group.** -/
theorem showsGroup_row {members : List Json} (hne : members ≠ []) :
    spec.ShowsGroup appId labels members ((regrouping spec).row (members.map (spec.label appId labels))) := by
  have hsums := h.sumsUp_row (members.map (spec.label appId labels))
  refine ⟨fun k hk => ?_, fun a ha => ?_, ?_⟩
  · obtain ⟨first, rest, rfl⟩ := List.exists_cons_of_ne_nil hne
    rw [hsums.key _ (List.mem_append_left _ (List.mem_map_of_mem hk))]
    exact get?_label_key h hk first
  · have hcell := hsums.cell ⟨a.key.fieldId, a.reduction⟩ (List.mem_map.2 ⟨a, ha, rfl⟩)
    rwa [reduced_label h ha members] at hcell
  · have hcount := hsums.count
    rwa [records_label h members] at hcount

variable (hdistinct : ∀ l ∈ spec.lookups appId, (labels l).Distinct) {rows : List Json} (hrun : OfOneRun rows)
include hdistinct hrun

/-- **Labelled rows are merged if they look alike.** -/
theorem keyOf_label_eq_iff {d e : Json} (hd : d ∈ rows) (he : e ∈ rows) :
    (regrouping spec).keyOf (spec.label appId labels d) = (regrouping spec).keyOf (spec.label appId labels e)
      ↔ spec.LooksAlike appId labels d e := by
  have htime : ∀ row, Document.get? Stage.updateTimePath (spec.label appId labels row)
      = Document.get? Stage.updateTimePath row :=
    get?_label_of_ne h (Document.segments_of_isName (by decide)) (by decide)
  have hkeys : ∀ row, (regrouping spec).keys.map (fun path => Document.get? path (spec.label appId labels row))
      = spec.keys.map fun k => shownColumn appId labels k row := by
    intro row
    show (spec.keys.map Key.outputPath).map _ = _
    rw [List.map_map]
    exact List.map_congr_left fun k hk => get?_label_key h hk row
  unfold Regroup.keyOf
  rw [Document.tupleKey_concat_eq_iff, hkeys, hkeys, htime, htime, hrun d hd e he, List.map_map, List.map_map,
    List.map_inj_left, and_iff_left rfl]
  exact (looksAlike_iff hdistinct).symm

/-- **The number of shown rows is right** exactly if the groups are told apart. -/
theorem length_shown_eq_iff :
    (spec.shown (rows.map (spec.label appId labels))).length = (rows.map spec.storedTuple).dedup.length
      ↔ spec.TellsApart appId labels rows := by
  have hlength : (spec.shown (rows.map (spec.label appId labels))).length
      = (rows.map fun row => (regrouping spec).keyOf (spec.label appId labels row)).dedup.length := by
    unfold shown Regroup.run
    rw [Document.length_sort, List.length_map, Stage.length_partitionBy, List.map_map]
    rfl
  rw [hlength, length_dedup_map_eq_iff fun d hd e he hsame =>
    (keyOf_label_eq_iff h hdistinct hrun hd he).2 (.of_storedTuple_eq hsame)]
  exact forall₂_congr fun d hd => forall₂_congr fun e he =>
    imp_congr_left (keyOf_label_eq_iff h hdistinct hrun hd he)

/-- **Groups that are told apart are kept.** -/
theorem TellsApart.keepsGroups (happart : spec.TellsApart appId labels rows) :
    spec.KeepsGroups appId labels rows (spec.shown (rows.map (spec.label appId labels))) := by
  let shownKey := fun row => (regrouping spec).keyOf (spec.label appId labels row)
  let groups := Stage.partitionBy shownKey rows
  have hsame : ∀ d ∈ rows, ∀ e ∈ rows, shownKey d = shownKey e ↔ spec.storedTuple d = spec.storedTuple e :=
    fun d hd e he => (keyOf_label_eq_iff h hdistinct hrun hd he).trans
      ⟨happart d hd e he, .of_storedTuple_eq⟩
  have hrows : (regrouping spec).run (rows.map (spec.label appId labels))
      = groups.map fun group => (regrouping spec).row (group.2.map (spec.label appId labels)) := by
    unfold Regroup.run
    rw [Stage.partitionBy_map, List.map_map]
    rfl
  have hshows : List.Forall₂
      (fun tuple row => spec.ShowsGroup appId labels (Stage.sharing spec.storedTuple tuple rows) row)
      (groups.map fun group => spec.storedTuple (group.2.headD .null))
      ((regrouping spec).run (rows.map (spec.label appId labels))) := by
    rw [hrows, List.forall₂_map_left_iff, List.forall₂_map_right_iff, List.forall₂_same]
    intro group hgroup
    rw [← Stage.eq_sharing_of_mem_partitionBy hsame hgroup]
    exact showsGroup_row h (Stage.ne_nil_of_mem_partitionBy shownKey hgroup)
  -- sorting moves the rows, and their tuples with them
  obtain ⟨moved, hmoved, hperm⟩ := List.perm_comp_forall₂
    (Document.sort_perm (Presentation.sortFor (.group spec)) _) hshows.flip
  exact ⟨moved, hperm.trans (Stage.perm_dedup_of_partitionBy hsame), hmoved.flip⟩

end Labelled

/-- The rows that a run computes for a grouping tell one time. -/
theorem ofOneRun_run (spec : GroupSpec) (time : Instant) (records : List Json) :
    OfOneRun ((Materialization.grouping spec time).run records) := by
  have htime : ∀ row ∈ (Materialization.grouping spec time).run records,
      Document.get? Stage.updateTimePath row = some (.string time.stored) := by
    intro row hrow
    obtain ⟨group, -, rfl⟩ := List.mem_map.1 hrow
    -- the time is written last, so that nothing is written over it
    exact Document.getAt?_setAt_self (segments Stage.updateTimePath) _ _
  exact fun d hd e he => (htime d hd).trans (htime e he).symm

end GroupSpec

/-- **Published rows are rows of one run.** -/
theorem Publication.ofOneRun (p : Publication) {spec : GroupSpec} (hmode : p.definition.mode = .group spec) :
    GroupSpec.OfOneRun p.rows := by
  obtain ⟨w, records, -, -, hrows⟩ := exists_computation p.computed
  rw [hrows, hmode]
  exact spec.ofOneRun_run p.before.clock records

/-- **When labels keep groups apart.** A query for a grouping report whose columns stand apart is answered, where the
stored rows are those of one run and the labels that are looked up for the chosen rows are distinct. There are as many
rows on all pages as the chosen rows have tuples of keys exactly if rows that look alike have one tuple; and then each
row shows the labels, the numbers and the count of one tuple. Rows of known values are always told apart. -/
theorem Service.labels_keep_groups_iff {s : Service} {id : ReportId} {d : ReportDefinition} {spec : GroupSpec}
    {q : Query} {compiled : CompiledFilter} {rows : List Json} {labels : LabelLookup → Keyed String}
    (hload : (Registry.load id).answer s.tenant = .ok d) (hmode : d.mode = .group spec)
    (happart : (regrouping spec).WritesApart) (hq : q.reportId = id.text)
    (hread : s.tenant.store.unavailable.contains id.collection = false)
    (hrun : GroupSpec.OfOneRun (s.tenant.store.documents id.collection))
    (hcompile : (q.compile d.appId).answer s.tenant = .ok compiled)
    (hrows : (s.tenant.store.documents id.collection).filter compiled.predicate.holds = rows)
    (hlabels : ∀ l ∈ spec.lookups d.appId,
      (Stage.labelsFor l rows).answer s.tenant = .ok (labels l) ∧ (labels l).Distinct) :
    ∃ page shown, ((query q).run s).1 = .ok page ∧ page.rows = Store.cut q.page.1 q.page.2 shown
      ∧ page.total = shown.length
      ∧ (shown.length = (rows.map spec.storedTuple).dedup.length ↔ spec.TellsApart d.appId labels rows)
      ∧ (spec.TellsApart d.appId labels rows → spec.KeepsGroups d.appId labels rows shown)
      ∧ ((∀ row ∈ rows, spec.HoldsKnown d.appId labels row) → spec.TellsApart d.appId labels rows) := by
  have hdistinct : ∀ l ∈ spec.lookups d.appId, (labels l).Distinct := fun l hl => (hlabels l hl).2
  have hchosen : GroupSpec.OfOneRun rows := fun d hd e he =>
    hrun d (List.mem_of_mem_filter (hrows ▸ hd)) e (List.mem_of_mem_filter (hrows ▸ he))
  have hlookups : (Presentation.ofReport d.toReportContent).lookups = spec.lookups d.appId := by
    show (Presentation.labelledKeys d.mode).filterMap (Presentation.lookup? d.appId) = _
    rw [hmode]
    rfl
  have hfound : TenantAction.found "read report rows" id.collection compiled.predicate {} s.tenant = .ok rows :=
    (if_neg (Bool.eq_false_iff.1 hread)).trans (congrArg Except.ok hrows)
  have hlabelled : (Stage.runAll ((spec.lookups d.appId).map .lookup) rows).answer s.tenant
      = .ok (rows.map (spec.label d.appId labels)) :=
    Stage.answer_runAll_lookups (GroupSpec.apart_lookups happart) fun l hl => (hlabels l hl).1
  have hanswer := Query.answer_run_group hload hmode hq
  rw [hcompile, bind_of_ok, hfound, bind_of_ok, hlookups, hlabelled, bind_of_ok] at hanswer
  exact ⟨_, _, hanswer, rfl, rfl, GroupSpec.length_shown_eq_iff happart hdistinct hchosen,
    fun h => h.keepsGroups happart hdistinct hchosen, GroupSpec.TellsApart.of_holdsKnown⟩

/-! ### Sales by color -/

/-- Sales grouped by their color, an option with a label. -/
def byColor : GroupSpec where
  keys := [{ fieldId := "color", dataType := .options, optionId := "colors" }]
  aggregates := [⟨.dynamic "amount" .number, .sum⟩]
  showCount := true

/-- The report about them. -/
def colorsReport : ReportDefinition where
  appId := "paint"
  datastoreId := "sales"
  mode := .group byColor
  reportId := ⟨"colors", by decide⟩

/-- A sale of something in a color. -/
def saleIn (color : String) (amount : Int64) : Json :=
  .object [("items", .object [("amount", Stage.openCell .number (some (.ofSigned amount))),
      ("color", Stage.openCell .options (some (.string color)))]), ("owners", .ofStrings ["g1"])]

/-- A color with a label, as it is stored. -/
def colorLabelled (color label : String) : Json :=
  .object [("app_id", .string "paint"), ("option_id", .string "colors"), ("option_label", .string label),
    ("option_value", .string color)]

/-- The rows of some sales. -/
def paintRows (sales : List Json) : List Json := (Materialization.grouping byColor .epoch).run sales

/-- A shop for paint that holds the rows of some sales, and labels of red and blue. -/
def paintShop (sales : List Json) : Service where
  tenant :=
    { store := { collections := [
        ("options", { documents := [colorLabelled "b" "Blue", colorLabelled "r" "Red"] }),
        (colorsReport.reportId.collection, { documents := paintRows sales }),
        ("reports", { documents := [colorsReport.toJson] })] }
      clock := .epoch
      today := .epoch }

/-- The labels of colors. -/
def colorLabels : Keyed String := [("b", "Blue"), ("r", "Red")]

/-- How colors are labelled. -/
def colorLookup : LabelLookup := ⟨"color", .options, .options "paint" "colors"⟩

/-- The query for all sales by color. -/
def allColors : Query := .all "colors" ["g1"]

/-- What a row shows of its group: the label, the number of the sales and the sum of their amounts. -/
def colorShown (row : Json) : Option String × UInt64 × Option Float :=
  ((Document.get? "items.color.value" row).bind Json.asString?, Regroup.countIn row, Regroup.valueOf? "amount" row)

/-- Two sales in red and one in blue. -/
def knownSales : List Json := [saleIn "r" 100, saleIn "b" 10, saleIn "r" 1]

/-- Two sales in colors without labels. -/
def unknownSales : List Json := [saleIn "x" 100, saleIn "y" 10]

/-- **Known colors are kept apart**: there is one row for each of the two tuples of keys, with its numbers only. -/
theorem paintShop_keepsGroups : ∃ page, ((Service.query allColors).run (paintShop knownSales)).1 = .ok page
    ∧ page.total = 2
    ∧ byColor.KeepsGroups "paint" (fun _ => colorLabels) (paintRows knownSales) page.rows := by
  obtain ⟨hfound, hcompiled, hsees, hlabels, htuples⟩ :
      ((Registry.load colorsReport.reportId).answer (paintShop knownSales).tenant).toOption.map
          (fun d => (d.mode, d.appId)) = some (.group byColor, "paint")
        ∧ ((allColors.compile "paint").answer (paintShop knownSales).tenant).toOption.isSome = true
        ∧ (paintRows knownSales).all allColors.sees = true
        ∧ ((Stage.labelsFor colorLookup (paintRows knownSales)).answer (paintShop knownSales).tenant).toOption
          = some colorLabels
        ∧ ((paintRows knownSales).map byColor.storedTuple).dedup.length = 2 := by
    decide +kernel
  obtain ⟨d, hd, hcontent⟩ := Option.map_eq_some_iff.1 hfound
  obtain ⟨hmode, happ⟩ := Prod.mk.inj hcontent
  obtain ⟨compiled, hcompile⟩ := Option.isSome_iff_exists.1 hcompiled
  replace hcompile := eq_ok_of_toOption hcompile
  have hrows : ((paintShop knownSales).tenant.store.documents colorsReport.reportId.collection).filter
      compiled.predicate.holds = paintRows knownSales :=
    Query.filter_eq_self rfl hcompile (List.all_eq_true.1 hsees)
  have hlookups : byColor.lookups d.appId = [colorLookup] := by
    rw [happ]
    rfl
  have hlabelled : ∀ l ∈ byColor.lookups d.appId, (Stage.labelsFor l (paintRows knownSales)).answer
      (paintShop knownSales).tenant = .ok colorLabels ∧ colorLabels.Distinct := by
    intro l hl
    rw [hlookups] at hl
    obtain rfl := List.mem_singleton.1 hl
    exact ⟨eq_ok_of_toOption hlabels, Keyed.distinct_of_nodup (by decide)⟩
  obtain ⟨page, shown, hpage, hcut, htotal, hlength, hkeeps, -⟩ :=
    Service.labels_keep_groups_iff (s := paintShop knownSales) (q := allColors) (eq_ok_of_toOption hd) hmode
      (by decide +kernel) rfl rfl (byColor.ofOneRun_run .epoch knownSales) (by rw [happ]; exact hcompile) hrows
      hlabelled
  rw [happ] at hlength hkeeps
  have happart : byColor.TellsApart "paint" (fun _ => colorLabels) (paintRows knownSales) := by
    have hknown : ∀ d ∈ paintRows knownSales, ∀ e ∈ paintRows knownSales,
        colorLookup.known colorLabels (colorLookup.valueIn d) = colorLookup.known colorLabels (colorLookup.valueIn e) →
          byColor.storedTuple d = byColor.storedTuple e := by
      decide +kernel
    exact fun d hd e he halike => hknown d hd e he (halike _ (List.mem_singleton_self _))
  have hwindow : allColors.page = (0, none) := rfl
  rw [hwindow, Store.cut_all] at hcut
  exact ⟨page, hpage, by rw [htotal, hlength.2 happart, htuples], hcut ▸ hkeeps happart⟩

/-- **Unknown colors are merged**: there are two tuples of keys, and one row with the numbers of both. -/
theorem paintShop_mergesGroups :
    byColor.lookups "paint" = [colorLookup]
      ∧ (Stage.labelsFor colorLookup (paintRows unknownSales)).answer (paintShop unknownSales).tenant = .ok colorLabels
      ∧ colorLabels.Distinct
      ∧ (paintRows unknownSales).all allColors.sees = true
      ∧ ((paintRows unknownSales).map byColor.storedTuple).dedup.length = 2
      ∧ ∃ page, ((Service.query allColors).run (paintShop unknownSales)).1 = .ok page
        ∧ page.rows.map colorShown = [(none, 2, some 110)] ∧ page.total = 1
        ∧ ∀ labels, ¬ byColor.KeepsGroups "paint" labels (paintRows unknownSales) page.rows := by
  obtain ⟨hlabels, hsees, htuples, hshown⟩ :
      ((Stage.labelsFor colorLookup (paintRows unknownSales)).answer (paintShop unknownSales).tenant).toOption
          = some colorLabels
        ∧ (paintRows unknownSales).all allColors.sees = true
        ∧ ((paintRows unknownSales).map byColor.storedTuple).dedup.length = 2
        ∧ ((Service.query allColors).run (paintShop unknownSales)).1.toOption.map
          (fun page => (page.rows.map colorShown, page.total)) = some ([(none, 2, some 110)], 1) := by
    decide +kernel
  obtain ⟨page, hpage, hfacts⟩ := Option.map_eq_some_iff.1 hshown
  obtain ⟨hrows, htotal⟩ := Prod.mk.inj hfacts
  refine ⟨rfl, eq_ok_of_toOption hlabels, Keyed.distinct_of_nodup (by decide), hsees, htuples, page,
    eq_ok_of_toOption hpage, hrows, htotal, fun labels hkeeps => ?_⟩
  have hlength := congrArg List.length hrows
  rw [List.length_map, hkeeps.length_eq, htuples] at hlength
  exact absurd hlength (by decide)

end Rollup
