import Rollup.Proofs.ListedRows
import Rollup.Proofs.Merging

/-!
# Keys and their columns

The columns of a report are addressed by the ids of its keys. `Presentation.fieldInfosFor` keeps what is known
of a column under its id, and rows are written one column after the other; so of two keys with one id the later
one is shown (`ReportMode.get?_fieldInfosFor_of_last`, `GroupSpec.Readable.get?_cell_of_last`). Nothing that is
checked of a definition excludes this.

A report **owns its columns** (`ReportContent.OwnsColumns`) when every key has an entry of its own and every row
holds, where a key stands, the value of that key. Where ids can be read (`ReportMode.Readable`), this is so
exactly if no id is used twice, the number of records counting as one that is used
(`ReportContent.ownsColumns_iff`).
-/

namespace Rollup

open Materialization (grouping)

namespace ReportMode

/-- **What is known of each column**, one entry for every key. -/
def columnInfos : ReportMode → List (String × FieldInfo)
  | .group spec =>
    spec.keys.map (fun k => (k.fieldId, k.fieldInfo))
      ++ spec.aggregates.map (fun a => (a.key.fieldId, a.fieldInfo))
      ++ if spec.showCount then [(FieldInfo.countColumn, FieldInfo.count)] else []
  | .select keys => keys.map fun k => (k.fieldId, k.fieldInfo)

/-- **The ids of the columns**, that of the number of records last. -/
def columnIds (m : ReportMode) : List String := m.columnInfos.map Prod.fst

/-- **A mode whose ids can be read.** -/
def Readable : ReportMode → Prop
  | .group spec => spec.Readable
  | .select keys => Key.Readable keys []

/-- The columns of a grouping have the ids of its fields, and that of the number of records where it is shown. -/
theorem columnIds_group (spec : GroupSpec) :
    (group spec).columnIds = spec.fieldIds ++ if spec.showCount then ["count"] else [] := by
  unfold columnIds columnInfos GroupSpec.fieldIds
  rw [List.map_append, List.map_append, List.map_map, List.map_map]
  cases spec.showCount <;> rfl

/-- The columns of a listing have the ids of its keys. -/
theorem columnIds_select (keys : List Key) : (select keys).columnIds = keys.map Key.fieldId := List.map_map

/-- What is known of the columns is kept in a map. -/
theorem fieldInfosFor_eq (m : ReportMode) : Presentation.fieldInfosFor m = Keyed.ofPairs m.columnInfos := by
  cases m <;> rfl

/-- **Of the columns with one id the last one is known.** -/
theorem get?_fieldInfosFor_of_last {m : ReportMode} {earlier later : List (String × FieldInfo)} {id : String}
    {info : FieldInfo} (hsplit : m.columnInfos = earlier ++ (id, info) :: later)
    (hlast : id ∉ later.map Prod.fst) : Keyed.get? id (Presentation.fieldInfosFor m) = some info := by
  rw [fieldInfosFor_eq, hsplit]
  exact Keyed.get?_ofPairs_append_cons earlier info hlast

end ReportMode

namespace GroupSpec

/-- **A row that holds the own value of every key** of a group of records. -/
structure HoldsOwn (spec : GroupSpec) (members : List Json) (row : Json) : Prop where
  /-- The records share their key values. -/
  shared : ∀ d ∈ members, spec.tuple d = spec.tuple (members.headD .null)
  /-- These stand in the columns of the keys. -/
  key : ∀ k ∈ spec.keys, Document.get? k.outputPath row = k.written (members.headD .null)
  /-- The numbers of each aggregate are reduced in its own way. -/
  aggregate : ∀ a ∈ spec.aggregates, Document.get? (Stage.cellPath a.key.fieldId) row
    = some (Stage.numberCell ((Grouping.tally (Materialization.aggregation a) members).reduce a.reduction))
  /-- The records are counted. -/
  count : spec.showCount = true → Document.get? Stage.countPath row = some (.ofCount members.length)

/-- A grouping whose columns have different ids, which can be read, separates its slots. -/
theorem Readable.separate {spec : GroupSpec} (h : spec.Readable)
    (hids : (ReportMode.group spec).columnIds.Nodup) : spec.Separate := by
  rw [ReportMode.columnIds_group] at hids
  obtain ⟨hfields, -, hcount⟩ := List.nodup_append.1 hids
  refine ⟨h, hfields, fun hshow hmem => ?_⟩
  rw [if_pos hshow] at hcount
  exact hcount _ hmem _ List.mem_cons_self rfl

/-- **Rows of a grouping that separates its slots** hold the own values of keys. -/
theorem Separate.holdsOwn {spec : GroupSpec} (h : spec.Separate) (time : Instant) {records : List Json}
    {group : String × List Json} (hgroup : group ∈ Stage.partitionBy (grouping spec time).keyOf records) :
    spec.HoldsOwn group.2 ((grouping spec time).row group.2) where
  shared d hd := by
    have hhead := (Stage.head_of_mem_partitionBy _ hgroup).2
    rw [((Stage.mem_partitionBy _).1 hgroup).1, Stage.mem_sharing] at hd
    exact (keyOf_grouping_eq_iff.1 (hd.2.trans hhead.symm)).1
  key _ hk := h.get?_key time group.2 hk
  aggregate _ ha := h.get?_cell time group.2 ha
  count hshow := by
    rw [h.get?_count time group.2 (h.count hshow), if_pos hshow]

/-- **Of the aggregates of one field all rows show the last one.** -/
theorem Readable.get?_cell_of_last {spec : GroupSpec} (h : spec.Readable) {earlier later : List AggregateKey}
    {a : AggregateKey} (hsplit : spec.aggregates = earlier ++ a :: later)
    (hlast : ∀ b ∈ later, a.key.fieldId ≠ b.key.fieldId) (time : Instant) (members : List Json) :
    Document.get? (Stage.cellPath a.key.fieldId) ((grouping spec time).row members) = some (Stage.numberCell
      ((Grouping.tally (Materialization.aggregation a) members).reduce a.reduction)) := by
  have hslots : spec.slots = (spec.keys.map Slot.key ++ [.owners]
      ++ earlier.flatMap fun b => [Slot.cell b, .partials b])
      ++ .cell a :: (.partials a :: (later.flatMap fun b => [Slot.cell b, .partials b]) ++ [.count, .time]) := by
    unfold slots
    simp [hsplit]
  -- the cells that are put later stand apart, and all else has another name
  have hpart : ∀ t ∈ Slot.partials a :: (later.flatMap fun b => [Slot.cell b, .partials b]) ++ [.count, .time],
      Document.Part (Slot.cell a).place t.place := by
    have hmem : ∀ b ∈ a :: later, b ∈ spec.aggregates := fun b hb => hsplit ▸ List.mem_append_right _ hb
    intro t ht
    simp only [List.cons_append, List.mem_cons, List.mem_append, List.mem_flatMap, List.not_mem_nil, or_false] at ht
    rcases ht with rfl | ⟨b, hb, rfl | rfl⟩ | rfl | rfl
    case inr.inl.inl =>
      exact h.part_below (hmem a List.mem_cons_self) (hmem b (List.mem_cons_of_mem _ hb)) (hlast b hb) "items"
    all_goals exact Document.part_of_ne (by decide) _ _
  rw [Grouping.row_eq_fill, columns_grouping, hslots, List.map_append, List.map_cons]
  refine Document.getAt?_fill_append_cons (c := (Slot.cell a).column (spec.groupedValue time members))
    (fun d hd => ?_) _ _
  obtain ⟨t, ht, rfl⟩ := List.mem_map.1 hd
  exact Slot.spares_of_part (hpart t ht) _

end GroupSpec

namespace ReportMode

/-- **Rows that hold the own value of every key**: there is one for each group of the records, or for each
record. -/
def HoldsOwn (time : Instant) (records rows : List Json) : ReportMode → Prop
  | .group spec => List.Forall₂ (fun group row => spec.HoldsOwn group.2 row)
      (Stage.partitionBy (grouping spec time).keyOf records) rows
  | .select keys => List.Forall₂ (fun record row =>
      ∀ k ∈ keys, Document.get? k.outputPath row = k.written record) records rows

/-- Of a grouping this says something about each group. -/
theorem holdsOwn_group_iff {spec : GroupSpec} {time : Instant} {records : List Json} :
    (group spec).HoldsOwn time records (Materialization.shape time (group spec) records) ↔
      ∀ g ∈ Stage.partitionBy (grouping spec time).keyOf records,
        spec.HoldsOwn g.2 ((grouping spec time).row g.2) :=
  List.forall₂_map_right_iff.trans List.forall₂_same

/-- Of a listing it says something about each record. -/
theorem holdsOwn_select_iff {keys : List Key} {time : Instant} {records : List Json} :
    (select keys).HoldsOwn time records (Materialization.shape time (select keys) records) ↔
      ∀ record ∈ records, ∀ k ∈ keys, Document.get? k.outputPath
        ((Materialization.selection keys time).row record) = k.written record :=
  List.forall₂_map_right_iff.trans List.forall₂_same

/-- Rows hold the own value of every key where ids differ and can be read. -/
theorem Readable.holdsOwn {m : ReportMode} (h : m.Readable) (hids : m.columnIds.Nodup) (time : Instant)
    (records : List Json) : m.HoldsOwn time records (Materialization.shape time m records) := by
  cases m with
  | group spec =>
    exact holdsOwn_group_iff.2 fun _ hgroup => (GroupSpec.Readable.separate h hids).holdsOwn time hgroup
  | select keys =>
    exact holdsOwn_select_iff.2 fun record _ _ hk =>
      Key.Readable.get?_selectedRow h (columnIds_select keys ▸ hids) hk time record

end ReportMode

namespace ReportContent

/-- **A report whose keys own their columns.** -/
structure OwnsColumns (c : ReportContent) : Prop where
  /-- There is one entry for every key, and it says what is known of that key. -/
  infos : (Presentation.ofReport c).fieldInfos.Perm c.mode.columnInfos
  /-- Whatever the records are, rows are made of them, and these hold the own values of keys. -/
  rows : ∀ (time : Instant) (records : List Json) (t : Tenant), ∃ rows,
    ((Materialization.shaping time c.mode).run records).answer t = .ok rows ∧ c.mode.HoldsOwn time records rows

/-- There is one entry for every key exactly if no id is used twice. -/
theorem fieldInfos_perm_iff (c : ReportContent) :
    (Presentation.ofReport c).fieldInfos.Perm c.mode.columnInfos ↔ c.mode.columnIds.Nodup := by
  show (Presentation.fieldInfosFor c.mode).Perm _ ↔ _
  rw [ReportMode.fieldInfosFor_eq]
  exact Keyed.ofPairs_perm_iff

/-- **Where ids can be read, keys own their columns exactly if no id is used twice.** -/
theorem ownsColumns_iff {c : ReportContent} (h : c.mode.Readable) :
    c.OwnsColumns ↔ c.mode.columnIds.Nodup := by
  constructor
  · exact fun howns => c.fieldInfos_perm_iff.1 howns.infos
  · intro hids
    refine ⟨c.fieldInfos_perm_iff.2 hids, fun time records t => ?_⟩
    exact ⟨_, Materialization.answer_shaping time c.mode records t, h.holdsOwn hids time records⟩

/-! ### Reports on sales -/

/-- A report on sales. -/
def salesReport (spec : GroupSpec) : ReportContent where
  appId := "market"
  datastoreId := "sales"
  mode := .group spec

/-- The sum of the amounts of sales. -/
def summedAmount : AggregateKey := ⟨.dynamic "amount" .number, .sum⟩

/-- Sales by customer, region and access groups. -/
def byCustomerAndRegion : GroupSpec where
  keys := [.related "r1" "name" .text, .dynamic "region" .text, .fixed "owners" .unknown]
  aggregates := [summedAmount]
  showCount := true

/-- Its keys own their columns. -/
theorem byCustomerAndRegion_ownsColumns : (salesReport byCustomerAndRegion).validate = .ok ()
    ∧ (salesReport byCustomerAndRegion).mode.Readable ∧ (salesReport byCustomerAndRegion).OwnsColumns := by
  have hreadable : (salesReport byCustomerAndRegion).mode.Readable :=
    Key.Readable.of_isName (by decide) (by decide) (by decide)
  exact ⟨rfl, hreadable, (ownsColumns_iff hreadable).2 (by decide)⟩

/-- Sales by region and by a field with the id of the number of records, with the sum and the largest of their
amounts. -/
def byRegionAndCount : GroupSpec where
  keys := [.dynamic "region" .text, .dynamic "count" .text]
  aggregates := [summedAmount, ⟨.dynamic "amount" .number, .max⟩]
  showCount := true

/-- A sale of an amount. -/
def sale (amount : Int64) : Json :=
  .object [("items", .object [("amount", Stage.openCell .number (some (.ofSigned amount)))])]

/-- **An accepted report whose keys share columns**: there are three entries for five keys, and the rows do not
hold the sum. -/
theorem byRegionAndCount_sharesColumns : (salesReport byRegionAndCount).validate = .ok ()
    ∧ (salesReport byRegionAndCount).mode.Readable ∧ ¬ (salesReport byRegionAndCount).OwnsColumns
    ∧ (salesReport byRegionAndCount).mode.columnInfos.length = 5
    ∧ (Presentation.ofReport (salesReport byRegionAndCount)).fieldInfos.length = 3
    ∧ ¬ (ReportMode.group byRegionAndCount).HoldsOwn .epoch [sale 10, sale 100]
      (Materialization.shape .epoch (.group byRegionAndCount) [sale 10, sale 100]) := by
  have hshared : ¬ (salesReport byRegionAndCount).mode.columnIds.Nodup := by decide
  refine ⟨rfl, Key.Readable.of_isName (by decide) (by decide) (by decide),
    fun howns => hshared ((fieldInfos_perm_iff _).1 howns.infos), by decide, by decide, fun howns => ?_⟩
  have hgroup := Stage.sharing_mem_partitionBy (grouping byRegionAndCount .epoch).keyOf
    (List.mem_cons_self (a := sale 10) (l := [sale 100]))
  have hsum := (ReportMode.holdsOwn_group_iff.1 howns _ hgroup).aggregate summedAmount List.mem_cons_self
  -- the cell holds the largest amount
  have hnumbers := congrArg (fun cell => (cell.bind (Document.getAt? ["value"])).bind Json.asFloat?) hsum
  exact absurd hnumbers (by decide +kernel)

end ReportContent

end Rollup
