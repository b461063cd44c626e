import Rollup.Proofs.Columns
import Rollup.Proofs.Reductions
import Rollup.Proofs.TupleKey

/-!
# Rows that sum up their groups

Grouping and merging say of each group of documents one row. Where the paths that are written into a row are
independent, nothing in it is overwritten, and the rows are known by what they say: there is one for each tuple
of key values, in the order of the canonical texts of the tuples, every document belongs to exactly one of them,
and each row holds the reductions of the numbers of its documents, in the order in which these were given
(`Grouping.sumsUp_groups`, `Regroup.sumsUp_merged`).

Nothing is asked of the documents, of the ids of fields or of where the keys come from. Paths that lead into each
other are left out: there a later column is written over an earlier one.
-/

namespace Rollup

open Document (Column Independent Part segments)

/-- **A row filled at independent paths** holds at each of them what was put there. -/
theorem Document.get?_fill_of_independent {paths : List String} (h : paths.Pairwise Independent)
    {columns : List Column} (hplaces : columns.map Column.place = paths.map segments) {path : String}
    {value : Option Json} (hc : Column.ofPath path value ∈ columns) :
    Document.get? path (Document.fill columns (.object [])) = value := by
  refine Document.get?_fill_of_pairwise ?_ hc rfl
  rw [hplaces]
  exact List.pairwise_map.2 (h.imp Document.part_iff.2)

namespace OutputKey

/-- **What is written of a record** in the column of a key. -/
def written (k : OutputKey) (source : Json) : Option Json :=
  match k.wrap with
  | some dataType => some (Stage.openCell dataType (Document.get? k.source source))
  | none => Document.get? k.source source

/-- The value that a row shows of a key, in a cell where the key is put into one. -/
def shown (k : OutputKey) (row : Json) : Option Json :=
  match k.wrap with
  | some _ => (Document.get? k.target row).bind (Document.getAt? ["value"])
  | none => Document.get? k.target row

/-- **A row shows the value that the record had**, where it holds what is written of the record. -/
theorem shown_of_written {k : OutputKey} {row source : Json} (h : Document.get? k.target row = k.written source) :
    k.shown row = Document.get? k.source source := by
  unfold shown
  rw [h]
  unfold written
  cases k.wrap with
  | none => rfl
  | some dataType => cases Document.get? k.source source <;> rfl

end OutputKey

/-! ## Groups of records -/

namespace Grouping

/-- The paths that are written into rows. -/
def paths (g : Grouping) : List String :=
  g.keys.map OutputKey.target ++ [Stage.ownersPath]
    ++ (g.aggregates.flatMap (fun a => [Stage.cellPath a.fieldId, Stage.partialsPath a.fieldId])
      ++ [Stage.countPath, Stage.updateTimePath])

/-- **A grouping that writes to independent paths.** -/
def WritesApart (g : Grouping) : Prop := g.paths.Pairwise Independent

instance (g : Grouping) : Decidable g.WritesApart := inferInstanceAs (Decidable (List.Pairwise _ _))

/-- **The tuple of a record**: its key values and its access groups, a missing value as `null` and numbers as
doubles. -/
def tuple (g : Grouping) (record : Json) : List Json :=
  ((g.keys.map fun key => Document.get? key.source record) ++ [Document.get? Stage.ownersPath record]).map
    Document.canonical

/-- The canonical text of the tuple that a row shows. -/
def shownKey (g : Grouping) (row : Json) : String :=
  Document.tupleKey <| (g.keys.map fun key => key.shown row) ++ [Document.get? Stage.ownersPath row]

/-- **A row that sums up a group of records.** -/
structure SumsUp (g : Grouping) (members : List Json) (row : Json) : Prop where
  /-- It holds the key values, as the first record has them. -/
  key : ∀ k ∈ g.keys, Document.get? k.target row = k.written (members.headD .null)
  /-- It holds the access groups. -/
  owners : Document.get? Stage.ownersPath row = Document.get? Stage.ownersPath (members.headD .null)
  /-- In the cell of each aggregate stands the reduction of the numbers of the records. -/
  cell : ∀ a ∈ g.aggregates, Document.get? (Stage.cellPath a.fieldId) row
    = some (Stage.numberCell (a.reduction.ofNumbers (numbers a members)))
  /-- Beside a mean stand the number of the numbers and their sum, and beside nothing else. -/
  partials : ∀ a ∈ g.aggregates, Document.get? (Stage.partialsPath a.fieldId) row
    = if a.reduction = .avg then some (.object [("n", .ofCount (numbers a members).length),
        ("sum", .ofFloat (Reduction.total (numbers a members)))]) else none
  /-- The records are counted. -/
  count : Document.get? Stage.countPath row = if g.showCount then some (.ofCount members.length) else none
  /-- It says for when it was computed. -/
  time : Document.get? Stage.updateTimePath row = some (.string g.updateTime.stored)

/-- The columns of a row stand where paths are written. -/
theorem map_place_columns (g : Grouping) (members : List Json) :
    (g.columns members).map Column.place = g.paths.map segments := by
  have hkeys : (g.keys.map (Stage.keyColumn (members.headD .null))).map Column.place
      = (g.keys.map OutputKey.target).map segments := by
    rw [List.map_map, List.map_map]
    rfl
  have haggregates : (g.aggregates.flatMap (aggregateColumns members)).map Column.place
      = (g.aggregates.flatMap fun a => [Stage.cellPath a.fieldId, Stage.partialsPath a.fieldId]).map segments := by
    rw [List.map_flatMap, List.map_flatMap]
    rfl
  unfold columns paths
  simp only [List.map_append, hkeys, haggregates]
  rfl

namespace WritesApart

variable {g : Grouping} (h : g.WritesApart) (members : List Json)
include h

/-- A row holds what its columns put there. -/
theorem get?_row {path : String} {value : Option Json} (hc : Column.ofPath path value ∈ g.columns members) :
    Document.get? path (g.row members) = value := by
  rw [row_eq_fill]
  exact Document.get?_fill_of_independent h (map_place_columns g members) hc

/-- **The row of a group sums it up.** -/
theorem sumsUp_row : g.SumsUp members (g.row members) where
  key k hk := h.get?_row members (List.mem_append_left _ (List.mem_append_left _ (List.mem_map_of_mem hk)))
  owners := h.get?_row members (List.mem_append_left _ (List.mem_append_right _ List.mem_cons_self))
  cell a ha := by
    rw [← Tally.reduce_foldl_push]
    exact h.get?_row members (List.mem_append_right _ (List.mem_append_left _
      (List.mem_flatMap.2 ⟨a, ha, List.mem_cons_self⟩)))
  partials a ha := by
    rw [← Tally.partials_foldl_push]
    exact h.get?_row members (List.mem_append_right _ (List.mem_append_left _
      (List.mem_flatMap.2 ⟨a, ha, List.mem_cons_of_mem _ List.mem_cons_self⟩)))
  count := h.get?_row members (List.mem_append_right _ (List.mem_append_right _ List.mem_cons_self))
  time := h.get?_row members (List.mem_append_right _ (List.mem_append_right _
    (List.mem_cons_of_mem _ List.mem_cons_self)))

end WritesApart

/-- A row that sums up a group shows the tuple of its first record. -/
theorem SumsUp.shownKey_eq {g : Grouping} {members : List Json} {row : Json} (h : g.SumsUp members row) :
    g.shownKey row = g.keyOf (members.headD .null) := by
  unfold shownKey keyOf
  rw [h.owners, List.map_congr_left fun k hk => OutputKey.shown_of_written (h.key k hk)]

/-- **Grouping sums up the groups of records.** There is one row for each tuple of key values and access groups,
in the order of their canonical texts, and it sums up the records with this tuple, in the order in which they
were given. Numbers of records are words, and those of the rows add up to that of all records; they do so without
wrapping unless there are too many records for a word. -/
theorem sumsUp_groups {g : Grouping} (h : g.WritesApart) (records : List Json) :
    Stage.RowPerGroup g.keyOf g.shownKey g.SumsUp records (g.run records)
      ∧ (∀ d e, g.keyOf d = g.keyOf e ↔ g.tuple d = g.tuple e)
      ∧ (g.showCount = true → Regroup.countOf (g.run records) = UInt64.ofNat records.length
        ∧ (records.length < UInt64.size → Regroup.records (g.run records) = records.length)) := by
  refine ⟨.of_partitionBy g.keyOf (fun group hgroup => ?_) fun group _ => h.sumsUp_row group.2,
    fun d e => Document.tupleKey_eq_iff, fun hcount => ?_⟩
  · rw [(h.sumsUp_row group.2).shownKey_eq]
    exact (Stage.head_of_mem_partitionBy _ hgroup).2
  · refine Regroup.countOf_run_grouping (fun members => ?_) records
    rw [(h.sumsUp_row members).count, if_pos hcount]

/-! ### Sales by region -/

/-- A sale of an amount in a region, which an access group may see. -/
def sale (owner region : String) (amount : Json) : Json :=
  .object [("items", .object [("amount", Stage.openCell .number (some amount)),
      ("region", Stage.openCell .text (some (.string region)))]), ("owners", .ofStrings [owner])]

/-- Four sales, one of an unknown amount. -/
def sales : List Json :=
  [sale "g1" "east" (.ofSigned 10), sale "g2" "east" (.ofSigned 20), sale "g1" "east" (.string "n/a"),
    sale "g1" "east" (.ofSigned 30)]

/-- Sales by region and by the name of the customer, with the mean and the largest amount. -/
def byRegion : Grouping where
  keys := [⟨"items.region", "items.region", none⟩, ⟨"relations.r1.name.value", "items.r1#name", some .text⟩]
  aggregates := [⟨"mean", "items.amount.value", .avg⟩, ⟨"largest", "items.amount.value", .max⟩]
  showCount := true
  updateTime := .epoch

/-- **The rows of sales** sum them up. -/
theorem byRegion_sumsUp : byRegion.WritesApart
    ∧ Stage.RowPerGroup byRegion.keyOf byRegion.shownKey byRegion.SumsUp sales (byRegion.run sales)
    ∧ Regroup.records (byRegion.run sales) = 4 := by
  have happart : byRegion.WritesApart := by decide +kernel
  obtain ⟨hrows, -, hcount⟩ := sumsUp_groups happart sales
  exact ⟨happart, hrows, (hcount rfl).2 (by decide)⟩

/-- There are two of them, since access groups keep rows apart. -/
example : (byRegion.run sales).length = 2 := by decide +kernel

end Grouping

/-! ## Merged rows -/

namespace Regroup

/-- The paths that are written into merged rows. -/
def paths (g : Regroup) : List String :=
  g.keys ++ [Stage.updateTimePath] ++ (g.aggregates.map (fun a => Stage.cellPath a.fieldId) ++ [Stage.countPath])

/-- **Merging that writes to independent paths.** -/
def WritesApart (g : Regroup) : Prop := g.paths.Pairwise Independent

instance (g : Regroup) : Decidable g.WritesApart := inferInstanceAs (Decidable (List.Pairwise _ _))

/-- **The tuple of a row**: its key values and its time, a missing value as `null` and numbers as doubles. -/
def tuple (g : Regroup) (row : Json) : List Json :=
  ((g.keys.map fun path => Document.get? path row) ++ [Document.get? Stage.updateTimePath row]).map
    Document.canonical

/-- **A row that sums up other rows.** -/
structure SumsUp (g : Regroup) (members : List Json) (row : Json) : Prop where
  /-- It holds the key values and the time, as the first row has them. -/
  key : ∀ path ∈ g.keys ++ [Stage.updateTimePath],
    Document.get? path row = Document.get? path (members.headD .null)
  /-- In the cell of each aggregate stands what merging makes of the numbers and contributions of the rows. -/
  cell : ∀ a ∈ g.aggregates,
    Document.get? (Stage.cellPath a.fieldId) row = some (Stage.numberCell (reduced a members))
  /-- That of a reduction that chooses is a best one of the numbers. -/
  best : ∀ a ∈ g.aggregates, a.reduction.Chooses →
    ∃ m, a.reduction.IsBest (members.filterMap (valueOf? a.fieldId)) m
      ∧ reduced a members = (m.map Json.ofFloat).getD .null
  /-- The counts are added up. -/
  count : Document.get? Stage.countPath row
    = if g.showCount then some (.ofCount (records members)) else none
  /-- Access groups and what is kept beside means are dropped where no key leads to them. -/
  dropped : ∀ path, (segments path).headD "" ∈ ["owners", "partials"] →
    (∀ key ∈ g.keys, Independent path key) → Document.get? path row = none

/-- The columns of a merged row stand where paths are written. -/
theorem map_place_columns (g : Regroup) (members : List Json) :
    (g.columns members).map Column.place = g.paths.map segments := by
  unfold columns paths
  simp only [List.map_append, List.map_map]
  rfl

/-- What stands below the access groups or beside means parts from what is written elsewhere. -/
theorem part_of_dropped {g : Regroup} {path other : String}
    (hname : (segments path).headD "" ∈ ["owners", "partials"])
    (hkeys : ∀ key ∈ g.keys, Independent path key) (hother : other ∈ g.paths) :
    Part (segments path) (segments other) := by
  obtain ⟨name, rest, hpath⟩ := List.exists_cons_of_ne_nil (Document.segments_ne_nil path)
  have hpart : ∀ {first : String} {below : List String}, segments other = first :: below →
      first ∉ ["owners", "partials"] → Part (segments path) (segments other) := by
    intro first below hsegments hfirst
    rw [hpath] at hname ⊢
    rw [hsegments]
    refine Document.part_of_ne (fun hsame => hfirst ?_) _ _
    rwa [← hsame]
  unfold paths at hother
  simp only [List.mem_append, List.mem_map, List.mem_singleton] at hother
  rcases hother with (hkey | rfl) | ⟨a, -, rfl⟩ | rfl
  · exact Document.part_iff.2 (hkeys other hkey)
  · exact hpart (Document.segments_of_isName (by decide)) (by decide)
  · exact hpart (Document.segments_append "items" a.fieldId) (by decide)
  · exact hpart (Document.segments_of_isName (by decide)) (by decide)

namespace WritesApart

variable {g : Regroup} (h : g.WritesApart) (members : List Json)
include h

/-- A merged row holds what its columns put there. -/
theorem get?_row {path : String} {value : Option Json} (hc : Column.ofPath path value ∈ g.columns members) :
    Document.get? path (g.row members) = value := by
  rw [row_eq_fill]
  exact Document.get?_fill_of_independent h (map_place_columns g members) hc

/-- **The row of merged rows sums them up.** -/
theorem sumsUp_row : g.SumsUp members (g.row members) where
  key path hpath := h.get?_row members (List.mem_append_left _ (List.mem_map_of_mem hpath))
  cell a ha := by
    rw [← reduce_tally]
    exact h.get?_row members (List.mem_append_right _ (List.mem_append_left _ (List.mem_map_of_mem ha)))
  best a _ hr := exists_isBest_reduced hr members
  count := by
    rw [Json.ofCount, ← countOf_eq_records]
    exact h.get?_row members (List.mem_append_right _ (List.mem_append_right _ List.mem_cons_self))
  dropped path hname hkeys := by
    rw [row_eq_fill]
    refine Document.get?_fill_of_part fun c hc => ?_
    have hplace : c.place ∈ g.paths.map segments := by
      rw [← map_place_columns g members]
      exact List.mem_map_of_mem hc
    obtain ⟨other, hother, hplace⟩ := List.mem_map.1 hplace
    rw [← hplace]
    exact part_of_dropped hname hkeys hother

end WritesApart

/-- Rows on sales, merged by region and the name of the customer. -/
def byRegion : Regroup where
  keys := ["items.region", "items.r1#name"]
  aggregates := [⟨"mean", .avg⟩, ⟨"largest", .max⟩]
  showCount := true

/-- One row is left, with the mean of three amounts. -/
example : (byRegion.run (Grouping.byRegion.run Grouping.sales)).map (valueOf? "mean") = [some 20.0] := by
  decide +kernel

end Regroup

end Rollup
