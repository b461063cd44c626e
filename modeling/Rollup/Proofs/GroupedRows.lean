import Mathlib.Data.List.Nodup
import Rollup.Plan.Materialization
import Rollup.Plan.Presentation
import Rollup.Proofs.Columns

/-!
# What grouped and merged rows hold

The fields of a grouping share one row with each other and with the columns that every row has. What stands in
a row has its **slot**: a key, the access groups, the cell of an aggregate and what is kept beside it, the
number of records, the time. A grouping **separates** its slots when none leads into another; then grouped and
merged rows hold in each slot what was put there (`GroupSpec.Separate.get?_fill`), and so all that one expects
of them. For other groupings a later column may overwrite an earlier one.

Ids that are names without points separate the slots if no id is used twice and none is the name of a column
that rows have anyway: such groupings are **plain**.
-/

namespace Rollup

open Document (Column Part segments)

namespace Materialization

/-- The grouping of a definition. -/
def grouping (spec : GroupSpec) (time : Instant) : Grouping where
  keys := spec.keys.map outputKey
  aggregates := spec.aggregates.map aggregation
  showCount := spec.showCount
  updateTime := time

end Materialization

namespace Stage

/-- The place of the cell of a field. -/
theorem segments_cellPath (fieldId : String) : segments (cellPath fieldId) = "items" :: segments fieldId :=
  (Document.segments_append "items" fieldId).trans <|
    congrArg (· ++ segments fieldId) (Document.segments_of_isName (by decide))

/-- The place of the sum and number beside a mean. -/
theorem segments_partialsPath (fieldId : String) :
    segments (partialsPath fieldId) = "partials" :: segments fieldId :=
  (Document.segments_append "partials" fieldId).trans <|
    congrArg (· ++ segments fieldId) (Document.segments_of_isName (by decide))

/-- The value of a field is read in its cell. -/
theorem get?_valuePath (fieldId : String) (row : Json) :
    Document.get? (valuePath fieldId) row
      = (Document.get? (cellPath fieldId) row).bind (Document.getAt? ["value"]) := by
  unfold Document.get? valuePath
  have hpath : "items." ++ fieldId ++ ".value" = cellPath fieldId ++ "." ++ "value" := by
    rw [cellPath, show (".value" : String) = "." ++ "value" from rfl, ← String.append_assoc]
  rw [hpath, Document.segments_append, Document.getAt?_append]
  rfl

end Stage

namespace Key

/-- **Whether the key is read in a related datastore.** -/
def isRelated (k : Key) : Bool := k.relation?.isSome

/-- A related key is one that stands below `items`. -/
theorem isItem_of_isRelated {k : Key} (h : k.isRelated = true) : k.isItem = true := by
  unfold isRelated relation? at h
  unfold isItem
  cases hl : k.isLookup with
  | true => rfl
  | false =>
    rw [hl, if_neg (by decide)] at h
    exact absurd h (by decide)

/-- **What grouped rows hold of a record** in the column of a key: its value in a cell, or the cell or column
as it is. -/
def written (k : Key) (source : Json) : Option Json :=
  if k.isRelated then some (Stage.openCell k.dataType (Document.get? k.sourcePath source))
  else Document.get? k.outputPath source

/-- A static column is written as it is. -/
theorem written_of_isItem_eq_false {k : Key} (h : k.isItem = false) (source : Json) :
    k.written source = Document.get? k.outputPath source :=
  if_neg fun hrelated => Bool.false_ne_true (h.symm.trans (isItem_of_isRelated hrelated))

/-- What is written of a key is put at its output path. -/
theorem keyColumn_outputKey (k : Key) (source : Json) :
    Stage.keyColumn source (Materialization.outputKey k) = .ofPath k.outputPath (k.written source) := by
  unfold Stage.keyColumn Materialization.outputKey written isRelated
  split <;> rfl

/-! ### Where keys stand -/

/-- A key below `items` stands where its id leads there. -/
theorem segments_outputPath_of_isItem {k : Key} (h : k.isItem = true) :
    segments k.outputPath = "items" :: segments k.fieldId := by
  unfold outputPath
  rw [if_pos h]
  exact Stage.segments_cellPath k.fieldId

/-- A static column stands under its name. -/
theorem segments_outputPath_of_isName {k : Key} (h : k.isItem = false) (hname : Document.IsName k.fieldId) :
    segments k.outputPath = [k.fieldId] := by
  unfold outputPath
  rw [h, if_neg Bool.false_ne_true]
  exact Document.segments_of_isName hname

/-- A key stands apart from everything under another name. -/
theorem part_outputPath {k : Key} (hname : k.isItem = false → Document.IsName k.fieldId) {name : String}
    (hitems : name ≠ "items") (hne : k.isItem = false → k.fieldId ≠ name) (rest : List String) :
    Part (segments k.outputPath) (name :: rest) := by
  cases hitem : k.isItem with
  | true =>
    rw [segments_outputPath_of_isItem hitem]
    exact Document.part_of_ne hitems.symm _ _
  | false =>
    rw [segments_outputPath_of_isName hitem (hname hitem)]
    exact Document.part_of_ne (hne hitem) _ _

/-- The names of columns that lead to cells, to what is kept beside them, and to the time. -/
def reservedNames : List String := ["items", "partials", "update_time"]

/-- The ids that stand below `items`: those of keys, and those of cells. -/
def itemIds (keys : List Key) (cells : List String) : List String := (keys.filter isItem).map fieldId ++ cells

/-- **Keys and cells whose ids can be read**: where two ids differ, neither leads into the column of the other. -/
structure Readable (keys : List Key) (cells : List String) : Prop where
  /-- A static column is no path that leads further down. -/
  isName : ∀ k ∈ keys, k.isItem = false → Document.IsName k.fieldId
  /-- It is not one in which something else stands. -/
  unreserved : ∀ k ∈ keys, k.isItem = false → k.fieldId ∉ reservedNames
  /-- Below `items` no id leads further down from another one. -/
  part : ∀ a ∈ itemIds keys cells, ∀ b ∈ itemIds keys cells, a ≠ b → Part (segments a) (segments b)

namespace Readable

/-- Ids without points can be read. -/
theorem of_isName {keys : List Key} {cells : List String} (hkeys : ∀ k ∈ keys, Document.IsName k.fieldId)
    (hcells : ∀ fieldId ∈ cells, Document.IsName fieldId)
    (hunreserved : ∀ k ∈ keys, k.isItem = false → k.fieldId ∉ reservedNames) : Readable keys cells where
  isName k hk _ := hkeys k hk
  unreserved := hunreserved
  part := by
    have hids : ∀ fieldId ∈ itemIds keys cells, Document.IsName fieldId := by
      intro fieldId hid
      rcases List.mem_append.1 hid with hkey | hcell
      · obtain ⟨k, hk, rfl⟩ := List.mem_map.1 hkey
        exact hkeys k (List.mem_filter.1 hk).1
      · exact hcells fieldId hcell
    intro a ha b hb hne
    rw [Document.segments_of_isName (hids a ha), Document.segments_of_isName (hids b hb)]
    exact Document.part_of_ne hne _ _

variable {keys : List Key} {cells : List String} (h : Readable keys cells) {k : Key} (hk : k ∈ keys)
include h hk

/-- A static column differs from the reserved ones. -/
theorem ne_reserved (hitem : k.isItem = false) {name : String} (hname : name ∈ reservedNames) : k.fieldId ≠ name :=
  fun e => h.unreserved k hk hitem (e ▸ hname)

/-- A key stands apart from everything under another name. -/
theorem part_name {name : String} (hitems : name ≠ "items") (hne : k.isItem = false → k.fieldId ≠ name)
    (rest : List String) : Part (segments k.outputPath) (name :: rest) :=
  part_outputPath (h.isName k hk) hitems hne rest

/-- A key stands apart from the cell of another id. -/
theorem part_cell {fieldId : String} (hcell : fieldId ∈ cells) (hne : k.fieldId ≠ fieldId) :
    Part (segments k.outputPath) ("items" :: segments fieldId) := by
  cases hitem : k.isItem with
  | true =>
    rw [segments_outputPath_of_isItem hitem]
    exact .inr (h.part _ (List.mem_append_left _ (List.mem_map_of_mem (List.mem_filter.2 ⟨hk, hitem⟩))) _
      (List.mem_append_right _ hcell) hne)
  | false =>
    rw [segments_outputPath_of_isName hitem (h.isName k hk hitem)]
    exact Document.part_of_ne (h.ne_reserved hk hitem (by decide)) _ _

/-- Keys with different ids stand apart. -/
theorem part_key {l : Key} (hl : l ∈ keys) (hne : k.fieldId ≠ l.fieldId) :
    Part (segments k.outputPath) (segments l.outputPath) := by
  cases hitem : l.isItem with
  | true =>
    rw [segments_outputPath_of_isItem hitem]
    cases hitem' : k.isItem with
    | true =>
      have hmem : ∀ {m : Key}, m ∈ keys → m.isItem = true → m.fieldId ∈ itemIds keys cells := fun hm hi =>
        List.mem_append_left _ (List.mem_map_of_mem (List.mem_filter.2 ⟨hm, hi⟩))
      rw [segments_outputPath_of_isItem hitem']
      exact .inr (h.part _ (hmem hk hitem') _ (hmem hl hitem) hne)
    | false =>
      rw [segments_outputPath_of_isName hitem' (h.isName k hk hitem')]
      exact Document.part_of_ne (h.ne_reserved hk hitem' (by decide)) _ _
  | false =>
    rw [segments_outputPath_of_isName hitem (h.isName l hl hitem)]
    exact h.part_name hk (h.ne_reserved hl hitem (by decide)) (fun _ => hne) []

end Readable

end Key

namespace GroupSpec

variable {spec : GroupSpec}

/-- The ids of the fields of a grouping, those of its aggregates last. -/
def fieldIds (spec : GroupSpec) : List String :=
  spec.keys.map Key.fieldId ++ spec.aggregates.map fun a => a.key.fieldId

/-- The columns that rows have beside the fields of the grouping. -/
def reservedColumns : List String := ["owners", "items", "partials", "count", "update_time"]

/-- **A grouping whose fields can be told apart in its rows.** -/
structure Plain (spec : GroupSpec) : Prop where
  /-- No id leads further down. -/
  isName : ∀ fieldId ∈ spec.fieldIds, Document.IsName fieldId
  /-- No id is used twice. -/
  nodup : spec.fieldIds.Nodup
  /-- No id is that of another column. -/
  unreserved : ∀ fieldId ∈ spec.fieldIds, fieldId ∉ reservedColumns

/-- **A grouping whose ids can be read.** -/
def Readable (spec : GroupSpec) : Prop := Key.Readable spec.keys (spec.aggregates.map fun a => a.key.fieldId)

/-- **A grouping that separates its slots.** -/
structure Separate (spec : GroupSpec) : Prop where
  /-- Ids can be read. -/
  readable : spec.Readable
  /-- No id is used twice. -/
  nodup : spec.fieldIds.Nodup
  /-- None is that of the number of records, where that is shown. -/
  count : spec.showCount = true → "count" ∉ spec.fieldIds

/-- The id of a key is one of the ids. -/
theorem key_mem {k : Key} (h : k ∈ spec.keys) : k.fieldId ∈ spec.fieldIds :=
  List.mem_append_left _ (List.mem_map_of_mem h)

/-- The id of an aggregate is one of the ids. -/
theorem aggregate_mem {a : AggregateKey} (h : a ∈ spec.aggregates) : a.key.fieldId ∈ spec.fieldIds :=
  List.mem_append_right _ (List.mem_map.2 ⟨a, h, rfl⟩)

namespace Plain

variable (h : spec.Plain)
include h

/-- An id differs from the names of the other columns. -/
theorem ne_reserved {fieldId name : String} (hid : fieldId ∈ spec.fieldIds) (hname : name ∈ reservedColumns) :
    fieldId ≠ name :=
  fun e => h.unreserved fieldId hid (e ▸ hname)

/-- No id is that of the number of records. -/
theorem count_not_mem : "count" ∉ spec.fieldIds := fun hmem => h.unreserved "count" hmem (by decide)

/-- **A plain grouping separates its slots.** -/
theorem separate : spec.Separate where
  readable := .of_isName (fun k hk => h.isName _ (key_mem hk))
    (fun fieldId hcell => h.isName fieldId (List.mem_append_right _ hcell))
    fun k hk _ hmem => h.unreserved _ (key_mem hk) ((by decide : Key.reservedNames ⊆ reservedColumns) hmem)
  nodup := h.nodup
  count := fun _ => h.count_not_mem

end Plain

/-! ## Slots -/

/-- **What stands in a column** of a grouped or merged row. -/
inductive Slot where
  /-- What is written of a key. -/
  | key (k : Key)
  /-- The access groups. -/
  | owners
  /-- The reduced number of an aggregate. -/
  | cell (a : AggregateKey)
  /-- The sum and number beside a mean. -/
  | partials (a : AggregateKey)
  /-- The number of records. -/
  | count
  /-- The time. -/
  | time

namespace Slot

/-- Where a slot is. -/
def path : Slot → String
  | key k => k.outputPath
  | owners => Stage.ownersPath
  | cell a => Stage.cellPath a.key.fieldId
  | partials a => Stage.partialsPath a.key.fieldId
  | count => Stage.countPath
  | time => Stage.updateTimePath

/-- The slots of a grouping. That of the number of records is free for it where no field has its name. -/
def IsOf (spec : GroupSpec) : Slot → Prop
  | key k => k ∈ spec.keys
  | cell a | partials a => a ∈ spec.aggregates
  | count => "count" ∉ spec.fieldIds
  | owners | time => True

/-- Where access groups stand: a key may name them as well. -/
def IsOwners : Slot → Prop
  | key k => k.outputPath = Stage.ownersPath
  | owners => True
  | _ => False

/-- The column in which something is put into a slot. -/
def column (value : Slot → Option Json) (s : Slot) : Column := .ofPath s.path (value s)

/-- The place of a slot. -/
def place : Slot → List String
  | key k => segments k.outputPath
  | owners => ["owners"]
  | cell a => "items" :: segments a.key.fieldId
  | partials a => "partials" :: segments a.key.fieldId
  | count => ["count"]
  | time => ["update_time"]

/-- The place of a slot is where its path leads. -/
theorem segments_path : ∀ s : Slot, segments s.path = s.place
  | key _ => rfl
  | cell a => Stage.segments_cellPath a.key.fieldId
  | partials a => Stage.segments_partialsPath a.key.fieldId
  | owners | count | time => Document.segments_of_isName (by decide)

/-- Columns of slots that stand apart spare each other. -/
theorem spares_of_part {s t : Slot} (h : Part s.place t.place) (value : Slot → Option Json) :
    (t.column value).Spares (s.column value) := by
  rw [← s.segments_path, ← t.segments_path] at h
  exact .of_part h

/-- Slots of the access groups have one path. -/
theorem IsOwners.path_eq {s : Slot} (h : s.IsOwners) : s.path = Stage.ownersPath := by
  cases s with
  | key k => exact h
  | owners => rfl
  | _ => exact h.elim

end Slot

/-- What stands below different ids of aggregates stands apart. -/
theorem Readable.part_below (h : spec.Readable) {a b : AggregateKey} (ha : a ∈ spec.aggregates)
    (hb : b ∈ spec.aggregates) (hne : a.key.fieldId ≠ b.key.fieldId) (name : String) :
    Part (name :: segments a.key.fieldId) (name :: segments b.key.fieldId) := by
  have hmem : ∀ {a : AggregateKey}, a ∈ spec.aggregates →
      a.key.fieldId ∈ Key.itemIds spec.keys (spec.aggregates.map fun a => a.key.fieldId) :=
    fun ha => List.mem_append_right _ (List.mem_map.2 ⟨_, ha, rfl⟩)
  exact .inr (h.part _ (hmem ha) _ (hmem hb) hne)

namespace Separate

variable (h : spec.Separate)
include h

/-- A key stands apart from all other slots, but for that of the access groups, which it may name. -/
theorem part_key {k : Key} (hk : k ∈ spec.keys) {t : Slot} (ht : t.IsOf spec) (hne : Slot.key k ≠ t) :
    ((Slot.key k).IsOwners ∧ t.IsOwners) ∨ Part (segments k.outputPath) t.place := by
  obtain ⟨hkeys, -, hboth⟩ := List.nodup_append.1 h.nodup
  cases t with
  | key l =>
    exact .inr (h.readable.part_key hk ht fun hid => hne (congrArg _ (List.inj_on_of_nodup_map hkeys hk ht hid)))
  | owners =>
    by_cases hsame : k.outputPath = Stage.ownersPath
    · exact .inl ⟨hsame, trivial⟩
    · refine .inr (h.readable.part_name hk (by decide) (fun hitem hid => hsame ?_) [])
      unfold Key.outputPath
      rw [hitem, if_neg Bool.false_ne_true, hid]
      rfl
  | cell a =>
    have ha : a.key.fieldId ∈ spec.aggregates.map fun a => a.key.fieldId := List.mem_map.2 ⟨a, ht, rfl⟩
    exact .inr (h.readable.part_cell hk ha (hboth _ (List.mem_map_of_mem hk) _ ha))
  | partials a =>
    exact .inr (h.readable.part_name hk (by decide) (fun hitem => h.readable.ne_reserved hk hitem (by decide)) _)
  | count =>
    exact .inr (h.readable.part_name hk (by decide) (fun _ (hid : k.fieldId = "count") => ht (hid ▸ key_mem hk)) [])
  | time =>
    exact .inr (h.readable.part_name hk (by decide) (fun hitem => h.readable.ne_reserved hk hitem (by decide)) [])

/-- What stands below the ids of different aggregates stands apart. -/
theorem part_aggregates {a b : AggregateKey} (ha : a ∈ spec.aggregates) (hb : b ∈ spec.aggregates) (hne : a ≠ b)
    (name : String) : Part (name :: segments a.key.fieldId) (name :: segments b.key.fieldId) :=
  have hids := (List.nodup_append.1 h.nodup).2.1
  h.readable.part_below ha hb (fun hid => hne (List.inj_on_of_nodup_map hids ha hb hid)) name

/-- **Different slots stand apart**, but for those of the access groups. -/
theorem part_slots {s t : Slot} (hs : s.IsOf spec) (ht : t.IsOf spec) (hne : s ≠ t) :
    (s.IsOwners ∧ t.IsOwners) ∨ Part s.place t.place := by
  cases s with
  | key k => exact h.part_key hs ht hne
  | cell a =>
    cases t with
    | key k => exact (h.part_key ht hs hne.symm).imp And.symm Part.symm
    | cell b => exact .inr (h.part_aggregates hs ht (fun e => hne (congrArg _ e)) _)
    | _ => exact .inr (Document.part_of_ne (by decide) _ _)
  | partials a =>
    cases t with
    | key k => exact (h.part_key ht hs hne.symm).imp And.symm Part.symm
    | partials b => exact .inr (h.part_aggregates hs ht (fun e => hne (congrArg _ e)) _)
    | _ => exact .inr (Document.part_of_ne (by decide) _ _)
  | owners | count | time =>
    cases t with
    | key k => exact (h.part_key ht hs hne.symm).imp And.symm Part.symm
    | _ => first | exact absurd rfl hne | exact .inr (Document.part_of_ne (by decide) _ _)

/-- **The columns of slots spare each other**, where keys that name the access groups hold them. -/
theorem spares {value : Slot → Option Json}
    (howners : ∀ k ∈ spec.keys, k.outputPath = Stage.ownersPath → value (.key k) = value .owners) {s t : Slot}
    (hs : s.IsOf spec) (ht : t.IsOf spec) : (t.column value).Spares (s.column value) := by
  by_cases hsame : t = s
  · exact .inl (congrArg _ hsame)
  rcases h.part_slots hs ht (Ne.symm hsame) with ⟨hsOwners, htOwners⟩ | hpart
  · have hvalue : ∀ {s : Slot}, s.IsOf spec → s.IsOwners → value s = value .owners := by
      rintro (k | _ | _ | _ | _ | _) hs hown
      case key => exact howners k hs hown
      case owners => rfl
      all_goals exact hown.elim
    left
    unfold Slot.column
    rw [hsOwners.path_eq, htOwners.path_eq, hvalue hs hsOwners, hvalue ht htOwners]
  · exact Slot.spares_of_part hpart value

/-- **A row filled from slots holds in each of them what was put there.** -/
theorem get?_fill {value : Slot → Option Json}
    (howners : ∀ k ∈ spec.keys, k.outputPath = Stage.ownersPath → value (.key k) = value .owners)
    {slots : List Slot} (hslots : ∀ t ∈ slots, t.IsOf spec ∨ value t = none) {s : Slot} (hmem : s ∈ slots)
    (hs : s.IsOf spec) :
    Document.get? s.path (Document.fill (slots.map (Slot.column value)) (.object [])) = value s := by
  refine Document.get?_fill (c := s.column value) (List.mem_map_of_mem hmem) (fun d hd => ?_) rfl
  obtain ⟨t, ht, rfl⟩ := List.mem_map.1 hd
  exact (hslots t ht).elim (h.spares howners hs) fun hnone => .inr (.inl hnone)

end Separate

/-! ## Grouped rows -/

/-- The slots of grouped rows. -/
def slots (spec : GroupSpec) : List Slot :=
  spec.keys.map .key ++ [.owners] ++ (spec.aggregates.flatMap (fun a => [.cell a, .partials a]) ++ [.count, .time])

/-- **What a group puts into its slots.** -/
def groupedValue (spec : GroupSpec) (time : Instant) (members : List Json) : Slot → Option Json
  | .key k => k.written (members.headD .null)
  | .owners => Document.get? Stage.ownersPath (members.headD .null)
  | .cell a => some (Stage.numberCell ((Grouping.tally (Materialization.aggregation a) members).reduce a.reduction))
  | .partials a =>
    if a.reduction = .avg then some (Grouping.tally (Materialization.aggregation a) members).partials else none
  | .count => if spec.showCount then some (.ofCount members.length) else none
  | .time => some (.string time.stored)

/-- The columns of grouped rows are those of their slots. -/
theorem columns_grouping (spec : GroupSpec) (time : Instant) (members : List Json) :
    (Materialization.grouping spec time).columns members
      = spec.slots.map (Slot.column (spec.groupedValue time members)) := by
  have hkeys : (spec.keys.map Materialization.outputKey).map (Stage.keyColumn (members.headD .null))
      = (spec.keys.map Slot.key).map (Slot.column (spec.groupedValue time members)) := by
    rw [List.map_map, List.map_map]
    exact List.map_congr_left fun k _ => k.keyColumn_outputKey _
  have haggregates : (spec.aggregates.map Materialization.aggregation).flatMap (Grouping.aggregateColumns members)
      = (spec.aggregates.flatMap fun a => [Slot.cell a, Slot.partials a]).map
        (Slot.column (spec.groupedValue time members)) := by
    rw [List.flatMap_map, List.map_flatMap]
    rfl
  unfold Grouping.columns Materialization.grouping slots
  dsimp only
  rw [hkeys, haggregates, List.map_append, List.map_append, List.map_append]
  rfl

/-- A slot of grouped rows is one of the grouping, but for that of a number that is not shown. -/
theorem Separate.isOf_of_mem_slots (h : spec.Separate) (time : Instant) (members : List Json) :
    ∀ t ∈ spec.slots, t.IsOf spec ∨ spec.groupedValue time members t = none := by
  intro t ht
  unfold slots at ht
  simp only [List.mem_append, List.mem_map, List.mem_flatMap, List.mem_cons, List.not_mem_nil, or_false] at ht
  rcases ht with (⟨k, hk, rfl⟩ | rfl) | ⟨a, ha, rfl | rfl⟩ | rfl | rfl
  case inr.inr.inl =>
    cases hshow : spec.showCount with
    | true => exact .inl (h.count hshow)
    | false => exact .inr (if_neg (hshow ▸ Bool.false_ne_true))
  case inl.inl => exact .inl hk
  case inl.inr => exact .inl trivial
  case inr.inr.inr => exact .inl trivial
  all_goals exact .inl ha

end GroupSpec

/-- A key that names the access groups writes them. -/
theorem Key.written_owners {k : Key} (h : k.outputPath = Stage.ownersPath) (source : Json) :
    k.written source = Document.get? Stage.ownersPath source := by
  have hitem : k.isItem = false := by
    refine Bool.eq_false_iff.2 fun hitem => ?_
    have hplace := (congrArg segments h).symm.trans (segments_outputPath_of_isItem hitem)
    rw [Document.segments_of_isName (by decide : Document.IsName Stage.ownersPath)] at hplace
    exact absurd (List.cons.inj hplace).1 (by decide)
  rw [written_of_isItem_eq_false hitem, h]

namespace GroupSpec.Separate

variable {spec : GroupSpec} (h : spec.Separate)
include h

section Grouped

variable (time : Instant) (members : List Json)

/-- **A grouped row holds in its slots what its group puts there.** -/
theorem get?_row {s : Slot} (hmem : s ∈ spec.slots) (hs : s.IsOf spec) :
    Document.get? s.path ((Materialization.grouping spec time).row members)
      = spec.groupedValue time members s := by
  rw [Grouping.row_eq_fill, columns_grouping]
  exact h.get?_fill (fun k _ howners => k.written_owners howners _) (h.isOf_of_mem_slots time members) hmem hs

/-- **A grouped row holds the key values of its first record.** -/
theorem get?_key {k : Key} (hk : k ∈ spec.keys) :
    Document.get? k.outputPath ((Materialization.grouping spec time).row members)
      = k.written (members.headD .null) :=
  h.get?_row time members (s := .key k)
    (List.mem_append_left _ (List.mem_append_left _ (List.mem_map_of_mem hk))) hk

/-- **A grouped row holds the cells of its aggregates.** -/
theorem get?_cell {a : AggregateKey} (ha : a ∈ spec.aggregates) :
    Document.get? (Stage.cellPath a.key.fieldId) ((Materialization.grouping spec time).row members)
      = some (Stage.numberCell
        ((Grouping.tally (Materialization.aggregation a) members).reduce a.reduction)) :=
  h.get?_row time members (s := .cell a) (List.mem_append_right _ (List.mem_append_left _
    (List.mem_flatMap.2 ⟨a, ha, List.mem_cons_self⟩))) ha

/-- **A grouped row holds the reduced numbers of its records.** -/
theorem get?_aggregate {a : AggregateKey} (ha : a ∈ spec.aggregates) :
    Document.get? (Stage.valuePath a.key.fieldId) ((Materialization.grouping spec time).row members)
      = some ((Grouping.tally (Materialization.aggregation a) members).reduce a.reduction) := by
  rw [Stage.get?_valuePath, h.get?_cell time members ha]
  rfl

/-- **A grouped row holds the number of its records**, where records are counted. -/
theorem get?_count (hcount : "count" ∉ spec.fieldIds) :
    Document.get? Stage.countPath ((Materialization.grouping spec time).row members)
      = if spec.showCount then some (.ofCount members.length) else none :=
  h.get?_row time members (s := .count)
    (List.mem_append_right _ (List.mem_append_right _ List.mem_cons_self)) hcount

/-- A grouped row holds the time that it is computed for. -/
theorem get?_time :
    Document.get? Stage.updateTimePath ((Materialization.grouping spec time).row members)
      = some (.string time.stored) :=
  h.get?_row time members (s := .time)
    (List.mem_append_right _ (List.mem_append_right _ (List.mem_cons_of_mem _ List.mem_cons_self))) trivial

end Grouped

end GroupSpec.Separate

/-! ## Merged rows -/

namespace GroupSpec

variable {spec : GroupSpec}

/-- The slots of merged rows. -/
def mergedSlots (spec : GroupSpec) : List Slot :=
  spec.keys.map .key ++ [.time] ++ (spec.aggregates.map .cell ++ [.count])

/-- **What merged rows put into their slots.** -/
def mergedValue (spec : GroupSpec) (members : List Json) : Slot → Option Json
  | .cell a => some (Stage.numberCell ((Regroup.tally ⟨a.key.fieldId, a.reduction⟩ members).reduce a.reduction))
  | .count => if spec.showCount then some (.ofWord (Regroup.countOf members)) else none
  | s => Document.get? s.path (members.headD .null)

/-- The columns of merged rows are those of their slots. -/
theorem columns_regrouping (spec : GroupSpec) (members : List Json) :
    (Presentation.regrouping spec).columns members
      = spec.mergedSlots.map (Slot.column (spec.mergedValue members)) := by
  unfold Regroup.columns Presentation.regrouping mergedSlots
  simp only [List.map_append, List.map_map]
  rfl

namespace Separate

variable (h : spec.Separate)
include h

/-- A slot of merged rows is one of the grouping, but for that of a number that is not shown. -/
theorem isOf_of_mem_mergedSlots (members : List Json) :
    ∀ t ∈ spec.mergedSlots, t.IsOf spec ∨ spec.mergedValue members t = none := by
  intro t ht
  unfold mergedSlots at ht
  simp only [List.mem_append, List.mem_map, List.mem_singleton] at ht
  rcases ht with (⟨k, hk, rfl⟩ | rfl) | ⟨a, ha, rfl⟩ | rfl
  case inr.inr =>
    cases hshow : spec.showCount with
    | true => exact .inl (h.count hshow)
    | false => exact .inr (if_neg (hshow ▸ Bool.false_ne_true))
  case inl.inl => exact .inl hk
  case inl.inr => exact .inl trivial
  case inr.inl => exact .inl ha

variable (members : List Json)

/-- **A merged row holds in its slots what its rows put there.** -/
theorem get?_mergedRow {s : Slot} (hmem : s ∈ spec.mergedSlots) (hs : s.IsOf spec) :
    Document.get? s.path ((Presentation.regrouping spec).row members) = spec.mergedValue members s := by
  rw [Regroup.row_eq_fill, columns_regrouping]
  refine h.get?_fill (fun k _ howners => ?_) (h.isOf_of_mem_mergedSlots members) hmem hs
  exact congrArg (fun path => Document.get? path (members.headD .null)) howners

/-- **A merged row holds the key columns of its first row.** -/
theorem get?_mergedKey {k : Key} (hk : k ∈ spec.keys) :
    Document.get? k.outputPath ((Presentation.regrouping spec).row members)
      = Document.get? k.outputPath (members.headD .null) :=
  h.get?_mergedRow members (s := .key k)
    (List.mem_append_left _ (List.mem_append_left _ (List.mem_map_of_mem hk))) hk

/-- A merged row holds the time of its first row. -/
theorem get?_mergedTime :
    Document.get? Stage.updateTimePath ((Presentation.regrouping spec).row members)
      = Document.get? Stage.updateTimePath (members.headD .null) :=
  h.get?_mergedRow members (s := .time)
    (List.mem_append_left _ (List.mem_append_right _ List.mem_cons_self)) trivial

/-- **A merged row would be merged with its own rows.** -/
theorem keyOf_mergedRow : (Presentation.regrouping spec).keyOf ((Presentation.regrouping spec).row members)
    = (Presentation.regrouping spec).keyOf (members.headD .null) := by
  refine Regroup.keyOf_congr fun path hpath => ?_
  rcases List.mem_append.1 hpath with hkey | htime
  · obtain ⟨k, hk, rfl⟩ := List.mem_map.1 hkey
    exact h.get?_mergedKey members hk
  · rw [List.mem_singleton.1 htime]
    exact h.get?_mergedTime members

/-- **A merged row holds the merged numbers of its rows.** -/
theorem get?_mergedAggregate {a : AggregateKey} (ha : a ∈ spec.aggregates) :
    Document.get? (Stage.valuePath a.key.fieldId) ((Presentation.regrouping spec).row members)
      = some ((Regroup.tally ⟨a.key.fieldId, a.reduction⟩ members).reduce a.reduction) := by
  have hcell := h.get?_mergedRow members (s := .cell a)
    (List.mem_append_right _ (List.mem_append_left _ (List.mem_map_of_mem ha))) ha
  rw [Stage.get?_valuePath]
  exact congrArg (Option.bind · (Document.getAt? ["value"])) hcell

/-- **A merged row holds the number of the records of its rows**, where records are counted. -/
theorem get?_mergedCount (hcount : "count" ∉ spec.fieldIds) :
    Document.get? Stage.countPath ((Presentation.regrouping spec).row members)
      = if spec.showCount then some (.ofWord (Regroup.countOf members)) else none :=
  h.get?_mergedRow members (s := .count)
    (List.mem_append_right _ (List.mem_append_right _ List.mem_cons_self)) hcount

end Separate

end GroupSpec

end Rollup
