import Rollup.Proofs.Computing
import Rollup.Proofs.Conditions
import Rollup.Proofs.Projecting

/-!
# What listed rows hold

A listing makes one row of each record that it projects. Where its keys can be told apart and read
(`Key.Clear`), the value of a key is on its way from the joined record to the row what it was: projecting
keeps it (`Key.Clear.get?_sourcePath_of_apply`), and the row shows it (`Key.Clear.get?_valuePath_row`).
A condition on the key looks for it in both places (`Key.Clear.path_source`, `Condition.IsOn.path_rows`).
-/

namespace Rollup

open Document (Part segments)

/-- **Keys that can be told apart and read** in listed rows. -/
structure Key.Clear (keys : List Key) : Prop where
  /-- No id leads further down. -/
  isName : ∀ k ∈ keys, Document.IsName k.fieldId
  /-- No id is used twice. -/
  nodup : (keys.map Key.fieldId).Nodup
  /-- A key is one of a related datastore exactly if its id names a relation and a field. -/
  isLookup : ∀ k ∈ keys, k.isLookup = (Text.splitFirst? '#' k.fieldId).isSome
  /-- Other keys than those of dynamic fields are static columns. -/
  isColumn : ∀ k ∈ keys, k.isItem = false → k.fieldId ∈ Item.staticColumns

/-- **A field whose values are stored**: it is known, and it is not computed. -/
structure Field.IsStored (fields : List Field) (fieldId : String) : Prop where
  /-- There is such a field. -/
  known : ∃ f ∈ fields, f.fieldId = fieldId
  /-- No such field is computed. -/
  stored : ∀ f ∈ fields, f.fieldId = fieldId → f.isFunction = false

namespace Materialization

/-- **What a projection keeps.** -/
structure Keeps (fields : List Field) (p : Projection) : Prop where
  /-- The static columns. -/
  columns : p.columns = Item.staticColumns
  /-- The cells of the fields that are not computed. -/
  items : p.items = (fields.filter fun f => !f.isFunction).map Field.fieldId
  /-- Computed cells are those of the other fields. -/
  computed : p.computed.map ComputedField.fieldId = (fields.filter Field.isFunction).map Field.fieldId

/-- Computed fields are those with a formula. -/
theorem map_fieldId_of_mapM {fields : List Field} {computed : List ComputedField}
    (h : fields.mapM computedField = .ok computed) :
    computed.map ComputedField.fieldId = fields.map Field.fieldId := by
  induction mapM_eq_ok_iff.1 h with
  | nil => rfl
  | cons hfield _ ih =>
    rw [List.map_cons, List.map_cons, ih (mapM_eq_ok_iff.2 ‹_›)]
    unfold computedField at hfield
    split at hfield
    · rw [← Except.ok.inj hfield]
    · exact absurd hfield nofun

/-- The projection of a datastore keeps the static columns and the known fields. -/
theorem keeps_of_projection {fields : List Field} {keepRelations : Bool} {p : Projection}
    (h : projection fields keepRelations = .ok p) :
    Keeps fields p ∧ p.keepRelations = keepRelations := by
  obtain ⟨computed, hcomputed, hp⟩ := exists_of_bind_eq_ok h
  obtain rfl := Except.ok.inj hp
  exact ⟨⟨rfl, rfl, map_fieldId_of_mapM hcomputed⟩, rfl⟩

end Materialization

/-- A dynamic condition that is about no related datastore looks among the items. -/
theorem Condition.exists_segments_path_of_isDynamic {c : Condition} (hdynamic : c.isDynamic = true)
    (hrelation : c.relation? = none) : ∃ rest, segments (c.path .source) = "items" :: rest := by
  have hpath : c.path .source = "items" ++ "." ++ (c.fieldId ++ ".value") := by
    unfold path
    rw [if_pos hdynamic, hrelation, String.append_assoc]
    rfl
  refine ⟨segments (c.fieldId ++ ".value"), ?_⟩
  rw [hpath, Document.segments_append, Document.segments_of_isName (by decide : Document.IsName "items")]
  rfl

namespace Key

/-- The value of a key of the datastore itself is read where rows have it. -/
theorem sourcePath_eq_valuePath {k : Key} (hk : k.isLookup = false) : k.sourcePath = k.valuePath := by
  unfold sourcePath valuePath isItem relation?
  rw [hk]
  rfl

/-- Where the value of a related key is read. -/
theorem exists_get?_sourcePath {k : Key} (hk : k.isRelated = true) :
    ∃ rest, ∀ j, Document.get? k.sourcePath j = (j.member? "relations").bind (Document.get? rest) := by
  obtain ⟨⟨relation, field⟩, hrelation⟩ := Option.isSome_iff_exists.1 hk
  refine ⟨relation ++ "." ++ field ++ ".value", fun j => ?_⟩
  rw [← Document.get?_below (by decide : Document.IsName "relations")]
  unfold sourcePath
  rw [hrelation]
  simp only [String.append_assoc]
  rfl

/-- The value of an item is read in its cell. -/
theorem get?_valuePath_of_isItem {k : Key} (hk : k.isItem = true) (j : Json) : Document.get? k.valuePath j
    = (Document.get? k.outputPath j).bind (Document.getAt? ["value"]) := by
  unfold valuePath outputPath
  rw [if_pos hk, if_pos hk]
  exact Stage.get?_valuePath k.fieldId j

/-- The value of a static column is the column. -/
theorem valuePath_eq_outputPath {k : Key} (hk : k.isItem = false) : k.valuePath = k.outputPath := by
  unfold valuePath outputPath
  rw [hk]
  rfl

/-- **A row shows the value that the record had**, where it holds what is written of the record. -/
theorem get?_valuePath_of_written {k : Key} (hk : k.isLookup = k.isRelated) {row source : Json}
    (h : Document.get? k.outputPath row = k.written source) :
    Document.get? k.valuePath row = Document.get? k.sourcePath source := by
  unfold written at h
  cases hr : k.isRelated with
  | true =>
    rw [get?_valuePath_of_isItem (isItem_of_isRelated hr), h, hr, if_pos rfl]
    cases Document.get? k.sourcePath source <;> rfl
  | false =>
    rw [hr, if_neg Bool.false_ne_true] at h
    rw [sourcePath_eq_valuePath (hk.trans hr)]
    cases hitem : k.isItem with
    | true => rw [get?_valuePath_of_isItem hitem, get?_valuePath_of_isItem hitem, h]
    | false => rw [valuePath_eq_outputPath hitem, h]

/-- Columns of keys that differ in their ids spare each other. -/
theorem Readable.spares {keys : List Key} {cells : List String} (h : Readable keys cells)
    (hnodup : (keys.map fieldId).Nodup) {k l : Key} (hk : k ∈ keys) (hl : l ∈ keys) (source : Json) :
    (Stage.keyColumn source (Materialization.outputKey l)).Spares
      (Stage.keyColumn source (Materialization.outputKey k)) := by
  by_cases hsame : k.fieldId = l.fieldId
  · exact .inl (List.inj_on_of_nodup_map hnodup hk hl hsame ▸ rfl)
  · rw [keyColumn_outputKey, keyColumn_outputKey]
    exact .of_part (h.part_key hk hl hsame)

/-- Beside its keys a listed row has nothing at the place of a key, or what is written of it. -/
theorem Readable.written_or_getAt? {keys : List Key} {cells : List String} (h : Readable keys cells) {k : Key}
    (hk : k ∈ keys) (time : Instant) (source : Json) :
    (k.written source).or (Document.getAt? (segments k.outputPath)
      (.object (Keyed.insert Stage.updateTimePath (.string time.stored)
        (Projection.copyMembers ["item_id", Stage.ownersPath] source)))) = k.written source := by
  cases hitem : k.isItem with
  | true =>
    have hnone : Keyed.get? "items" (Keyed.insert Stage.updateTimePath (.string time.stored)
        (Projection.copyMembers ["item_id", Stage.ownersPath] source)) = none := by
      rw [Keyed.get?_insert_of_ne (by decide), Projection.get?_copyMembers, if_neg (by decide)]
    rw [segments_outputPath_of_isItem hitem, Document.getAt?, hnone]
    exact Option.or_none
  | false =>
    have hname := h.isName k hk hitem
    have hstood : Keyed.get? k.fieldId (Keyed.insert Stage.updateTimePath (.string time.stored)
        (Projection.copyMembers ["item_id", Stage.ownersPath] source))
        = if k.fieldId ∈ ["item_id", Stage.ownersPath] then source.member? k.fieldId else none := by
      rw [Keyed.get?_insert_of_ne (h.ne_reserved hk hitem (by decide)), Projection.get?_copyMembers]
    have hwritten : k.written source = source.member? k.fieldId := by
      have hpath : k.outputPath = k.fieldId := if_neg (hitem ▸ Bool.false_ne_true)
      rw [written_of_isItem_eq_false hitem, hpath, Document.get?_of_isName hname]
    rw [segments_outputPath_of_isName hitem hname, Document.getAt?, hstood, hwritten]
    split
    · cases source.member? k.fieldId <;> rfl
    · exact Option.or_none

/-- **A listed row holds what is written of its record**, where ids can be read and none is used twice. -/
theorem Readable.get?_selectedRow {keys : List Key} {cells : List String} (h : Readable keys cells)
    (hnodup : (keys.map fieldId).Nodup) {k : Key} (hk : k ∈ keys) (time : Instant) (source : Json) :
    Document.get? k.outputPath ((Materialization.selection keys time).row source) = k.written source := by
  have hspares : ∀ d ∈ (keys.map Materialization.outputKey).map (Stage.keyColumn source),
      d.Spares (Stage.keyColumn source (Materialization.outputKey k)) := by
    intro d hd
    obtain ⟨key, hkey, rfl⟩ := List.mem_map.1 hd
    obtain ⟨l, hl, rfl⟩ := List.mem_map.1 hkey
    exact h.spares hnodup hk hl source
  have hfill := Document.getAt?_fill (List.mem_map_of_mem (List.mem_map_of_mem hk)) hspares
    (.object (Keyed.insert Stage.updateTimePath (.string time.stored)
      (Projection.copyMembers ["item_id", Stage.ownersPath] source)))
  rw [keyColumn_outputKey] at hfill
  unfold Document.get? Selection.row Materialization.selection
  rw [Stage.writeKeys_eq_fill]
  exact hfill.trans (h.written_or_getAt? hk time source)

namespace Clear

variable {keys : List Key} (h : Clear keys) {k : Key} (hk : k ∈ keys)
include h hk

/-- A key of a related datastore is read there. -/
theorem isLookup_eq_isRelated : k.isLookup = k.isRelated := by
  have hlookup := h.isLookup k hk
  unfold isRelated relation?
  cases hl : k.isLookup with
  | true => rw [if_pos rfl, ← hlookup, hl]
  | false => rfl

/-- A column has none of the other names. -/
theorem ne_of_not_mem {name : String} (hname : name ∉ Item.staticColumns) (hitem : k.isItem = false) :
    k.fieldId ≠ name :=
  fun e => hname (e ▸ h.isColumn k hk hitem)

/-- Projecting keeps what was joined, so that the value of a related key is still read there. -/
theorem get?_sourcePath_of_isLookup {p : Projection} (hcolumns : "relations" ∉ p.columns) {source kept : Json}
    (happly : p.apply source = .ok kept) (hl : k.isLookup = true)
    (hrelations : p.keepRelations = true ∨ source.member? "relations" = none) :
    Document.get? k.sourcePath kept = Document.get? k.sourcePath source := by
  obtain ⟨rest, hrest⟩ := exists_get?_sourcePath (h.isLookup_eq_isRelated hk ▸ hl)
  rw [hrest, hrest, Projection.member?_relations happly hcolumns]
  rcases hrelations with hkeep | hnone
  · rw [if_pos hkeep]
  · rw [hnone, ite_self]

/-- An item that is stored is in its cell behind projecting, since it is no item that projecting computes. -/
theorem get?_valuePath_of_isStored {fields : List Field} {p : Projection} (hp : Materialization.Keeps fields p)
    (hitem : k.isItem = true) (hstored : Field.IsStored fields k.fieldId) {source kept : Json}
    (happly : p.apply source = .ok kept) : Document.get? k.valuePath kept = Document.get? k.valuePath source := by
  have hcell : ∀ j, Document.get? k.outputPath j = (j.member? "items").bind (Json.member? k.fieldId) := by
    intro j
    unfold outputPath
    rw [if_pos hitem]
    exact (Document.get?_below (by decide : Document.IsName "items") k.fieldId j).trans
      (congrArg _ (funext (Document.get?_of_isName (h.isName k hk))))
  obtain ⟨⟨f, hf, hid⟩, hstored⟩ := hstored
  rw [get?_valuePath_of_isItem hitem, get?_valuePath_of_isItem hitem, hcell, hcell,
    Projection.item?_of_mem_items happly]
  · rw [hp.items, ← hid]
    exact List.mem_map_of_mem (List.mem_filter.2 ⟨hf, by rw [hstored f hf hid]; rfl⟩)
  · rw [hp.computed]
    intro hmem
    obtain ⟨g, hg, hgid⟩ := List.mem_map.1 hmem
    obtain ⟨hg, hfunction⟩ := List.mem_filter.1 hg
    rw [hstored g hg hgid] at hfunction
    exact absurd hfunction Bool.false_ne_true

/-- A column is kept. -/
theorem get?_valuePath_of_isColumn {fields : List Field} {p : Projection} (hp : Materialization.Keeps fields p)
    (hitem : k.isItem = false) {source kept : Json} (happly : p.apply source = .ok kept) :
    Document.get? k.valuePath kept = Document.get? k.valuePath source := by
  have hcolumn : k.valuePath = k.fieldId := if_neg (hitem ▸ Bool.false_ne_true)
  have hname := h.isName k hk
  rw [hcolumn, Document.get?_of_isName hname, Document.get?_of_isName hname]
  exact Projection.member?_of_mem_columns happly (hp.columns ▸ h.isColumn k hk hitem)
    (h.ne_of_not_mem hk (by decide) hitem) (h.ne_of_not_mem hk (by decide) hitem)

/-- **Projecting keeps the values of keys**, where their fields are stored and what was joined is kept. -/
theorem get?_sourcePath_of_apply {fields : List Field} {p : Projection}
    (hp : Materialization.Keeps fields p) (hstored : k.isItem = true → k.isLookup = false →
      Field.IsStored fields k.fieldId) {source kept : Json} (happly : p.apply source = .ok kept)
    (hrelations : k.isLookup = true → p.keepRelations = true ∨ source.member? "relations" = none) :
    Document.get? k.sourcePath kept = Document.get? k.sourcePath source := by
  cases hl : k.isLookup with
  | true => exact h.get?_sourcePath_of_isLookup hk (hp.columns ▸ by decide) happly hl (hrelations hl)
  | false =>
    rw [sourcePath_eq_valuePath hl]
    cases hitem : k.isItem with
    | true => exact h.get?_valuePath_of_isStored hk hp hitem (hstored hitem hl) happly
    | false => exact h.get?_valuePath_of_isColumn hk hp hitem happly

omit hk in
/-- The ids of such keys can be read. -/
theorem readable : Readable keys [] :=
  .of_isName h.isName (fun _ hcell => absurd hcell List.not_mem_nil) fun k hk hitem hmem =>
    (by decide : ∀ name ∈ reservedNames, name ∉ Item.staticColumns) _ hmem (h.isColumn k hk hitem)

/-- **A listed row holds what is written of its record.** -/
theorem get?_outputPath_row (time : Instant) (source : Json) :
    Document.get? k.outputPath ((Materialization.selection keys time).row source) = k.written source :=
  h.readable.get?_selectedRow h.nodup hk time source

/-- **A listed row shows the value of a key** that the joined record had. -/
theorem get?_valuePath_row {fields : List Field} {p : Projection} (hp : Materialization.Keeps fields p)
    (hstored : k.isItem = true → k.isLookup = false → Field.IsStored fields k.fieldId)
    {source kept : Json} (happly : p.apply source = .ok kept)
    (hrelations : k.isLookup = true → p.keepRelations = true ∨ source.member? "relations" = none)
    (time : Instant) : Document.get? k.valuePath ((Materialization.selection keys time).row kept)
      = Document.get? k.sourcePath source :=
  (get?_valuePath_of_written (h.isLookup_eq_isRelated hk) (h.get?_outputPath_row hk time kept)).trans
    (h.get?_sourcePath_of_apply hk hp hstored happly hrelations)

/-! ### Conditions on keys -/

section Conditions

variable {c : Condition} (hc : c.IsOn k)
include hc

/-- A condition on a related key, and only such a one, is about a related datastore. -/
theorem isSome_relation? : c.relation?.isSome = k.isLookup := by
  unfold Condition.relation?
  rw [hc.1, hc.2]
  cases hl : k.isLookup with
  | true => rw [if_pos (by rw [Key.isItem, hl, Bool.true_or]), ← h.isLookup k hk, hl]
  | false =>
    split
    · rw [← h.isLookup k hk, hl]
    · rfl

/-- A condition on a key looks where joined records have the value of the key. -/
theorem path_source : c.path .source = k.sourcePath := by
  have hrelation : k.relation? = c.relation? := by
    unfold relation? Condition.relation?
    rw [hc.1, hc.2]
    cases hl : k.isLookup with
    | true => rw [if_pos rfl, if_pos (by rw [Key.isItem, hl, Bool.true_or])]
    | false =>
      have hnone := h.isLookup k hk
      rw [hl, eq_comm, Option.isSome_eq_false_iff, Option.isNone_iff_eq_none] at hnone
      rw [if_neg Bool.false_ne_true, hnone, ite_self]
  unfold Condition.path sourcePath
  rw [hrelation]
  cases hcr : c.relation? with
  | some relation =>
    have hdynamic : c.isDynamic = true := by
      by_contra hstatic
      rw [Condition.relation?, if_neg hstatic] at hcr
      exact absurd hcr nofun
    rw [hdynamic, if_pos rfl]
  | none =>
    have hlookup := h.isSome_relation? hk hc
    rw [hcr] at hlookup
    rw [hc.1, hc.2, Key.isItem, ← hlookup, Option.isSome_none, Bool.false_or]

/-- A condition on a key that is not related does not look among what is joined. -/
theorem exists_segments_path (hrelation : c.relation? = none) :
    ∃ name rest, segments (c.path .source) = name :: rest ∧ name ≠ "relations" := by
  cases hdynamic : c.isDynamic with
  | true =>
    obtain ⟨rest, hpath⟩ := Condition.exists_segments_path_of_isDynamic hdynamic hrelation
    exact ⟨"items", rest, hpath, by decide⟩
  | false =>
    unfold Condition.path
    rw [if_neg (Bool.eq_false_iff.1 hdynamic), hc.1, Document.segments_of_isName (h.isName k hk)]
    exact ⟨k.fieldId, [], rfl, h.ne_of_not_mem hk (by decide) (hc.2 ▸ hdynamic)⟩

end Conditions

end Clear

end Key

end Rollup
