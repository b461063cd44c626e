import Rollup.Proofs.GroupedRows
import Rollup.Proofs.Keyed
import Rollup.Proofs.Labelling
import Rollup.Proofs.TupleKey

/-!
# What labels tell apart

Labels are looked up by texts: the value of an option, the ids of users. A text without a label leaves no trace in what
is shown, so that of a value only its **known** texts can be told from its label (`LabelLookup.known`). Where no two
texts have one label they can be told, and values are shown alike exactly if the same texts of them are known
(`LabelLookup.labelOf_eq_iff`).

A row is labelled field by field. Where no cell leads into another one, each field is labelled by the value that the row
had in the first place, and everything else stays as it was (`LabelLookup.get?_labelled_cell`,
`LabelLookup.get?_labelled_of_independent`).
-/

namespace Rollup

open Document (Column Independent fill)

section Readings

variable {α β : Type} {f : α → Option β} {xs ys : List α}

/-- Lists of things that have readings, and are told apart by them, are the same if their readings are. -/
theorem eq_of_filterMap_eq (hf : ∀ a b c, f a = some c → f b = some c → a = b) (hxs : ∀ x ∈ xs, (f x).isSome)
    (hys : ∀ y ∈ ys, (f y).isSome) (h : xs.filterMap f = ys.filterMap f) : xs = ys := by
  induction xs generalizing ys with
  | nil =>
    cases ys with
    | nil => rfl
    | cons y ys =>
      obtain ⟨c, hc⟩ := Option.isSome_iff_exists.1 (hys y List.mem_cons_self)
      rw [List.filterMap_cons_some hc] at h
      cases h
  | cons x xs ih =>
    obtain ⟨c, hc⟩ := Option.isSome_iff_exists.1 (hxs x List.mem_cons_self)
    rw [List.filterMap_cons_some hc] at h
    cases ys with
    | nil => cases h
    | cons y ys =>
      obtain ⟨b, hb⟩ := Option.isSome_iff_exists.1 (hys y List.mem_cons_self)
      rw [List.filterMap_cons_some hb, List.cons.injEq] at h
      obtain ⟨rfl, hrest⟩ := h
      rw [hf x y c hc hb, ih (List.forall_mem_cons.1 hxs).2 (List.forall_mem_cons.1 hys).2 hrest]

/-- **Readings that tell things apart** come out alike of two lists if the things that have readings are the same. -/
theorem filterMap_eq_filterMap_iff (hf : ∀ a b c, f a = some c → f b = some c → a = b) :
    xs.filterMap f = ys.filterMap f ↔ xs.filter (fun x => (f x).isSome) = ys.filter fun x => (f x).isSome := by
  have hread : ∀ zs : List α, zs.filterMap f = (zs.filter fun z => (f z).isSome).filterMap f := by
    intro zs
    rw [List.filterMap_filter]
    refine List.filterMap_congr fun z _ => ?_
    cases f z <;> rfl
  rw [hread xs, hread ys]
  exact ⟨eq_of_filterMap_eq hf (fun x hx => (List.mem_filter.1 hx).2) fun y hy => (List.mem_filter.1 hy).2,
    congrArg (List.filterMap f)⟩

end Readings

namespace Keyed

/-- **No two keys hold the same.** -/
def Distinct {α : Type} (m : Keyed α) : Prop :=
  ∀ key other value, get? key m = some value → get? other m = some value → key = other

/-- What is stored once in the list of pairs is stored under one key. -/
theorem distinct_of_nodup {α : Type} {m : Keyed α} (h : (m.map Prod.snd).Nodup) : m.Distinct := by
  intro key other value hkey hother
  have hpairs := List.inj_on_of_nodup_map h (mem_of_get? hkey) (mem_of_get? hother) rfl
  exact (Prod.mk.inj hpairs).1

end Keyed

namespace LabelLookup

variable (l : LabelLookup) (labels : Keyed String)

/-! ## Known texts -/

/-- The texts of a value for which labels are looked up. -/
def ids (value : Option Json) : List String :=
  match l.source with
  | .options .. => (value.bind Json.asString?).toList
  | .users => userIds value

/-- **The texts of a value that have labels.** -/
def known (value : Option Json) : List String := (l.ids value).filter fun id => (Keyed.get? id labels).isSome

/-- The value that has just some texts. -/
def valueOf (texts : List String) : Json :=
  match l.source with
  | .options .. => .ofString? texts.head?
  | .users => .ofStrings texts

/-- **What the labels of a value tell**: nothing but which of its texts are known, where labels are distinct. -/
theorem labelOf_eq_iff {labels : Keyed String} (h : labels.Distinct) {v w : Option Json} :
    l.labelOf labels v = l.labelOf labels w ↔ l.known labels v = l.known labels w := by
  have htexts : (l.ids v).filterMap (fun id => Keyed.get? id labels)
      = (l.ids w).filterMap (fun id => Keyed.get? id labels) ↔ l.known labels v = l.known labels w :=
    filterMap_eq_filterMap_iff h
  rw [← htexts]
  unfold labelOf ids
  cases l.source with
  | users =>
    exact ⟨fun h => List.map_injective_iff.2 (fun _ _ => Json.string.inj) (Json.array.inj h), congrArg Json.ofStrings⟩
  | options appId optionId =>
    have hlabel : ∀ v : Option Json, (v.bind Json.asString?).toList.filterMap (fun id => Keyed.get? id labels)
        = ((v.bind Json.asString?).bind fun raw => Keyed.get? raw labels).toList := by
      intro v
      cases v.bind Json.asString? with
      | none => rfl
      | some raw =>
        show List.filterMap (fun id => Keyed.get? id labels) [raw] = (Keyed.get? raw labels).toList
        cases hraw : Keyed.get? raw labels <;> simp [hraw]
    have hinjective : ∀ o p : Option String, Json.ofString? o = .ofString? p ↔ o.toList = p.toList := by
      intro o p
      cases o <;> cases p <;> simp [Json.ofString?]
    dsimp only
    rw [hlabel, hlabel]
    exact hinjective _ _

/-- What is looked up for a value is looked up for its canonical value. -/
theorem ids_canonical (value : Option Json) : l.ids (some (Document.canonical value)) = l.ids value := by
  have hitems : ∀ items : List Json,
      (Document.canonicalItems items).filterMap Json.asString? = items.filterMap Json.asString? := by
    intro items
    induction items with
    | nil => rfl
    | cons a rest ih =>
      have hfirst : (Document.canonicalValue a).asString? = a.asString? := by
        cases a with
        | number n =>
          rw [Document.canonicalValue_number]
          rfl
        | _ => rfl
      rw [Document.canonicalItems, List.filterMap_cons, List.filterMap_cons, ih, hfirst]
  unfold ids
  cases value with
  | none => cases l.source <;> rfl
  | some j =>
    cases j with
    | number n =>
      rw [show Document.canonical (some (.number n)) = _ from Document.canonicalValue_number n]
      cases l.source <;> rfl
    | array items =>
      cases l.source with
      | options => rfl
      | users => exact hitems items
    | _ => cases l.source <;> rfl

/-- Values that agree have the same known texts. -/
theorem known_congr {v w : Option Json} (h : Document.canonical v = Document.canonical w) :
    l.known labels v = l.known labels w := by
  unfold known
  rw [← l.ids_canonical v, h, l.ids_canonical]

/-- A label is its own canonical value. -/
theorem canonicalValue_labelOf (value : Option Json) :
    Document.canonicalValue (l.labelOf labels value) = l.labelOf labels value := by
  unfold labelOf
  cases l.source with
  | users => exact Document.canonicalValue_eq_ofStrings.2 rfl
  | options =>
    dsimp only
    cases (value.bind Json.asString?).bind fun raw => Keyed.get? raw labels <;> rfl

/-! ## Labelled rows -/

/-- The value of a field is read in its cell. -/
theorem valueIn_eq (row : Json) :
    l.valueIn row = (Document.get? (Stage.cellPath l.fieldId) row).bind (Document.getAt? ["value"]) :=
  Stage.get?_valuePath l.fieldId row

/-- **The cell that shows a value.** -/
def labelCell (value : Option Json) : Json := Stage.openCell l.dataType (some (l.labelOf labels value))

/-- **What labelled cells tell** is what labels tell. -/
theorem canonical_labelCell_eq_iff {labels : Keyed String} (h : labels.Distinct) {v w : Option Json} :
    Document.canonical (some (l.labelCell labels v)) = Document.canonical (some (l.labelCell labels w))
      ↔ l.known labels v = l.known labels w := by
  have hcells : Document.canonical (some (l.labelCell labels v)) = Document.canonical (some (l.labelCell labels w))
      ↔ Document.canonicalValue (l.labelOf labels v) = Document.canonicalValue (l.labelOf labels w) :=
    (Document.canonicalValue_openCell_eq_iff (v := some (l.labelOf labels v))
      (w := some (l.labelOf labels w))).trans (and_iff_left Iff.rfl)
  rw [hcells, canonicalValue_labelOf, canonicalValue_labelOf]
  exact l.labelOf_eq_iff h

/-- The column that labels a row. -/
def column (row : Json) : Column := .ofPath (Stage.cellPath l.fieldId) (some (l.labelCell labels (l.valueIn row)))

/-- Labelling a field writes its column. -/
theorem apply_eq_write (row : Json) : l.apply labels row = (l.column labels row).write row := rfl

variable {l} in
/-- Labelling a field leaves the values of fields that stand apart. -/
theorem valueIn_apply {m : LabelLookup}
    (h : Independent (Stage.cellPath m.fieldId) (Stage.cellPath l.fieldId)) (row : Json) :
    m.valueIn (l.apply labels row) = m.valueIn row := by
  have hpart : Document.Part (Document.segments (Stage.cellPath m.fieldId)) (l.column labels row).place :=
    Document.part_iff.2 h
  rw [valueIn_eq, valueIn_eq, apply_eq_write]
  exact congrArg (Option.bind · _) (Column.getAt?_write_of_part hpart row)

/-- **A row with the labels of some fields.** -/
def labelled (lookups : List LabelLookup) (labels : LabelLookup → Keyed String) (row : Json) : Json :=
  lookups.foldl (fun row l => l.apply (labels l) row) row

/-- **Fields that stand apart**: no cell leads into another one. -/
def Apart (lookups : List LabelLookup) : Prop :=
  lookups.Pairwise fun l m => Independent (Stage.cellPath m.fieldId) (Stage.cellPath l.fieldId)

end LabelLookup

namespace LabelLookup

variable {lookups : List LabelLookup} (h : Apart lookups) (labels : LabelLookup → Keyed String)
include h

/-- **A labelled row is filled with labels of the values that the row had.** -/
theorem labelled_eq_fill (row : Json) :
    labelled lookups labels row = fill (lookups.map fun l => l.column (labels l) row) row := by
  suffices hfrom : ∀ other : Json, (∀ l ∈ lookups, l.valueIn other = l.valueIn row) →
      labelled lookups labels other = fill (lookups.map fun l => l.column (labels l) row) other from
    hfrom row fun _ _ => rfl
  intro other hother
  induction lookups generalizing other with
  | nil => rfl
  | cons l rest ih =>
    obtain ⟨hl, hrest⟩ := List.pairwise_cons.1 h
    have hcolumn : l.column (labels l) other = l.column (labels l) row := by
      unfold column
      rw [hother l List.mem_cons_self]
    show labelled rest labels (l.apply (labels l) other)
      = fill (rest.map fun l => l.column (labels l) row) ((l.column (labels l) row).write other)
    rw [apply_eq_write, hcolumn, ← hcolumn, ← apply_eq_write]
    exact ih hrest _ fun m hm =>
      (valueIn_apply (labels l) (hl m hm) other).trans (hother m (List.mem_cons_of_mem _ hm))

/-- **Each field is shown by its label.** -/
theorem get?_labelled_cell {l : LabelLookup} (hl : l ∈ lookups) (row : Json) :
    Document.get? (Stage.cellPath l.fieldId) (labelled lookups labels row)
      = some (l.labelCell (labels l) (l.valueIn row)) := by
  rw [labelled_eq_fill h]
  refine (Document.getAt?_fill (c := l.column (labels l) row)
    (List.mem_map_of_mem (f := fun l => l.column (labels l) row) hl) (fun d hd => ?_) row).trans rfl
  obtain ⟨m, hm, rfl⟩ := List.mem_map.1 hd
  by_cases hsame : m = l
  · exact .inl (hsame ▸ rfl)
  · have hsymm : Std.Symm fun l m : LabelLookup =>
        Independent (Stage.cellPath m.fieldId) (Stage.cellPath l.fieldId) := ⟨fun _ _ => And.symm⟩
    exact .of_part (Document.part_iff.2 (h.forall hm hl hsame))

/-- **Everything else stays as it was.** -/
theorem get?_labelled_of_independent {path : String}
    (hpath : ∀ l ∈ lookups, Independent path (Stage.cellPath l.fieldId)) (row : Json) :
    Document.get? path (labelled lookups labels row) = Document.get? path row := by
  rw [labelled_eq_fill h]
  refine Document.getAt?_fill_of_part (fun c hc => ?_) row
  obtain ⟨l, hl, rfl⟩ := List.mem_map.1 hc
  exact Document.part_iff.2 (hpath l hl)

end LabelLookup

namespace Stage

/-- The same labels are looked up for rows that hold the same in the field. -/
theorem labelsFor_map_congr {l : LabelLookup} {f : Json → Json} {rows : List Json}
    (h : ∀ row ∈ rows, l.valueIn (f row) = l.valueIn row) : labelsFor l (rows.map f) = labelsFor l rows := by
  unfold labelsFor LabelLookup.usersIn
  cases l.source with
  | options => rfl
  | users =>
    dsimp only
    rw [List.flatMap_map, List.flatMap_congr fun row hrow => congrArg LabelLookup.userIds (h row hrow)]

/-- **Labelling fields that stand apart** labels every row with the labels that the rows ask for. -/
theorem answer_runAll_lookups {lookups : List LabelLookup} (h : LabelLookup.Apart lookups)
    {labels : LabelLookup → Keyed String} {rows : List Json} {t : Tenant}
    (hlabels : ∀ l ∈ lookups, (labelsFor l rows).answer t = .ok (labels l)) :
    (runAll (lookups.map .lookup) rows).answer t = .ok (rows.map (LabelLookup.labelled lookups labels)) := by
  induction lookups generalizing rows with
  | nil => exact congrArg Except.ok (List.map_id rows).symm
  | cons l rest ih =>
    obtain ⟨hl, hrest⟩ := List.pairwise_cons.1 h
    rw [answer_runAll_lookup_cons, hlabels l List.mem_cons_self, bind_of_ok]
    refine (ih hrest fun m hm => ?_).trans (congrArg Except.ok List.map_map)
    unfold LabelLookup.run
    rw [labelsFor_map_congr fun row _ => LabelLookup.valueIn_apply (labels l) (hl m hm) row]
    exact hlabels m (List.mem_cons_of_mem _ hm)

end Stage

end Rollup
