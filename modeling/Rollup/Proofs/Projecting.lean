import Mathlib.Data.List.Forall2
import Rollup.Plan.Materialization
import Rollup.Proofs.Path
import Rollup.Stage.Project

/-!
# What projecting keeps

A projected record has the static columns of its record (`Projection.member?_of_mem_columns`), below `items`
the cells of the known fields as they are (`Projection.item?_of_mem_items`), unless a field is computed, and
what was joined, where joined items are kept (`Projection.member?_relations`).
-/

namespace Rollup

namespace Document

/-- At a single name stands the member of this name. -/
theorem get?_of_isName {name : String} (h : IsName name) (j : Json) : get? name j = j.member? name := by
  unfold get?
  rw [segments_of_isName h]
  cases j with
  | object members =>
    show (Keyed.get? name members).bind (getAt? []) = Keyed.get? name members
    cases Keyed.get? name members <;> rfl
  | _ => rfl

/-- Below a name stands what is below the member of this name. -/
theorem get?_below {name : String} (h : IsName name) (rest : String) (j : Json) :
    get? (name ++ "." ++ rest) j = (j.member? name).bind (get? rest) := by
  unfold get?
  rw [segments_append, segments_of_isName h]
  cases j <;> rfl

end Document

/-- **Steps that may fail succeed together** when each of them does. -/
theorem mapM_eq_ok_iff {ε α β : Type} {f : α → Except ε β} {xs : List α} {ys : List β} :
    xs.mapM f = .ok ys ↔ List.Forall₂ (fun x y => f x = .ok y) xs ys := by
  induction xs generalizing ys with
  | nil => exact ⟨fun h => Except.ok.inj h ▸ .nil, fun h => by cases h; rfl⟩
  | cons x xs ih =>
    rw [List.mapM_cons, List.forall₂_cons_left_iff]
    cases hx : f x with
    | error e => exact ⟨nofun, fun ⟨y, _, hy, _⟩ => absurd hy nofun⟩
    | ok y =>
      cases hxs : xs.mapM f with
      | error e => exact ⟨nofun, fun ⟨_, ys, _, hys, _⟩ => absurd (hxs.symm.trans (ih.2 hys)) nofun⟩
      | ok zs =>
        constructor
        · exact fun h => ⟨y, zs, rfl, ih.1 hxs, (Except.ok.inj h).symm⟩
        · rintro ⟨_, ys, hy, hys, rfl⟩
          rw [← Except.ok.inj hy, ← Except.ok.inj (hxs.symm.trans (ih.2 hys))]
          rfl

namespace Projection

/-- What is read after members were copied. -/
theorem get?_foldl_copy (names : List String) (source : Json) (m : Keyed Json) (name : String) :
    Keyed.get? name (names.foldl (fun m name => match source.member? name with
      | some v => Keyed.insert name v m
      | none => m) m)
      = if name ∈ names then (source.member? name).or (Keyed.get? name m) else Keyed.get? name m := by
  induction names generalizing m with
  | nil => rfl
  | cons first rest ih =>
    rw [List.foldl_cons, ih]
    by_cases hfirst : name = first
    · subst hfirst
      cases source.member? name <;> simp
    · have hkept : Keyed.get? name (match source.member? first with
          | some v => Keyed.insert first v m
          | none => m) = Keyed.get? name m := by
        cases source.member? first with
        | none => rfl
        | some v => exact Keyed.get?_insert_of_ne hfirst v m
      simp [hkept, hfirst]

/-- **Of the named members each is copied.** -/
theorem get?_copyMembers (names : List String) (source : Json) (name : String) :
    Keyed.get? name (copyMembers names source) = if name ∈ names then source.member? name else none := by
  refine (get?_foldl_copy names source [] name).trans ?_
  split
  · exact Option.or_none
  · rfl

/-! ## Projected records -/

/-- The cells of a projected record: copied ones, and computed ones over them. -/
def cells (p : Projection) (source : Json) (computed : List (String × Json)) : Keyed Json :=
  computed.foldl (fun m (fieldId, cell) => Keyed.insert fieldId cell m)
    (copyMembers p.items ((source.member? "items").getD .null))

/-- A projected record but for what was joined. -/
def bare (p : Projection) (source : Json) (computed : List (String × Json)) : Keyed Json :=
  Keyed.insert "items" (.object (p.cells source computed)) (copyMembers p.columns source)

/-- **A record is projected** once its computed fields are. -/
theorem exists_of_apply_eq_ok {p : Projection} {source kept : Json} (h : p.apply source = .ok kept) :
    ∃ computed, p.computed.mapM (compute source) = .ok computed
      ∧ (kept = .object (p.bare source computed)
          ∧ (p.keepRelations = false ∨ source.member? "relations" = none)
        ∨ ∃ relations, p.keepRelations = true ∧ source.member? "relations" = some relations
          ∧ kept = .object (Keyed.insert "relations" relations (p.bare source computed))) := by
  unfold apply at h
  cases hcomputed : p.computed.mapM (compute source) with
  | error e =>
    rw [hcomputed] at h
    exact absurd h nofun
  | ok computed =>
    refine ⟨computed, rfl, ?_⟩
    rw [hcomputed] at h
    cases hkeep : p.keepRelations with
    | false =>
      rw [hkeep] at h
      exact .inl ⟨(Except.ok.inj h).symm, .inl rfl⟩
    | true =>
      rw [hkeep] at h
      cases hrelations : source.member? "relations" with
      | none =>
        rw [hrelations] at h
        exact .inl ⟨(Except.ok.inj h).symm, .inr rfl⟩
      | some relations =>
        rw [hrelations] at h
        exact .inr ⟨relations, rfl, rfl, (Except.ok.inj h).symm⟩

section Kept

variable {p : Projection} {source kept : Json} (h : p.apply source = .ok kept)
include h

/-- What is kept under other names than `relations` is the bare record. -/
theorem member?_of_ne_relations {name : String} (hname : name ≠ "relations") :
    ∃ computed, p.computed.mapM (compute source) = .ok computed
      ∧ kept.member? name = Keyed.get? name (p.bare source computed) := by
  obtain ⟨computed, hcomputed, ⟨rfl, -⟩ | ⟨relations, -, -, rfl⟩⟩ := exists_of_apply_eq_ok h
  · exact ⟨computed, hcomputed, rfl⟩
  · exact ⟨computed, hcomputed, Keyed.get?_insert_of_ne hname _ _⟩

/-- **The static columns are kept.** -/
theorem member?_of_mem_columns {name : String} (hname : name ∈ p.columns) (hitems : name ≠ "items")
    (hrelations : name ≠ "relations") : kept.member? name = source.member? name := by
  obtain ⟨computed, -, hkept⟩ := member?_of_ne_relations h hrelations
  rw [hkept, bare, Keyed.get?_insert_of_ne hitems, get?_copyMembers, if_pos hname]

/-- **Joined items are kept** where they are to be kept. -/
theorem member?_relations (hcolumns : "relations" ∉ p.columns) :
    kept.member? "relations" = if p.keepRelations then source.member? "relations" else none := by
  have hbare : ∀ computed, Keyed.get? "relations" (p.bare source computed) = none := by
    intro computed
    rw [bare, Keyed.get?_insert_of_ne (by decide), get?_copyMembers, if_neg hcolumns]
  obtain ⟨computed, -, ⟨rfl, hnone⟩ | ⟨relations, hkeep, hsome, rfl⟩⟩ := exists_of_apply_eq_ok h
  · refine (hbare computed).trans ?_
    rcases hnone with hnone | hnone
    · rw [hnone]
      rfl
    · rw [hnone, ite_self]
  · rw [hkeep, if_pos rfl, hsome]
    exact Keyed.get?_insert_self _ _ _

omit h in
/-- Computed cells are those of the computed fields. -/
theorem map_fst_of_mapM_compute {fields : List ComputedField} {computed : List (String × Json)}
    (h : fields.mapM (compute source) = .ok computed) :
    computed.map Prod.fst = fields.map ComputedField.fieldId := by
  induction mapM_eq_ok_iff.1 h with
  | nil => rfl
  | cons hfield _ ih =>
    rw [List.map_cons, List.map_cons, ih (mapM_eq_ok_iff.2 ‹_›)]
    unfold compute at hfield
    split at hfield
    · rw [← Except.ok.inj hfield]
    · exact absurd hfield nofun

omit h in
/-- Cells of other fields are as they were before cells are put in. -/
theorem get?_foldl_insert {computed : List (String × Json)} {fieldId : String}
    (hcomputed : fieldId ∉ computed.map Prod.fst) (m : Keyed Json) :
    Keyed.get? fieldId (computed.foldl (fun m (fieldId, cell) => Keyed.insert fieldId cell m) m)
      = Keyed.get? fieldId m := by
  induction computed generalizing m with
  | nil => rfl
  | cons first rest ih =>
    rw [List.map_cons, List.mem_cons, not_or] at hcomputed
    rw [List.foldl_cons, ih hcomputed.2, Keyed.get?_insert_of_ne hcomputed.1]

/-- **The cells of known fields are kept**, unless their field is computed. -/
theorem item?_of_mem_items {fieldId : String} (hitem : fieldId ∈ p.items)
    (hfield : fieldId ∉ p.computed.map ComputedField.fieldId) :
    (kept.member? "items").bind (Json.member? fieldId)
      = (source.member? "items").bind (Json.member? fieldId) := by
  obtain ⟨computed, hcomputed, hkept⟩ := member?_of_ne_relations h (by decide : "items" ≠ "relations")
  rw [hkept, bare, Keyed.get?_insert_self]
  show Keyed.get? fieldId (p.cells source computed) = _
  rw [cells, get?_foldl_insert (map_fst_of_mapM_compute hcomputed ▸ hfield), get?_copyMembers,
    if_pos hitem]
  cases source.member? "items" <;> rfl

end Kept

/-- **Projecting what is chosen is choosing what is projected**, where records and projected records are chosen
alike. -/
theorem run_filter {p : Projection} {records kept : List Json} {f g : Json → Bool}
    (hsame : ∀ source ∈ records, ∀ kept, p.apply source = .ok kept → f source = g kept)
    (h : p.run records = .ok kept) : p.run (records.filter f) = .ok (kept.filter g) := by
  refine mapM_eq_ok_iff.2 ?_
  induction mapM_eq_ok_iff.1 h with
  | nil => exact .nil
  | @cons source kept _ _ hfirst hrest ih =>
    replace ih := ih (fun other hother => hsame other (List.mem_cons_of_mem _ hother))
      (mapM_eq_ok_iff.2 hrest)
    rw [List.filter_cons, List.filter_cons, ← hsame source List.mem_cons_self _ hfirst]
    cases f source with
    | true => exact .cons hfirst ih
    | false => exact ih

end Projection

end Rollup
