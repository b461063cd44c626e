import Rollup.Document.TupleKey
import Rollup.Proofs.CompactText
import Rollup.Stage.Basic

/-!
# When two tuples agree

The canonical text of a tuple stands for its values with every number as a double. Compact text determines
the value, so tuples have the same key exactly when their values agree one by one
(`Document.tupleKey_eq_iff`): a missing value agrees with `null`, the whole number `5` with the double `5.0`,
and nothing else with anything but itself.

What it is to agree can be said without texts and without canonical values (`Json.agrees`), by going through
both values together. That keys tell tuples apart in just this way is `Document.tupleKey_injective`.
-/

namespace Rollup

namespace Document

/-- **What a value is compared by** when tuples are: numbers as doubles, a missing value as `null`. -/
def canonical (value : Option Json) : Json := canonicalValue (value.getD .null)

/-- **Tuples have the same key when their values agree one by one.** -/
theorem tupleKey_eq_iff {values others : List (Option Json)} :
    tupleKey values = tupleKey others ↔ values.map canonical = others.map canonical := by
  constructor
  · intro h
    have := Json.compact_injective h
    rwa [Json.array.injEq] at this
  · intro h
    show (Json.array (values.map canonical)).compact = (Json.array (others.map canonical)).compact
    rw [h]

/-- Tuples that end in one more value agree when both parts do. -/
theorem tupleKey_concat_eq_iff {values others : List (Option Json)} {last other : Option Json} :
    tupleKey (values ++ [last]) = tupleKey (others ++ [other])
      ↔ values.map canonical = others.map canonical ∧ canonical last = canonical other := by
  rw [tupleKey_eq_iff, List.map_append, List.map_append, List.map_singleton, List.map_singleton]
  constructor
  · exact fun h => ⟨List.append_inj_left' h rfl, List.singleton_inj.1 (List.append_inj_right' h rfl)⟩
  · rintro ⟨hvalues, hlast⟩
    rw [hvalues, hlast]

/-! ## Canonical values -/

/-- A number becomes the double it converts to, which is finite. -/
theorem canonicalValue_number (n : Number) :
    canonicalValue (.number n) = .number (.float n.toFloat n.isFinite_toFloat) := by
  show Json.ofFloat n.toFloat = _
  rw [Json.ofFloat, dif_pos n.isFinite_toFloat]

/-- Only a text agrees with a text. -/
theorem canonicalValue_eq_string {j : Json} {s : String} :
    canonicalValue j = .string s ↔ j = .string s := by
  cases j with
  | number n =>
    rw [canonicalValue_number]
    exact ⟨nofun, nofun⟩
  | string t => exact Iff.rfl
  | _ => exact ⟨nofun, nofun⟩

/-- Items become doubles one by one. -/
theorem canonicalItems_eq_map (items : List Json) :
    canonicalItems items = items.map canonicalValue := by
  induction items with
  | nil => rfl
  | cons a rest ih => rw [canonicalItems, ih, List.map_cons]

/-- **Only a list of texts agrees with a list of texts.** -/
theorem canonicalValue_eq_ofStrings {j : Json} {texts : List String} :
    canonicalValue j = .ofStrings texts ↔ j = .ofStrings texts := by
  cases j with
  | number n =>
    rw [canonicalValue_number]
    exact ⟨nofun, nofun⟩
  | array items =>
    show Json.array (canonicalItems items) = .array (texts.map .string) ↔ _
    rw [canonicalItems_eq_map, Json.ofStrings, Json.array.injEq, Json.array.injEq]
    induction items generalizing texts with
    | nil => rfl
    | cons a rest ih =>
      cases texts with
      | nil => exact ⟨nofun, nofun⟩
      | cons s texts =>
        rw [List.map_cons, List.map_cons, List.cons.injEq, List.cons.injEq, ih,
          canonicalValue_eq_string]
  | _ => exact ⟨nofun, nofun⟩

/-- Lists of texts agree when they are the same. -/
theorem canonical_ofStrings_inj {texts others : List String} :
    canonical (some (.ofStrings texts)) = canonical (some (.ofStrings others)) ↔ texts = others := by
  have hothers : canonical (some (.ofStrings others)) = .ofStrings others :=
    canonicalValue_eq_ofStrings.2 rfl
  rw [hothers]
  refine canonicalValue_eq_ofStrings.trans ⟨fun h => ?_, fun h => h ▸ rfl⟩
  exact List.map_injective_iff.2 (fun _ _ => Json.string.inj) (Json.array.inj h)

/-- A cell agrees with another of the same type when their values agree, and both or neither have one. -/
theorem canonicalValue_openCell_eq_iff {dataType : DataType} {v w : Option Json} :
    canonicalValue (Stage.openCell dataType v) = canonicalValue (Stage.openCell dataType w)
      ↔ canonical v = canonical w ∧ (v.isSome ↔ w.isSome) := by
  have htype : canonicalValue dataType.toJson = dataType.toJson := rfl
  cases v with
  | none =>
    cases w with
    | none => exact ⟨fun _ => ⟨rfl, Iff.rfl⟩, fun _ => rfl⟩
    | some w =>
      refine ⟨fun h => ?_, fun h => absurd (h.2.2 rfl) (by decide)⟩
      simp [Stage.openCell, canonicalValue, canonicalMembers] at h
  | some v =>
    cases w with
    | none =>
      refine ⟨fun h => ?_, fun h => absurd (h.2.1 rfl) (by decide)⟩
      simp [Stage.openCell, canonicalValue, canonicalMembers] at h
    | some w =>
      simp [Stage.openCell, canonicalValue, canonicalMembers, canonical]

/-- The canonical value of a member is the member of the canonical value. -/
theorem get?_canonicalMembers (name : String) (members : Keyed Json) :
    Keyed.get? name (canonicalMembers members) = (Keyed.get? name members).map canonicalValue := by
  induction members with
  | nil => rfl
  | cons pair rest ih =>
    obtain ⟨k, j⟩ := pair
    unfold canonicalMembers Keyed.get?
    split
    · rfl
    · exact ih

/-- **Objects that agree have members that agree.** -/
theorem canonical_bind_getAt? {v w : Option Json} (h : canonical v = canonical w) (name : String) :
    canonical (v.bind (getAt? [name])) = canonical (w.bind (getAt? [name])) := by
  have hmember : ∀ v : Option Json,
      canonical (v.bind (getAt? [name])) = ((canonical v).member? name).getD .null := by
    intro v
    cases v with
    | none => rfl
    | some j =>
      cases j with
      | object members =>
        show canonical ((Keyed.get? name members).bind (getAt? []))
          = (Keyed.get? name (canonicalMembers members)).getD .null
        rw [get?_canonicalMembers]
        cases Keyed.get? name members <;> rfl
      | number n =>
        show _ = ((canonicalValue (.number n)).member? name).getD .null
        rw [canonicalValue_number]
        rfl
      | _ => rfl
  rw [hmember, h, ← hmember]

end Document

namespace Json

open Document (canonicalValue canonicalValue_number)

mutual

/-- **Whether two values agree**: they are equal once every number, at any depth, is read as a double. The two
zeros are different doubles. Members are compared one by one, as they stand in key order. -/
def agrees : Json → Json → Bool
  | .null, .null => true
  | .bool a, .bool b => a == b
  | .number m, .number n => decide (m.toFloat = n.toFloat)
  | .string s, .string t => s == t
  | .array as, .array bs => agreesItems as bs
  | .object as, .object bs => agreesMembers as bs
  | _, _ => false

/-- Whether two lists agree item by item. -/
def agreesItems : List Json → List Json → Bool
  | [], [] => true
  | a :: as, b :: bs => agrees a b && agreesItems as bs
  | _, _ => false

/-- Whether two lists of members agree member by member. -/
def agreesMembers : List (String × Json) → List (String × Json) → Bool
  | [], [] => true
  | (k, a) :: as, (l, b) :: bs => k == l && agrees a b && agreesMembers as bs
  | _, _ => false

end

mutual

/-- **Values agree exactly if they are canonically the same.** -/
theorem agrees_iff : ∀ a b : Json, a.agrees b = true ↔ canonicalValue a = canonicalValue b
  | .number m, b => by
    rw [canonicalValue_number]
    cases b with
    | number n =>
      rw [canonicalValue_number]
      simp [agrees]
    | _ => simp [agrees, canonicalValue]
  | .array as, b => by
    cases b with
    | number n =>
      rw [canonicalValue_number]
      simp [agrees, canonicalValue]
    | array bs => simp [agrees, canonicalValue, agreesItems_iff as bs]
    | _ => simp [agrees, canonicalValue]
  | .object as, b => by
    cases b with
    | number n =>
      rw [canonicalValue_number]
      simp [agrees, canonicalValue]
    | object bs => simp [agrees, canonicalValue, agreesMembers_iff as bs]
    | _ => simp [agrees, canonicalValue]
  | .null, b | .bool _, b | .string _, b => by
    cases b with
    | number n =>
      rw [canonicalValue_number]
      simp [agrees, canonicalValue]
    | _ => simp [agrees, canonicalValue]

/-- So do lists. -/
theorem agreesItems_iff : ∀ as bs : List Json,
    agreesItems as bs = true ↔ Document.canonicalItems as = Document.canonicalItems bs
  | [], [] => by simp [agreesItems]
  | [], _ :: _ | _ :: _, [] => by simp [agreesItems, Document.canonicalItems]
  | a :: as, b :: bs => by
    simp [agreesItems, Document.canonicalItems, agrees_iff a b, agreesItems_iff as bs]

/-- So do lists of members. -/
theorem agreesMembers_iff : ∀ as bs : List (String × Json),
    agreesMembers as bs = true ↔ Document.canonicalMembers as = Document.canonicalMembers bs
  | [], [] => by simp [agreesMembers]
  | [], _ :: _ | _ :: _, [] => by simp [agreesMembers, Document.canonicalMembers]
  | (k, a) :: as, (l, b) :: bs => by
    simp [agreesMembers, Document.canonicalMembers, agrees_iff a b, agreesMembers_iff as bs, and_assoc]

end

/-- Texts agree with themselves only. -/
theorem agrees_string {a : Json} {s : String} : a.agrees (.string s) = true ↔ a = .string s := by
  rw [agrees_iff]
  exact Document.canonicalValue_eq_string

/-- One is one however it is written, but there are two zeros. -/
example : (array [.ofSigned 1]).agrees (.array [.ofFloat 1.0]) = true
    ∧ (ofFloat 0.0).agrees (.ofFloat (-0.0)) = false := by
  decide +kernel

end Json

namespace Document

/-- **Two values that may be missing agree**, a missing one as `null`. -/
def Agree (v w : Option Json) : Prop := (v.getD .null).agrees (w.getD .null) = true

instance (v w : Option Json) : Decidable (Agree v w) := inferInstanceAs (Decidable (_ = true))

/-- Values that may be missing agree exactly if they are canonically the same. -/
theorem agree_iff {v w : Option Json} : Agree v w ↔ canonical v = canonical w := Json.agrees_iff _ _

/-- A text agrees with itself only. -/
theorem agree_string_iff {v : Option Json} {s : String} : Agree v (some (.string s)) ↔ v = some (.string s) := by
  cases v with
  | none => exact ⟨nofun, nofun⟩
  | some j => exact Json.agrees_string.trans (Option.some_inj.symm)

/-- **Keys tell tuples apart.** Tuples have the same key exactly if they are of one length and their values agree one by
one. A tuple of texts, whatever characters these hold, shares its key with no other tuple; and the two zeros have
different keys. -/
theorem tupleKey_injective :
    (∀ values others : List (Option Json), tupleKey values = tupleKey others ↔ List.Forall₂ Agree values others)
    ∧ (∀ (values : List (Option Json)) (texts : List String),
      tupleKey values = tupleKey (texts.map fun s => some (.string s)) ↔ values = texts.map fun s => some (.string s))
    ∧ tupleKey [some (.ofFloat 0.0)] ≠ tupleKey [some (.ofFloat (-0.0))] := by
  have hkey : ∀ values others : List (Option Json),
      tupleKey values = tupleKey others ↔ List.Forall₂ Agree values others := by
    intro values others
    have hsame : Agree = fun v w => canonical v = canonical w := funext₂ fun _ _ => propext agree_iff
    rw [tupleKey_eq_iff, ← List.forall₂_eq_eq_eq, List.forall₂_map_left_iff, List.forall₂_map_right_iff, hsame]
  refine ⟨hkey, fun values texts => ?_, fun h => ?_⟩
  · rw [hkey, List.forall₂_map_right_iff]
    simp only [agree_string_iff]
    rw [← List.forall₂_map_right_iff, List.forall₂_eq_eq_eq]
  · have hzeros : Agree (some (.ofFloat 0.0)) (some (.ofFloat (-0.0))) :=
      (List.forall₂_cons.1 ((hkey _ _).1 h)).1
    exact absurd hzeros (by decide +kernel)

end Document

end Rollup
