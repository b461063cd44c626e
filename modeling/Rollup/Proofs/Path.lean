import Rollup.Document.Path

/-!
# Reading what was written at a path

A row is filled by writing one column after the other, and most of what is said about rows is what can be
read of them afterwards. Three laws answer that: a path reads what was written at it, a longer path reads
inside what was written, and a path that **parts** from the written one – the two differ in a name that
both have – reads what it read before. Only a path that is a beginning of the other is left out, and the
columns of a row never stand in that relation.

Removing obeys the same laws with nothing in the place of what was written, and it gives back what could
be read. Reading, writing and removing walk a path in three recursions of their own, so each law is an
induction on the names of the path; `LensLaws` is all of them about one path.
-/

namespace Rollup

namespace Text

/-- **Splitting goes over a separator.** -/
theorem splitChars_append (separator : Char) (front back : List Char) :
    splitChars separator (front ++ separator :: back)
      = splitChars separator front ++ splitChars separator back := by
  induction front with
  | nil =>
    obtain ⟨part, parts, h⟩ : ∃ part parts, splitChars separator back = part :: parts :=
      List.exists_cons_of_ne_nil (splitChars_ne_nil separator back)
    simp [splitChars, h]
  | cons c front ih =>
    obtain ⟨part, parts, h⟩ : ∃ part parts, splitChars separator front = part :: parts :=
      List.exists_cons_of_ne_nil (splitChars_ne_nil separator front)
    rw [List.cons_append, splitChars, ih, h, splitChars, h]
    by_cases hc : c = separator <;> simp [hc]

/-- A text without the separator is its own only part. -/
theorem splitChars_of_not_mem {separator : Char} {cs : List Char} (h : separator ∉ cs) :
    splitChars separator cs = [cs] := by
  induction cs with
  | nil => rfl
  | cons c rest ih =>
    have hc : c ≠ separator := fun e => h (e ▸ List.mem_cons_self)
    rw [splitChars, ih fun hr => h (List.mem_cons_of_mem _ hr)]
    exact if_neg hc

end Text

namespace Document

/-- **A name that is a single step of a path.** -/
def IsName (name : String) : Prop := '.' ∉ name.toList

instance (name : String) : Decidable (IsName name) :=
  inferInstanceAs (Decidable ('.' ∉ name.toList))

/-- A name is its own path. -/
theorem segments_of_isName {name : String} (h : IsName name) : segments name = [name] := by
  unfold segments Text.split
  rw [Text.splitChars_of_not_mem h, List.map_singleton, String.ofList_toList]

/-- Every path has a name. -/
theorem segments_ne_nil (path : String) : segments path ≠ [] := fun h =>
  Text.splitChars_ne_nil '.' path.toList (List.map_eq_nil_iff.1 h)

/-- **A path with a point is one path below another.** -/
theorem segments_append (front back : String) :
    segments (front ++ "." ++ back) = segments front ++ segments back := by
  unfold segments Text.split
  have h : (front ++ "." ++ back).toList = front.toList ++ '.' :: back.toList := by
    simp [String.toList_append]
  rw [h, Text.splitChars_append, List.map_append]

/-- **Two paths part** when they differ in a name that both have. -/
def Part : List String → List String → Prop
  | a :: as, b :: bs => a ≠ b ∨ Part as bs
  | _, _ => False

/-- Paths with different first names part. -/
theorem part_of_ne {a b : String} (h : a ≠ b) (as bs : List String) : Part (a :: as) (b :: bs) :=
  Or.inl h

/-- Parting goes both ways. -/
theorem Part.symm : ∀ {p q : List String}, Part p q → Part q p
  | _ :: _, _ :: _, .inl h => Or.inl (Ne.symm h)
  | _ :: _, _ :: _, .inr h => Or.inr (Part.symm h)

/-- Paths part exactly if neither is the beginning of the other. -/
theorem part_iff : ∀ {p q : List String}, Part p q ↔ ¬ p <+: q ∧ ¬ q <+: p
  | [], q => ⟨False.elim, fun h => absurd List.nil_prefix h.1⟩
  | _ :: _, [] => ⟨False.elim, fun h => absurd List.nil_prefix h.2⟩
  | a :: as, b :: bs => by
    rw [List.cons_prefix_cons, List.cons_prefix_cons, eq_comm (a := b)]
    unfold Part
    rw [part_iff (p := as) (q := bs)]
    by_cases h : a = b <;> simp [h]

/-- **Paths are independent** when none of them is the beginning of the other. -/
def Independent (path other : String) : Prop :=
  ¬ segments path <+: segments other ∧ ¬ segments other <+: segments path

instance (path other : String) : Decidable (Independent path other) :=
  inferInstanceAs (Decidable (_ ∧ _))

/-- A value that is no object has nothing below a name. -/
theorem getAt?_cons (name : String) (rest : List String) (j : Json) :
    getAt? (name :: rest) j = (Keyed.get? name j.members).bind (getAt? rest) := by
  cases j <;> rfl

/-- **Reading a longer path** reads its end in what its beginning reads. -/
theorem getAt?_append (p q : List String) (j : Json) :
    getAt? (p ++ q) j = (getAt? p j).bind (getAt? q) := by
  induction p generalizing j with
  | nil => rfl
  | cons name rest ih =>
    rw [List.cons_append, getAt?_cons, getAt?_cons, Option.bind_assoc]
    exact congrArg _ (funext fun inner => ih inner)

/-- **A path reads what was written at it.** -/
@[simp] theorem getAt?_setAt_self (p : List String) (value j : Json) :
    getAt? p (setAt p value j) = some value := by
  induction p generalizing j with
  | nil => rfl
  | cons name rest ih =>
    rw [setAt, getAt?_cons]
    show (Keyed.get? name (Keyed.insert name _ _)).bind _ = _
    rw [Keyed.get?_insert_self]
    exact ih _

/-- **A path that parts from the written one reads what it read before.** -/
theorem getAt?_setAt_of_part {p q : List String} (h : Part p q) (value j : Json) :
    getAt? p (setAt q value j) = getAt? p j := by
  induction p generalizing q j with
  | nil => cases q <;> exact h.elim
  | cons a as ih =>
    cases q with
    | nil => exact h.elim
    | cons b bs =>
      rw [setAt, getAt?_cons, getAt?_cons]
      show (Keyed.get? a (Keyed.insert b _ j.members)).bind _ = _
      by_cases hab : a = b
      · have hrest : Part as bs := h.resolve_left (not_not_intro hab)
        subst hab
        rw [Keyed.get?_insert_self]
        show getAt? as (setAt bs value _) = _
        rw [ih hrest]
        cases hin : Keyed.get? a j.members with
        | some inner => rfl
        | none =>
          -- the object that writing created holds nothing else
          cases as with
          | nil => exact hrest.elim
          | cons c cs => rfl
      · rw [Keyed.get?_insert_of_ne hab]

/-- **Of two writes at a path the second remains.** -/
@[simp] theorem setAt_setAt (p : List String) (first second j : Json) :
    setAt p second (setAt p first j) = setAt p second j := by
  induction p generalizing j with
  | nil => rfl
  | cons name rest ih =>
    simp only [setAt, Json.members, Keyed.get?_insert_self, Option.getD_some, Keyed.insert_insert, ih]

/-! ## What removing leaves -/

/-- Only an object has something under a name. -/
theorem eq_object_of_get?_eq_some {name : String} {j inner : Json}
    (h : Keyed.get? name j.members = some inner) :
    ∃ members, j = .object members ∧ Keyed.get? name members = some inner := by
  cases j with
  | object members => exact ⟨members, rfl, h⟩
  | null | bool | number | string | array => cases h

/-- Nothing is removed from below a name that is not there. -/
theorem removeAt_of_get?_eq_none {name : String} {j : Json} (h : Keyed.get? name j.members = none)
    (rest : List String) : removeAt (name :: rest) j = (none, j) := by
  cases j with
  | object members =>
    have hmembers : Keyed.get? name members = none := h
    cases rest with
    | nil => rw [removeAt, hmembers, Keyed.erase_of_get?_eq_none hmembers]
    | cons next rest => rw [removeAt, hmembers]
  | null | bool | number | string | array => cases rest <;> rfl

/-- **Below a name that is there** removing goes on in what stands under the name. -/
theorem removeAt_of_get?_eq_some {name : String} {members : Keyed Json} {inner : Json}
    (h : Keyed.get? name members = some inner) (next : String) (rest : List String) :
    removeAt (name :: next :: rest) (.object members)
      = ((removeAt (next :: rest) inner).1,
          .object (Keyed.modify name (fun _ => (removeAt (next :: rest) inner).2) members)) := by
  rw [removeAt, h]

/-- **Removing gives back what could be read.** -/
theorem removeAt_fst {p : List String} (hp : p ≠ []) (j : Json) : (removeAt p j).1 = getAt? p j := by
  induction p generalizing j with
  | nil => exact absurd rfl hp
  | cons name rest ih =>
    rw [getAt?_cons]
    cases hget : Keyed.get? name j.members with
    | none => rw [removeAt_of_get?_eq_none hget, Option.bind_none]
    | some inner =>
      obtain ⟨members, rfl, hin⟩ := eq_object_of_get?_eq_some hget
      cases rest with
      | nil => exact hin
      | cons next rest =>
        rw [removeAt_of_get?_eq_some hin]
        exact ih (List.cons_ne_nil next rest) inner

/-- **Nothing is left at a path that was removed.** -/
theorem getAt?_removeAt_self {p : List String} (hp : p ≠ []) (j : Json) :
    getAt? p (removeAt p j).2 = none := by
  induction p generalizing j with
  | nil => exact absurd rfl hp
  | cons name rest ih =>
    cases hget : Keyed.get? name j.members with
    | none => rw [removeAt_of_get?_eq_none hget, getAt?_cons, hget, Option.bind_none]
    | some inner =>
      obtain ⟨members, rfl, hin⟩ := eq_object_of_get?_eq_some hget
      cases rest with
      | nil => rw [removeAt, getAt?, Keyed.get?_erase_self, Option.bind_none]
      | cons next rest =>
        rw [removeAt_of_get?_eq_some hin, getAt?, Keyed.get?_modify_self, hin]
        exact ih (List.cons_ne_nil next rest) inner

/-- **A path that parts from the removed one reads what it read before.** -/
theorem getAt?_removeAt_of_part {p q : List String} (h : Part p q) (j : Json) :
    getAt? p (removeAt q j).2 = getAt? p j := by
  induction p generalizing q j with
  | nil => cases q <;> exact h.elim
  | cons a as ih =>
    cases q with
    | nil => exact h.elim
    | cons b bs =>
      cases hget : Keyed.get? b j.members with
      | none => rw [removeAt_of_get?_eq_none hget]
      | some inner =>
        obtain ⟨members, rfl, hin⟩ := eq_object_of_get?_eq_some hget
        by_cases hab : a = b
        · have hrest : Part as bs := h.resolve_left (not_not_intro hab)
          subst hab
          -- paths that part below a common name both go on there
          cases bs with
          | nil => cases as <;> exact hrest.elim
          | cons next rest =>
            rw [removeAt_of_get?_eq_some hin, getAt?, getAt?, Keyed.get?_modify_self, hin]
            exact ih hrest inner
        · cases bs with
          | nil => rw [removeAt, getAt?, getAt?, Keyed.get?_erase_of_ne hab]
          | cons next rest =>
            rw [removeAt_of_get?_eq_some hin, getAt?, getAt?, Keyed.get?_modify_of_ne hab]

/-- **Removing what is not there changes nothing**, deep inside as well. -/
theorem removeAt_snd_of_absent {p : List String} {j : Json} (h : getAt? p j = none) :
    (removeAt p j).2 = j := by
  induction p generalizing j with
  | nil => cases h
  | cons name rest ih =>
    cases hget : Keyed.get? name j.members with
    | none => rw [removeAt_of_get?_eq_none hget]
    | some inner =>
      rw [getAt?_cons, hget] at h
      obtain ⟨members, rfl, hin⟩ := eq_object_of_get?_eq_some hget
      cases rest with
      | nil => cases h
      | cons next rest =>
        rw [removeAt_of_get?_eq_some hin, ih h]
        exact congrArg Json.object (Keyed.modify_of_get?_eq_some hin)

/-! ## The laws of a path -/

/-- **The laws of a path**: what can be read, at the path and at all that are independent of it, after a
write or a removal. -/
structure LensLaws (path : String) : Prop where
  /-- A path reads what was written at it. -/
  get_set : ∀ value document, get? path (set path value document) = some value
  /-- Of two writes the second remains. -/
  set_set : ∀ first second document,
    set path second (set path first document) = set path second document
  /-- Writing changes no reading elsewhere, whatever it replaces on the way. -/
  get_set_of_independent : ∀ other, Independent other path → ∀ value document,
    get? other (set path value document) = get? other document
  /-- Removing gives back what could be read. -/
  remove_fst : ∀ document, (remove path document).1 = get? path document
  /-- Removing leaves nothing at the path. -/
  get_remove : ∀ document, get? path (remove path document).2 = none
  /-- Removing changes no reading elsewhere. -/
  get_remove_of_independent : ∀ other, Independent other path → ∀ document,
    get? other (remove path document).2 = get? other document
  /-- Removing what is not there leaves the document as it is. -/
  remove_of_absent : ∀ document, get? path document = none → (remove path document).2 = document

/-- **Every path obeys the laws**, in every document, object or not. -/
theorem lensLaws (path : String) : LensLaws path where
  get_set := getAt?_setAt_self (segments path)
  set_set := setAt_setAt (segments path)
  get_set_of_independent _ h := getAt?_setAt_of_part (part_iff.2 h)
  remove_fst := removeAt_fst (segments_ne_nil path)
  get_remove := getAt?_removeAt_self (segments_ne_nil path)
  get_remove_of_independent _ h := getAt?_removeAt_of_part (part_iff.2 h)
  remove_of_absent _ := removeAt_snd_of_absent

end Document

end Rollup
