import Mathlib.Data.List.Basic
import Rollup.Proofs.Computing

/-!
# Labelling parts of the rows

A listing report is labelled page by page and batch by batch, and each time only the users that occur in these
rows are looked up. That makes no difference: when all rows of a report can be labelled, every part of them can,
and each row gets the labels that it gets among all of them (`Stage.exists_labelling`).

A lookup for fewer users finds fewer documents. But those of a user it asks for are the same, in the same order, and
the last of them tells the name (`Directory.exists_displayNames_of_subset`).
-/

namespace Rollup

open TenantAction (Reads answer answer_bind)

/-- **Readings that may be missing** are all there, or none is given. -/
theorem mapM_eq_some_iff {α β : Type} {f : α → Option β} {xs : List α} {ys : List β} :
    xs.mapM f = some ys ↔ (∀ x ∈ xs, (f x).isSome) ∧ ys = xs.filterMap f := by
  induction xs generalizing ys with
  | nil => exact ⟨fun h => ⟨nofun, (Option.some.inj h).symm⟩, fun h => congrArg some h.2.symm⟩
  | cons x xs ih =>
    rw [List.mapM_cons]
    cases hx : f x with
    | none => simp [hx]
    | some y =>
      show (xs.mapM f).bind (fun ys => some (y :: ys)) = some ys ↔ _
      rw [Option.bind_eq_some_iff, List.filterMap_cons_some hx]
      constructor
      · rintro ⟨zs, hzs, h⟩
        obtain ⟨hall, rfl⟩ := ih.1 hzs
        exact ⟨List.forall_mem_cons.2 ⟨by rw [hx]; rfl, hall⟩, (Option.some.inj h).symm⟩
      · rintro ⟨hall, rfl⟩
        exact ⟨_, ih.2 ⟨(List.forall_mem_cons.1 hall).2, rfl⟩, rfl⟩

namespace Decode

/-- The members of a record that is an object are those of the object. -/
theorem eq_of_members?_object {declared : List String} {pairs members : Keyed Json}
    (h : members? declared (.object pairs) = some members) : members = pairs := by
  replace h : (if declared.any (isRepeated pairs) then none else some pairs) = some members := h
  split at h
  · exact absurd h.symm (Option.some_ne_none _)
  · exact (Option.some.inj h).symm

/-- A text that must be in a record stands in its members. -/
theorem get?_of_required_text {key text : String} {members : Keyed Json}
    (h : required key Decode.text members = some text) : Keyed.get? key members = some (.string text) := by
  obtain ⟨j, hj, htext⟩ := Option.bind_eq_some_iff.1 h
  cases j with
  | string other => rw [hj, Option.some.inj htext]
  | _ => exact absurd htext nofun

end Decode

namespace Keyed

variable {α : Type} {key : String}

/-- Of the pairs of a map those with the key that is read count. -/
theorem get?_ofPairs_filter (key : String) (pairs : List (String × α)) :
    get? key (ofPairs (pairs.filter fun pair => pair.1 = key)) = get? key (ofPairs pairs) := by
  suffices h : ∀ m n : Keyed α, get? key m = get? key n →
      get? key ((pairs.filter fun pair => pair.1 = key).foldl (fun m pair => insert pair.1 pair.2 m) m)
        = get? key (pairs.foldl (fun m pair => insert pair.1 pair.2 m) n) from h [] [] rfl
  induction pairs with
  | nil => exact fun m n h => h
  | cons pair rest ih =>
    intro m n h
    obtain ⟨k, v⟩ := pair
    by_cases hk : k = key
    · subst hk
      rw [List.filter_cons_of_pos (by simp)]
      exact ih _ _ (by rw [get?_insert_self, get?_insert_self])
    · rw [List.filter_cons_of_neg (by simpa using hk)]
      exact ih _ _ (h.trans (get?_insert_of_ne (Ne.symm hk) v n).symm)

/-- Maps read alike where they were built of the same pairs with the key. -/
theorem get?_ofPairs_congr {pairs others : List (String × α)}
    (h : pairs.filter (fun pair => pair.1 = key) = others.filter fun pair => pair.1 = key) :
    get? key (ofPairs pairs) = get? key (ofPairs others) := by
  rw [← get?_ofPairs_filter, h, get?_ofPairs_filter]

end Keyed

namespace Directory

variable {t : Tenant}

/-- **When the documents of a directory are loaded**: they can be reached, and all that match decode. -/
theorem answer_load_eq_ok_iff {α : Type} {operation collection : String} {filter : Predicate}
    {decode? : Json → Option α} {values : List α} :
    (load operation collection filter decode?).answer t = .ok values
      ↔ t.store.unavailable.contains collection = false
        ∧ (∀ d ∈ (t.store.documents collection).filter filter.holds, (decode? d).isSome)
        ∧ values = ((t.store.documents collection).filter filter.holds).filterMap decode? := by
  unfold load
  rw [answer_bind (.find (Set.mem_univ _) _ _ _) fun _ => .decodeAll _ _ _ _ _,
    TenantAction.answer_find, TenantAction.found]
  cases t.store.unavailable.contains collection with
  | true =>
    constructor
    · intro h
      cases h
    · intro h
      cases h.1
  | false =>
    rw [if_neg Bool.false_ne_true, bind_of_ok, ← mapM_eq_some_iff]
    show (TenantAction.decodeAll operation collection decode?
      ((t.store.documents collection).filter filter.holds)).answer t = .ok values ↔ _
    unfold TenantAction.decodeAll
    cases ((t.store.documents collection).filter filter.holds).mapM decode? with
    | none =>
      constructor
      · intro h
        cases h
      · intro h
        cases h.2
    | some found =>
      exact ⟨fun h => ⟨rfl, congrArg some (Except.ok.inj h)⟩,
        fun h => congrArg Except.ok (Option.some.inj h.2)⟩

/-- **A user that decodes is found by the id** it decodes to, whoever else is looked for. -/
theorem holds_among_of_decodeUser? {d : Json} {id name : String} (h : decodeUser? d = some (id, name))
    {ids others : List String} (hid : id ∈ ids) (hother : id ∈ others) :
    (Predicate.among "user_id" ids).holds d = (Predicate.among "user_id" others).holds d := by
  unfold decodeUser? at h
  obtain ⟨members, hmembers, h⟩ := Option.bind_eq_some_iff.1 h
  obtain ⟨user, huser, h⟩ := Option.bind_eq_some_iff.1 h
  obtain ⟨shown, -, h⟩ := Option.bind_eq_some_iff.1 h
  obtain rfl : user = id := (Prod.mk.inj (Option.some.inj h)).1
  show Predicate.fieldIsAmong ids (Document.get? "user_id" d)
    = Predicate.fieldIsAmong others (Document.get? "user_id" d)
  unfold Document.get?
  rw [Document.segments_of_isName (by decide)]
  cases d with
  | object pairs =>
    obtain rfl := Decode.eq_of_members?_object hmembers
    have hread : Document.getAt? ["user_id"] (.object members) = some (.string user) := by
      show (Keyed.get? "user_id" members).bind _ = _
      rw [Decode.get?_of_required_text huser]
      rfl
    rw [hread]
    exact (List.contains_iff_mem.2 hid).trans (List.contains_iff_mem.2 hother).symm
  | _ => rfl

/-- Fewer users are found for fewer ids. -/
theorem holds_among_of_subset {d : Json} {path : String} {ids part : List String} (hpart : part ⊆ ids)
    (h : (Predicate.among path part).holds d = true) : (Predicate.among path ids).holds d = true := by
  have hmono : ∀ j, Predicate.isAmong part j = true → Predicate.isAmong ids j = true := by
    intro j hj
    cases j with
    | string text => exact List.contains_iff_mem.2 (hpart (List.contains_iff_mem.1 hj))
    | number n => exact List.contains_iff_mem.2 (hpart (List.contains_iff_mem.1 hj))
    | _ => exact hj
  revert h
  show Predicate.fieldIsAmong part (Document.get? path d) = true
    → Predicate.fieldIsAmong ids (Document.get? path d) = true
  cases Document.get? path d with
  | none => exact id
  | some j =>
    cases j with
    | array items =>
      intro h
      obtain ⟨item, hitem, hin⟩ := List.any_eq_true.1 h
      exact List.any_eq_true.2 ⟨item, hitem, hmono item hin⟩
    | null => exact hmono .null
    | bool b => exact hmono (.bool b)
    | number n => exact hmono (.number n)
    | string text => exact hmono (.string text)
    | object members => exact hmono (.object members)

/-- The documents of a user are found in one order, whoever else is looked for. -/
theorem filter_decodeUser? (documents : List Json) {id : String} {ids others : List String}
    (hid : id ∈ ids) (hother : id ∈ others) :
    ((documents.filter (Predicate.among "user_id" ids).holds).filterMap decodeUser?).filter
        (fun pair => pair.1 = id)
      = ((documents.filter (Predicate.among "user_id" others).holds).filterMap decodeUser?).filter
        (fun pair => pair.1 = id) := by
  rw [List.filterMap_filter, List.filterMap_filter, List.filter_filterMap, List.filter_filterMap]
  refine List.filterMap_congr fun d _ => ?_
  cases hd : decodeUser? d with
  | none => rw [ite_self, ite_self]
  | some pair =>
    obtain ⟨user, name⟩ := pair
    by_cases huser : user = id
    · subst huser
      rw [holds_among_of_decodeUser? hd hid hother]
    · have hdropped : ∀ b : Bool, (if b then some (user, name) else none).filter
          (fun pair => decide (pair.1 = id)) = none := by
        intro b
        cases b <;> simp [Option.filter, huser]
      rw [hdropped, hdropped]

/-- **Who is looked up among fewer has the same name**, and can be looked up. -/
theorem exists_displayNames_of_subset {ids part : List String} (hpart : part ⊆ ids)
    {names : Keyed String} (h : (displayNames ids).answer t = .ok names) :
    ∃ shown, (displayNames part).answer t = .ok shown
      ∧ ∀ id ∈ part, Keyed.get? id shown = Keyed.get? id names := by
  cases part with
  | nil => exact ⟨[], rfl, nofun⟩
  | cons first rest =>
    cases ids with
    | nil => exact absurd (hpart List.mem_cons_self) List.not_mem_nil
    | cons id ids =>
      obtain ⟨users, husers, hnames⟩ := exists_of_answer_bind
        (reads_load (Set.mem_univ _) _ _ _) (fun _ => .pure _ _) h
      obtain ⟨hreached, hdecode, rfl⟩ := answer_load_eq_ok_iff.1 husers
      have hfewer : (load "load user names" Store.users (.among "user_id" (first :: rest))
          decodeUser?).answer t = .ok (((t.store.documents Store.users).filter
            (Predicate.among "user_id" (first :: rest)).holds).filterMap decodeUser?) := by
        refine answer_load_eq_ok_iff.2 ⟨hreached, fun d hd => hdecode d ?_, rfl⟩
        obtain ⟨hd, hmatches⟩ := List.mem_filter.1 hd
        exact List.mem_filter.2 ⟨hd, holds_among_of_subset hpart hmatches⟩
      refine ⟨_, (answer_bind (reads_load (Set.mem_univ _) _ _ _) (fun _ => .pure _ _) t).trans
        (congrArg (Except.bind · _) hfewer), fun user huser => ?_⟩
      obtain rfl := Except.ok.inj hnames
      exact Keyed.get?_ofPairs_congr (filter_decodeUser? _ huser (hpart huser))

end Directory

namespace LabelLookup

variable {l : LabelLookup} {t : Tenant}

/-- A row is labelled alike by labels that agree on the users in it. -/
theorem apply_congr_of_users (hsource : l.source = .users) {labels others : Keyed String} {row : Json}
    (h : ∀ id ∈ userIds (l.valueIn row), Keyed.get? id labels = Keyed.get? id others) :
    l.apply labels row = l.apply others row := by
  have hlabel : l.labelOf labels (l.valueIn row) = l.labelOf others (l.valueIn row) := by
    unfold labelOf
    rw [hsource]
    exact congrArg Json.ofStrings (List.filterMap_congr h)
  unfold apply
  rw [hlabel]

/-- Fewer rows hold fewer users. -/
theorem usersIn_subset {rows part : List Json} (hpart : part ⊆ rows) : l.usersIn part ⊆ l.usersIn rows := by
  intro id hid
  unfold usersIn at hid ⊢
  rw [List.mem_eraseDups, List.mem_flatMap] at hid ⊢
  obtain ⟨row, hrow, hid⟩ := hid
  exact ⟨row, hpart hrow, hid⟩

/-- **A part of the rows gets the labels it gets among all.** -/
theorem exists_labelsFor_of_subset {rows part : List Json} (hpart : part ⊆ rows) {labels : Keyed String}
    (h : (Stage.labelsFor l rows).answer t = .ok labels) :
    ∃ shown, (Stage.labelsFor l part).answer t = .ok shown ∧ l.run shown part = l.run labels part := by
  cases hsource : l.source with
  | options appId optionId =>
    refine ⟨labels, ?_, rfl⟩
    rw [← h]
    unfold Stage.labelsFor
    rw [hsource]
  | users =>
    unfold Stage.labelsFor at h ⊢
    rw [hsource] at h ⊢
    obtain ⟨shown, hshown, hagree⟩ := Directory.exists_displayNames_of_subset (usersIn_subset hpart) h
    refine ⟨shown, hshown, List.map_congr_left fun row hrow => ?_⟩
    refine apply_congr_of_users hsource fun id hid => hagree id ?_
    exact List.mem_eraseDups.2 (List.mem_flatMap.2 ⟨row, hrow, hid⟩)

end LabelLookup

namespace Stage

/-- Labelling looks up labels and puts them into the rows. -/
theorem answer_runAll_lookup_cons (l : LabelLookup) (lookups : List LabelLookup) (rows : List Json)
    (t : Tenant) : (runAll ((l :: lookups).map .lookup) rows).answer t
      = ((labelsFor l rows).answer t).bind fun labels =>
        (runAll (lookups.map .lookup) (l.run labels rows)).answer t := by
  have hlabels : Reads .univ (labelsFor l rows) := by
    unfold labelsFor
    split
    · exact Directory.reads_labels everywhere _ _
    · exact Directory.reads_displayNames everywhere _
  have hrun : (Stage.run (.lookup l) rows).answer t
      = ((labelsFor l rows).answer t).bind fun labels => .ok (l.run labels rows) :=
    answer_bind hlabels (fun _ => .pure _ _) t
  rw [List.map_cons, ← List.singleton_append, answer_runAll_append, answer_runAll_singleton, hrun]
  cases (labelsFor l rows).answer t <;> rfl

/-- **Labelling goes row by row**: where all rows can be labelled, there is one way in which every part of them
is. -/
theorem exists_labelling {lookups : List LabelLookup} {rows shown : List Json} {t : Tenant}
    (h : (runAll (lookups.map .lookup) rows).answer t = .ok shown) :
    ∃ f : Json → Json, shown = rows.map f ∧ ∀ part, part ⊆ rows →
      (runAll (lookups.map .lookup) part).answer t = .ok (part.map f) := by
  induction lookups generalizing rows with
  | nil =>
    refine ⟨id, ?_, fun part _ => ?_⟩
    · rw [List.map_id]
      exact (Except.ok.inj h).symm
    · rw [List.map_id]
      rfl
  | cons l lookups ih =>
    rw [answer_runAll_lookup_cons] at h
    obtain ⟨labels, hlabels, hrest⟩ := exists_of_bind_eq_ok h
    obtain ⟨f, rfl, hf⟩ := ih hrest
    refine ⟨f ∘ l.apply labels, List.map_map, fun part hpart => ?_⟩
    obtain ⟨labels', hlabels', hsame⟩ := LabelLookup.exists_labelsFor_of_subset hpart hlabels
    rw [answer_runAll_lookup_cons, hlabels', bind_of_ok, hsame]
    exact (hf _ (List.map_subset _ hpart)).trans (congrArg Except.ok List.map_map)

end Stage

end Rollup
