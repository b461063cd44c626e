import Mathlib.Data.List.Nodup
import Rollup.Proofs.Editing
import Std.Data.String.ToNat

/-!
# The catalog of indexes

Whatever is done with a store, each of its collections has a **well-formed catalog** of indexes
(`Store.WellIndexed`): no more indexes than there may be, a name of its own for each, and no two over the same keys.
One step keeps this (`Store.Cataloged.perform`), and so does a whole run (`Store.Cataloged.performed`).

The names are where this could go wrong. The name that is made of the keys does not tell them apart – the key `a_1_b`
and the keys `a` and `b` spell the same name – and indexes may be dropped in any order, so that a numbered name
outlives the one without a number. Creating an index therefore looks for the keys first, and for a name only when
they are new. The candidates for the name differ (`Store.candidateName_injective`), so one more of them than there are
indexes holds a free one, and the search ends there at the latest (`Store.firstFree_freeName`).
-/

namespace Rollup

section Maintaining

variable {σ ε α β : Type} {P : σ → Prop}

/-- **An action that maintains a property of the state**, also when it fails. -/
def Maintains (P : σ → Prop) (a : ExceptT ε (StateM σ) α) : Prop := ∀ s : σ, P s → P (a.run s).2

namespace Maintains

/-- Doing nothing maintains every property. -/
theorem pure (x : α) : Maintains P (Pure.pure x : ExceptT ε (StateM σ) α) := fun _ h => h

/-- Failing maintains every property. -/
theorem throw (e : ε) : Maintains P (MonadExcept.throw e : ExceptT ε (StateM σ) α) := fun _ h => h

/-- What would follow a failure does not matter. -/
theorem throw_bind (e : ε) (f : α → ExceptT ε (StateM σ) β) :
    Maintains P ((MonadExcept.throw e : ExceptT ε (StateM σ) α) >>= f) := fun _ h => h

/-- Looking at the state maintains every property. -/
theorem get : Maintains P (MonadState.get : ExceptT ε (StateM σ) σ) := fun _ h => h

/-- **What each of two actions maintains is maintained by both of them together.** -/
theorem bind {a : ExceptT ε (StateM σ) α} {f : α → ExceptT ε (StateM σ) β} (ha : Maintains P a)
    (hf : ∀ x, Maintains P (f x)) : Maintains P (a >>= f) := by
  intro s h
  have hran := ha s h
  rw [run_bind]
  generalize a.run s = ran at hran ⊢
  obtain ⟨e | x, s'⟩ := ran
  · exact hran
  · exact hf x s' hran

/-- What both ways maintain is maintained whichever is taken. -/
theorem ite {c : Prop} [Decidable c] {a b : ExceptT ε (StateM σ) α} (ha : Maintains P a) (hb : Maintains P b) :
    Maintains P (if c then a else b) := by
  split
  · exact ha
  · exact hb

end Maintains

end Maintaining

namespace Store

/-- The indexes of a collection by name. -/
def indexes (name : String) (s : Store) : Keyed IndexEntry := (s.collection name).indexes

/-- The names and the keys of indexes, without what these served. -/
def specs (indexes : Keyed IndexEntry) : List (String × IndexSpec) := indexes.map fun p => (p.1, p.2.spec)

/-- Indexes of which there are fewer are related as before. -/
theorem pairwise_of_specs {m n : Keyed IndexEntry} {R : String × IndexSpec → String × IndexSpec → Prop}
    (hsub : (specs n).Sublist (specs m)) (h : m.Pairwise fun a b => R (a.1, a.2.spec) (b.1, b.2.spec)) :
    n.Pairwise fun a b => R (a.1, a.2.spec) (b.1, b.2.spec) :=
  List.pairwise_map.1 ((List.pairwise_map.2 h).sublist hsub)

/-! ### Well-formed catalogs -/

/-- **A well-formed catalog of indexes.** -/
structure WellIndexed (limit : ℕ) (indexes : Keyed IndexEntry) : Prop where
  /-- The names increase, so that no two indexes share one. -/
  sorted : indexes.Sorted
  /-- No two indexes are over the same keys. -/
  apart : indexes.Pairwise fun a b => a.2.spec.keys ≠ b.2.spec.keys
  /-- There are no more indexes than there may be. -/
  limited : indexes.length ≤ limit

namespace WellIndexed

variable {limit : ℕ} {m n : Keyed IndexEntry}

/-- No indexes are a catalog. -/
theorem nil (limit : ℕ) : WellIndexed limit [] := ⟨.nil, .nil, Nat.zero_le _⟩

/-- Some indexes of a catalog are one, whatever they served. -/
theorem of_sublist (h : WellIndexed limit m) (hsub : (specs n).Sublist (specs m)) : WellIndexed limit n where
  sorted := pairwise_of_specs (R := fun a b => a.1 < b.1) hsub h.sorted
  apart := pairwise_of_specs (R := fun a b => a.2.keys ≠ b.2.keys) hsub h.apart
  limited := by
    have hlength := hsub.length_le
    rw [specs, specs, List.length_map, List.length_map] at hlength
    exact hlength.trans h.limited

/-- **A new index with a new name and new keys** joins the catalog where there is room. -/
theorem insert (h : WellIndexed limit m) {index : String} {e : IndexEntry} (hname : Keyed.get? index m = none)
    (hkeys : ∀ p ∈ m, p.2.spec.keys ≠ e.spec.keys) (hroom : m.length < limit) :
    WellIndexed limit (Keyed.insert index e m) where
  sorted := h.sorted.insert _ _
  apart := by
    refine (Keyed.insert_perm hname e).symm.pairwise ?_ fun hab hba => hab hba.symm
    exact List.pairwise_cons.2 ⟨fun p hp => (hkeys p hp).symm, h.apart⟩
  limited := by
    rw [(Keyed.insert_perm hname e).length_eq, List.length_cons]
    exact hroom

/-- **The keys of an index tell its name.** -/
theorem name_eq (h : WellIndexed limit m) {a b : String × IndexEntry} (ha : a ∈ m) (hb : b ∈ m)
    (hkeys : a.2.spec.keys = b.2.spec.keys) : a = b := by
  by_contra hne
  have hsymm : Std.Symm fun a b : String × IndexEntry => a.2.spec.keys ≠ b.2.spec.keys := ⟨fun _ _ => Ne.symm⟩
  exact h.apart.forall ha hb hne hkeys

end WellIndexed

/-! ### Names for new indexes -/

/-- **The candidates for a name differ.** -/
theorem candidateName_injective (base : String) {j k : ℕ} (hj : 1 ≤ j) (hk : 1 ≤ k)
    (h : candidateName base j = candidateName base k) : j = k := by
  have hnumbered : ∀ n : ℕ, base ++ "~" ++ toString n ≠ base := fun n he => by
    have hlength := congrArg String.length he
    simp only [String.length_append] at hlength
    have htilde : "~".length = 1 := rfl
    omega
  unfold candidateName at h
  split at h <;> split at h
  · omega
  · exact absurd h.symm (hnumbered k)
  · exact absurd h (hnumbered j)
  · exact Nat.repr_injective (String.append_right_inj _ |>.1 h)

/-- **The first candidate that is free** among the names taken, by its number. -/
structure FirstFree (taken : Keyed IndexEntry) (base : String) (k : ℕ) : Prop where
  /-- The numbers begin with one. -/
  pos : 1 ≤ k
  /-- All candidates before are taken. -/
  least : ∀ j, 1 ≤ j → j < k → Keyed.contains (candidateName base j) taken = true
  /-- This one is not. -/
  free : Keyed.contains (candidateName base k) taken = false

/-- As many candidates are taken as there are names at most. -/
theorem exists_free_candidate (taken : Keyed IndexEntry) (base : String) :
    ∃ k, 1 ≤ k ∧ k ≤ taken.length + 1 ∧ Keyed.contains (candidateName base k) taken = false := by
  by_contra hnone
  push Not at hnone
  -- as many different candidates as there are numbers up to one more than there are names
  let candidates := (List.range (taken.length + 1)).map fun i => candidateName base (i + 1)
  have hnodup : candidates.Nodup := List.nodup_range.map fun i j h =>
    Nat.succ_injective (candidateName_injective base (Nat.succ_pos i) (Nat.succ_pos j) h)
  have hsub : candidates ⊆ Keyed.keys taken := by
    intro name hname
    obtain ⟨i, hi, rfl⟩ := List.mem_map.1 hname
    have htaken := hnone (i + 1) (Nat.succ_pos i) (List.mem_range.1 hi)
    exact Keyed.contains_iff_mem_keys.1 (Bool.eq_true_of_not_eq_false htaken)
  have hlength := hnodup.length_le_of_subset hsub
  simp only [candidates, List.length_map, List.length_range, Keyed.keys] at hlength
  omega

/-- What the search for a name has gone through when it ends. -/
theorem freeName_eq (taken : Keyed IndexEntry) (base : String) (fuel n : ℕ) :
    ∃ k, n ≤ k ∧ k ≤ n + fuel ∧ freeName taken base fuel n = candidateName base k
      ∧ (∀ j, n ≤ j → j < k → Keyed.contains (candidateName base j) taken = true)
      ∧ (k < n + fuel → Keyed.contains (candidateName base k) taken = false) := by
  induction fuel generalizing n with
  | zero => exact ⟨n, le_rfl, le_rfl, rfl, fun j hn hj => absurd hj (by omega), fun h => absurd h (lt_irrefl n)⟩
  | succ fuel ih =>
    unfold freeName
    by_cases htaken : Keyed.contains (candidateName base n) taken
    · obtain ⟨k, hn, hfuel, hname, hleast, hfree⟩ := ih (n + 1)
      refine ⟨k, by omega, by omega, ?_, fun j hj hjk => ?_, fun h => hfree (by omega)⟩
      · rw [if_pos htaken, hname]
      · rcases Nat.eq_or_lt_of_le hj with rfl | hj
        · exact htaken
        · exact hleast j hj hjk
    · refine ⟨n, le_rfl, by omega, if_neg htaken, fun j hn hj => absurd hj (by omega), fun _ => ?_⟩
      exact Bool.eq_false_iff.2 htaken

/-- **The search for a name finds the first candidate that is free**, after at most one more than there are
indexes. -/
theorem firstFree_freeName (taken : Keyed IndexEntry) (base : String) :
    ∃ k, k ≤ taken.length + 1 ∧ FirstFree taken base k
      ∧ freeName taken base taken.length 1 = candidateName base k := by
  obtain ⟨k, hpos, hlimit, hname, hleast, hfree⟩ := freeName_eq taken base taken.length 1
  refine ⟨k, by omega, ⟨hpos, hleast, ?_⟩, hname⟩
  obtain ⟨i, hi, hilimit, hifree⟩ := exists_free_candidate taken base
  have hki : k ≤ i := by
    by_contra hlt
    rw [hleast i hi (by omega)] at hifree
    exact absurd hifree nofun
  rcases Nat.eq_or_lt_of_le hki with rfl | hlt
  · exact hifree
  · exact hfree (by omega)

/-! ### Catalogs of a store -/

variable {limit : ℕ} {name : String} {s : Store}

/-- **A store with well-formed catalogs.** -/
structure Cataloged (limit : ℕ) (s : Store) : Prop where
  /-- How many indexes a collection may hold. -/
  limit_eq : s.indexLimit = limit
  /-- The collections are a map. -/
  sorted : s.collections.Sorted
  /-- The indexes of each collection are a catalog. -/
  indexes : ∀ name, WellIndexed limit (s.indexes name)

namespace Cataloged

/-- An empty store has well-formed catalogs. -/
theorem empty (limit : ℕ) : Cataloged limit { indexLimit := limit } :=
  ⟨rfl, .nil, fun _ => .nil limit⟩

/-- A collection with a well-formed catalog may be put in place. -/
theorem withCollection (h : Cataloged limit s) {c : Collection} (hc : WellIndexed limit c.indexes) :
    Cataloged limit (s.withCollection name c) where
  limit_eq := h.limit_eq
  sorted := h.sorted.insert _ _
  indexes other := by
    unfold Store.indexes
    by_cases hother : other = name
    · subst hother
      rwa [collection_withCollection_self]
    · rw [collection_withCollection_of_ne hother]
      exact h.indexes other

/-- A collection may be dropped. -/
theorem dropped (h : Cataloged limit s) (name : String) :
    Cataloged limit { s with collections := Keyed.erase name s.collections } where
  limit_eq := h.limit_eq
  sorted := h.sorted.filter _
  indexes other := by
    unfold Store.indexes collection
    by_cases hother : other = name
    · subst hother
      rw [Keyed.get?_erase_self]
      exact .nil limit
    · rw [Keyed.get?_erase_of_ne hother]
      exact h.indexes other

/-- Collections may become unreachable or reachable. -/
theorem setUnavailable (h : Cataloged limit s) (name : String) (value : Bool) :
    Cataloged limit (s.setUnavailable name value) := ⟨h.limit_eq, h.sorted, h.indexes⟩

end Cataloged

/-! ### Properties that calls keep -/

/-- **A property of the indexes of a store that fewer indexes have as well**, whatever these served. -/
structure Hereditary (P : Store → Prop) : Prop where
  /-- A collection may be put in the place of one that has its indexes, and perhaps others. -/
  withCollection : ∀ {s : Store} {name : String} {c : Collection}, P s →
    (specs c.indexes).Sublist (specs (s.indexes name)) → P (s.withCollection name c)
  /-- A collection may be dropped. -/
  dropped : ∀ {s : Store}, P s → ∀ name, P { s with collections := Keyed.erase name s.collections }
  /-- Collections may become unreachable or reachable. -/
  setUnavailable : ∀ {s : Store}, P s → ∀ name value, P (s.setUnavailable name value)

/-- Well-formed catalogs stay so when indexes go. -/
theorem Cataloged.hereditary : Hereditary (Cataloged limit) where
  withCollection h hsub := h.withCollection ((h.indexes _).of_sublist hsub)
  dropped := dropped
  setUnavailable := setUnavailable

/-- Demanding a collection changes nothing. -/
theorem maintains_requireAvailable {P : Store → Prop} (name : String) : Maintains P (requireAvailable name) := by
  intro s h
  rwa [run_requireAvailable]

/-- Counting an access changes a counter only. -/
theorem specs_countAccess (filter : Predicate) (sortPaths : List String) (c : Collection) :
    specs (countAccess filter sortPaths c).indexes = specs c.indexes := by
  unfold countAccess
  split
  · rfl
  · refine Keyed.map_modify (f := IndexEntry.spec) ?_ _ _
    exact fun _ => rfl

namespace Hereditary

variable {P : Store → Prop} (h : Hereditary P) (name : String) {f : Collection → Collection}
include h

/-- A collection may be changed so that no index is new. -/
theorem change (hf : ∀ c, (specs (f c).indexes).Sublist (specs c.indexes)) : Maintains P (change name f) :=
  fun _ hs => h.withCollection hs (hf _)

/-- So may one that exists. -/
theorem changeExisting (hf : ∀ c, (specs (f c).indexes).Sublist (specs c.indexes)) :
    Maintains P (changeExisting name f) :=
  .bind .get fun _ => .ite (h.change name hf) (.pure _)

/-- Indexes stay where documents are written. -/
theorem changeDocuments (f : List Json → List Json) :
    Maintains P (Store.change name fun c => { c with documents := f c.documents }) :=
  h.change name fun _ => List.Sublist.refl _

/-- So they do where documents are written in a collection that exists. -/
theorem changeExistingDocuments (f : List Json → List Json) :
    Maintains P (Store.changeExisting name fun c => { c with documents := f c.documents }) :=
  h.changeExisting name fun _ => List.Sublist.refl _

/-- An access may be counted. -/
theorem countAccess (filter : Predicate) (sortPaths : List String) :
    Maintains P (Store.changeExisting name (countAccess filter sortPaths)) :=
  h.changeExisting name fun c => (specs_countAccess filter sortPaths c).symm ▸ List.Sublist.refl _

/-- An index may be dropped. -/
theorem dropIndex (index : String) : Maintains P (Store.dropIndex name index) :=
  (maintains_requireAvailable name).bind fun _ => Maintains.get.bind fun _ =>
    .ite (h.change name fun _ => List.filter_sublist.map _) (.throw _)

end Hereditary

/-! ### Creating an index -/

/-- The index with the same keys is one with the same keys. -/
theorem mem_of_sameKeys? {m : Keyed IndexEntry} {spec : IndexSpec} {index : String}
    (h : sameKeys? m spec = some index) : ∃ e, (index, e) ∈ m ∧ e.spec.keys = spec.keys := by
  obtain ⟨⟨name, e⟩, hfind, rfl⟩ := Option.map_eq_some_iff.1 h
  have hkeys := List.find?_some hfind
  exact ⟨e, List.mem_of_find?_eq_some hfind, beq_iff_eq.1 hkeys⟩

/-- Where there is none, no index has the same keys. -/
theorem ne_of_sameKeys?_eq_none {m : Keyed IndexEntry} {spec : IndexSpec} (h : sameKeys? m spec = none) :
    ∀ p ∈ m, p.2.spec.keys ≠ spec.keys := by
  intro p hp hkeys
  have hnone := List.find?_eq_none.1 (Option.map_eq_none_iff.1 h) p hp
  exact hnone (beq_iff_eq.2 hkeys)

/-- The store in which a collection exists. -/
def opened (name : String) (s : Store) : Store := s.withCollection name (s.collection name)

/-- The store with one more index on a collection. -/
def indexed (name index : String) (spec : IndexSpec) (s : Store) : Store :=
  s.withCollection name { s.collection name with indexes := Keyed.insert index { spec } (s.indexes name) }

/-- What creating an index gives on a collection that can be reached. -/
theorem run_createIndex (hreach : s.unavailable.contains name = false) {spec : IndexSpec} (hkeys : spec.keys ≠ []) :
    (createIndex name spec).run s = match sameKeys? (s.indexes name) spec with
      | some existing => (.ok existing, s.opened name)
      | none =>
        if s.indexLimit ≤ (s.indexes name).length then (.error (.indexLimit name s.indexLimit), s.opened name)
        else
          let free := freeName (s.indexes name) spec.name (s.indexes name).length 1
          (.ok free, s.indexed name free spec) := by
  have hsome : ¬ spec.keys.isEmpty = true := by simpa using hkeys
  have hopened : ((s.opened name).collection name).indexes = s.indexes name := by
    rw [opened, collection_withCollection_self]
    rfl
  unfold createIndex
  rw [run_of_available hreach]
  dsimp only
  rw [if_neg hsome, run_bind]
  show (get >>= _ : StoreAction String).run (s.opened name) = _
  rw [run_bind]
  show StateT.run (ExceptT.run _) (s.opened name) = _
  rw [hopened]
  cases sameKeys? (s.indexes name) spec with
  | some existing => rfl
  | none =>
    show (if s.indexLimit ≤ (s.indexes name).length then _ else _ : StoreAction String).run (s.opened name) = _
    dsimp only
    split
    · rfl
    · rw [run_bind]
      show (_, (s.opened name).withCollection name { (s.opened name).collection name with indexes := _ }) = _
      rw [hopened, opened, collection_withCollection_self]
      unfold indexed withCollection
      dsimp only
      rw [Keyed.insert_insert]

/-- **How creating an index ends where none has its keys**: the store refuses for the limit, or adds the index under
the first candidate that is free. -/
theorem run_createIndex_of_new (hreach : s.unavailable.contains name = false) {spec : IndexSpec}
    (hkeys : spec.keys ≠ []) (hnew : sameKeys? (s.indexes name) spec = none) :
    s.indexLimit ≤ (s.indexes name).length
      ∧ (createIndex name spec).run s = (.error (.indexLimit name s.indexLimit), s.opened name)
    ∨ (s.indexes name).length < s.indexLimit
      ∧ ∃ k, k ≤ (s.indexes name).length + 1 ∧ FirstFree (s.indexes name) spec.name k
        ∧ (createIndex name spec).run s
          = (.ok (candidateName spec.name k), s.indexed name (candidateName spec.name k) spec) := by
  rw [run_createIndex hreach hkeys, hnew]
  dsimp only
  by_cases hfull : s.indexLimit ≤ (s.indexes name).length
  · exact .inl ⟨hfull, if_pos hfull⟩
  · obtain ⟨k, hk, hfree, hname⟩ := firstFree_freeName (s.indexes name) spec.name
    refine .inr ⟨not_le.1 hfull, k, hk, hfree, ?_⟩
    rw [if_neg hfull, hname]

/-- A collection with an index exists. -/
theorem opened_of_mem (hsorted : s.collections.Sorted) {p : String × IndexEntry} (hp : p ∈ s.indexes name) :
    s.opened name = s := by
  unfold indexes collection at hp
  cases hget : Keyed.get? name s.collections with
  | none =>
    rw [hget] at hp
    exact absurd hp List.not_mem_nil
  | some c =>
    unfold opened withCollection collection
    rw [hget, Option.getD_some, Keyed.insert_of_get? hsorted hget]

/-- **How creating an index ends** on a collection that can be reached: the store answers with the index that has
the same keys already, refuses for the limit, or adds the index under the first candidate that is free. -/
theorem createIndex_cases (h : Cataloged limit s) (hreach : s.unavailable.contains name = false)
    {spec : IndexSpec} (hkeys : spec.keys ≠ []) :
    (∃ index e, (index, e) ∈ s.indexes name ∧ e.spec.keys = spec.keys
      ∧ (createIndex name spec).run s = (.ok index, s))
    ∨ (∀ p ∈ s.indexes name, p.2.spec.keys ≠ spec.keys) ∧ limit ≤ (s.indexes name).length
      ∧ (createIndex name spec).run s = (.error (.indexLimit name limit), s.opened name)
    ∨ (∀ p ∈ s.indexes name, p.2.spec.keys ≠ spec.keys) ∧ (s.indexes name).length < limit
      ∧ ∃ k, k ≤ (s.indexes name).length + 1 ∧ FirstFree (s.indexes name) spec.name k
        ∧ (createIndex name spec).run s
          = (.ok (candidateName spec.name k), s.indexed name (candidateName spec.name k) spec) := by
  cases hsame : sameKeys? (s.indexes name) spec with
  | some index =>
    obtain ⟨e, hmem, he⟩ := mem_of_sameKeys? hsame
    refine .inl ⟨index, e, hmem, he, ?_⟩
    rw [run_createIndex hreach hkeys, hsame, opened_of_mem h.sorted hmem]
  | none =>
    have hnew := ne_of_sameKeys?_eq_none hsame
    rw [← h.limit_eq]
    exact (run_createIndex_of_new hreach hkeys hsame).elim (fun hfull => .inr (.inl ⟨hnew, hfull⟩))
      fun hcreated => .inr (.inr ⟨hnew, hcreated⟩)

/-! ### Running a store -/

/-- **A call of a store**, and what may happen to it: its collections become unreachable and reachable again. -/
inductive Call where
  /-- An index is created. -/
  | createIndex (name : String) (spec : IndexSpec)
  /-- An index is dropped. -/
  | dropIndex (name index : String)
  /-- Documents are found. -/
  | find (name : String) (filter : Predicate) (window : Window)
  /-- Documents are counted. -/
  | count (name : String) (filter : Predicate)
  /-- Documents are added. -/
  | insert (name : String) (added : List Json)
  /-- A document is stored by the value at a path. -/
  | upsert (name path : String) (document : Json)
  /-- Fields of documents are written. -/
  | update (name : String) (filter : Predicate) (written : List (String × Json))
  /-- Documents are deleted. -/
  | delete (name : String) (filter : Predicate)
  /-- All documents are replaced. -/
  | replace (name : String) (documents : List Json)
  /-- A collection is dropped. -/
  | drop (name : String)
  /-- A collection becomes unreachable or reachable. -/
  | setUnavailable (name : String) (value : Bool)

/-- The store after a call, whether it succeeded or not. -/
def Call.perform (s : Store) : Call → Store
  | .createIndex name spec => ((Store.createIndex name spec).run s).2
  | .dropIndex name index => ((Store.dropIndex name index).run s).2
  | .find name filter window => ((Store.find name filter window).run s).2
  | .count name filter => ((Store.count name filter).run s).2
  | .insert name added => ((Store.insert name added).run s).2
  | .upsert name path document => ((Store.upsert name path document).run s).2
  | .update name filter written => ((Store.update name filter written).run s).2
  | .delete name filter => ((Store.delete name filter).run s).2
  | .replace name documents => ((Store.replace name documents).run s).2
  | .drop name => ((Store.drop name).run s).2
  | .setUnavailable name value => s.setUnavailable name value

/-- The store after some calls. -/
def called (calls : List Call) (s : Store) : Store := calls.foldl Call.perform s

namespace Hereditary

variable {P : Store → Prop} (h : Hereditary P)
include h

/-- A collection may be dropped where it can be reached. -/
theorem drop (name : String) : Maintains P (Store.drop name) := by
  intro s hs
  by_cases hreach : s.unavailable.contains name
  · rw [Store.drop, run_of_unavailable hreach]
    exact hs
  · rw [run_drop_of_available (Bool.eq_false_iff.2 hreach)]
    exact h.dropped hs name

/-- **Every call keeps the property** that creates no index. -/
theorem perform {c : Call} (hc : ∀ name spec, c ≠ .createIndex name spec) {s : Store} (hs : P s) :
    P (c.perform s) := by
  cases c with
  | createIndex name spec => exact absurd rfl (hc name spec)
  | dropIndex name index => exact h.dropIndex name index s hs
  | find name filter window =>
    exact ((maintains_requireAvailable name).bind fun _ => Maintains.get.bind fun _ =>
      (h.countAccess name _ _).bind fun _ => .pure _) s hs
  | count name filter =>
    exact ((maintains_requireAvailable name).bind fun _ => Maintains.get.bind fun _ =>
      (h.countAccess name _ _).bind fun _ => .pure _) s hs
  | insert name added =>
    exact ((maintains_requireAvailable name).bind fun _ => h.changeDocuments name (· ++ added)) s hs
  | upsert name path document =>
    refine ((maintains_requireAvailable name).bind fun _ => ?_) s hs
    cases Document.get? path document with
    | none => exact .throw _
    | some key => exact h.changeDocuments name (replaceOrAdd path key document)
  | update name filter written =>
    exact ((maintains_requireAvailable name).bind fun _ => Maintains.get.bind fun _ =>
      (h.changeExistingDocuments name (List.map fun d => if filter.holds d then setFields written d else d)).bind
        fun _ => .pure _) s hs
  | delete name filter =>
    exact ((maintains_requireAvailable name).bind fun _ => Maintains.get.bind fun _ =>
      (h.changeExistingDocuments name (List.filter fun d => !filter.holds d)).bind fun _ => .pure _) s hs
  | replace name documents =>
    exact ((maintains_requireAvailable name).bind fun _ => h.changeDocuments name fun _ => documents) s hs
  | drop name => exact h.drop name s hs
  | setUnavailable name value => exact h.setUnavailable hs name value

end Hereditary

namespace Cataloged

/-- A collection may be created. -/
theorem opened (h : Cataloged limit s) (name : String) : Cataloged limit (s.opened name) :=
  h.withCollection (h.indexes name)

/-- **An index that is new** in its keys and its name joins the catalog where there is room. -/
theorem indexed (h : Cataloged limit s) {spec : IndexSpec} {k : ℕ}
    (hnew : ∀ p ∈ s.indexes name, p.2.spec.keys ≠ spec.keys) (hroom : (s.indexes name).length < limit)
    (hfree : FirstFree (s.indexes name) spec.name k) :
    Cataloged limit (s.indexed name (candidateName spec.name k) spec) := by
  have hname : Keyed.get? (candidateName spec.name k) (s.indexes name) = none := by
    have hfree := hfree.free
    rwa [Keyed.contains, Option.isSome_eq_false_iff, Option.isNone_iff_eq_none] at hfree
  exact h.withCollection ((h.indexes name).insert hname hnew hroom)

/-- Creating an index keeps catalogs well formed. -/
theorem createIndex (name : String) (spec : IndexSpec) :
    Maintains (Cataloged limit) (Store.createIndex name spec) := by
  intro s h
  by_cases hreach : s.unavailable.contains name
  · rw [Store.createIndex, run_of_unavailable hreach]
    exact h
  by_cases hkeys : spec.keys = []
  · unfold Store.createIndex
    rw [run_of_available (Bool.eq_false_iff.2 hreach), hkeys]
    exact h
  rcases createIndex_cases h (Bool.eq_false_iff.2 hreach) hkeys with
    ⟨index, e, -, -, hrun⟩ | ⟨-, -, hrun⟩ | ⟨hnew, hroom, k, -, hfree, hrun⟩
  · rwa [hrun]
  · rw [hrun]
    exact h.opened name
  · rw [hrun]
    exact h.indexed hnew hroom hfree

/-- **Every call keeps catalogs well formed.** -/
theorem perform (h : Cataloged limit s) (c : Call) : Cataloged limit (c.perform s) := by
  by_cases hc : ∃ name spec, c = .createIndex name spec
  · obtain ⟨name, spec, rfl⟩ := hc
    exact createIndex name spec s h
  · exact hereditary.perform (fun name spec he => hc ⟨name, spec, he⟩) h

/-- **Whatever is done with a store, its catalogs stay well formed.** -/
theorem called (h : Cataloged limit s) (calls : List Call) : Cataloged limit (s.called calls) := by
  induction calls generalizing s with
  | nil => exact h
  | cons c rest ih => exact ih (h.perform c)

end Cataloged

/-! ### What creating an index promises -/

/-- **An index that was created, or was there already.** -/
structure Created (limit : ℕ) (name index : String) (spec : IndexSpec) (s s' : Store) : Prop where
  /-- There is an index of this name. -/
  present : Keyed.contains index (s'.indexes name) = true
  /-- It is the one with these keys. -/
  unique : ∀ other e, Keyed.get? other (s'.indexes name) = some e → (e.spec.keys = spec.keys ↔ other = index)
  /-- The indexes that were there are there, with what they served. -/
  kept : ∀ other e, Keyed.get? other (s.indexes name) = some e → Keyed.get? other (s'.indexes name) = some e
  /-- No other index is new. -/
  others : ∀ other, other ≠ index → Keyed.get? other (s'.indexes name) = Keyed.get? other (s.indexes name)
  /-- The other collections are as they were. -/
  elsewhere : ∀ other, other ≠ name → s'.collection other = s.collection other
  /-- So are the documents. -/
  documents : s'.documents name = s.documents name
  /-- Where the index was there already, nothing has changed. -/
  known : Keyed.contains index (s.indexes name) = true → s' = s
  /-- Where it was not, there was room; it has not served yet, and its name is the first candidate that was free,
  which is found after at most one more than there were indexes. -/
  added : Keyed.contains index (s.indexes name) = false →
    (s.indexes name).length < limit ∧ Keyed.get? index (s'.indexes name) = some { spec }
      ∧ ∃ k, k ≤ (s.indexes name).length + 1 ∧ FirstFree (s.indexes name) spec.name k
        ∧ index = candidateName spec.name k
  /-- Creating it again gives the same name and changes nothing. -/
  again : ∀ other : IndexSpec, other.keys = spec.keys → (createIndex name other).run s' = (.ok index, s')

/-- **An index that was refused** for the limit. -/
structure Refused (limit : ℕ) (name : String) (spec : IndexSpec) (s s' : Store) : Prop where
  /-- There are as many indexes as there may be. -/
  full : (s.indexes name).length = limit
  /-- None of them has the keys. -/
  missing : ∀ index e, Keyed.get? index (s.indexes name) = some e → e.spec.keys ≠ spec.keys
  /-- No collection has changed. -/
  unchanged : ∀ other, s'.collection other = s.collection other

variable {spec : IndexSpec} {index : String} {e : IndexEntry}

/-- **Creating an index that is there** gives its name and changes nothing. -/
theorem createIndex_of_mem (h : Cataloged limit s) (hreach : s.unavailable.contains name = false)
    (hkeys : spec.keys ≠ []) (hmem : (index, e) ∈ s.indexes name) (he : e.spec.keys = spec.keys) :
    (createIndex name spec).run s = (.ok index, s) := by
  rcases createIndex_cases h hreach hkeys with ⟨other, e', hother, he', hrun⟩ | ⟨hnew, -⟩ | ⟨hnew, -⟩
  · obtain ⟨rfl, -⟩ := Prod.mk.injEq .. ▸ (h.indexes name).name_eq hother hmem (he'.trans he.symm)
    exact hrun
  · exact absurd he (hnew _ hmem)
  · exact absurd he (hnew _ hmem)

/-- An index that is there need not be created. -/
theorem Created.of_mem (h : Cataloged limit s) (hreach : s.unavailable.contains name = false)
    (hkeys : spec.keys ≠ []) (hmem : (index, e) ∈ s.indexes name) (he : e.spec.keys = spec.keys) :
    Created limit name index spec s s where
  present := by
    rw [Keyed.contains, (Keyed.get?_eq_some_iff (h.indexes name).sorted).2 hmem]
    rfl
  unique other e' hget := by
    have hother := Keyed.mem_of_get? hget
    refine ⟨fun he' => congrArg Prod.fst ((h.indexes name).name_eq hother hmem (he'.trans he.symm)), ?_⟩
    rintro rfl
    have hsame := (Keyed.get?_eq_some_iff (h.indexes name).sorted).2 hmem
    rw [hget] at hsame
    rw [Option.some.inj hsame, he]
  kept _ _ hget := hget
  others _ _ := rfl
  elsewhere _ _ := rfl
  documents := rfl
  known _ := rfl
  added hmissing := by
    rw [Keyed.contains, (Keyed.get?_eq_some_iff (h.indexes name).sorted).2 hmem] at hmissing
    exact absurd hmissing.symm Bool.false_ne_true
  again other hother := createIndex_of_mem h hreach (hother ▸ hkeys) hmem (he.trans hother.symm)

/-- **An index that is new** is there afterwards, and nothing else is. -/
theorem Created.of_new (h : Cataloged limit s) (hreach : s.unavailable.contains name = false)
    (hkeys : spec.keys ≠ []) (hnew : ∀ p ∈ s.indexes name, p.2.spec.keys ≠ spec.keys)
    (hroom : (s.indexes name).length < limit) {k : ℕ} (hk : k ≤ (s.indexes name).length + 1)
    (hfree : FirstFree (s.indexes name) spec.name k) :
    Created limit name (candidateName spec.name k) spec s (s.indexed name (candidateName spec.name k) spec) := by
  have hindexed := h.indexed hnew hroom hfree
  have hindexes : (s.indexed name (candidateName spec.name k) spec).indexes name
      = Keyed.insert (candidateName spec.name k) { spec } (s.indexes name) := by
    rw [indexes, indexed, collection_withCollection_self]
  have hget : Keyed.get? (candidateName spec.name k)
      ((s.indexed name (candidateName spec.name k) spec).indexes name) = some { spec } := by
    rw [hindexes, Keyed.get?_insert_self]
  have hothers : ∀ other, other ≠ candidateName spec.name k →
      Keyed.get? other ((s.indexed name (candidateName spec.name k) spec).indexes name)
        = Keyed.get? other (s.indexes name) := fun other hother => by
    rw [hindexes, Keyed.get?_insert_of_ne hother]
  exact {
    present := by rw [Keyed.contains, hget]; rfl
    unique := fun other e hother => by
      by_cases hsame : other = candidateName spec.name k
      · rw [hsame, hget] at hother
        obtain rfl := Option.some.inj hother
        exact ⟨fun _ => hsame, fun _ => rfl⟩
      · rw [hothers other hsame] at hother
        exact ⟨fun he => absurd he (hnew _ (Keyed.mem_of_get? hother)), fun he => absurd he hsame⟩
    kept := fun other e hother => by
      have hne : other ≠ candidateName spec.name k := by
        rintro rfl
        have htaken := hfree.free
        rw [Keyed.contains, hother] at htaken
        exact absurd htaken.symm Bool.false_ne_true
      rw [hothers other hne, hother]
    others := hothers
    elsewhere := fun other hother => collection_withCollection_of_ne hother _ s
    documents := documents_withCollection_self _ s
    known := fun htaken => absurd (hfree.free.symm.trans htaken) Bool.false_ne_true
    added := fun _ => ⟨hroom, hget, k, hk, hfree, rfl⟩
    again := fun other hother =>
      createIndex_of_mem hindexed hreach (hother ▸ hkeys) (Keyed.mem_of_get? hget) hother.symm }

/-- An index that is refused leaves the collections as they are. -/
theorem Refused.of_full (h : Cataloged limit s) (hnew : ∀ p ∈ s.indexes name, p.2.spec.keys ≠ spec.keys)
    (hfull : limit ≤ (s.indexes name).length) : Refused limit name spec s (s.opened name) where
  full := le_antisymm (h.indexes name).limited hfull
  missing _ _ hget := hnew _ (Keyed.mem_of_get? hget)
  unchanged other := by
    by_cases hother : other = name
    · rw [hother]
      exact collection_withCollection_self _ s
    · exact collection_withCollection_of_ne hother _ s

/-- **The catalog of indexes stays well formed over any run of the store.** After any calls on an empty store, each
collection has no more indexes than it may, each with a name of its own, and no two with the same keys. Creating an
index then either gives the name of the one index with these keys, and leaves all others and all that was counted on
them as it was, or it is refused, and this only where no index has the keys and there are as many as there may
be. -/
theorem wellIndexed_called (limit : ℕ) (calls : List Call) :
    let s := called calls { indexLimit := limit }
    (∀ name, WellIndexed limit (s.indexes name))
      ∧ ∀ name spec, s.unavailable.contains name = false → spec.keys ≠ [] →
        (∃ index s', (createIndex name spec).run s = (.ok index, s') ∧ Created limit name index spec s s')
          ∨ ∃ s', (createIndex name spec).run s = (.error (.indexLimit name limit), s')
            ∧ Refused limit name spec s s' := by
  intro s
  have h : Cataloged limit s := (Cataloged.empty limit).called calls
  refine ⟨h.indexes, fun name spec hreach hkeys => ?_⟩
  rcases createIndex_cases h hreach hkeys with
    ⟨index, e, hmem, he, hrun⟩ | ⟨hnew, hfull, hrun⟩ | ⟨hnew, hroom, k, hk, hfree, hrun⟩
  · exact .inl ⟨index, s, hrun, .of_mem h hreach hkeys hmem he⟩
  · exact .inr ⟨s.opened name, hrun, .of_full h hnew hfull⟩
  · exact .inl ⟨_, _, hrun, .of_new h hreach hkeys hnew hroom hk hfree⟩

/-- **A name that two lists of keys spell** is numbered for the second, and stays numbered when the first index is
dropped; there is room for two indexes. -/
theorem wellIndexed_called_twins :
    let twin := IndexSpec.ascending ["a_1_b"]
    let pair := IndexSpec.ascending ["a", "b"]
    let s := called [.createIndex "c" twin, .createIndex "c" pair, .dropIndex "c" "a_1_b_1"]
      { indexLimit := 2 }
    twin.name = pair.name
      ∧ Keyed.keys (s.indexes "c") = ["a_1_b_1~2"]
      ∧ WellIndexed 2 (s.indexes "c")
      ∧ (∃ s', (createIndex "c" pair).run s = (.ok "a_1_b_1~2", s') ∧ Created 2 "c" "a_1_b_1~2" pair s s')
      ∧ ∃ s', (createIndex "c" twin).run s = (.ok "a_1_b_1", s') ∧ Created 2 "c" "a_1_b_1" twin s s' := by
  intro twin pair s
  obtain ⟨hindexes, hcreate⟩ := wellIndexed_called 2
    [.createIndex "c" twin, .createIndex "c" pair, .dropIndex "c" "a_1_b_1"]
  have hpair : ((createIndex "c" pair).run s).1 = .ok "a_1_b_1~2" := by decide +kernel
  have htwin : ((createIndex "c" twin).run s).1 = .ok "a_1_b_1" := by decide +kernel
  have created : ∀ {spec index}, spec.keys ≠ [] → ((createIndex "c" spec).run s).1 = .ok index →
      ∃ s', (createIndex "c" spec).run s = (.ok index, s') ∧ Created 2 "c" index spec s s' := by
    intro spec index hkeys hanswer
    rcases hcreate "c" spec (by decide +kernel) hkeys with ⟨other, s', hrun, hcreated⟩ | ⟨s', hrun, -⟩
    · obtain rfl : other = index := Except.ok.inj ((congrArg Prod.fst hrun).symm.trans hanswer)
      exact ⟨s', hrun, hcreated⟩
    · exact absurd ((congrArg Prod.fst hrun).symm.trans hanswer) nofun
  exact ⟨by decide +kernel, by decide +kernel, hindexes "c", created (by decide) hpair, created (by decide) htwin⟩

end Store

end Rollup
