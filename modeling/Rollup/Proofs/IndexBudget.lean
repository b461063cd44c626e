import Rollup.Proofs.IndexCatalog

/-!
# The index budget is kept

Making sure of an index (`IndexBudget.ensure`) reads the catalog of a collection, drops the indexes that are too many
and creates the index where it is missing. Which indexes go is settled by one order, that of the ranks turned round:
the lowest ranked ones of those that may go are taken from its front (`IndexBudget.exists_victims`), so all others
rank above them. There are two thresholds. An index that is there counts against the budget and must not go, and a
new one needs a place of its own, so that one index more has to go; either way the budget is kept
(`IndexBudget.ensure_keepsBudget`).

Room is made before the index is created, and creating it may be refused for the limit of the store. But the limit
held before, so behind an index that went there is room for another: what fails has dropped nothing
(`IndexBudget.collection_of_ensure_error`).
-/

namespace Rollup

/-! ## Ranks -/

namespace IndexUsage

/-- **An index ranks above another**: it served more reads, or as many and its name is smaller. -/
def RanksAbove (a b : IndexUsage) : Prop :=
  b.accesses < a.accesses ∨ a.accesses = b.accesses ∧ a.name < b.name

instance (a b : IndexUsage) : Decidable (a.RanksAbove b) := by
  unfold RanksAbove
  infer_instance

/-- What the ranking compares. -/
theorem ranksBefore_iff {a b : IndexUsage} :
    ranksBefore a b = true ↔ b.accesses < a.accesses ∨ a.accesses = b.accesses ∧ a.name ≤ b.name := by
  simp [ranksBefore]

/-- Indexes with names of their own are ranked one above the other. -/
theorem pairwise_rank {usage : List IndexUsage} (hnames : (usage.map name).Nodup) :
    (rank usage).Pairwise RanksAbove := by
  have htrans : ∀ a b c : IndexUsage, ranksBefore a b = true → ranksBefore b c = true → ranksBefore a c = true := by
    intro a b c hab hbc
    rw [ranksBefore_iff] at *
    rcases hab with hab | ⟨hab, hname⟩ <;> rcases hbc with hbc | ⟨hbc, hname'⟩
    · exact .inl (hbc.trans hab)
    · exact .inl (hbc ▸ hab)
    · exact .inl (hab ▸ hbc)
    · exact .inr ⟨hab.trans hbc, hname.trans hname'⟩
  have htotal : ∀ a b : IndexUsage, (ranksBefore a b || ranksBefore b a) = true := by
    intro a b
    rw [Bool.or_eq_true, ranksBefore_iff, ranksBefore_iff]
    rcases lt_trichotomy a.accesses b.accesses with hlt | heq | hlt
    · exact .inr (.inl hlt)
    · exact (le_total a.name b.name).imp (fun hname => .inr ⟨heq, hname⟩) fun hname => .inr ⟨heq.symm, hname⟩
    · exact .inl (.inl hlt)
  have hranked : (rank usage).Pairwise fun a b => ranksBefore a b = true :=
    List.pairwise_mergeSort htrans htotal usage
  have hperm : ((rank usage).map name).Perm (usage.map name) := (List.mergeSort_perm _ _).map _
  refine (hranked.and (List.pairwise_map.1 (hperm.nodup_iff.2 hnames))).imp fun ⟨hab, hne⟩ => ?_
  exact (ranksBefore_iff.1 hab).imp_right fun ⟨heq, hle⟩ => ⟨heq, lt_of_le_of_ne hle hne⟩

end IndexUsage

namespace IndexBudget

/-- **Which indexes go, and which of those that may go stay.** -/
structure Parts (usage : List IndexUsage) (keep : ℕ) (isProtected : String → Bool)
    (gone rest : List IndexUsage) : Prop where
  /-- Together they are the indexes that are not protected. -/
  perm : (gone ++ rest).Perm (usage.filter fun u => !isProtected u.name)
  /-- They are ranked from the lowest on, so that all that stay rank above all that go. -/
  ranked : (gone ++ rest).Pairwise fun a b => b.RanksAbove a
  /-- As many go as are too many, if there are so many. -/
  length_gone : gone.length = min (usage.length - keep) (gone ++ rest).length

/-- **The indexes that go are the lowest ranked of those that may.** -/
theorem exists_victims {usage : List IndexUsage} (hnames : (usage.map IndexUsage.name).Nodup) (keep : ℕ)
    (isProtected : String → Bool) :
    ∃ gone rest, victims usage keep isProtected = gone.map IndexUsage.name
      ∧ Parts usage keep isProtected gone rest := by
  let order := (IndexUsage.rank usage).reverse.filter fun u => !isProtected u.name
  have horder : order.take (usage.length - keep) ++ order.drop (usage.length - keep) = order :=
    List.take_append_drop _ _
  refine ⟨order.take (usage.length - keep), order.drop (usage.length - keep), ?_, ?_, ?_, ?_⟩
  · unfold victims
    dsimp only
    rw [List.filter_map, ← List.map_take]
    rfl
  · rw [horder]
    exact ((List.reverse_perm _).trans (List.mergeSort_perm _ _)).filter _
  · rw [horder]
    exact (List.pairwise_reverse.2 (IndexUsage.pairwise_rank hnames)).filter _
  · rw [horder, List.length_take]

namespace Parts

variable {usage gone rest : List IndexUsage} {keep : ℕ} {isProtected : String → Bool}
  (h : Parts usage keep isProtected gone rest)
include h

/-- What goes was there. -/
theorem mem_of_mem_gone {u : IndexUsage} (hu : u ∈ gone) : u ∈ usage :=
  List.mem_of_mem_filter (h.perm.subset (List.mem_append_left _ hu))

/-- What is protected does not go. -/
theorem isProtected_of_mem_gone {u : IndexUsage} (hu : u ∈ gone) : isProtected u.name = false := by
  have hmem := List.mem_filter.1 (h.perm.subset (List.mem_append_left _ hu))
  simpa using hmem.2

/-- An index that is protected stays. -/
theorem stays {u : IndexUsage} (hkept : isProtected u.name = true) : u.name ∉ gone.map IndexUsage.name := by
  intro hgone
  obtain ⟨v, hv, hname⟩ := List.mem_map.1 hgone
  have hfree := h.isProtected_of_mem_gone hv
  rw [hname, hkept] at hfree
  exact absurd hfree nofun

/-- What goes, goes from the lowest ranked on. -/
theorem pairwise_gone : gone.Pairwise fun a b => b.RanksAbove a := (List.pairwise_append.1 h.ranked).1

/-- **What stays ranks above all that goes**, unless it stays because it is protected. -/
theorem ranksAbove {u v : IndexUsage} (hu : u ∈ usage) (hstays : u.name ∉ gone.map IndexUsage.name)
    (hfree : isProtected u.name = false) (hv : v ∈ gone) : u.RanksAbove v := by
  have hmem : u ∈ gone ++ rest := h.perm.symm.subset (List.mem_filter.2 ⟨hu, by simp [hfree]⟩)
  rcases List.mem_append.1 hmem with hgone | hrest
  · exact absurd (List.mem_map_of_mem hgone) hstays
  · exact (List.pairwise_append.1 h.ranked).2.2 v hv u hrest

omit h in
/-- Where no index is protected, as many go as are too many. -/
theorem length_gone_of_unprotected (h : Parts usage keep (fun _ => false) gone rest) :
    gone.length = usage.length - keep := by
  have hgone := h.length_gone
  have hmay : (usage.filter fun _ => !false).length = usage.length := by simp
  rw [h.perm.length_eq, hmay] at hgone
  omega

variable (hnames : (usage.map IndexUsage.name).Nodup)
include hnames

/-- No index goes twice. -/
theorem nodup_gone : (gone.map IndexUsage.name).Nodup := by
  have hall : ((gone ++ rest).map IndexUsage.name).Nodup :=
    (h.perm.map _).nodup_iff.2 (hnames.sublist (List.filter_sublist.map _))
  rw [List.map_append] at hall
  exact (List.nodup_append.1 hall).1

/-- An index goes if its name is told. -/
theorem mem_gone {u : IndexUsage} (hu : u ∈ usage) (hgone : u.name ∈ gone.map IndexUsage.name) : u ∈ gone := by
  obtain ⟨v, hv, hname⟩ := List.mem_map.1 hgone
  rwa [← List.inj_on_of_nodup_map hnames (h.mem_of_mem_gone hv) hu hname]

/-- As many indexes stay as do not go. -/
theorem length_staying :
    (usage.filter fun u => u.name ∉ gone.map IndexUsage.name).length + gone.length = usage.length := by
  have hgoing : (usage.filter fun u => u.name ∈ gone.map IndexUsage.name).Perm gone := by
    have hnodup : ∀ {l : List IndexUsage}, (l.map IndexUsage.name).Nodup → l.Nodup := fun hl => hl.of_map _
    refine (List.perm_ext_iff_of_nodup ((hnodup hnames).filter _) (hnodup (h.nodup_gone hnames))).2 fun u => ?_
    rw [List.mem_filter, decide_eq_true_iff]
    exact ⟨fun hu => h.mem_gone hnames hu.1 hu.2, fun hu => ⟨h.mem_of_mem_gone hu, List.mem_map_of_mem hu⟩⟩
  have hsplit := List.length_eq_length_filter_add (l := usage) fun u => decide (u.name ∈ gone.map IndexUsage.name)
  simp only [← decide_not] at hsplit
  rw [hsplit, hgoing.length_eq, Nat.add_comm]

omit h in
/-- Only one index has a name. -/
theorem length_others (name : String) :
    usage.length ≤ (usage.filter fun u => !(u.name == name)).length + 1 := by
  have hone : (usage.filter fun u => u.name == name).length ≤ 1 := by
    have hcount := List.nodup_iff_count_le_one.1 hnames name
    rwa [List.count, List.countP_map, List.countP_eq_length_filter] at hcount
  have hsplit := List.length_eq_length_filter_add (l := usage) fun u => u.name == name
  omega

end Parts

end IndexBudget

/-! ## Dropping indexes -/

namespace Store

/-- The indexes of a collection as index maintenance sees them. -/
def usage (name : String) (s : Store) : List IndexUsage :=
  (s.indexes name).map fun (index, e) => ⟨index, e.spec, e.accesses⟩

variable {name : String} {m n : Keyed IndexEntry} {s s' s'' : Store}

/-- What is seen of the indexes has their names. -/
theorem map_name_usage (name : String) (s : Store) :
    (s.usage name).map IndexUsage.name = Keyed.keys (s.indexes name) := by
  unfold usage Keyed.keys
  rw [List.map_map]
  rfl

/-- **Only the indexes of one collection have changed.** -/
structure Reindexed (name : String) (m : Keyed IndexEntry) (s s' : Store) : Prop where
  /-- These are its indexes. -/
  indexes : s'.indexes name = m
  /-- The documents are the same. -/
  documents : s'.documents name = s.documents name
  /-- So are all other collections. -/
  elsewhere : ∀ other, other ≠ name → s'.collection other = s.collection other
  /-- The same collections cannot be reached. -/
  unavailable : s'.unavailable = s.unavailable
  /-- Collections may hold as many indexes. -/
  indexLimit : s'.indexLimit = s.indexLimit

/-- Where nothing is done nothing has changed. -/
theorem Reindexed.refl (name : String) (s : Store) : Reindexed name (s.indexes name) s s :=
  ⟨rfl, rfl, fun _ _ => rfl, rfl, rfl⟩

/-- One change after another. -/
theorem Reindexed.trans (h : Reindexed name m s s') (h' : Reindexed name n s' s'') : Reindexed name n s s'' where
  indexes := h'.indexes
  documents := h'.documents.trans h.documents
  elsewhere other hother := (h'.elsewhere other hother).trans (h.elsewhere other hother)
  unavailable := h'.unavailable.trans h.unavailable
  indexLimit := h'.indexLimit.trans h.indexLimit

/-- A collection with other indexes is put in place. -/
theorem Reindexed.withCollection (name : String) (m : Keyed IndexEntry) (s : Store) :
    Reindexed name m s (s.withCollection name { s.collection name with indexes := m }) where
  indexes := congrArg Collection.indexes (collection_withCollection_self _ s)
  documents := documents_withCollection_self _ s
  elsewhere _ hother := collection_withCollection_of_ne hother _ s
  unavailable := rfl
  indexLimit := rfl

/-- An index is new. -/
theorem Reindexed.indexed (name index : String) (spec : IndexSpec) (s : Store) :
    Reindexed name (Keyed.insert index { spec } (s.indexes name)) s (s.indexed name index spec) :=
  .withCollection name _ s

/-- Creating a collection changes no index. -/
theorem Reindexed.opened (name : String) (s : Store) : Reindexed name (s.indexes name) s (s.opened name) :=
  .withCollection name _ s

/-- Where the indexes of the one collection are the same as well, no collection has changed. -/
theorem Reindexed.collection_eq (h : Reindexed name (s.indexes name) s s') (other : String) :
    s'.collection other = s.collection other := by
  by_cases hother : other = name
  · subst hother
    have hindexes : (s'.collection other).indexes = (s.collection other).indexes := h.indexes
    have hdocuments : (s'.collection other).documents = (s.collection other).documents := h.documents
    cases hs : s.collection other
    cases hs' : s'.collection other
    rw [hs, hs'] at hindexes hdocuments
    exact congrArg₂ Collection.mk hdocuments hindexes
  · exact h.elsewhere other hother

/-- **What dropping an index gives** that is there. -/
theorem run_dropIndex (hreach : s.unavailable.contains name = false) {index : String}
    (hmem : index ∈ Keyed.keys (s.indexes name)) :
    ∃ s', (dropIndex name index).run s = (.ok (), s') ∧ Reindexed name (Keyed.erase index (s.indexes name)) s s' := by
  refine ⟨_, ?_, .withCollection name (Keyed.erase index (s.indexes name)) s⟩
  unfold dropIndex
  rw [run_of_available hreach]
  show StateT.run (ExceptT.run (if Keyed.contains index (s.indexes name) = true then _ else _)) s = _
  rw [if_pos (Keyed.contains_iff_mem_keys.2 hmem)]
  rfl

end Store

/-- A tenant behind index maintenance: with another store, and with indexes counted. -/
def Tenant.maintained (t : Tenant) (s : Store) (created evicted : ℕ) : Tenant :=
  { t with
    store := s
    metrics := { t.metrics with
      indexesCreated := t.metrics.indexesCreated + created
      indexesEvicted := t.metrics.indexesEvicted + evicted } }

namespace IndexBudget

open Store (Reindexed FirstFree candidateName firstFree_freeName sameKeys?)

variable {collection : String} {t : Tenant}

/-- The catalog without some of its indexes. -/
def staying (evicted : List String) (indexes : Keyed IndexEntry) : Keyed IndexEntry :=
  indexes.filter fun p => p.1 ∉ evicted

/-- **Indexes that are there are all dropped.** -/
theorem run_dropAll (hreach : t.store.unavailable.contains collection = false) {names : List String}
    (hnames : names.Nodup) (hmem : ∀ name ∈ names, name ∈ Keyed.keys (t.store.indexes collection)) :
    ∃ s, (dropAll collection names).run t = (.ok (), { t with store := s })
      ∧ Reindexed collection (staying names (t.store.indexes collection)) t.store s := by
  induction names generalizing t with
  | nil =>
    refine ⟨t.store, rfl, ?_⟩
    rw [staying, List.filter_eq_self.2 fun _ _ => by simp]
    exact .refl collection t.store
  | cons name rest ih =>
    obtain ⟨hfirst, hrest⟩ := List.forall_mem_cons.1 hmem
    obtain ⟨hnew, hnodup⟩ := List.nodup_cons.1 hnames
    obtain ⟨s, hrun, hdropped⟩ := Store.run_dropIndex hreach hfirst
    -- the names that are left are still there behind the first one
    obtain ⟨s', hruns, hall⟩ := @ih { t with store := s } (hdropped.unavailable ▸ hreach) hnodup fun other hother => by
      have hne : other ≠ name := by
        rintro rfl
        exact hnew hother
      obtain ⟨p, hp, rfl⟩ := List.mem_map.1 (hrest other hother)
      show _ ∈ Keyed.keys (s.indexes collection)
      rw [hdropped.indexes]
      exact List.mem_map_of_mem (List.mem_filter.2 ⟨hp, decide_eq_true hne⟩)
    refine ⟨s', ?_, hdropped.trans ?_⟩
    · unfold dropAll
      rw [run_bind, TenantAction.run_onStore, hrun]
      exact hruns
    · have hstaying : staying (name :: rest) (t.store.indexes collection) = staying rest (s.indexes collection) := by
        rw [hdropped.indexes, Keyed.erase, staying, staying, List.filter_filter]
        refine List.filter_congr fun p _ => ?_
        simp [Bool.and_comm]
      rw [hstaying]
      exact hall

/-- **What making room gives**: the indexes that are too many go. -/
theorem run_evict (hreach : t.store.unavailable.contains collection = false)
    (hnames : (Keyed.keys (t.store.indexes collection)).Nodup) (keep : ℕ) (isProtected : String → Bool) :
    ∃ gone rest s, Parts (t.store.usage collection) keep isProtected gone rest
      ∧ (evict collection (t.store.usage collection) keep isProtected).run t = (.ok (gone.map IndexUsage.name),
        t.maintained s 0 gone.length)
      ∧ Reindexed collection (staying (gone.map IndexUsage.name) (t.store.indexes collection)) t.store s := by
  have husage : ((t.store.usage collection).map IndexUsage.name).Nodup := Store.map_name_usage _ _ ▸ hnames
  obtain ⟨gone, rest, hvictims, hparts⟩ := exists_victims husage keep isProtected
  have hmem : ∀ name ∈ gone.map IndexUsage.name, name ∈ Keyed.keys (t.store.indexes collection) := by
    intro name hname
    obtain ⟨u, hu, rfl⟩ := List.mem_map.1 hname
    exact Store.map_name_usage _ _ ▸ List.mem_map_of_mem (hparts.mem_of_mem_gone hu)
  obtain ⟨s, hrun, hstaying⟩ := run_dropAll hreach (hparts.nodup_gone husage) hmem
  refine ⟨gone, rest, s, hparts, ?_, hstaying⟩
  unfold evict
  dsimp only
  rw [hvictims, run_bind, hrun, List.length_map]
  rfl

/-- Nothing is done with a collection that cannot be reached. -/
theorem run_provide_of_unavailable (hreach : t.store.unavailable.contains collection = true) (spec : IndexSpec) :
    (provide collection spec).run t = (.error (.store "read index usage" (.unavailable collection)), t) := by
  unfold provide
  rw [TenantAction.run_get_bind, run_bind, TenantAction.run_onStore, Store.indexUsage, Store.run_of_unavailable hreach]
  rfl

/-- What is found in a catalog that can be reached. -/
theorem run_indexUsage (hreach : t.store.unavailable.contains collection = false) (operation : String) :
    (TenantAction.onStore operation (Store.indexUsage collection)).run t = (.ok (t.store.usage collection), t) := by
  rw [TenantAction.run_onStore, Store.indexUsage, Store.run_of_available hreach]
  rfl

/-- An index is seen as it is in the catalog. -/
theorem mem_usage_iff {s : Store} {u : IndexUsage} :
    u ∈ s.usage collection ↔ (u.name, ⟨u.spec, u.accesses⟩) ∈ s.indexes collection := by
  unfold Store.usage
  rw [List.mem_map]
  constructor
  · rintro ⟨p, hp, rfl⟩
    exact hp
  · exact fun h => ⟨_, h, rfl⟩

/-- Where no index has the keys, none of those that stay has them. -/
theorem sameKeys?_staying {s : Store} {spec : IndexSpec} (h : ∀ u ∈ s.usage collection, u.spec.keys ≠ spec.keys)
    (gone : List String) : sameKeys? (staying gone (s.indexes collection)) spec = none :=
  Option.map_eq_none_iff.2 <| List.find?_eq_none.2 fun p hp he =>
    h ⟨p.1, p.2.spec, p.2.accesses⟩ (mem_usage_iff.2 (List.mem_of_mem_filter hp)) (beq_iff_eq.1 he)

/-- **How providing an index ends** on a collection that can be reached. Where there is one with the keys it stays,
and indexes go for the budget. Where there is none an index more goes, and then the index is created, unless as many
as there may be have stayed. -/
theorem provide_cases (hreach : t.store.unavailable.contains collection = false)
    (hnames : (Keyed.keys (t.store.indexes collection)).Nodup) {spec : IndexSpec} (hkeys : spec.keys ≠ []) :
    (∃ u ∈ t.store.usage collection, u.spec.keys = spec.keys
      ∧ ∃ gone rest s,
        Parts (t.store.usage collection) t.config.indexBudget.toNat (fun name => name == u.name) gone rest
        ∧ Reindexed collection (staying (gone.map IndexUsage.name) (t.store.indexes collection)) t.store s
        ∧ (provide collection spec).run t
          = (.ok (.existing u.name (gone.map IndexUsage.name)), t.maintained s 0 gone.length))
    ∨ (∀ u ∈ t.store.usage collection, u.spec.keys ≠ spec.keys)
      ∧ ∃ gone rest s, Parts (t.store.usage collection) (t.config.indexBudget.toNat - 1) (fun _ => false) gone rest
        ∧ Reindexed collection (staying (gone.map IndexUsage.name) (t.store.indexes collection)) t.store s
        ∧ (s.indexLimit ≤ (s.indexes collection).length
            ∧ (provide collection spec).run t
              = (.error (.store "create index" (.indexLimit collection s.indexLimit)),
                t.maintained (s.opened collection) 0 gone.length)
          ∨ ∃ index, Keyed.contains index (s.indexes collection) = false
            ∧ (provide collection spec).run t = (.ok (.created index (gone.map IndexUsage.name)),
              t.maintained (s.indexed collection index spec) 1 gone.length)) := by
  unfold provide
  rw [TenantAction.run_get_bind, run_bind, run_indexUsage hreach]
  dsimp only
  cases hfind : (t.store.usage collection).find? fun u => u.spec.keys == spec.keys with
  | some u =>
    obtain ⟨gone, rest, s, hparts, hrun, hstaying⟩ :=
      run_evict hreach hnames t.config.indexBudget.toNat fun name => name == u.name
    have hsame : (u.spec.keys == spec.keys) = true :=
      List.find?_some (p := fun v : IndexUsage => v.spec.keys == spec.keys) hfind
    refine .inl ⟨u, List.mem_of_find?_eq_some hfind, beq_iff_eq.1 hsame, gone, rest, s, hparts, hstaying, ?_⟩
    dsimp only
    rw [run_bind]
    rw [hrun]
    rfl
  | none =>
    have hnew : ∀ u ∈ t.store.usage collection, u.spec.keys ≠ spec.keys := fun u hu he =>
      List.find?_eq_none.1 hfind u hu (beq_iff_eq.2 he)
    obtain ⟨gone, rest, s, hparts, hrun, hstaying⟩ :=
      run_evict hreach hnames (t.config.indexBudget.toNat - 1) fun _ => false
    refine .inr ⟨hnew, gone, rest, s, hparts, hstaying, ?_⟩
    have hmissing : sameKeys? (s.indexes collection) spec = none :=
      hstaying.indexes ▸ sameKeys?_staying hnew (gone.map IndexUsage.name)
    dsimp only
    rw [run_bind, hrun]
    dsimp only
    rw [run_bind, TenantAction.run_onStore, show (t.maintained s 0 gone.length).store = s from rfl]
    rcases Store.run_createIndex_of_new (hstaying.unavailable ▸ hreach) hkeys hmissing with
      ⟨hfull, hcreate⟩ | ⟨-, k, -, hfree, hcreate⟩
    · refine .inl ⟨hfull, ?_⟩
      rw [hcreate]
      rfl
    · refine .inr ⟨_, hfree.free, ?_⟩
      rw [hcreate]
      rfl

/-- Few enough keys get an index. -/
theorem run_ensure {paths : List String} (hsome : paths.eraseDups ≠ [])
    (hmost : paths.eraseDups.length < t.config.maxIndexKeys.toNat) :
    (ensure collection paths).run t = (provide collection (.ascending paths.eraseDups)).run t := by
  unfold ensure
  rw [TenantAction.run_get_bind]
  dsimp only
  rw [if_neg (by simpa using hsome), if_neg (not_le.2 hmost)]

/-- An index is skipped, or provided. -/
theorem ensure_cases (collection : String) (paths : List String) (t : Tenant) :
    (∃ reason, (ensure collection paths).run t = (.ok (.skipped reason), t))
      ∨ paths.eraseDups ≠ []
        ∧ (ensure collection paths).run t = (provide collection (.ascending paths.eraseDups)).run t := by
  unfold ensure
  rw [TenantAction.run_get_bind]
  dsimp only
  split
  · exact .inl ⟨_, rfl⟩
  · next hsome =>
    split
    · exact .inl ⟨_, rfl⟩
    · exact .inr ⟨by simpa using hsome, rfl⟩

/-- The index over some paths has as many keys. -/
theorem keys_ascending_ne_nil {paths : List String} (h : paths ≠ []) : (IndexSpec.ascending paths).keys ≠ [] := by
  simpa [IndexSpec.ascending] using h

/-- What is seen of a catalog of which some indexes stay. -/
theorem usage_of_staying {s : Store} {evicted : List String}
    (h : Reindexed collection (staying evicted (t.store.indexes collection)) t.store s) :
    s.usage collection = (t.store.usage collection).filter fun u => u.name ∉ evicted := by
  unfold Store.usage
  rw [h.indexes, staying, List.filter_map]
  rfl

/-- **An index was made sure of within the budget**, and some indexes were evicted for it. -/
structure Provided (budget : ℕ) (spec : IndexSpec) (before after : List IndexUsage) (outcome : IndexOutcome)
    (index : String) (evicted : List String) : Prop where
  /-- An index with the keys is found and stays, and the others fill the budget at most. -/
  known : ∀ u ∈ before, u.spec.keys = spec.keys →
    outcome = .existing index evicted ∧ u.name = index ∧ u ∈ after ∧ after.length = min before.length budget
  /-- Where there is none it is created, and the others leave a place of the budget for it. -/
  new : (∀ u ∈ before, u.spec.keys ≠ spec.keys) →
    outcome = .created index evicted ∧ ⟨index, spec, 0⟩ ∈ after
      ∧ after.length = min before.length (budget - 1) + 1 ∧ after.length ≤ budget
  /-- The evicted indexes are told from the lowest ranked on. -/
  lowestFirst : ∃ gone : List IndexUsage, gone.map IndexUsage.name = evicted ∧ gone ⊆ before
    ∧ gone.Pairwise fun a b => b.RanksAbove a
  /-- All that stay rank above all that were evicted, the index that is served apart. -/
  ranked : ∀ u ∈ before, u.name ∉ evicted → u.name ≠ index → ∀ v ∈ before, v.name ∈ evicted → u.RanksAbove v
  /-- What was not evicted stays, with its keys and with what it served. -/
  stays : ∀ u ∈ before, u.name ∉ evicted → u ∈ after
  /-- What was evicted is gone, and no other index is new. -/
  others : ∀ u ∈ after, u ∈ before ∧ u.name ∉ evicted ∨ u = ⟨index, spec, 0⟩
  /-- The indexes still have names of their own. -/
  names : (after.map IndexUsage.name).Nodup

section Providing

variable {budget : ℕ} {spec : IndexSpec} {before gone rest : List IndexUsage}
  (hnames : (before.map IndexUsage.name).Nodup) (hbudget : 1 ≤ budget)
include hnames hbudget

/-- **An index that is there is kept within the budget.** -/
theorem provided_existing (hkeys : before.Pairwise fun a b => a.spec.keys ≠ b.spec.keys) {u : IndexUsage}
    (hu : u ∈ before) (hsame : u.spec.keys = spec.keys)
    (hparts : Parts before budget (fun name => name == u.name) gone rest) :
    Provided budget spec before (before.filter fun v => v.name ∉ gone.map IndexUsage.name)
      (.existing u.name (gone.map IndexUsage.name)) u.name (gone.map IndexUsage.name) where
  known v hv hkeysv := by
    have hstays := hparts.stays (u := u) (beq_self_eq_true _)
    have hvu : v = u := by
      by_contra hne
      have hsymm : Std.Symm fun a b : IndexUsage => a.spec.keys ≠ b.spec.keys := ⟨fun _ _ => Ne.symm⟩
      exact hkeys.forall hv hu hne (hkeysv.trans hsame.symm)
    refine ⟨rfl, congrArg _ hvu, hvu ▸ List.mem_filter.2 ⟨hu, decide_eq_true hstays⟩, ?_⟩
    have hlength := hparts.length_staying hnames
    have hgone := hparts.length_gone
    have hmay := Parts.length_others hnames u.name
    rw [hparts.perm.length_eq] at hgone
    omega
  new hnew := absurd hsame (hnew u hu)
  lowestFirst := ⟨gone, rfl, fun _ hv => hparts.mem_of_mem_gone hv, hparts.pairwise_gone⟩
  ranked v hv hstays hne w hw hgone :=
    hparts.ranksAbove hv hstays (beq_eq_false_iff_ne.2 hne) (hparts.mem_gone hnames hw hgone)
  stays v hv hstays := List.mem_filter.2 ⟨hv, decide_eq_true hstays⟩
  others v hv := .inl ((List.mem_filter.1 hv).imp_right of_decide_eq_true)
  names := hnames.sublist (List.filter_sublist.map _)

/-- **An index that is created gets a place of the budget.** -/
theorem provided_created (hnew : ∀ u ∈ before, u.spec.keys ≠ spec.keys)
    (hparts : Parts before (budget - 1) (fun _ => false) gone rest) {index : String} {after : List IndexUsage}
    (hfree : index ∉ (before.filter fun v => v.name ∉ gone.map IndexUsage.name).map IndexUsage.name)
    (hafter : after.Perm (⟨index, spec, 0⟩ :: before.filter fun v => v.name ∉ gone.map IndexUsage.name)) :
    Provided budget spec before after (.created index (gone.map IndexUsage.name)) index (gone.map IndexUsage.name) where
  known u hu hsame := absurd hsame (hnew u hu)
  new _ := by
    have hlength := hparts.length_staying hnames
    have hgone := hparts.length_gone_of_unprotected
    have hall : after.length = min before.length (budget - 1) + 1 := by
      rw [hafter.length_eq, List.length_cons]
      omega
    exact ⟨rfl, hafter.symm.subset List.mem_cons_self, hall, by omega⟩
  lowestFirst := ⟨gone, rfl, fun _ hv => hparts.mem_of_mem_gone hv, hparts.pairwise_gone⟩
  ranked v hv hstays _ w hw hgone := hparts.ranksAbove hv hstays rfl (hparts.mem_gone hnames hw hgone)
  stays v hv hstays :=
    hafter.symm.subset (List.mem_cons_of_mem _ (List.mem_filter.2 ⟨hv, decide_eq_true hstays⟩))
  others v hv := by
    rcases List.mem_cons.1 (hafter.subset hv) with hindex | hstays
    · exact .inr hindex
    · exact .inl ((List.mem_filter.1 hstays).imp_right of_decide_eq_true)
  names := by
    refine (hafter.map _).nodup_iff.2 (List.nodup_cons.2 ⟨hfree, ?_⟩)
    exact hnames.sublist (List.filter_sublist.map _)

end Providing

/-- A new index is one index more. -/
theorem usage_indexed {s : Store} {index : String} (hfree : Keyed.contains index (s.indexes collection) = false)
    (spec : IndexSpec) :
    ((s.indexed collection index spec).usage collection).Perm (⟨index, spec, 0⟩ :: s.usage collection) := by
  rw [Keyed.contains, Option.isSome_eq_false_iff, Option.isNone_iff_eq_none] at hfree
  unfold Store.usage
  rw [(Reindexed.indexed collection index spec s).indexes]
  exact (Keyed.insert_perm hfree { spec }).map _

/-- **The budget is kept, and only the least used indexes go for it.** Whenever making sure of an index succeeds for so
many keys as may be indexed, the index is there, one that was there before with what it served, and the collection
keeps its budget. What was evicted is told from the lowest ranked on, all others rank above it and stay as they were,
and the counters of indexes created and evicted tell by how many indexes there are more or fewer. Nothing else in the
store has changed. -/
theorem ensure_keepsBudget {paths : List String} {outcome : IndexOutcome} {t' : Tenant}
    (hnames : ((t.store.usage collection).map IndexUsage.name).Nodup)
    (hkeys : (t.store.usage collection).Pairwise fun a b => a.spec.keys ≠ b.spec.keys)
    (hbudget : 1 ≤ t.config.indexBudget.toNat) (hsome : 1 ≤ paths.eraseDups.length)
    (hmost : paths.eraseDups.length ≤ t.config.maxIndexKeys.toNat - 1)
    (hrun : (ensure collection paths).run t = (.ok outcome, t')) :
    (∃ index evicted, Provided t.config.indexBudget.toNat (.ascending paths.eraseDups) (t.store.usage collection)
        (t'.store.usage collection) outcome index evicted)
      ∧ (t'.metrics.indexesCreated : ℤ) - t'.metrics.indexesEvicted
          = t.metrics.indexesCreated - t.metrics.indexesEvicted
            + ((t'.store.usage collection).length - (t.store.usage collection).length)
      ∧ t'.store.documents collection = t.store.documents collection
      ∧ ∀ other, other ≠ collection → t'.store.collection other = t.store.collection other := by
  have hne : paths.eraseDups ≠ [] := List.ne_nil_of_length_pos hsome
  have hcatalog : (Keyed.keys (t.store.indexes collection)).Nodup := Store.map_name_usage _ _ ▸ hnames
  rw [run_ensure hne (by omega)] at hrun
  by_cases hreach : t.store.unavailable.contains collection
  · rw [run_provide_of_unavailable hreach] at hrun
    exact absurd (congrArg Prod.fst hrun) nofun
  rcases provide_cases (Bool.eq_false_iff.2 hreach) hcatalog (keys_ascending_ne_nil hne) with
    ⟨u, hu, hsame, gone, rest, s, hparts, hstaying, hends⟩ | ⟨hnew, gone, rest, s, hparts, hstaying, hends⟩
  · -- the index is there
    rw [hends] at hrun
    obtain rfl := Except.ok.inj (congrArg Prod.fst hrun)
    obtain rfl : t.maintained s 0 gone.length = t' := congrArg Prod.snd hrun
    have hafter := usage_of_staying hstaying
    have hlength := hparts.length_staying hnames
    refine ⟨⟨u.name, gone.map IndexUsage.name, ?_⟩, ?_, hstaying.documents, hstaying.elsewhere⟩
    · show Provided _ _ _ (s.usage collection) _ _ _
      rw [hafter]
      exact provided_existing hnames hbudget hkeys hu hsame hparts
    · show ((t.metrics.indexesCreated + 0 : ℕ) : ℤ) - (t.metrics.indexesEvicted + gone.length : ℕ)
        = _ + (((s.usage collection).length : ℤ) - _)
      rw [hafter]
      omega
  · rcases hends with ⟨-, hends⟩ | ⟨index, hfree, hends⟩
    · rw [hends] at hrun
      exact absurd (congrArg Prod.fst hrun) nofun
    -- the index is created
    rw [hends] at hrun
    obtain rfl := Except.ok.inj (congrArg Prod.fst hrun)
    obtain rfl : t.maintained (s.indexed collection index _) 1 gone.length = t' := congrArg Prod.snd hrun
    have hafter := usage_indexed hfree (.ascending paths.eraseDups)
    have hlength := hparts.length_staying hnames
    have hindexed := hstaying.trans (.indexed collection index (.ascending paths.eraseDups) s)
    have hnot : index ∉ (s.usage collection).map IndexUsage.name := by
      rw [Store.map_name_usage, ← Keyed.contains_iff_mem_keys]
      exact Bool.eq_false_iff.1 hfree
    rw [usage_of_staying hstaying] at hafter hnot
    refine ⟨⟨index, gone.map IndexUsage.name, provided_created hnames hbudget hnew hparts hnot hafter⟩, ?_,
      hindexed.documents, hindexed.elsewhere⟩
    show ((t.metrics.indexesCreated + 1 : ℕ) : ℤ) - (t.metrics.indexesEvicted + gone.length : ℕ)
      = _ + ((((s.indexed collection index _).usage collection).length : ℤ) - _)
    rw [hafter.length_eq, List.length_cons]
    omega

/-- A tenant with three indexes on the collection `c`, of which two served four reads each; there is room for two. -/
def crowded : Tenant where
  store := { collections := [("c", { indexes := [("a_1_b_1", ⟨.ascending ["a_1_b"], 0⟩),
    ("c_1", ⟨.ascending ["c"], 4⟩), ("d_1", ⟨.ascending ["d"], 4⟩)] })] }
  config := { indexBudget := 2 }
  clock := .epoch
  today := .epoch

/-- What becomes of these indexes when one on the fields `a` and `b` is needed: it takes the place of two. -/
def relieved : Store where
  collections := [("c", { indexes := [("a_1_b_1", ⟨.ascending ["a", "b"], 0⟩), ("c_1", ⟨.ascending ["c"], 4⟩)] })]

/-- The index that served no read goes first, then the last by name of those that served as many. -/
theorem run_ensure_crowded : (ensure "c" ["a", "b", "a"]).run crowded
    = (.ok (.created "a_1_b_1" ["a_1_b_1", "d_1"]), crowded.maintained relieved 1 2) := by
  have hvictims : victims (crowded.store.usage "c") (crowded.config.indexBudget.toNat - 1) (fun _ => false)
      = ["a_1_b_1", "d_1"] := by cbv
  rw [run_ensure (by decide) (by decide)]
  unfold provide
  rw [TenantAction.run_get_bind, run_bind, run_indexUsage rfl]
  -- ranking is what does not reduce by itself
  show ExceptT.run (evict "c" (crowded.store.usage "c") (crowded.config.indexBudget.toNat - 1) (fun _ => false) >>= _) _
    = _
  unfold evict
  dsimp only
  rw [hvictims]
  rfl

/-- **An index takes the place and the name of one that goes for it.** -/
theorem crowded_keepsBudget : ∃ outcome t', (ensure "c" ["a", "b", "a"]).run crowded = (.ok outcome, t')
    ∧ outcome = .created "a_1_b_1" ["a_1_b_1", "d_1"]
    ∧ t'.store.usage "c" = [⟨"a_1_b_1", .ascending ["a", "b"], 0⟩, ⟨"c_1", .ascending ["c"], 4⟩]
    ∧ ∃ index evicted, Provided 2 (.ascending ["a", "b"]) (crowded.store.usage "c") (t'.store.usage "c") outcome
      index evicted :=
  ⟨_, _, run_ensure_crowded, rfl, rfl, (ensure_keepsBudget (by decide +kernel) (by decide +kernel) (by decide)
    (by decide) (by decide) run_ensure_crowded).1⟩

/-! ## Failing to make sure of an index -/

/-- **Where a collection is full behind it nothing went**: an index that went would have left room below the limit. -/
theorem gone_eq_nil_of_full {limit keep : ℕ} {gone rest : List IndexUsage} {s : Store}
    (hcatalog : Store.WellIndexed limit (t.store.indexes collection))
    (hparts : Parts (t.store.usage collection) keep (fun _ => false) gone rest)
    (hstaying : Reindexed collection (staying (gone.map IndexUsage.name) (t.store.indexes collection)) t.store s)
    (hfull : limit ≤ (s.indexes collection).length) :
    gone = [] ∧ (t.store.indexes collection).length = limit ∧ limit ≤ keep := by
  have husage : ((t.store.usage collection).map IndexUsage.name).Nodup :=
    Store.map_name_usage _ _ ▸ hcatalog.sorted.nodup_keys
  have hlength := hparts.length_staying husage
  have hgone := hparts.length_gone_of_unprotected
  have hlimited := hcatalog.limited
  have hbefore : (t.store.usage collection).length = (t.store.indexes collection).length := List.length_map _
  have hafter : ((t.store.usage collection).filter fun u => u.name ∉ gone.map IndexUsage.name).length
      = (s.indexes collection).length := usage_of_staying hstaying ▸ List.length_map _
  have hnone : gone.length = 0 := by omega
  exact ⟨List.length_eq_zero_iff.1 hnone, by omega, by omega⟩

/-- **What fails has dropped nothing.** Where a store was reached from an empty one by any calls, making sure of an
index fails only because the collection cannot be reached, or because it has as many indexes as it may have and fewer
than the budget allows. Either way all collections are as they were, with their documents and with their indexes and
what these served, and nothing was counted. -/
theorem collection_of_ensure_error {limit : ℕ} {calls : List Store.Call} {paths : List String} {e : ReportError}
    {t' : Tenant} (hstore : t.store = Store.called calls { indexLimit := limit })
    (hrun : (ensure collection paths).run t = (.error e, t')) :
    (∀ other, t'.store.collection other = t.store.collection other) ∧ t'.metrics = t.metrics
      ∧ (e = .store "read index usage" (.unavailable collection)
        ∨ e = .store "create index" (.indexLimit collection limit)
          ∧ (t.store.indexes collection).length = limit ∧ limit ≤ t.config.indexBudget.toNat - 1) := by
  have hcataloged : Store.Cataloged limit t.store := hstore ▸ (Store.Cataloged.empty limit).called calls
  have hcatalog := hcataloged.indexes collection
  have hnames : (Keyed.keys (t.store.indexes collection)).Nodup := hcatalog.sorted.nodup_keys
  rcases ensure_cases collection paths t with ⟨reason, hskipped⟩ | ⟨hne, hprovide⟩
  · exact absurd (congrArg Prod.fst (hskipped.symm.trans hrun)) nofun
  rw [hprovide] at hrun
  by_cases hreach : t.store.unavailable.contains collection
  · rw [run_provide_of_unavailable hreach] at hrun
    obtain rfl := Except.error.inj (congrArg Prod.fst hrun)
    obtain rfl : t = t' := congrArg Prod.snd hrun
    exact ⟨fun _ => rfl, rfl, .inl rfl⟩
  rcases provide_cases (Bool.eq_false_iff.2 hreach) hnames (keys_ascending_ne_nil hne) with
    ⟨u, hu, hsame, gone, rest, s, hparts, hstaying, hends⟩ | ⟨hnew, gone, rest, s, hparts, hstaying, hends⟩
  · rw [hends] at hrun
    exact absurd (congrArg Prod.fst hrun) nofun
  rcases hends with ⟨hfull, hends⟩ | ⟨index, hfree, hends⟩
  · rw [hends] at hrun
    obtain rfl := Except.error.inj (congrArg Prod.fst hrun)
    obtain rfl : t.maintained (s.opened collection) 0 gone.length = t' := congrArg Prod.snd hrun
    have hlimit : s.indexLimit = limit := hstaying.indexLimit.trans hcataloged.limit_eq
    rw [hlimit] at hfull ⊢
    obtain ⟨rfl, hlength, hbudget⟩ := gone_eq_nil_of_full hcatalog hparts hstaying hfull
    have hsame := hstaying.trans (.opened collection s)
    rw [hstaying.indexes, staying, List.filter_eq_self.2 fun _ _ => by simp] at hsame
    exact ⟨hsame.collection_eq, rfl, .inr ⟨rfl, hlength, hbudget⟩⟩
  · rw [hends] at hrun
    exact absurd (congrArg Prod.fst hrun) nofun

/-- A tenant whose store holds one index for each collection at most, behind some calls. -/
def limited : Tenant where
  store := Store.called [.insert "c" [.object [("a", .bool true)]], .createIndex "c" (.ascending ["a"]),
    .count "c" (.compare "a" .eq (.bool true))] { indexLimit := 1 }
  clock := .epoch
  today := .epoch

/-- **An index that is refused costs no other one.** -/
theorem limited_collections : ∃ e t', (ensure "c" ["b"]).run limited = (.error e, t')
    ∧ e = .store "create index" (.indexLimit "c" 1)
    ∧ limited.store.usage "c" = [⟨"a_1", .ascending ["a"], 1⟩]
    ∧ ∀ other, t'.store.collection other = limited.store.collection other := by
  have hrun : ((ensure "c" ["b"]).run limited).1 = .error (.store "create index" (.indexLimit "c" 1)) := rfl
  exact ⟨_, _, Prod.ext hrun rfl, rfl, by decide +kernel, (collection_of_ensure_error rfl (Prod.ext hrun rfl)).1⟩

end IndexBudget

end Rollup
