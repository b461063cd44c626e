import Mathlib.Data.List.TakeWhile
import Rollup.Proofs.Answers
import Rollup.Proofs.IndexBudget
import Rollup.Proofs.Paging

/-!
# The index that a query is counted on

A query makes sure of an index over all paths it reads, and the store counts the read of the rows on the index that
serves it best. The two must agree: the paths that the compiler wants indexed, those that the index is made for, each
once, and those that the store knows the read to mention are the same.

The store takes the best fit there is (`exists_chooseIndex`). No index over different paths mentions more of a read in
a row than the read has paths, and one that mentions as many begins with all of them, in some order
(`IndexSpec.perm_of_fit`). The index that was made sure of reaches this bound and begins with the access groups, which
every query fixes; so what the store chooses does as well (`Query.isCounted_prepare`).
-/

namespace Rollup

/-! ## Lists without repetitions -/

/-- What is left when repetitions go does not repeat. -/
theorem nodup_eraseDups {α : Type} [BEq α] [LawfulBEq α] (l : List α) : l.eraseDups.Nodup := by
  induction h : l.length using Nat.strong_induction_on generalizing l with
  | _ n ih =>
    cases l with
    | nil => exact List.nodup_nil
    | cons a rest =>
      rw [List.eraseDups_cons, List.nodup_cons, List.mem_eraseDups]
      refine ⟨by simp, ih _ ?_ _ rfl⟩
      rw [← h, List.length_cons]
      exact Nat.lt_succ_of_le (List.length_filter_le _ _)

/-! ## Choosing an index -/

namespace IndexFit

/-- When one fit is better than another. -/
theorem betterThan_iff {a b : IndexFit} :
    a.betterThan b = true ↔ a.grade < b.grade ∨ a.grade = b.grade ∧ b.covered < a.covered := by
  simp [betterThan]

/-- No fit is better than itself. -/
theorem betterThan_self (a : IndexFit) : a.betterThan a = false := by
  rw [Bool.eq_false_iff, Ne, betterThan_iff]
  omega

/-- What does not beat a fit does not beat a better one. -/
theorem betterThan_eq_false {a b c : IndexFit} (hab : a.betterThan b = true) (hcb : c.betterThan b = false) :
    c.betterThan a = false := by
  rw [Bool.eq_false_iff, Ne, betterThan_iff] at hcb ⊢
  rw [betterThan_iff] at hab
  omega

end IndexFit

section Choosing

variable (filter : Predicate) (sortPaths : List String)

/-- The better one of the best index so far and the next. -/
def pickIndex (best : Option (String × IndexFit)) (p : String × IndexEntry) : Option (String × IndexFit) :=
  match best, p.2.spec.fit? filter sortPaths with
  | none, some fit => some (p.1, fit)
  | some (other, least), some fit => if fit.betterThan least then some (p.1, fit) else some (other, least)
  | best, none => best

/-- An index is chosen by going through all of them. -/
theorem chooseIndex_eq (indexes : Keyed IndexEntry) :
    chooseIndex indexes filter sortPaths = (indexes.foldl (pickIndex filter sortPaths) none).map Prod.fst := rfl

/-- **The best index among those seen**, if one of them serves the read. -/
structure IsBest (seen : Keyed IndexEntry) (best : Option (String × IndexFit)) : Prop where
  /-- It was seen, with this fit. -/
  mem : ∀ b ∈ best, ∃ e, (b.1, e) ∈ seen ∧ e.spec.fit? filter sortPaths = some b.2
  /-- No index that was seen fits better. -/
  least : ∀ p ∈ seen, ∀ fit, p.2.spec.fit? filter sortPaths = some fit → ∃ b ∈ best, fit.betterThan b.2 = false

variable {filter sortPaths} {best : Option (String × IndexFit)} {p : String × IndexEntry}

/-- An index that does not serve the read is passed over. -/
theorem pickIndex_of_none (hfit : p.2.spec.fit? filter sortPaths = none) :
    pickIndex filter sortPaths best p = best := by
  cases best <;> simp only [pickIndex, hfit]

/-- One that serves it is picked if it fits better than the best one so far. -/
theorem pickIndex_of_some {fit : IndexFit} (hfit : p.2.spec.fit? filter sortPaths = some fit) :
    pickIndex filter sortPaths best p = if ∀ b ∈ best, fit.betterThan b.2 = true then some (p.1, fit) else best := by
  cases best <;> simp [pickIndex, hfit]

/-- **One index more.** -/
theorem IsBest.pick {seen : Keyed IndexEntry} (h : IsBest filter sortPaths seen best) (p : String × IndexEntry) :
    IsBest filter sortPaths (seen ++ [p]) (pickIndex filter sortPaths best p) := by
  have hmem : ∀ b ∈ best, ∃ e, (b.1, e) ∈ seen ++ [p] ∧ e.spec.fit? filter sortPaths = some b.2 := fun b hb =>
    (h.mem b hb).imp fun _ he => ⟨List.mem_append_left _ he.1, he.2⟩
  have hcases : ∀ q ∈ seen ++ [p], q ∈ seen ∨ q = p := fun q hq =>
    (List.mem_append.1 hq).imp_right List.mem_singleton.1
  cases hfit : p.2.spec.fit? filter sortPaths with
  | none =>
    rw [pickIndex_of_none hfit]
    refine ⟨hmem, fun q hq other hother => ?_⟩
    rcases hcases q hq with hq | rfl
    · exact h.least q hq other hother
    · exact absurd (hfit.symm.trans hother) nofun
  | some fit =>
    rw [pickIndex_of_some hfit]
    split
    · next hbetter =>
      refine ⟨fun b hb => ?_, fun q hq other hother => ⟨(p.1, fit), rfl, ?_⟩⟩
      · obtain rfl := Option.some.inj hb
        exact ⟨p.2, List.mem_append_right _ List.mem_cons_self, hfit⟩
      · rcases hcases q hq with hq | rfl
        · obtain ⟨b, hb, hworse⟩ := h.least q hq other hother
          exact IndexFit.betterThan_eq_false (hbetter b hb) hworse
        · obtain rfl := Option.some.inj (hfit.symm.trans hother)
          exact IndexFit.betterThan_self fit
    · next hworse =>
      push Not at hworse
      refine ⟨hmem, fun q hq other hother => ?_⟩
      rcases hcases q hq with hq | rfl
      · exact h.least q hq other hother
      · obtain rfl := Option.some.inj (hfit.symm.trans hother)
        exact hworse.imp fun b hb => ⟨hb.1, Bool.eq_false_iff.2 hb.2⟩

/-- The best of all indexes is found. -/
theorem isBest_foldl (indexes : Keyed IndexEntry) {seen : Keyed IndexEntry} (h : IsBest filter sortPaths seen best) :
    IsBest filter sortPaths (seen ++ indexes) (indexes.foldl (pickIndex filter sortPaths) best) := by
  induction indexes generalizing seen best with
  | nil => rwa [List.append_nil]
  | cons p rest ih =>
    rw [List.append_cons]
    exact ih (h.pick p)

/-- **The index that is chosen fits best.** Where an index serves a read, one is chosen, and none fits better. -/
theorem exists_chooseIndex {indexes : Keyed IndexEntry} (hp : p ∈ indexes) {fit : IndexFit}
    (hfit : p.2.spec.fit? filter sortPaths = some fit) :
    ∃ name e chosen, chooseIndex indexes filter sortPaths = some name ∧ (name, e) ∈ indexes
      ∧ e.spec.fit? filter sortPaths = some chosen ∧ fit.betterThan chosen = false := by
  have hnone : IsBest filter sortPaths [] none := ⟨nofun, nofun⟩
  have hbest := isBest_foldl indexes hnone
  rw [List.nil_append] at hbest
  obtain ⟨⟨name, chosen⟩, hb, hworse⟩ := hbest.least p hp fit hfit
  obtain ⟨e, he, hchosen⟩ := hbest.mem _ hb
  refine ⟨name, e, chosen, ?_, he, hchosen, hworse⟩
  rw [chooseIndex_eq, hb]
  rfl

end Choosing

/-! ## How well an index serves a read -/

namespace IndexSpec

variable {filter : Predicate} {sortPaths : List String} {spec : IndexSpec} {fit : IndexFit}

/-- Whether a read mentions a path. -/
def mentions (filter : Predicate) (sortPaths : List String) (path : String) : Bool :=
  filter.paths.contains path || sortPaths.contains path

/-- An index covers the paths that it begins with and the read mentions. -/
theorem covered_of_fit (h : spec.fit? filter sortPaths = some fit) :
    fit.covered = (spec.paths.takeWhile (mentions filter sortPaths)).length := by
  unfold fit? at h
  split at h
  · exact absurd h nofun
  · next leading rest hpaths =>
    rw [hpaths]
    dsimp only at h
    split_ifs at h <;> exact (Option.some.inj h) ▸ rfl

/-- The best grade goes to indexes that begin with a path the read fixes. -/
theorem equalityPaths_of_fit (h : spec.fit? filter sortPaths = some fit) (hgrade : fit.grade = 0) :
    ∃ leading, spec.paths.head? = some leading ∧ leading ∈ filter.equalityPaths := by
  unfold fit? at h
  split at h
  · exact absurd h nofun
  · next leading rest hpaths =>
    refine ⟨leading, by rw [hpaths]; rfl, ?_⟩
    dsimp only at h
    split_ifs at h with hfixed
    · exact List.contains_iff_mem.1 hfixed
    all_goals
      obtain rfl := Option.some.inj h
      exact absurd hgrade nofun

/-- All of them get it. -/
theorem fit_of_equalityPaths {leading : String} (hleading : spec.paths.head? = some leading)
    (hfixed : leading ∈ filter.equalityPaths) :
    spec.fit? filter sortPaths = some ⟨0, (spec.paths.takeWhile (mentions filter sortPaths)).length⟩ := by
  unfold fit?
  split
  · next hpaths =>
    rw [hpaths] at hleading
    exact absurd hleading nofun
  · next first rest hpaths =>
    rw [hpaths] at hleading ⊢
    obtain rfl : first = leading := Option.some.inj hleading
    dsimp only
    rw [if_pos (List.contains_iff_mem.2 hfixed)]
    rfl

variable {keys : List String} (hkeys : ∀ path, mentions filter sortPaths path = true → path ∈ keys)
  (honce : spec.paths.Nodup) (h : spec.fit? filter sortPaths = some fit)
include hkeys honce

/-- An index over different paths covers paths of the read only, each once. -/
theorem subperm_takeWhile : (spec.paths.takeWhile (mentions filter sortPaths)).Subperm keys :=
  List.subperm_of_subset (honce.sublist (List.takeWhile_sublist _)) fun path hpath =>
    hkeys path (List.mem_takeWhile_imp hpath)

include h

/-- It covers no more paths than the read has. -/
theorem covered_le : fit.covered ≤ keys.length :=
  covered_of_fit h ▸ (subperm_takeWhile hkeys honce).length_le

/-- **An index that covers as many paths as the read has begins with them**, in some order. -/
theorem perm_of_fit (hall : keys.length ≤ fit.covered) : (spec.paths.take keys.length).Perm keys := by
  have hcovered := covered_of_fit h
  have hlength : fit.covered = keys.length := le_antisymm (covered_le hkeys honce h) hall
  have hperm := (subperm_takeWhile hkeys honce).perm_of_length_le (hcovered ▸ hall)
  have htake := List.prefix_iff_eq_take.1 <| List.takeWhile_prefix (l := spec.paths) (mentions filter sortPaths)
  rwa [htake, ← hcovered, hlength] at hperm

end IndexSpec

/-! ## The paths of a query -/

namespace Predicate

/-- What the parts read, part by part. -/
theorem readsAll_eq (parts : List Predicate) : readsAll parts = parts.flatMap reads := by
  induction parts with
  | nil => rfl
  | cons p rest ih => rw [readsAll, ih, List.flatMap_cons]

/-- What the parts fix, part by part. -/
theorem fixesAll_eq (parts : List Predicate) : fixesAll parts = parts.flatMap fixes := by
  induction parts with
  | nil => rfl
  | cons p rest ih => rw [fixesAll, ih, List.flatMap_cons]

/-- What says nothing has no paths. -/
theorem flatMap_filter {f : Predicate → List String} (hf : f .everything = []) (parts : List Predicate) :
    (parts.filter fun p => !p.isEverything).flatMap f = parts.flatMap f := by
  induction parts with
  | nil => rfl
  | cons p rest ih =>
    cases p with
    | everything => simpa [hf, isEverything] using ih
    | _ => simpa [isEverything] using ih

/-- **A conjunction reads what its parts read.** -/
theorem reads_allOf (parts : List Predicate) : (allOf parts).reads = parts.flatMap reads := by
  rw [← flatMap_filter rfl]
  unfold allOf
  split <;> simp [reads, readsAll_eq, *]

/-- **It fixes what its parts fix.** -/
theorem fixes_allOf (parts : List Predicate) : (allOf parts).fixes = parts.flatMap fixes := by
  rw [← flatMap_filter rfl]
  unfold allOf
  split <;> simp [fixes, fixesAll_eq, *]

end Predicate

/-! ## Catalogs that only index maintenance made -/

namespace Store

/-- **Indexes over paths that differ**, each with a name of its own. -/
structure PathsOnce (indexes : Keyed IndexEntry) : Prop where
  /-- The names increase. -/
  sorted : indexes.Sorted
  /-- No index has a path twice. -/
  nodup : ∀ p ∈ indexes, p.2.spec.paths.Nodup

namespace PathsOnce

variable {m n : Keyed IndexEntry}

/-- No indexes are such. -/
theorem nil : PathsOnce [] := ⟨.nil, fun _ hp => absurd hp List.not_mem_nil⟩

/-- Some of such indexes are such, whatever they served. -/
theorem of_sublist (h : PathsOnce m) (hsub : (specs n).Sublist (specs m)) : PathsOnce n where
  sorted := pairwise_of_specs (R := fun a b => a.1 < b.1) hsub h.sorted
  nodup p hp := by
    have hall : ∀ q ∈ specs m, q.2.paths.Nodup := List.forall_mem_map.2 h.nodup
    exact hall (p.1, p.2.spec) (hsub.subset (List.mem_map_of_mem hp))

/-- One more index over paths that differ may join them. -/
theorem insert (h : PathsOnce m) (index : String) {e : IndexEntry} (he : e.spec.paths.Nodup) :
    PathsOnce (Keyed.insert index e m) := by
  refine ⟨h.sorted.insert _ _, fun p hp => ?_⟩
  rcases Keyed.mem_insert hp with rfl | hp
  · exact he
  · exact h.nodup p hp

end PathsOnce

/-- **A collection whose indexes are over paths that differ.** -/
def PathsOnceIn (collection : String) (s : Store) : Prop := PathsOnce (s.indexes collection)

namespace PathsOnceIn

variable {collection name : String} {s : Store}

/-- A collection may be put in place that has such indexes. -/
theorem withCollection (h : s.PathsOnceIn collection) {c : Collection}
    (hc : name = collection → PathsOnce c.indexes) : (s.withCollection name c).PathsOnceIn collection := by
  unfold PathsOnceIn indexes
  by_cases hname : collection = name
  · rw [hname, collection_withCollection_self]
    exact hc hname.symm
  · rw [collection_withCollection_of_ne hname]
    exact h

/-- Indexes may go. -/
theorem hereditary (collection : String) : Hereditary (PathsOnceIn collection) where
  withCollection h hsub := h.withCollection fun hname => PathsOnce.of_sublist (hname ▸ h) hsub
  dropped {s} h name := by
    show PathsOnce (Option.getD (Keyed.get? collection (Keyed.erase name s.collections)) {}).indexes
    by_cases hname : collection = name
    · rw [hname, Keyed.get?_erase_self]
      exact .nil
    · rw [Keyed.get?_erase_of_ne hname]
      exact h
  setUnavailable h _ _ := h

/-- An index over paths that differ may be created. -/
theorem createIndex {spec : IndexSpec} (hspec : name = collection → spec.paths.Nodup) :
    Maintains (PathsOnceIn collection) (Store.createIndex name spec) := by
  have hopened : Maintains (PathsOnceIn collection) (Store.change name id) :=
    (hereditary collection).change name fun _ => List.Sublist.refl _
  have hindexed : ∀ index, Maintains (PathsOnceIn collection)
      (Store.change name fun c => { c with indexes := Keyed.insert index { spec } c.indexes }) :=
    fun index s h => h.withCollection fun hname => PathsOnce.insert (hname ▸ h) index (hspec hname)
  unfold Store.createIndex
  refine (maintains_requireAvailable name).bind fun _ => .ite (.throw_bind _ _)
    (hopened.bind fun _ => Maintains.get.bind fun s => ?_)
  dsimp only
  split
  · exact .pure _
  · exact .ite (.throw_bind _ _) ((hindexed _).bind fun _ => .pure _)

end PathsOnceIn

/-- **A store in which only index maintenance made the indexes of a collection**, which began with none. Whatever else
is called may drop them and count on them, but creates none there. -/
inductive OnlyEnsured (collection : String) : Store → Prop where
  /-- There is no index yet. -/
  | none {s : Store} (h : s.indexes collection = []) : OnlyEnsured collection s
  /-- An index is made sure of, successfully or not. -/
  | ensure {t : Tenant} (h : OnlyEnsured collection t.store) (name : String) (paths : List String) :
    OnlyEnsured collection ((IndexBudget.ensure name paths).run t).2.store
  /-- The store is called. -/
  | call {s : Store} (h : OnlyEnsured collection s) (c : Call) (hc : ∀ spec, c ≠ .createIndex collection spec) :
    OnlyEnsured collection (c.perform s)

end Store

/-! ## What a tenant keeps -/

section Tenant

variable {α : Type} {P : Store → Prop}

/-- What an action on the store maintains is maintained for the tenant. -/
theorem TenantAction.maintains_onStore (operation : String) {a : StoreAction α} (h : Maintains P a) :
    Maintains (fun t : Tenant => P t.store) (onStore operation a) := fun t ht => h t.store ht

/-- The counters are not in the store. -/
theorem TenantAction.maintains_meter (change : Metrics → Metrics) :
    Maintains (fun t : Tenant => P t.store) (meter change) := fun _ ht => ht

/-- A pure step maintains every property. -/
theorem TenantAction.maintains_ofExcept {ε : Type} {P : Tenant → Prop} (wrap : ε → ReportError) (result : Except ε α) :
    Maintains P (ofExcept wrap result) := by
  cases result with
  | error e => exact .throw _
  | ok a => exact .pure _

/-- Documents may be found. -/
theorem Store.Hereditary.find (h : Store.Hereditary P) (operation name : String) (filter : Predicate)
    (window : Store.Window) :
    Maintains (fun t : Tenant => P t.store) (TenantAction.onStore operation (Store.find name filter window)) :=
  fun _ ht => h.perform (c := .find name filter window) (fun _ _ => nofun) ht

end Tenant

namespace IndexSpec

/-- The paths of the index over some paths. -/
theorem paths_ascending (paths : List String) : (ascending paths).paths = paths := by
  unfold ascending IndexSpec.paths
  rw [List.map_map]
  exact List.map_id _

end IndexSpec

namespace IndexBudget

open Store (PathsOnceIn)

variable {collection : String}

/-- Making room keeps the paths of indexes apart. -/
theorem maintains_evict (name : String) (usage : List IndexUsage) (keep : ℕ) (isProtected : String → Bool) :
    Maintains (fun t : Tenant => t.store.PathsOnceIn collection) (evict name usage keep isProtected) := by
  refine Maintains.bind ?_ fun _ => (TenantAction.maintains_meter _).bind fun _ => .pure _
  induction victims usage keep isProtected with
  | nil => exact .pure _
  | cons index rest ih =>
    exact (TenantAction.maintains_onStore _ ((PathsOnceIn.hereditary collection).dropIndex name index)).bind fun _ => ih

/-- **Making sure of an index keeps the paths of indexes apart.** -/
theorem maintains_ensure (name : String) (paths : List String) :
    Maintains (fun t : Tenant => t.store.PathsOnceIn collection) (ensure name paths) := by
  have honce : (IndexSpec.ascending paths.eraseDups).paths.Nodup :=
    (IndexSpec.paths_ascending _).symm ▸ nodup_eraseDups paths
  have husage : Maintains (PathsOnceIn collection) (Store.indexUsage name) :=
    (Store.maintains_requireAvailable name).bind fun _ => Maintains.get.bind fun _ => .pure _
  refine Maintains.get.bind fun t => .ite (.pure _) (.ite (.pure _) ?_)
  unfold provide
  refine Maintains.get.bind fun t => (TenantAction.maintains_onStore _ husage).bind fun usage => ?_
  split
  · exact (maintains_evict _ _ _ _).bind fun _ => .pure _
  · exact (maintains_evict _ _ _ _).bind fun _ =>
      (TenantAction.maintains_onStore _ (PathsOnceIn.createIndex fun _ => honce)).bind fun _ =>
        (TenantAction.maintains_meter _).bind fun _ => .pure _

end IndexBudget

/-- **Indexes that only index maintenance made** are over paths that differ. -/
theorem Store.OnlyEnsured.pathsOnceIn {collection : String} {s : Store} (h : OnlyEnsured collection s) :
    s.PathsOnceIn collection := by
  induction h with
  | none h => exact (congrArg PathsOnce h).mpr .nil
  | ensure h name paths ih => exact IndexBudget.maintains_ensure name paths _ ih
  | call h c hc ih =>
    by_cases hcreate : ∃ name spec, c = .createIndex name spec
    · obtain ⟨name, spec, rfl⟩ := hcreate
      exact PathsOnceIn.createIndex (fun hname => absurd (hname ▸ rfl) (hc spec)) _ ih
    · exact (PathsOnceIn.hereditary collection).perform (fun name spec he => hcreate ⟨name, spec, he⟩) ih

/-! ## Preparing a query -/

namespace IndexBudget

variable {collection name : String} {evicted paths : List String} {outcome : IndexOutcome} {t t' : Tenant}

/-- **An index that was made sure of is there**, over the paths that were asked for, each once. -/
theorem exists_of_ensure (hnames : (Keyed.keys (t.store.indexes collection)).Nodup)
    (hrun : (ensure collection paths).run t = (.ok outcome, t'))
    (hindex : outcome = .existing name evicted ∨ outcome = .created name evicted) :
    t'.store.unavailable.contains collection = false
      ∧ ∃ e, (name, e) ∈ t'.store.indexes collection ∧ e.spec.paths = paths.eraseDups := by
  rcases ensure_cases collection paths t with ⟨reason, hskipped⟩ | ⟨hne, hprovide⟩
  · obtain rfl := Except.ok.inj (congrArg Prod.fst (hskipped.symm.trans hrun))
    rcases hindex with hindex | hindex <;> exact absurd hindex nofun
  rw [hprovide] at hrun
  by_cases hreach : t.store.unavailable.contains collection
  · rw [run_provide_of_unavailable hreach] at hrun
    exact absurd (congrArg Prod.fst hrun) nofun
  have hreach := Bool.eq_false_iff.2 hreach
  rcases provide_cases hreach hnames (keys_ascending_ne_nil hne) with
    ⟨u, hu, hsame, gone, rest, s, hparts, hstaying, hends⟩ | ⟨-, gone, rest, s, -, hstaying, hends⟩
  · rw [hends] at hrun
    obtain rfl := Except.ok.inj (congrArg Prod.fst hrun)
    obtain rfl : t.maintained s 0 gone.length = t' := congrArg Prod.snd hrun
    obtain ⟨rfl, -⟩ : u.name = name ∧ _ := by simpa using hindex
    have hstays : u ∈ s.usage collection := by
      rw [usage_of_staying hstaying]
      exact List.mem_filter.2 ⟨hu, decide_eq_true (hparts.stays (beq_self_eq_true _))⟩
    refine ⟨hstaying.unavailable ▸ hreach, ⟨u.spec, u.accesses⟩, mem_usage_iff.1 hstays, ?_⟩
    rw [IndexSpec.paths, hsame]
    exact IndexSpec.paths_ascending _
  · rcases hends with ⟨-, hends⟩ | ⟨index, -, hends⟩
    · rw [hends] at hrun
      exact absurd (congrArg Prod.fst hrun) nofun
    rw [hends] at hrun
    obtain rfl := Except.ok.inj (congrArg Prod.fst hrun)
    obtain rfl : t.maintained (s.indexed collection index _) 1 gone.length = t' := congrArg Prod.snd hrun
    obtain ⟨rfl, -⟩ : index = name ∧ _ := by simpa using hindex
    have hindexed := Store.Reindexed.indexed collection index (.ascending paths.eraseDups) s
    refine ⟨(hstaying.trans hindexed).unavailable ▸ hreach, { spec := .ascending paths.eraseDups }, ?_,
      IndexSpec.paths_ascending _⟩
    show _ ∈ Store.indexes collection (s.indexed collection index _)
    rw [hindexed.indexes]
    exact Keyed.mem_of_get? (Keyed.get?_insert_self _ _ _)

end IndexBudget

namespace CompiledFilter

variable {ctx : CompileContext} {conditions : List Condition} {combinator : String} {owners : List String}
  {f : CompiledFilter}

/-- The paths worth an index for the conditions of a report are those that its predicate reads. -/
theorem indexKeys_ofConditions (h : ofConditions ctx conditions combinator = .ok f) :
    f.indexKeys = f.predicate.paths := by
  unfold ofConditions at h
  obtain ⟨c, -, h⟩ := exists_of_bind_eq_ok h
  obtain ⟨⟨parts, skipped⟩, -, h⟩ := exists_of_bind_eq_ok h
  obtain rfl := Except.ok.inj h
  rfl

/-- **The paths worth an index for a query are those that its predicate reads**, and the access groups are fixed. -/
theorem paths_ofQuery (h : ofQuery ctx conditions combinator owners = .ok f) :
    (∀ path, path ∈ f.indexKeys ↔ path ∈ f.predicate.paths) ∧ f.indexKeys.head? = some ownersPath
      ∧ ownersPath ∈ f.predicate.equalityPaths := by
  unfold ofQuery at h
  obtain ⟨compiled, hcompiled, h⟩ := exists_of_bind_eq_ok h
  obtain rfl := Except.ok.inj h
  refine ⟨fun path => ?_, rfl, ?_⟩
  · dsimp only
    rw [indexKeys_ofConditions hcompiled, Predicate.paths, Predicate.paths, List.mem_cons, List.mem_filter,
      List.mem_eraseDups, List.mem_eraseDups, Predicate.reads_allOf]
    by_cases howners : path = ownersPath <;> simp [Predicate.reads, howners]
  · rw [Predicate.equalityPaths, List.mem_eraseDups, Predicate.fixes_allOf]
    exact List.mem_cons_self

end CompiledFilter

namespace Query

variable {q : Query} {t u t' : Tenant}

/-- **What a query is about**: its report, and the meaning of its conditions. -/
def understand (q : Query) : TenantAction (ReportId × ReportDefinition × CompiledFilter) := do
  let id ← TenantAction.ofExcept id (ReportId.parse q.reportId)
  let report ← Registry.load id
  let compiled ← q.compile report.appId
  return (id, report, compiled)

/-- What a query is prepared to once it is known what it is about. -/
def prepared (id : ReportId) (report : ReportDefinition) (compiled : CompiledFilter) : PreparedQuery where
  report := report
  collection := id.collection
  predicate := compiled.predicate
  presentation := Presentation.ofReport report.toReportContent

/-- **Preparing a query** is to see what it is about and to try to make sure of its index. -/
theorem prepare_eq (q : Query) : q.prepare = do
    let (id, report, compiled) ← q.understand
    let _ ← IndexBudget.tryEnsure id.collection
      (indexPaths compiled (Presentation.ofReport report.toReportContent))
    return prepared id report compiled := by
  unfold prepare understand
  simp only [bind_assoc, pure_bind]
  rfl

/-- A query is prepared where its index was made sure of. -/
theorem run_prepare {id : ReportId} {report : ReportDefinition} {compiled : CompiledFilter} {outcome : IndexOutcome}
    (hunderstood : q.understand.run t = (.ok (id, report, compiled), u))
    (hensured : (IndexBudget.ensure id.collection
      (indexPaths compiled (Presentation.ofReport report.toReportContent))).run u = (.ok outcome, t')) :
    q.prepare.run t = (.ok (prepared id report compiled), t') := by
  rw [prepare_eq, run_bind, hunderstood]
  dsimp only
  unfold IndexBudget.tryEnsure
  rw [run_bind, run_bind, TenantAction.run_outcome, hensured]
  rfl

/-- What is understood of a query was compiled for rows. -/
theorem exists_ofQuery {id : ReportId} {report : ReportDefinition} {compiled : CompiledFilter}
    (hunderstood : q.understand.run t = (.ok (id, report, compiled), u)) :
    ∃ ctx, CompiledFilter.ofQuery ctx q.conditions q.combinator q.owners = .ok compiled := by
  obtain ⟨id', u₁, -, hrest⟩ := exists_of_run_bind hunderstood
  obtain ⟨report', u₂, -, hrest⟩ := exists_of_run_bind hrest
  obtain ⟨compiled', u₃, hcompiled, hrest⟩ := exists_of_run_bind hrest
  obtain ⟨-, -, rfl⟩ : id' = id ∧ report' = report ∧ compiled' = compiled := by
    simpa using Except.ok.inj (congrArg Prod.fst hrest)
  have hanswer : (q.compile report'.appId).answer u₂ = .ok compiled' := congrArg Prod.fst hcompiled
  rw [answer_compile] at hanswer
  obtain ⟨period, -, hanswer⟩ := exists_of_bind_eq_ok hanswer
  exact ⟨_, eq_ok_of_mapError hanswer⟩

/-- **Understanding a query** keeps what holds of the indexes: it only reads. -/
theorem maintains_understand {P : Store → Prop} (h : Store.Hereditary P) (q : Query) :
    Maintains (fun t : Tenant => P t.store) q.understand := by
  have hload : ∀ id, Maintains (fun t : Tenant => P t.store) (Registry.load id) := by
    refine fun id => Maintains.bind ((h.find _ _ _ _).bind fun documents => ?_) fun _ =>
      TenantAction.maintains_ofExcept _ _
    split
    · refine Maintains.bind ?_ fun _ => .pure _
      unfold Registry.decode
      split
      · exact .pure _
      · exact .throw _
    · exact .pure _
  have hperiod : ∀ appId, Maintains (fun t : Tenant => P t.store) (Directory.processingPeriod appId) := by
    refine fun appId => Maintains.bind ((h.find _ _ _ _).bind fun documents => ?_) fun _ => .pure _
    unfold TenantAction.decodeAll
    split
    · exact .pure _
    · exact .throw _
  exact (TenantAction.maintains_ofExcept _ _).bind fun id => (hload id).bind fun report =>
    ((hperiod _).bind fun period => Maintains.get.bind fun t => (TenantAction.maintains_ofExcept _ _).bind
      fun _ => (TenantAction.maintains_meter _).bind fun _ => .pure _).bind fun compiled => .pure _

end Query

/-! ## Reading the rows -/

/-- **A read was counted** once, on an index of a collection, and nowhere else. -/
structure Store.CountedOn (collection index : String) (s s' : Store) : Prop where
  /-- The index served one read more. -/
  once : ∃ e, Keyed.get? index (s.indexes collection) = some e
    ∧ Keyed.get? index (s'.indexes collection) = some { e with accesses := e.accesses + 1 }
  /-- The other indexes served as many as before. -/
  others : ∀ other, other ≠ index →
    Keyed.get? other (s'.indexes collection) = Keyed.get? other (s.indexes collection)
  /-- The other collections are as they were. -/
  elsewhere : ∀ other, other ≠ collection → s'.collection other = s.collection other

/-- **A read is counted on the index that is chosen for it.** -/
theorem Store.countedOn_changed {name index : String} {filter : Predicate} {sortPaths : List String} {e : IndexEntry}
    {s : Store} (hchoice : chooseIndex (s.indexes name) filter sortPaths = some index)
    (hindex : Keyed.get? index (s.indexes name) = some e) :
    s.CountedOn name index (s.changed name (countAccess filter sortPaths)) := by
  have hexists : s.hasCollection name = true := by
    unfold hasCollection Keyed.contains
    unfold indexes collection at hindex
    cases hget : Keyed.get? name s.collections with
    | none => exact absurd (hget ▸ hindex) nofun
    | some c => rfl
  have hchanged : s.changed name (countAccess filter sortPaths)
      = s.withCollection name (countAccess filter sortPaths (s.collection name)) := if_pos hexists
  have hindexes : (s.changed name (countAccess filter sortPaths)).indexes name
      = Keyed.modify index (fun e => { e with accesses := e.accesses + 1 }) (s.indexes name) := by
    unfold indexes at hchoice ⊢
    rw [hchanged, collection_withCollection_self, countAccess, hchoice]
  refine ⟨⟨e, hindex, ?_⟩, fun other hother => ?_, fun other hother => ?_⟩
  · rw [hindexes, Keyed.get?_modify_self, hindex]
    rfl
  · rw [hindexes, Keyed.get?_modify_of_ne hother]
  · rw [hchanged]
    exact collection_withCollection_of_ne hother _ _

namespace PreparedQuery

variable {p : PreparedQuery} {t : Tenant}

/-- What reading a part of the rows does. -/
theorem run_listedPart (hreach : t.store.unavailable.contains p.collection = false) (skip : ℕ) (limit : Option ℕ) :
    ∃ rows, (p.listedPart skip limit).run t = (.ok rows, { t with
      store := t.store.changed p.collection (Store.countAccess p.predicate p.presentation.sortPaths) }) := by
  unfold listedPart read
  rw [TenantAction.run_onStore, Store.run_find, if_neg (Bool.eq_false_iff.1 hreach)]
  exact ⟨_, rfl⟩

/-- **An index covers a query**: it begins with a path that the query fixes, and with all paths of the query before
any other. -/
structure Covers (p : PreparedQuery) (keys : List String) (spec : IndexSpec) : Prop where
  /-- The first path is fixed. -/
  leading : ∃ path, spec.paths.head? = some path ∧ path ∈ p.predicate.equalityPaths
  /-- The paths of the query come first, in some order. -/
  keys : (spec.paths.take keys.length).Perm keys

/-- **Reading rows is counted on an index that covers the query**, where the query got an index. -/
structure IsCounted (p : PreparedQuery) (keys : List String) (name : String) (t : Tenant) : Prop where
  /-- The paths of the query are told once each. -/
  nodup : keys.Nodup
  /-- They are those of its predicate, the access groups among them, and those of its sorting. -/
  mem_keys : ∀ path, path ∈ keys ↔ path ∈ p.predicate.paths ∨ path ∈ p.presentation.sortPaths
  /-- The index that the query got is over them. -/
  got : ∃ e, Keyed.get? name (t.store.indexes p.collection) = some e ∧ e.spec.paths = keys
  /-- One index covers the query, the one it got unless another one begins with its paths, and every read of rows is
  counted on it, once. -/
  counted : ∃ index e, Keyed.get? index (t.store.indexes p.collection) = some e ∧ p.Covers keys e.spec
    ∧ ((∀ other e', Keyed.get? other (t.store.indexes p.collection) = some e' → other ≠ name →
      ¬ (e'.spec.paths.take keys.length).Perm keys) → index = name)
    ∧ ∀ skip limit, ∃ rows t', (p.listedPart skip limit).run t = (.ok rows, t')
      ∧ t.store.CountedOn p.collection index t'.store

/-- **The index that is chosen covers the query** where one over exactly its paths is there. -/
theorem exists_covering (honce : t.store.PathsOnceIn p.collection) {keys : List String}
    (hkeys : ∀ path, path ∈ keys ↔ path ∈ p.predicate.paths ∨ path ∈ p.presentation.sortPaths)
    {name first : String} {e : IndexEntry} (hindex : (name, e) ∈ t.store.indexes p.collection)
    (hpaths : e.spec.paths = keys) (hfirst : keys.head? = some first) (hfixed : first ∈ p.predicate.equalityPaths) :
    ∃ index chosen, chooseIndex (t.store.indexes p.collection) p.predicate p.presentation.sortPaths = some index
      ∧ (index, chosen) ∈ t.store.indexes p.collection ∧ p.Covers keys chosen.spec := by
  have hmentions : ∀ path, IndexSpec.mentions p.predicate p.presentation.sortPaths path = true ↔ path ∈ keys := by
    intro path
    rw [hkeys, IndexSpec.mentions, Bool.or_eq_true, List.contains_iff_mem, List.contains_iff_mem]
  have hcovered : e.spec.paths.takeWhile (IndexSpec.mentions p.predicate p.presentation.sortPaths) = keys := by
    rw [hpaths]
    exact List.takeWhile_eq_self_iff.2 fun path hpath => (hmentions path).2 hpath
  have hfit : e.spec.fit? p.predicate p.presentation.sortPaths = some ⟨0, _⟩ :=
    IndexSpec.fit_of_equalityPaths (hpaths ▸ hfirst) hfixed
  rw [hcovered] at hfit
  obtain ⟨index, chosen, fit, hchoice, hchosen, hbest, hworse⟩ := exists_chooseIndex hindex hfit
  -- no fit is better than to fix the first path and to cover all others
  rw [Bool.eq_false_iff, Ne, IndexFit.betterThan_iff] at hworse
  have hle := IndexSpec.covered_le (fun path h => (hmentions path).1 h) (honce.nodup _ hchosen) hbest
  dsimp only at hworse
  refine ⟨index, chosen, hchoice, hchosen, IndexSpec.equalityPaths_of_fit hbest (by omega), ?_⟩
  exact IndexSpec.perm_of_fit (fun path h => (hmentions path).1 h) (honce.nodup _ hchosen) hbest (by omega)

/-- **A query is counted on an index that covers it** where one over exactly its paths is there. -/
theorem isCounted_of_mem (hreach : t.store.unavailable.contains p.collection = false)
    (honce : t.store.PathsOnceIn p.collection) {keys : List String}
    (hkeys : ∀ path, path ∈ keys ↔ path ∈ p.predicate.paths ∨ path ∈ p.presentation.sortPaths)
    {name first : String} {e : IndexEntry} (hindex : (name, e) ∈ t.store.indexes p.collection)
    (hpaths : e.spec.paths = keys) (hfirst : keys.head? = some first) (hfixed : first ∈ p.predicate.equalityPaths) :
    p.IsCounted keys name t := by
  obtain ⟨index, chosen, hchoice, hchosen, hcovers⟩ := exists_covering honce hkeys hindex hpaths hfirst hfixed
  have hget := (Keyed.get?_eq_some_iff honce.sorted).2 hchosen
  refine ⟨hpaths ▸ honce.nodup _ hindex, hkeys, ⟨e, (Keyed.get?_eq_some_iff honce.sorted).2 hindex, hpaths⟩,
    index, chosen, hget, hcovers, fun halone => ?_, fun skip limit => ?_⟩
  · by_contra hother
    exact halone index chosen hget hother hcovers.keys
  · obtain ⟨rows, hrun⟩ := run_listedPart hreach skip limit
    exact ⟨rows, _, hrun, Store.countedOn_changed hchoice hget⟩

end PreparedQuery

namespace Query

/-- The paths worth an index for a query are those of its predicate and those of its sorting. -/
theorem mem_indexPaths {compiled : CompiledFilter} {presentation : Presentation} {path : String} :
    path ∈ indexPaths compiled presentation ↔ path ∈ compiled.indexKeys ∨ path ∈ presentation.sortPaths := by
  unfold indexPaths
  by_cases hpath : path ∈ compiled.indexKeys <;> simp [hpath]

/-- **A listing query is counted on an index that covers it.** Where only index maintenance made the indexes on the
rows of a report, and a query got its index, one that was there or a new one, the read of the rows that follows is
counted once and on one index only. This index begins with a path that the query fixes, and with all paths of the
query, in some order; it is the one that the query got unless another one begins with them. -/
theorem isCounted_prepare {q : Query} {id : ReportId} {report : ReportDefinition} {compiled : CompiledFilter}
    {outcome : IndexOutcome} {name : String} {evicted : List String} {t u t' : Tenant}
    (hcatalog : t.store.OnlyEnsured id.collection)
    (hunderstood : q.understand.run t = (.ok (id, report, compiled), u)) (hmode : report.mode.isGroup = false)
    (hensured : (IndexBudget.ensure id.collection
      (indexPaths compiled (Presentation.ofReport report.toReportContent))).run u = (.ok outcome, t'))
    (hindex : outcome = .existing name evicted ∨ outcome = .created name evicted) :
    ∃ p, q.prepare.run t = (.ok p, t') ∧ p.report = report ∧ p.collection = id.collection
      ∧ (∀ skip limit, p.pageRows skip limit = do
          let rows ← p.listedPart skip limit
          let total ← p.count
          return (← p.label rows, total))
      ∧ ∃ keys, p.IsCounted keys name t' := by
  obtain ⟨ctx, hcompiled⟩ := exists_ofQuery hunderstood
  obtain ⟨hpredicate, hfirst, hfixed⟩ := CompiledFilter.paths_ofQuery hcompiled
  have honce : u.store.PathsOnceIn id.collection := by
    have hkept := maintains_understand (Store.PathsOnceIn.hereditary id.collection) q t hcatalog.pathsOnceIn
    rwa [hunderstood] at hkept
  have honce' : t'.store.PathsOnceIn id.collection := by
    have hkept := IndexBudget.maintains_ensure id.collection
      (indexPaths compiled (Presentation.ofReport report.toReportContent)) u honce
    rwa [hensured] at hkept
  obtain ⟨hreach, e, he, hpaths⟩ := IndexBudget.exists_of_ensure honce.sorted.nodup_keys hensured hindex
  refine ⟨prepared id report compiled, run_prepare hunderstood hensured, rfl, rfl, fun skip limit => ?_, _,
    PreparedQuery.isCounted_of_mem hreach honce' (fun path => ?_) he hpaths ?_ hfixed⟩
  · unfold PreparedQuery.pageRows
    rw [show (prepared id report compiled).report.mode.isGroup = false from hmode]
    rfl
  · rw [List.mem_eraseDups, mem_indexPaths, hpredicate]
    rfl
  · unfold indexPaths
    cases hkeys : compiled.indexKeys with
    | nil => exact absurd (hkeys ▸ hfirst) nofun
    | cons path rest =>
      rw [hkeys] at hfirst
      rw [List.cons_append, List.eraseDups_cons]
      exact hfirst

/-- The query for a visit by its number. -/
def oneVisit : Query :=
  { reportId := "guests", conditions := [{ fieldId := "item_id", fieldType := .check, searchValue := "2" }]
    combinator := "and", owners := ["family"] }

/-- The guest book with an index over numbers and access groups, in this order. -/
def numberedBook : Tenant :=
  ((IndexBudget.ensure guestsReport.reportId.collection ["item_id", "owners"]).run guestBook.tenant).2

/-- **A query may be counted on another index than the one it got.** The index over numbers and access groups covers
the query as well as the one over access groups and numbers, and comes first by name. -/
theorem isCounted_oneVisit :
    (∃ p keys t', oneVisit.prepare.run numberedBook = (.ok p, t') ∧ p.IsCounted keys "owners_1_item_id_1" t')
      ∧ ((oneVisit.prepare >>= fun p => p.listedPart 0 none).run numberedBook).2.store.usage
          guestsReport.reportId.collection
        = [⟨"item_id_1_owners_1", .ascending ["item_id", "owners"], 1⟩,
          ⟨"owners_1_item_id_1", .ascending ["owners", "item_id"], 0⟩] := by
  have hfacts : (oneVisit.understand.run numberedBook).1.toOption.map
      (fun x => (x.1.collection, x.2.1.mode.isGroup, indexPaths x.2.2 (Presentation.ofReport x.2.1.toReportContent)))
      = some (guestsReport.reportId.collection, false, ["owners", "item_id"]) := by
    decide +kernel
  obtain ⟨⟨id, report, compiled⟩, hunderstood, hfacts⟩ := Option.map_eq_some_iff.1 hfacts
  obtain ⟨hcollection, hmode, hpaths⟩ := by simpa only [Prod.mk.injEq] using hfacts
  have hensured : ((IndexBudget.ensure guestsReport.reportId.collection ["owners", "item_id"]).run
      (oneVisit.understand.run numberedBook).2).1 = .ok (.created "owners_1_item_id_1" []) :=
    eq_ok_of_toOption (by decide +kernel)
  have hcatalog : numberedBook.store.OnlyEnsured guestsReport.reportId.collection :=
    .ensure (.none rfl) _ _
  refine ⟨?_, by decide +kernel⟩
  obtain ⟨p, hprepare, -, -, -, keys, hcounted⟩ := isCounted_prepare (hcollection ▸ hcatalog)
    (Prod.ext (eq_ok_of_toOption hunderstood) rfl) hmode
    (Prod.ext (hcollection ▸ hpaths ▸ hensured) rfl) (.inr rfl)
  exact ⟨p, keys, _, hprepare, hcounted⟩

end Query

end Rollup
