import Rollup.Proofs.Labelling
import Rollup.Proofs.Matching
import Rollup.Proofs.Sorting

/-!
# Resolving catalogs

Lookups among the fields of a datastore lead to other datastores, perhaps in circles. A catalog is resolved by
going after them with a list of pending datastores, which may hold a datastore several times and grows with every
one that is loaded. It comes to an end all the same: every load puts no more datastores on the list than there are
field documents of the loaded datastore, and no datastore is loaded twice (`Catalog.length_newTargets_add_unread`).

The loop is one for any way of loading fields (`Catalog.explore`). With a way that notes what is loaded it is the
loop of `Catalog.resolve` with notes (`Catalog.resolve_eq_noting`). A search that came to an end is kept as what was
loaded one after the other (`Catalog.Search`), and what such a search finds is shown by induction on it: the catalog
holds the datastores that were loaded, and these are the least that lookups do not lead out of
(`Catalog.resolve_isResolved`).
-/

namespace Rollup

open Std (TransCmp)
open TenantAction (Reads answer answer_bind)

instance : TransCmp Instant.order :=
  inferInstanceAs (TransCmp (compareLex (compareOn Instant.seconds) (compareOn Instant.nanos)))

namespace Field

/-- The datastore of a field stands among the members of its document. -/
theorem exists_members_of_decode? {document : Json} {f : Field} (h : decode? document = some f) :
    ∃ members, Decode.members? declared document = some members
      ∧ Keyed.get? "datastore_id" members = some (.string f.datastoreId) := by
  obtain ⟨members, hmembers, h⟩ := Option.bind_eq_some_iff.1 h
  obtain ⟨_, -, h⟩ := Option.bind_eq_some_iff.1 h
  obtain ⟨_, -, h⟩ := Option.bind_eq_some_iff.1 h
  obtain ⟨datastoreId, hdatastore, h⟩ := Option.bind_eq_some_iff.1 h
  -- the other members are read after it
  iterate 13 obtain ⟨_, -, h⟩ := Option.bind_eq_some_iff.1 h
  obtain rfl : datastoreId = f.datastoreId := congrArg Field.datastoreId (Option.some.inj h)
  exact ⟨members, hmembers, Decode.get?_of_required_text hdatastore⟩

/-- **The fields that are found for a datastore are its fields.** -/
theorem datastoreId_of_holds_scope {document : Json} {f : Field} (h : decode? document = some f)
    {appId datastoreId : String} (hfound : (Catalog.scope appId datastoreId).holds document = true) :
    f.datastoreId = datastoreId := by
  have hequal : (Predicate.compare "datastore_id" .eq (.text datastoreId)).holds document = true := by
    rw [Catalog.scope, Predicate.holds_allOf] at hfound
    exact List.all_eq_true.1 hfound _ (by simp)
  have hread := Document.get?_of_isName (by decide : Document.IsName "datastore_id") document
  cases document with
  | object pairs =>
    obtain ⟨members, hmembers, hget⟩ := exists_members_of_decode? h
    obtain rfl := Decode.eq_of_members?_object hmembers
    rw [Predicate.holds_compare_text (hread.trans hget)] at hequal
    exact of_decide_eq_true hequal
  | _ =>
    -- what stands at a place in a list is not found by its name
    rw [Predicate.holds, hread] at hequal
    exact absurd hequal Bool.false_ne_true

end Field

namespace Catalog

/-! ## The loop -/

/-- The datastores that lookups among fields lead to and that are not in the catalog. -/
def newTargets (fields : List Field) (c : Catalog) : List (String × String) :=
  (fields.filterMap Field.lookupTarget?).filter fun (_, id) => !Keyed.contains id c.fields

/-- The catalog with the fields of one more datastore. -/
def withFields (datastoreId : String) (fields : List Field) (c : Catalog) : Catalog :=
  { c with fields := Keyed.insert datastoreId fields c.fields }

/-- The catalog before anything is loaded. -/
def start (datastoreId : String) : Catalog := { root := datastoreId, fields := [] }

/-- **Takes pending datastores one by one**, with any way of loading their fields, and tells what is pending at the
end as well. -/
def explore {m : Type → Type} [Monad m] (load : String → String → m (List Field)) :
    ℕ → List (String × String) → Catalog → m (List (String × String) × Catalog)
  | _, [], c => pure ([], c)
  | 0, first :: pending, c => pure (first :: pending, c)
  | fuel + 1, (appId, datastoreId) :: pending, c =>
    if Keyed.contains datastoreId c.fields then explore load fuel pending c
    else do
      let fields := arrange (← load appId datastoreId)
      explore load fuel (pending ++ c.newTargets fields) (c.withFields datastoreId fields)

/-- **Loads the fields of a datastore and notes that it does.** -/
def noting (appId datastoreId : String) : StateT (List (String × String)) TenantAction (List Field) := do
  modify fun noted => noted ++ [(appId, datastoreId)]
  loadFields appId datastoreId

/-- **Resolves the catalog of a datastore in a number of steps**; it tells what is pending then, the catalog and what
was loaded. -/
def resolveNoting (steps : ℕ) (appId datastoreId : String) :
    TenantAction ((List (String × String) × Catalog) × List (String × String)) :=
  (explore noting steps [(appId, datastoreId)] (start datastoreId)).run []

/-- Resolving takes pending datastores one by one. -/
theorem resolveFrom_eq (fuel : ℕ) (pending : List (String × String)) (c : Catalog) :
    resolveFrom fuel pending c = Prod.snd <$> explore loadFields fuel pending c := by
  induction fuel generalizing pending c with
  | zero => cases pending <;> rfl
  | succ fuel ih =>
    cases pending with
    | nil => rfl
    | cons first pending =>
      unfold resolveFrom explore
      split
      · exact ih _ _
      · rw [map_bind]
        exact bind_congr fun _ => ih _ _

/-- One step of the loop with notes, at a datastore that is not in the catalog. -/
theorem run_explore_noting_of_new {datastoreId : String} {c : Catalog}
    (h : Keyed.contains datastoreId c.fields = false) (fuel : ℕ) (appId : String)
    (pending noted : List (String × String)) :
    (explore noting (fuel + 1) ((appId, datastoreId) :: pending) c).run noted
      = loadFields appId datastoreId >>= fun loaded =>
        (explore noting fuel (pending ++ c.newTargets (arrange loaded)) (c.withFields datastoreId (arrange loaded))).run
          (noted ++ [(appId, datastoreId)]) := by
  rw [explore, if_neg (Bool.eq_false_iff.1 h), noting]
  simp

/-- The loop without notes is the loop with notes. -/
theorem explore_eq_noting (fuel : ℕ) (pending : List (String × String)) (c : Catalog)
    (noted : List (String × String)) :
    explore loadFields fuel pending c = Prod.fst <$> (explore noting fuel pending c).run noted := by
  induction fuel generalizing pending c noted with
  | zero => cases pending <;> rfl
  | succ fuel ih =>
    cases pending with
    | nil => rfl
    | cons first pending =>
      obtain ⟨appId, datastoreId⟩ := first
      cases h : Keyed.contains datastoreId c.fields with
      | true =>
        rw [explore, explore, if_pos h, if_pos h]
        exact ih _ _ _
      | false =>
        rw [run_explore_noting_of_new h, map_bind, explore, if_neg (Bool.eq_false_iff.1 h)]
        exact bind_congr fun _ => ih _ _ _

/-- **Resolving is resolving with notes**, in one step more than there are field documents. -/
theorem resolve_eq_noting (appId datastoreId : String) :
    resolve appId datastoreId = MonadState.get >>= fun t =>
      (fun ended => ended.1.2) <$> resolveNoting ((t.store.documents Store.fields).length + 1) appId datastoreId := by
  refine bind_congr fun t => ?_
  rw [resolveFrom_eq, explore_eq_noting _ _ _ [], ← comp_map]
  rfl

/-- Noting what is loaded writes nothing. -/
theorem reads_explore_noting (fuel : ℕ) (pending : List (String × String)) (c : Catalog)
    (noted : List (String × String)) : Reads .univ ((explore noting fuel pending c).run noted) := by
  induction fuel generalizing pending c noted with
  | zero => cases pending <;> exact .pure _ _
  | succ fuel ih =>
    cases pending with
    | nil => exact .pure _ _
    | cons first pending =>
      obtain ⟨appId, datastoreId⟩ := first
      cases h : Keyed.contains datastoreId c.fields with
      | true =>
        rw [explore, if_pos h]
        exact ih _ _ _
      | false =>
        rw [run_explore_noting_of_new h]
        exact (reads_loadFields (Set.subset_univ _) _ _).bind fun _ => ih _ _ _

/-- Resolving with notes writes nothing. -/
theorem reads_resolveNoting (steps : ℕ) (appId datastoreId : String) :
    Reads .univ (resolveNoting steps appId datastoreId) := reads_explore_noting _ _ _ _

/-! ## What a search finds -/

/-- **A search that came to an end**: where it began, what it loaded one after the other, and the catalog that it
left. -/
inductive Search (load : String → String → List Field) :
    List (String × String) → Catalog → List (String × String) → Catalog → Prop
  /-- Nothing is pending. -/
  | done (c : Catalog) : Search load [] c [] c
  /-- A pending datastore is in the catalog. -/
  | skip {appId datastoreId : String} {pending loads : List (String × String)} {c found : Catalog}
    (known : Keyed.contains datastoreId c.fields = true) (rest : Search load pending c loads found) :
    Search load ((appId, datastoreId) :: pending) c loads found
  /-- A pending datastore is loaded. -/
  | load {appId datastoreId : String} {pending loads : List (String × String)} {c found : Catalog}
    (unknown : Keyed.contains datastoreId c.fields = false)
    (rest : Search load (pending ++ c.newTargets (arrange (load appId datastoreId)))
      (c.withFields datastoreId (arrange (load appId datastoreId))) loads found) :
    Search load ((appId, datastoreId) :: pending) c ((appId, datastoreId) :: loads) found

section Fields

variable {c : Catalog} {id other : String} {fields : List Field}

/-- The fields that were just put into a catalog. -/
theorem fieldsOf?_withFields_self : (c.withFields id fields).fieldsOf? id = some fields :=
  Keyed.get?_insert_self _ _ _

/-- Other datastores keep their fields. -/
theorem fieldsOf?_withFields_of_ne (h : other ≠ id) : (c.withFields id fields).fieldsOf? other = c.fieldsOf? other :=
  Keyed.get?_insert_of_ne h _ _

/-- A datastore is in the catalog when its fields are. -/
theorem contains_eq_isSome : Keyed.contains id c.fields = (c.fieldsOf? id).isSome := rfl

/-- A datastore is in the extended catalog when it is the new one or was there. -/
theorem isSome_fieldsOf?_withFields :
    ((c.withFields id fields).fieldsOf? other).isSome = true ↔ other = id ∨ (c.fieldsOf? other).isSome = true := by
  by_cases h : other = id
  · rw [h, fieldsOf?_withFields_self]
    exact ⟨fun _ => .inl rfl, fun _ => rfl⟩
  · rw [fieldsOf?_withFields_of_ne h]
    exact ⟨.inr, fun hor => hor.resolve_left h⟩

/-- What a lookup leads to is pending, unless it is in the catalog. -/
theorem mem_newTargets {target : String × String} : target ∈ c.newTargets fields
    ↔ (∃ f ∈ fields, f.lookupTarget? = some target) ∧ (c.fieldsOf? target.2).isSome = false := by
  obtain ⟨appId, id⟩ := target
  rw [newTargets, List.mem_filter, List.mem_filterMap, Bool.not_eq_true']
  rfl

end Fields

namespace Search

variable {load : String → String → List Field} {pending loads : List (String × String)} {c found : Catalog}
  (h : Search load pending c loads found)
include h

/-- The root stays. -/
theorem root : found.root = c.root := by
  induction h with
  | done c => rfl
  | skip _ _ ih => exact ih
  | load _ _ ih => exact ih

/-- What is in the catalog stays in it. -/
theorem fieldsOf?_of_known {id : String} {fields : List Field} (hknown : c.fieldsOf? id = some fields) :
    found.fieldsOf? id = some fields := by
  induction h with
  | done c => exact hknown
  | skip _ _ ih => exact ih hknown
  | @load appId datastoreId _ _ c _ unknown _ ih =>
    refine ih ((fieldsOf?_withFields_of_ne ?_).trans hknown)
    rintro rfl
    rw [contains_eq_isSome, hknown] at unknown
    exact absurd unknown nofun

/-- **Nothing is loaded that is in the catalog.** -/
theorem unknown_of_loaded {id : String} (hloaded : id ∈ loads.map Prod.snd) : (c.fieldsOf? id).isSome = false := by
  induction h with
  | done c => exact absurd hloaded List.not_mem_nil
  | skip _ _ ih => exact ih hloaded
  | load unknown _ ih =>
    rcases List.mem_cons.1 hloaded with rfl | hloaded
    · exact unknown
    · by_contra hknown
      rw [Bool.not_eq_false] at hknown
      exact absurd (ih hloaded) (Bool.not_eq_false _ ▸ isSome_fieldsOf?_withFields.2 (.inr hknown))

/-- **No datastore is loaded twice.** -/
theorem once : (loads.map Prod.snd).Nodup := by
  induction h with
  | done c => exact List.nodup_nil
  | skip _ _ ih => exact ih
  | load _ rest ih =>
    refine List.nodup_cons.2 ⟨fun hagain => ?_, ih⟩
    have hunknown := rest.unknown_of_loaded hagain
    rw [fieldsOf?_withFields_self] at hunknown
    exact absurd hunknown nofun

/-- **The fields of a loaded datastore** are in the catalog. -/
theorem fieldsOf?_of_loaded {appId id : String} (hloaded : (appId, id) ∈ loads) :
    found.fieldsOf? id = some (arrange (load appId id)) := by
  induction h with
  | done c => exact absurd hloaded List.not_mem_nil
  | skip _ _ ih => exact ih hloaded
  | load _ rest ih =>
    rcases List.mem_cons.1 hloaded with hfirst | hloaded
    · obtain ⟨rfl, rfl⟩ := Prod.mk.inj hfirst
      exact rest.fieldsOf?_of_known fieldsOf?_withFields_self
    · exact ih hloaded

/-- **What is found was there or was loaded.** -/
theorem known_or_loaded {id : String} (hfound : (found.fieldsOf? id).isSome = true) :
    (c.fieldsOf? id).isSome = true ∨ id ∈ loads.map Prod.snd := by
  induction h with
  | done c => exact .inl hfound
  | skip _ _ ih => exact ih hfound
  | load _ _ ih =>
    rcases ih hfound with hknown | hloaded
    · rcases isSome_fieldsOf?_withFields.1 hknown with rfl | hknown
      · exact .inr List.mem_cons_self
      · exact .inl hknown
    · exact .inr (List.mem_cons_of_mem _ hloaded)

/-- What is in the catalog is found. -/
theorem isSome_of_known {id : String} (hknown : (c.fieldsOf? id).isSome = true) :
    (found.fieldsOf? id).isSome = true := by
  obtain ⟨fields, hfields⟩ := Option.isSome_iff_exists.1 hknown
  rw [h.fieldsOf?_of_known hfields]
  rfl

/-- **What is pending is found.** -/
theorem isSome_of_pending {target : String × String} (hpending : target ∈ pending) :
    (found.fieldsOf? target.2).isSome = true := by
  induction h with
  | done c => exact absurd hpending List.not_mem_nil
  | skip known rest ih =>
    rcases List.mem_cons.1 hpending with rfl | hpending
    · exact rest.isSome_of_known known
    · exact ih hpending
  | load _ rest ih =>
    rcases List.mem_cons.1 hpending with rfl | hpending
    · rw [rest.fieldsOf?_of_known fieldsOf?_withFields_self]
      rfl
    · exact ih (List.mem_append_left _ hpending)

/-- **What a lookup of a loaded datastore leads to is found.** -/
theorem isSome_of_target {appId id : String} (hloaded : (appId, id) ∈ loads) {f : Field}
    (hf : f ∈ arrange (load appId id)) {target : String × String} (htarget : f.lookupTarget? = some target) :
    (found.fieldsOf? target.2).isSome = true := by
  induction h with
  | done c => exact absurd hloaded List.not_mem_nil
  | skip _ _ ih => exact ih hloaded
  | @load firstApp first pending loads c found unknown rest ih =>
    rcases List.mem_cons.1 hloaded with hfirst | hloaded
    · obtain ⟨rfl, rfl⟩ := Prod.mk.inj hfirst
      cases hknown : (c.fieldsOf? target.2).isSome with
      | true => exact rest.isSome_of_known (isSome_fieldsOf?_withFields.2 (.inr hknown))
      | false =>
        exact rest.isSome_of_pending (List.mem_append_right _ (mem_newTargets.2 ⟨⟨f, hf, htarget⟩, hknown⟩))
    · exact ih hloaded

/-- **A datastore is loaded because it was pending or because a lookup leads to it.** -/
theorem pending_or_target {target : String × String} (hloaded : target ∈ loads) : target ∈ pending
    ∨ ∃ source ∈ loads, ∃ f ∈ arrange (load source.1 source.2), f.lookupTarget? = some target := by
  induction h with
  | done c => exact absurd hloaded List.not_mem_nil
  | skip _ _ ih => exact (ih hloaded).imp_left (List.mem_cons_of_mem _)
  | load _ _ ih =>
    rcases List.mem_cons.1 hloaded with rfl | hloaded
    · exact .inl List.mem_cons_self
    · rcases ih hloaded with hpending | ⟨source, hsource, hleads⟩
      · rcases List.mem_append.1 hpending with hpending | hnew
        · exact .inl (List.mem_cons_of_mem _ hpending)
        · exact .inr ⟨_, List.mem_cons_self, (mem_newTargets.1 hnew).1⟩
      · exact .inr ⟨source, List.mem_cons_of_mem _ hsource, hleads⟩

/-- **Nothing is loaded that one cannot get to**: what holds of the pending datastores, and of what lookups lead to
from a loaded one it holds of, holds of all that are loaded. -/
theorem of_loaded {P : String → Prop} (hpending : ∀ target ∈ pending, P target.2)
    (hleads : ∀ source ∈ loads, P source.2 → ∀ f ∈ arrange (load source.1 source.2), ∀ target,
      f.lookupTarget? = some target → P target.2) {id : String} (hloaded : id ∈ loads.map Prod.snd) : P id := by
  induction h with
  | done c => exact absurd hloaded List.not_mem_nil
  | skip _ _ ih => exact ih (fun target htarget => hpending target (List.mem_cons_of_mem _ htarget)) hleads hloaded
  | load _ _ ih =>
    have hfirst := hpending _ List.mem_cons_self
    rcases List.mem_cons.1 hloaded with rfl | hloaded
    · exact hfirst
    · refine ih (fun target htarget => ?_) (fun source hsource => hleads source (List.mem_cons_of_mem _ hsource)) hloaded
      rcases List.mem_append.1 htarget with htarget | hnew
      · exact hpending target (List.mem_cons_of_mem _ htarget)
      · obtain ⟨f, hf, hleadsTo⟩ := (mem_newTargets.1 hnew).1
        exact hleads _ List.mem_cons_self hfirst f hf target hleadsTo

end Search

/-! ## Searches come to an end -/

section Loading

variable (t : Tenant)

/-- The fields of all datastores that a tenant holds. -/
def allFields : List Field := (t.store.documents Store.fields).filterMap Field.decode?

/-- The fields of a datastore that a tenant holds. -/
def fieldsIn (appId datastoreId : String) : List Field :=
  ((t.store.documents Store.fields).filter (scope appId datastoreId).holds).filterMap Field.decode?

/-- The fields that are not in the catalog. -/
def unread (c : Catalog) : List Field := (allFields t).filter fun f => !Keyed.contains f.datastoreId c.fields

variable {t}

/-- **There are no more fields of a datastore than of all.** -/
theorem fieldsIn_sublist (appId datastoreId : String) :
    (fieldsIn t appId datastoreId).Sublist ((allFields t).filter fun f => f.datastoreId = datastoreId) := by
  have hall : (fieldsIn t appId datastoreId).Sublist (allFields t) := List.filter_sublist.filterMap _
  have hown : (fieldsIn t appId datastoreId).filter (fun f => f.datastoreId = datastoreId)
      = fieldsIn t appId datastoreId :=
    List.filter_eq_self.2 fun f hf => by
      obtain ⟨document, hdocument, hdecode⟩ := List.mem_filterMap.1 hf
      exact decide_eq_true (Field.datastoreId_of_holds_scope hdecode (List.mem_filter.1 hdocument).2)
  exact hown ▸ hall.filter _

/-- Fields of a datastore that is not in the catalog are not read, and all of them are once it is. -/
theorem length_own_add_unread {datastoreId : String} {c : Catalog}
    (h : Keyed.contains datastoreId c.fields = false) (fields : List Field) :
    ((allFields t).filter fun f => f.datastoreId = datastoreId).length
        + (unread t (c.withFields datastoreId fields)).length = (unread t c).length := by
  have hown : ((allFields t).filter fun f => f.datastoreId = datastoreId)
      = (unread t c).filter fun f => f.datastoreId = datastoreId := by
    rw [unread, List.filter_filter]
    refine List.filter_congr fun f _ => ?_
    by_cases hf : f.datastoreId = datastoreId
    · simp [hf, h]
    · simp [hf]
  have hothers : unread t (c.withFields datastoreId fields)
      = (unread t c).filter fun f => !decide (f.datastoreId = datastoreId) := by
    rw [unread, unread, List.filter_filter]
    refine List.filter_congr fun f _ => ?_
    rw [contains_eq_isSome, contains_eq_isSome]
    by_cases hf : f.datastoreId = datastoreId
    · rw [hf, fieldsOf?_withFields_self]
      simp
    · rw [fieldsOf?_withFields_of_ne hf]
      simp [hf]
  rw [hown, hothers]
  exact (List.length_eq_length_filter_add _).symm

/-- **A load takes more fields from those that are not read than it puts datastores on the list.** -/
theorem length_newTargets_add_unread {datastoreId : String} {c : Catalog}
    (h : Keyed.contains datastoreId c.fields = false) (appId : String) :
    (c.newTargets (arrange (fieldsIn t appId datastoreId))).length
        + (unread t (c.withFields datastoreId (arrange (fieldsIn t appId datastoreId)))).length
      ≤ (unread t c).length := by
  set loaded := fieldsIn t appId datastoreId
  have htargets : (c.newTargets (arrange loaded)).length
      ≤ ((allFields t).filter fun f => f.datastoreId = datastoreId).length :=
    calc (c.newTargets (arrange loaded)).length
        ≤ ((arrange loaded).filterMap Field.lookupTarget?).length := List.length_filter_le _ _
      _ ≤ (arrange loaded).length := List.length_filterMap_le _ _
      _ = (loaded.filter Field.isActive).length := List.length_mergeSort _
      _ ≤ loaded.length := List.length_filter_le _ _
      _ ≤ _ := (fieldsIn_sublist appId datastoreId).length_le
  have hsplit := length_own_add_unread (t := t) h (arrange loaded)
  omega

end Loading

/-- Loading fields that all decode answers with those of the datastore. -/
theorem answer_loadFields {t : Tenant} (hreached : t.store.unavailable.contains Store.fields = false)
    (hdecode : ∀ document ∈ t.store.documents Store.fields, (Field.decode? document).isSome)
    (appId datastoreId : String) :
    (loadFields appId datastoreId).answer t = .ok (fieldsIn t appId datastoreId) :=
  Directory.answer_load_eq_ok_iff.2 ⟨hreached, fun document hd => hdecode document (List.mem_filter.1 hd).1, rfl⟩

/-- **Every search comes to an end.** -/
theorem exists_search (t : Tenant) (pending : List (String × String)) (c : Catalog) :
    ∃ loads found, Search (fieldsIn t) pending c loads found := by
  induction hsteps : pending.length + (unread t c).length using Nat.strongRecOn generalizing pending c with
  | ind steps ih =>
    cases pending with
    | nil => exact ⟨[], c, .done c⟩
    | cons first pending =>
      obtain ⟨appId, datastoreId⟩ := first
      rw [List.length_cons] at hsteps
      cases h : Keyed.contains datastoreId c.fields with
      | true =>
        obtain ⟨loads, found, hsearch⟩ := ih _ (by omega) pending c rfl
        exact ⟨loads, found, .skip h hsearch⟩
      | false =>
        have hfewer := length_newTargets_add_unread (t := t) h appId
        obtain ⟨loads, found, hsearch⟩ := ih _ (by rw [← hsteps, List.length_append]; omega)
          (pending ++ c.newTargets (arrange (fieldsIn t appId datastoreId)))
          (c.withFields datastoreId (arrange (fieldsIn t appId datastoreId))) rfl
        exact ⟨(appId, datastoreId) :: loads, found, .load h hsearch⟩

/-- **The loop ends as the search does**, when there are steps for what is pending and for all fields that are not
read. -/
theorem Search.answer_explore {t : Tenant} (hreached : t.store.unavailable.contains Store.fields = false)
    (hdecode : ∀ document ∈ t.store.documents Store.fields, (Field.decode? document).isSome)
    {pending loads : List (String × String)} {c found : Catalog} (h : Search (fieldsIn t) pending c loads found)
    {fuel : ℕ} (hfuel : pending.length + (unread t c).length ≤ fuel) (noted : List (String × String)) :
    ((explore noting fuel pending c).run noted).answer t = .ok (([], found), noted ++ loads) := by
  induction h generalizing fuel noted with
  | done c =>
    rw [List.append_nil]
    cases fuel <;> rfl
  | @skip appId datastoreId pending loads c found known _ ih =>
    rw [List.length_cons] at hfuel
    obtain ⟨fuel, rfl⟩ := Nat.exists_eq_add_one_of_ne_zero (by omega : fuel ≠ 0)
    rw [explore, if_pos known]
    exact ih (by omega) noted
  | @load appId datastoreId pending loads c found unknown _ ih =>
    rw [List.length_cons] at hfuel
    obtain ⟨fuel, rfl⟩ := Nat.exists_eq_add_one_of_ne_zero (by omega : fuel ≠ 0)
    have hfewer := length_newTargets_add_unread (t := t) unknown appId
    rw [run_explore_noting_of_new unknown, answer_bind (reads_loadFields (Set.subset_univ _) _ _)
      fun _ => reads_explore_noting _ _ _ _, answer_loadFields hreached hdecode, bind_of_ok,
      ih (by rw [List.length_append]; omega), List.append_assoc]
    rfl

/-- **Resolving ends as the search does.** -/
theorem Search.answer_resolveNoting {t : Tenant} (hreached : t.store.unavailable.contains Store.fields = false)
    (hdecode : ∀ document ∈ t.store.documents Store.fields, (Field.decode? document).isSome)
    {appId datastoreId : String} {loads : List (String × String)} {c : Catalog}
    (h : Search (fieldsIn t) [(appId, datastoreId)] (start datastoreId) loads c) {steps : ℕ}
    (hsteps : (t.store.documents Store.fields).length + 1 ≤ steps) :
    (resolveNoting steps appId datastoreId).answer t = .ok (([], c), loads) := by
  have hunread : (unread t (start datastoreId)).length ≤ (t.store.documents Store.fields).length :=
    (List.length_filter_le _ _).trans (List.length_filterMap_le _ _)
  exact h.answer_explore hreached hdecode (by rw [List.length_singleton]; omega) []

/-! ## Resolved catalogs -/

/-- **The order in which fields are displayed**: by display order, and of equal ones the younger first. -/
def displayed (f g : Field) : Ordering :=
  (compare f.displayOrder g.displayOrder).then (g.createdAt.order f.createdAt)

instance : TransCmp fun f g : Field => g.createdAt.order f.createdAt where
  eq_swap {_ _} := @Std.OrientedCmp.eq_swap _ Instant.order _ _ _
  isLE_trans {_ _ _} hfg hgh := @TransCmp.isLE_trans _ Instant.order _ _ _ _ hgh hfg

instance : TransCmp displayed :=
  inferInstanceAs (TransCmp (compareLex (compareOn Field.displayOrder) fun f g => g.createdAt.order f.createdAt))

/-- **Arranging fields** drops those that someone deleted, and sorts the others stably. -/
theorem stablySorted_arrange (fields : List Field) :
    StablySorted displayed (fields.filter Field.isActive) (arrange fields) :=
  stablySorted_mergeSort displayed _

/-- **Lookups do not lead out of a set**: with every datastore that the catalog has fields of, it holds the
datastores that lookups among these fields lead to. -/
def IsClosed (c : Catalog) (ids : Set String) : Prop :=
  ∀ id ∈ ids, ∀ fields, c.fieldsOf? id = some fields → ∀ f ∈ fields, ∀ target, f.lookupTarget? = some target →
    target.2 ∈ ids

/-- **A catalog that was resolved** for a datastore, with what was loaded for it. -/
structure IsResolved (t : Tenant) (appId datastoreId : String) (c : Catalog) (loads : List (String × String)) :
    Prop where
  /-- It is the catalog of the datastore. -/
  root : c.root = datastoreId
  /-- No datastore was loaded twice. -/
  once : (loads.map Prod.snd).Nodup
  /-- The datastores that were loaded are those in the catalog. -/
  loaded : ∀ id, id ∈ loads.map Prod.snd ↔ (c.fieldsOf? id).isSome = true
  /-- One was loaded because it was asked for, the others because a lookup in the catalog leads to them. -/
  reason : ∀ load ∈ loads, load = (appId, datastoreId)
    ∨ ∃ id fields, c.fieldsOf? id = some fields ∧ ∃ f ∈ fields, f.lookupTarget? = some load
  /-- The datastores in the catalog are the least with the root that lookups do not lead out of. -/
  least : IsLeast {ids | datastoreId ∈ ids ∧ c.IsClosed ids} {id | (c.fieldsOf? id).isSome = true}
  /-- Of each datastore it holds the active ones of the loaded fields, as they are displayed. -/
  fields : ∀ load ∈ loads, ∃ found shown, (loadFields load.1 load.2).answer t = .ok found
    ∧ c.fieldsOf? load.2 = some shown ∧ StablySorted displayed (found.filter Field.isActive) shown

/-- **What a search for one datastore leaves is resolved.** -/
theorem Search.isResolved {t : Tenant} (hreached : t.store.unavailable.contains Store.fields = false)
    (hdecode : ∀ document ∈ t.store.documents Store.fields, (Field.decode? document).isSome)
    {appId datastoreId : String} {c : Catalog} {loads : List (String × String)}
    (h : Search (fieldsIn t) [(appId, datastoreId)] (start datastoreId) loads c) :
    IsResolved t appId datastoreId c loads := by
  have hloaded : ∀ id, id ∈ loads.map Prod.snd ↔ (c.fieldsOf? id).isSome = true := by
    refine fun id => ⟨fun hid => ?_, fun hid => (h.known_or_loaded hid).resolve_left nofun⟩
    obtain ⟨load, hload, rfl⟩ := List.mem_map.1 hid
    rw [h.fieldsOf?_of_loaded hload]
    rfl
  have hfields : ∀ load ∈ loads, c.fieldsOf? load.2 = some (arrange (fieldsIn t load.1 load.2)) :=
    fun load hload => h.fieldsOf?_of_loaded hload
  refine ⟨h.root, h.once, hloaded, fun load hload => ?_, ⟨⟨?_, ?_⟩, ?_⟩, fun load hload => ?_⟩
  · refine (h.pending_or_target hload).imp List.mem_singleton.1 ?_
    rintro ⟨source, hsource, f, hf, htarget⟩
    exact ⟨source.2, _, hfields source hsource, f, hf, htarget⟩
  · exact h.isSome_of_pending List.mem_cons_self
  · intro id hid fields hget f hf target htarget
    obtain ⟨load, hload, rfl⟩ := List.mem_map.1 ((hloaded id).2 hid)
    rw [hfields load hload] at hget
    obtain rfl := Option.some.inj hget
    exact h.isSome_of_target hload hf htarget
  · rintro ids ⟨hroot, hclosed⟩ id hid
    refine h.of_loaded (P := (· ∈ ids)) (fun target htarget => ?_) (fun source hsource hin f hf target htarget => ?_)
      ((hloaded id).2 hid)
    · rw [List.mem_singleton.1 htarget]
      exact hroot
    · exact hclosed source.2 hin _ (hfields source hsource) f hf target htarget
  · exact ⟨_, _, answer_loadFields hreached hdecode _ _, hfields load hload, stablySorted_arrange _⟩

/-- **Resolving ends with the least catalog that lookups do not lead out of.** Where fields can be reached and all
decode, a catalog is resolved, whatever lookups there are: with one step more than there are field documents, or with
any more, nothing is left pending, and no datastore was loaded twice. The datastores in the catalog are the least that
hold the root and, with every datastore, those that lookups among its fields in the catalog lead to. The fields of
each are the active ones that were loaded for it, by display order, of equal ones the younger first, and of these as
they are stored. -/
theorem resolve_isResolved {t : Tenant} (hreached : t.store.unavailable.contains Store.fields = false)
    (hdecode : ∀ document ∈ t.store.documents Store.fields, (Field.decode? document).isSome)
    (appId datastoreId : String) :
    ∃ c loads, (resolve appId datastoreId).answer t = .ok c
      ∧ (∀ steps, (t.store.documents Store.fields).length + 1 ≤ steps →
        (resolveNoting steps appId datastoreId).answer t = .ok (([], c), loads))
      ∧ IsResolved t appId datastoreId c loads := by
  obtain ⟨loads, c, hsearch⟩ := exists_search t [(appId, datastoreId)] (start datastoreId)
  refine ⟨c, loads, ?_, fun steps hsteps => hsearch.answer_resolveNoting hreached hdecode hsteps,
    hsearch.isResolved hreached hdecode⟩
  rw [resolve_eq_noting, TenantAction.answer_get_bind, map_eq_pure_bind,
    answer_bind (reads_resolveNoting _ _ _) fun _ => .pure _ _,
    hsearch.answer_resolveNoting hreached hdecode le_rfl]
  rfl

/-! ### A shop whose lookups lead in a circle -/

/-- A field of the shop. -/
def shopField (datastoreId fieldId : String) (order : Int64) : Field where
  fieldId := fieldId
  appId := "shop"
  datastoreId := datastoreId
  fieldType := .text
  displayOrder := order

/-- A lookup of the shop. -/
def shopLookup (datastoreId fieldId target : String) : Field :=
  { shopField datastoreId fieldId 0 with fieldType := .lookup, lookupDatastoreId := target }

/-- Orders refer to customers, and customers to their last orders and to each other. -/
def shopFields : List Field :=
  [shopField "orders" "note" 2, shopField "orders" "day" 1, shopLookup "orders" "customer" "customers",
    { shopField "orders" "old" 0 with deletedBy := some "clerk" }, shopLookup "customers" "last" "orders",
    shopLookup "customers" "patron" "customers", shopField "suppliers" "name" 0]

/-- The shop. -/
def shop : Tenant where
  store := { collections := [(Store.fields, { documents := shopFields.map Field.toJson })] }
  clock := .epoch
  today := .epoch

/-- What is shown of orders. -/
def shownOrders : List Field :=
  [shopLookup "orders" "customer" "customers", shopField "orders" "day" 1, shopField "orders" "note" 2]

/-- What is shown of customers. -/
def shownCustomers : List Field :=
  [shopLookup "customers" "last" "orders", shopLookup "customers" "patron" "customers"]

/-- What is resolved for orders. -/
def shopCatalog : Catalog where
  root := "orders"
  fields := [("customers", shownCustomers), ("orders", shownOrders)]

/-- Orders are shown in their order. -/
theorem arrange_orders : arrange (fieldsIn shop "shop" "orders") = shownOrders := by
  have hactive : (fieldsIn shop "shop" "orders").filter Field.isActive
      = [shopField "orders" "note" 2, shopField "orders" "day" 1, shopLookup "orders" "customer" "customers"] := by
    decide +kernel
  have hbefore : comesBefore (shopField "orders" "note" 2) (shopField "orders" "day" 1) = false
      ∧ comesBefore (shopField "orders" "day" 1) (shopLookup "orders" "customer" "customers") = false
      ∧ comesBefore (shopField "orders" "note" 2) (shopLookup "orders" "customer" "customers") = false := by
    decide +kernel
  rw [arrange, hactive]
  simp [List.mergeSort, hbefore, shownOrders]

/-- Customers are shown as they are stored. -/
theorem arrange_customers : arrange (fieldsIn shop "shop" "customers") = shownCustomers := by
  have hactive : (fieldsIn shop "shop" "customers").filter Field.isActive = shownCustomers := by decide +kernel
  rw [arrange, hactive]
  exact List.mergeSort_of_pairwise (by decide +kernel)

/-- The search among the fields of the shop. -/
theorem search_shop : Search (fieldsIn shop) [("shop", "orders")] (start "orders")
    [("shop", "orders"), ("shop", "customers")] shopCatalog := by
  refine .load rfl ?_
  rw [arrange_orders]
  show Search _ [("shop", "customers")] { root := "orders", fields := [("orders", shownOrders)] } _ _
  refine .load rfl ?_
  rw [arrange_customers]
  exact .skip rfl (.done _)

/-- **Orders are resolved with their customers**: each of them is loaded once, though lookups lead back to both; the
old field is dropped, and suppliers are left out. -/
theorem resolve_shop : (resolve "shop" "orders").answer shop = .ok shopCatalog
    ∧ IsResolved shop "shop" "orders" shopCatalog [("shop", "orders"), ("shop", "customers")] := by
  have hreached : shop.store.unavailable.contains Store.fields = false := by decide
  have hdecode : ∀ document ∈ shop.store.documents Store.fields, (Field.decode? document).isSome := by decide +kernel
  obtain ⟨c, loads, hanswer, hnoting, hresolved⟩ := resolve_isResolved hreached hdecode "shop" "orders"
  have hsame := (hnoting _ le_rfl).symm.trans (search_shop.answer_resolveNoting hreached hdecode le_rfl)
  obtain ⟨hc, rfl⟩ := Prod.mk.inj (Except.ok.inj hsame)
  obtain rfl : c = shopCatalog := (Prod.mk.inj hc).2
  exact ⟨hanswer, hresolved⟩

end Catalog

end Rollup
