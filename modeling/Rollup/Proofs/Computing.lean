import Rollup.Proofs.Footprints
import Rollup.Proofs.GroupedRows

/-!
# How rows are computed

When the rows of a report are computed without a failure, every step on the way succeeded, and each of
these steps is a function of what the tenant holds: conditions, catalog and relations are read, related
documents are joined to the items of the datastore, and the records that are left are projected and shaped.
`Computation` keeps all that on one way together, so that two computations are compared step by step.
-/

namespace Rollup

open TenantAction (Reads answer answer_bind)

/-- A result that went on came from a result. -/
theorem exists_of_bind_eq_ok {ε α β : Type} {x : Except ε α} {f : α → Except ε β} {b : β}
    (h : x.bind f = .ok b) : ∃ a, x = .ok a ∧ f a = .ok b := by
  cases x with
  | error e => exact absurd h nofun
  | ok a => exact ⟨a, rfl, h⟩

/-- What is made of a result was made of one. -/
theorem exists_of_map_eq_ok {ε α β : Type} {x : Except ε α} {f : α → β} {b : β} (h : x.map f = .ok b) :
    ∃ a, x = .ok a ∧ f a = b := by
  cases x with
  | error e => exact absurd h nofun
  | ok a => exact ⟨a, rfl, Except.ok.inj h⟩

/-- A result that is there is the result. -/
theorem eq_ok_of_toOption {ε α : Type} {result : Except ε α} {a : α} (h : result.toOption = some a) :
    result = .ok a := by
  cases result with
  | error e => exact absurd h nofun
  | ok x => exact congrArg Except.ok (Option.some.inj h)

/-- A renamed failure leaves results alone. -/
theorem eq_ok_of_mapError {ε ε' α : Type} {wrap : ε → ε'} {result : Except ε α} {a : α}
    (h : result.mapError wrap = .ok a) : result = .ok a := by
  cases result with
  | error e => exact absurd h nofun
  | ok x => exact congrArg Except.ok (Except.ok.inj h)

/-- Actions that followed each other and succeeded, both succeeded. -/
theorem exists_of_answer_bind {α β : Type} {a : TenantAction α} {f : α → TenantAction β}
    (ha : Reads .univ a) (hf : ∀ x, Reads .univ (f x)) {t : Tenant} {b : β} (h : (a >>= f).answer t = .ok b) : ∃ x, a.answer t = .ok x ∧ (f x).answer t = .ok b := by
  rw [answer_bind ha hf] at h
  exact exists_of_bind_eq_ok h

/-- A renamed failure was one. -/
theorem eq_ok_of_answer_ofExcept {ε α : Type} {wrap : ε → ReportError} {result : Except ε α}
    {t : Tenant} {a : α} (h : (TenantAction.ofExcept wrap result).answer t = .ok a) :
    result = .ok a := by
  cases result with
  | error e => exact absurd h nofun
  | ok x => exact congrArg Except.ok (Except.ok.inj h)

namespace Stage

/-- **Stages follow each other.** -/
theorem answer_runAll_append (stages others : List Stage) (documents : List Json) (t : Tenant) :
    (runAll (stages ++ others) documents).answer t
      = ((runAll stages documents).answer t).bind fun shaped => (runAll others shaped).answer t := by
  have hreads : ∀ (stages : List Stage) (documents : List Json),
      Reads .univ (runAll stages documents) := fun stages documents =>
    reads_runAll (Set.subset_univ _) (fun stage _ => by cases stage <;> trivial) documents
  have hrun : ∀ (stage : Stage) (documents : List Json), Reads .univ (stage.run documents) :=
    fun stage documents => reads_run (Set.subset_univ _) (by cases stage <;> trivial) documents
  induction stages generalizing documents with
  | nil => rfl
  | cons stage rest ih =>
    show (stage.run documents >>= fun shaped => runAll (rest ++ others) shaped).answer t
      = ((stage.run documents >>= fun shaped => runAll rest shaped).answer t).bind _
    rw [answer_bind (hrun stage documents) (hreads _), answer_bind (hrun stage documents) (hreads _)]
    cases (stage.run documents).answer t with
    | error e => rfl
    | ok shaped => exact ih shaped

/-- A stage alone. -/
theorem answer_runAll_singleton (stage : Stage) (documents : List Json) (t : Tenant) :
    (runAll [stage] documents).answer t = (stage.run documents).answer t := by
  show (stage.run documents >>= fun shaped => runAll [] shaped).answer t = _
  refine (answer_bind (reads_run (Set.subset_univ _) (by cases stage <;> trivial) documents)
    (fun _ => .pure .univ _) t).trans ?_
  cases (stage.run documents).answer t <;> rfl

/-- **A join** joins what the tenant holds, and fails where that cannot be reached. -/
theorem answer_run_join (j : Join) (documents : List Json) (t : Tenant) :
    (run (.join j) documents).answer t = if t.store.unavailable.contains j.collection then
      .error (.store "load related records" (.unavailable j.collection))
    else .ok (j.run (t.store.documents j.collection) documents) := by
  have hrun : run (.join j) documents = TenantAction.onStore "load related records"
      (Store.find j.collection .everything {}) >>= fun related => pure (j.run related documents) := rfl
  rw [hrun, answer_bind (.find (Set.mem_univ _) _ _ _) fun _ => .pure .univ _, TenantAction.answer_find,
    TenantAction.found]
  split
  · rfl
  · exact congrArg (fun related => Except.ok (j.run related documents)) (List.filter_eq_self.2 fun _ _ => rfl)

/-- A join that succeeds joins what the tenant holds. -/
theorem eq_run_join {j : Join} {documents joined : List Json} {t : Tenant}
    (h : (run (.join j) documents).answer t = .ok joined) :
    joined = j.run (t.store.documents j.collection) documents := by
  rw [answer_run_join] at h
  split at h
  · exact absurd h nofun
  · exact (Except.ok.inj h).symm

/-- Documents joined with what the tenant holds. -/
def joinedWith (t : Tenant) (joins : List Join) (documents : List Json) : List Json :=
  joins.foldl (fun records j => j.run (t.store.documents j.collection) records) documents

/-- **Joins that succeed** join what the tenant holds. -/
theorem eq_joinedWith {joins : List Join} {documents joined : List Json} {t : Tenant}
    (h : (runAll (joins.map .join) documents).answer t = .ok joined) :
    joined = joinedWith t joins documents := by
  induction joins generalizing documents with
  | nil => exact (Except.ok.inj h).symm
  | cons j rest ih =>
    have happend := answer_runAll_append [.join j] (rest.map .join) documents t
    rw [show [Stage.join j] ++ rest.map .join = (j :: rest).map .join from rfl, h] at happend
    obtain ⟨records, hjoin, hrest⟩ := exists_of_bind_eq_ok happend.symm
    rw [answer_runAll_singleton] at hjoin
    rw [ih hrest, eq_run_join hjoin]
    rfl

end Stage

/-! ## Choosing before and after joining -/

namespace Join

/-- What is read elsewhere than below `relations` is the same once records are joined. -/
theorem get?_attach (j : Join) {path name : String} {rest : List String}
    (hpath : Document.segments path = name :: rest) (hname : name ≠ "relations") (record related : Json) :
    Document.get? path (j.attach record related) = Document.get? path record := by
  unfold Document.get? attach Document.set
  rw [hpath]
  refine Document.getAt?_setAt_of_part ?_ _ _
  rw [show "relations." ++ j.relationId = "relations" ++ "." ++ j.relationId from rfl,
    Document.segments_append, Document.segments_of_isName (by decide : Document.IsName "relations")]
  exact Document.part_of_ne hname _ _

/-- **Joining what is chosen is choosing what is joined**, where joining does not change the choice. -/
theorem run_filter {j : Join} {f : Json → Bool}
    (hf : ∀ record related, f (j.attach record related) = f record) (related records : List Json) :
    j.run related (records.filter f) = (j.run related records).filter f := by
  have hexpand : ∀ record, ∀ joined ∈ j.expand (j.index related) record, f joined = f record := by
    intro record joined hjoined
    unfold expand at hjoined
    split at hjoined
    · obtain ⟨other, -, rfl⟩ := List.mem_map.1 hjoined
      exact hf record other
    · rw [List.mem_singleton.1 hjoined]
  unfold run
  induction records with
  | nil => rfl
  | cons record rest ih =>
    rw [List.flatMap_cons, List.filter_append, ← ih]
    cases hrecord : f record with
    | true =>
      rw [List.filter_cons_of_pos hrecord, List.flatMap_cons,
        List.filter_eq_self.2 fun joined h => (hexpand record joined h).trans hrecord]
    | false =>
      rw [List.filter_cons_of_neg (Bool.eq_false_iff.1 hrecord), List.filter_eq_nil_iff.2
        fun joined h => Bool.eq_false_iff.1 ((hexpand record joined h).trans hrecord), List.nil_append]

end Join

/-- **Joining what is chosen is choosing what is joined**, also for several joins. -/
theorem Stage.joinedWith_filter {joins : List Join} {f : Json → Bool}
    (hf : ∀ j ∈ joins, ∀ record related, f (j.attach record related) = f record) (t : Tenant)
    (documents : List Json) :
    joinedWith t joins (documents.filter f) = (joinedWith t joins documents).filter f := by
  unfold joinedWith
  induction joins generalizing documents with
  | nil => rfl
  | cons j rest ih =>
    rw [List.foldl_cons, List.foldl_cons, Join.run_filter (hf j List.mem_cons_self)]
    exact ih (fun other hother => hf other (List.mem_cons_of_mem _ hother)) _

/-! ## What rows are computed by -/

namespace Materialization

/-- How the keys of a listing are selected. -/
def selection (keys : List Key) (time : Instant) : Selection :=
  { keys := keys.map outputKey, updateTime := time }

/-- **The rows that records make.** -/
def shape (time : Instant) (mode : ReportMode) (records : List Json) : List Json :=
  match mode with
  | .group spec => (grouping spec time).run records
  | .select keys => (selection keys time).run records

/-- Shaping is a stage that never fails. -/
theorem answer_shaping (time : Instant) (mode : ReportMode) (records : List Json) (t : Tenant) :
    ((shaping time mode).run records).answer t = .ok (shape time mode records) := by
  cases mode <;> rfl

end Materialization

/-- **What the rows of a report are computed by**, beside the items. -/
structure Computation where
  /-- The conditions. -/
  filter : CompiledFilter
  /-- The active fields of the datastore. -/
  fields : List Field
  /-- Its relations. -/
  relations : List Relation
  /-- What is kept of each record. -/
  projection : Projection

namespace Computation

/-- The joins. -/
def joins (w : Computation) : List Join := Materialization.joins w.relations

/-- **What is joined of some items** and fulfils the conditions. -/
def joined (w : Computation) (t : Tenant) (items : List Json) : List Json :=
  if w.filter.touchesRelations then
    (Stage.joinedWith t w.joins items).filter w.filter.predicate.holds
  else Stage.joinedWith t w.joins (items.filter w.filter.predicate.holds)

/-- **That the rows of a content are computed this way**, for a tenant and an instant. -/
structure IsFor (w : Computation) (t : Tenant) (c : ReportContent) (time : Instant) : Prop where
  /-- The conditions are those of the content. -/
  filter : (Rows.compile c time).answer t = .ok w.filter
  /-- The fields are those of the catalog. -/
  fields : ((Catalog.resolve c.appId c.datastoreId).answer t).map Catalog.rootFields = .ok w.fields
  /-- The relations are those of the datastore. -/
  relations : (Rows.relations c).answer t = .ok w.relations
  /-- The projection keeps the known fields, and what is joined. -/
  projection : Materialization.projection w.fields (!w.joins.isEmpty) = .ok w.projection

/-- **The stages of a computation**, when they succeed, make rows of the records that the projection keeps of
what is joined. -/
theorem exists_records {w : Computation} {t : Tenant} {items rows : List Json} {time : Instant}
    {mode : ReportMode}
    (h : (Stage.runAll (w.joins.map .join ++ ((Rows.splitFilter w.filter).2.map Stage.filter).toList
        ++ [.project w.projection, Materialization.shaping time mode])
      (items.filter (Rows.splitFilter w.filter).1.holds)).answer t = .ok rows) :
    ∃ records, w.projection.run (w.joined t items) = .ok records
      ∧ rows = Materialization.shape time mode records := by
  rw [Stage.answer_runAll_append] at h
  obtain ⟨filtered, hfiltered, hshaped⟩ := exists_of_bind_eq_ok h
  rw [Stage.answer_runAll_append] at hfiltered
  obtain ⟨related, hjoined, hfiltered⟩ := exists_of_bind_eq_ok hfiltered
  rw [show [Stage.project w.projection, Materialization.shaping time mode]
    = [.project w.projection] ++ [Materialization.shaping time mode] from rfl,
    Stage.answer_runAll_append] at hshaped
  obtain ⟨records, hrecords, hrows⟩ := exists_of_bind_eq_ok hshaped
  rw [Stage.answer_runAll_singleton] at hrecords hrows
  rw [Materialization.answer_shaping] at hrows
  refine ⟨records, ?_, (Except.ok.inj hrows).symm⟩
  have hsame : filtered = w.joined t items := by
    rw [Stage.eq_joinedWith hjoined] at hfiltered
    unfold Computation.joined
    cases htouches : w.filter.touchesRelations with
    | true =>
      simp only [Rows.splitFilter, htouches, if_true] at hfiltered ⊢
      rw [← Except.ok.inj hfiltered]
      exact congrArg _ (congrArg _ (List.filter_eq_self.2 fun _ _ => rfl))
    | false =>
      simp only [Rows.splitFilter, htouches] at hfiltered ⊢
      exact (Except.ok.inj hfiltered).symm
  exact hsame ▸ eq_ok_of_answer_ofExcept hrecords

end Computation

/-- Computing, step by step. -/
theorem computeAll_eq (c : ReportContent) (time : Instant) : Rows.computeAll c time
    = Rows.compile c time >>= fun compiled =>
      Catalog.resolve c.appId c.datastoreId >>= fun catalog =>
      Rows.relations c >>= fun relations =>
      TenantAction.ofExcept id (Materialization.stages c.mode relations catalog.rootFields
        (Rows.splitFilter compiled).2 time) >>= fun stages =>
      TenantAction.onStore "scan source records"
        (Store.find (Store.itemsOf c.datastoreId) (Rows.splitFilter compiled).1 {}) >>= fun items =>
      Stage.runAll stages items := rfl

/-- Any stages read something. -/
theorem Stage.reads_runAll_everywhere (stages : List Stage) (documents : List Json) :
    Reads .univ (runAll stages documents) :=
  reads_runAll everywhere (fun stage _ => by cases stage <;> trivial) documents

/-- What scans the items and runs stages on them reads something. -/
theorem reads_scan (c : ReportContent) (scan : Predicate) (stages : List Stage) : Reads .univ
    (TenantAction.onStore "scan source records" (Store.find (Store.itemsOf c.datastoreId) scan {})
      >>= fun items => Stage.runAll stages items) :=
  (Reads.find (Set.mem_univ _) _ _ _).bind fun items => Stage.reads_runAll_everywhere stages items

/-- So does what makes the stages before. -/
theorem reads_staged (c : ReportContent) (made : Except ReportError (List Stage)) (scan : Predicate) :
    Reads .univ (TenantAction.ofExcept id made >>= fun stages =>
      TenantAction.onStore "scan source records" (Store.find (Store.itemsOf c.datastoreId) scan {})
        >>= fun items => Stage.runAll stages items) :=
  (Reads.ofExcept _ _ _).bind fun stages => reads_scan c scan stages

/-- **Computing rows only reads.** -/
theorem reads_computeAll (c : ReportContent) (time : Instant) :
    Reads .univ (Rows.computeAll c time) := by
  rw [computeAll_eq]
  exact (Rows.reads_compile everywhere c time).bind fun compiled =>
    (Catalog.reads_resolve everywhere _ _).bind fun catalog =>
      (Rows.reads_relations everywhere c).bind fun relations => reads_staged c _ _

/-- Computing rows only reads, also where there is nothing to publish. -/
theorem reads_computeFor (c : ReportContent) (time : Instant) :
    Reads .univ (Rows.computeFor c time) :=
  .ite (.pure _ _) ((reads_computeAll c time).bind fun _ => .pure _ _)

/-- **Rows that are computed without a failure** are made of the records that the projection keeps of what is
joined. -/
theorem exists_computation {c : ReportContent} {time : Instant} {t : Tenant} {rows : List Json}
    (h : (Rows.computeAll c time).answer t = .ok rows) :
    ∃ (w : Computation) (records : List Json), w.IsFor t c time
      ∧ w.projection.run (w.joined t (t.store.documents (Store.itemsOf c.datastoreId))) = .ok records
      ∧ rows = Materialization.shape time c.mode records := by
  rw [computeAll_eq] at h
  obtain ⟨compiled, hcompile, h⟩ := exists_of_answer_bind (Rows.reads_compile everywhere c time)
    (fun compiled => (Catalog.reads_resolve everywhere _ _).bind fun catalog =>
      (Rows.reads_relations everywhere c).bind fun relations => reads_staged c _ _) h
  obtain ⟨catalog, hcatalog, h⟩ := exists_of_answer_bind (Catalog.reads_resolve everywhere _ _)
    (fun catalog => (Rows.reads_relations everywhere c).bind fun relations => reads_staged c _ _) h
  obtain ⟨relations, hrelations, h⟩ := exists_of_answer_bind (Rows.reads_relations everywhere c)
    (fun relations => reads_staged c _ _) h
  obtain ⟨stages, hmade, h⟩ := exists_of_answer_bind (Reads.ofExcept .univ _ _)
    (fun stages => reads_scan c _ stages) h
  obtain ⟨items, hfound, h⟩ := exists_of_answer_bind (Reads.find (Set.mem_univ _) _ _ _)
    (fun items => Stage.reads_runAll_everywhere stages items) h
  obtain ⟨projection, hprojection, hmade⟩ :=
    exists_of_bind_eq_ok (eq_ok_of_answer_ofExcept hmade)
  obtain rfl := Except.ok.inj hmade
  rw [TenantAction.answer_find] at hfound
  rw [TenantAction.eq_of_found hfound] at h
  let w : Computation := ⟨compiled, catalog.rootFields, relations, projection⟩
  obtain ⟨records, hrecords, hrows⟩ := w.exists_records h
  refine ⟨w, records, ⟨hcompile, ?_, hrelations, hprojection⟩, hrecords, hrows⟩
  rw [hcatalog]
  rfl

/-- Rows that are computed are those of a content that lists some keys. -/
theorem answer_computeAll_of_computeFor {c : ReportContent} {time : Instant} {t : Tenant}
    {rows : List Json} (h : (Rows.computeFor c time).answer t = .ok (.rows rows)) :
    (Rows.computeAll c time).answer t = .ok rows := by
  unfold Rows.computeFor at h
  split at h
  · exact absurd (Except.ok.inj h) nofun
  · obtain ⟨computed, hcomputed, hrows⟩ := exists_of_answer_bind (reads_computeAll c time)
      (fun _ => Reads.pure .univ _) h
    rw [hcomputed, ComputedRows.rows.inj (Except.ok.inj hrows)]

end Rollup
