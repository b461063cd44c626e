import Rollup.Proofs.ListedRows
import Rollup.Proofs.Noninterference

/-!
# Conditions of reports and of queries

Conditions on the keys of a listing report can be kept with the report, and are then tested on the joined
records, or they can be left to a query, which tests them on the published rows. The two look at different paths,
and one of them looks before the records are projected. Still they come to the same: a row shows the value that
its record had (`Key.Clear.get?_valuePath_row`), so the rows of the report with conditions are those rows of the
report without that fulfil them (`ReportContent.FiltersKeys.rows_eq_filter`), and where both are published, the
query without conditions about the one and the query with them about the other get the same page
(`Service.query_eq_query_adHoc`).

One thing must be left out: an item that brings a member `relations` of its own. Without joins, what is below
that member is seen by the conditions of a report and dropped when records are projected
(`stray_query_ne_query_adHoc`).
-/

namespace Rollup

open TenantAction (Reads answer answer_bind)

/-- **That a condition names a key** and looks for a value that is stored: static conditions name static columns,
dynamic ones related keys or the keys of fields that are known and not computed. -/
def Condition.Names (keys : List Key) (fields : List Field) (c : Condition) : Prop :=
  ∃ k ∈ keys, c.IsOn k ∧ (k.isItem = true → k.isLookup = false → Field.IsStored fields k.fieldId)

/-- **A listing report whose conditions name its keys**, for what a tenant holds. -/
structure ReportContent.NamesKeys (c : ReportContent) (t : Tenant) (keys : List Key) : Prop where
  /-- It lists the keys. -/
  mode : c.mode = .select keys
  /-- The keys can be told apart and read. -/
  clear : Key.Clear keys
  /-- Every condition names one of them. -/
  names : ∀ fields, ((Catalog.resolve c.appId c.datastoreId).answer t).map Catalog.rootFields = .ok fields →
    ∀ condition ∈ c.conditions, condition.Names keys fields

/-- **One whose conditions can be left to queries**: also what is joined is kept until rows are made of it. -/
structure ReportContent.FiltersKeys (c : ReportContent) (t : Tenant) (keys : List Key) : Prop
    extends c.NamesKeys t keys where
  /-- If a condition is about a related datastore, then some relation is joined, or no item has a member
  `relations` of its own. -/
  joined : (∃ condition ∈ c.conditions, condition.relation?.isSome = true) →
    ∀ relations, (Rows.relations c).answer t = .ok relations → (∃ r ∈ relations, r.fields ≠ [])
      ∨ ∀ item ∈ t.store.documents (Store.itemsOf c.datastoreId), item.member? "relations" = none

/-- The report without its conditions. -/
def ReportContent.unconditioned (c : ReportContent) : ReportContent := { c with conditions := [] }

namespace CompiledFilter

variable {ctx ctx' : CompileContext} {conditions : List Condition} {combinator : String}
  {f f' : CompiledFilter}

/-- **Conditions compile for rows where they compile for records**, and the other way round. -/
theorem exists_ofConditions_of_like (hctx : ctx.Like ctx')
    (h : ofConditions ctx conditions combinator = .ok f) :
    ∃ f', ofConditions ctx' conditions combinator = .ok f' := by
  have hnull : ∀ path, Document.get? path .null = none := by
    intro path
    obtain ⟨name, rest, hpath⟩ := List.exists_cons_of_ne_nil (Document.segments_ne_nil path)
    unfold Document.get?
    rw [hpath]
    rfl
  have hsame : (ofConditions ctx conditions combinator).map (fun f => f.predicate.holds .null)
      = (ofConditions ctx' conditions combinator).map fun f => f.predicate.holds .null :=
    map_holds_ofConditions hctx fun c _ => by
      rw [hnull, hnull]
      exact .refl c none
  rw [h] at hsame
  cases hf' : ofConditions ctx' conditions combinator with
  | ok f' => exact ⟨f', rfl⟩
  | error e =>
    rw [hf'] at hsame
    cases hsame

/-- **Compiled conditions match alike** where their fields are seen alike. -/
theorem holds_eq_of_seesAlike (hctx : ctx.Like ctx') (h : ofConditions ctx conditions combinator = .ok f)
    (h' : ofConditions ctx' conditions combinator = .ok f') {d d' : Json}
    (hsees : ∀ c ∈ conditions,
      Document.get? (c.path ctx.target) d = Document.get? (c.path ctx'.target) d') :
    f.predicate.holds d = f'.predicate.holds d' := by
  have hsame : (ofConditions ctx conditions combinator).map (fun f => f.predicate.holds d)
      = (ofConditions ctx' conditions combinator).map fun f => f.predicate.holds d' :=
    map_holds_ofConditions hctx fun c hc => by
      rw [hsees c hc]
      exact .refl c _
  rw [h, h'] at hsame
  exact Except.ok.inj hsame

/-- Which conditions are about a related datastore is seen without compiling them. -/
theorem touchesRelations_of_ofConditions (h : ofConditions ctx conditions combinator = .ok f) :
    f.touchesRelations = conditions.any fun c => c.relation?.isSome := by
  obtain ⟨c, -, h⟩ := exists_of_bind_eq_ok h
  obtain ⟨parts, -, h⟩ := exists_of_bind_eq_ok h
  rw [← Except.ok.inj h]

end CompiledFilter

namespace Computation

variable {w : Computation} {t : Tenant} {c : ReportContent} {time : Instant} {keys : List Key}

/-- The conditions of a computation were compiled for the period of the app. -/
theorem IsFor.exists_period (h : w.IsFor t c time) : ∃ period,
    (Directory.processingPeriod c.appId).answer t = .ok period
      ∧ CompiledFilter.ofConditions (Rows.context t time period) c.conditions c.combinator
        = .ok w.filter := by
  have hcompile := h.filter
  rw [Rows.answer_compile] at hcompile
  obtain ⟨period, hperiod, hcompile⟩ := exists_of_bind_eq_ok hcompile
  exact ⟨period, hperiod, eq_ok_of_mapError hcompile⟩

/-- **Without its conditions a report is computed the same way**, only that all records are kept. -/
theorem IsFor.exists_unconditioned (h : w.IsFor t c time) : ∃ bare : CompiledFilter,
    bare.predicate = .everything ∧ bare.touchesRelations = false
      ∧ ({ w with filter := bare } : Computation).IsFor t c.unconditioned time := by
  obtain ⟨period, hperiod, hfilter⟩ := h.exists_period
  obtain ⟨bare, hbare, heverything, htouches⟩ := CompiledFilter.exists_ofConditions_nil hfilter
  refine ⟨bare, heverything, htouches, ?_, h.fields, h.relations, h.projection⟩
  rw [Rows.answer_compile]
  show Except.bind ((Directory.processingPeriod c.appId).answer t) _ = _
  rw [hperiod, bind_of_ok]
  show Except.mapError _ (CompiledFilter.ofConditions _ [] c.combinator) = _
  rw [hbare]
  rfl

/-- Without conditions everything that is joined is kept. -/
theorem joined_of_everything (h : w.filter.predicate = .everything) (htouches : w.filter.touchesRelations = false)
    (items : List Json) : w.joined t items = Stage.joinedWith t w.joins items := by
  unfold joined
  rw [htouches, if_neg Bool.false_ne_true, h]
  exact congrArg _ (List.filter_eq_self.2 fun _ _ => rfl)

/-- **Wherever the conditions are tested, it is joined records that they choose**: those that are tested before
do not see what is joined. -/
theorem IsFor.joined_eq_filter (h : w.IsFor t c time) (hkeys : c.FiltersKeys t keys) (items : List Json) :
    w.joined t items = (Stage.joinedWith t w.joins items).filter w.filter.predicate.holds := by
  obtain ⟨period, -, hfilter⟩ := h.exists_period
  unfold joined
  cases htouches : w.filter.touchesRelations with
  | true => rw [if_pos rfl]
  | false =>
    rw [if_neg Bool.false_ne_true]
    refine Stage.joinedWith_filter (fun j _ record related => ?_) t items
    refine CompiledFilter.holds_eq_of_seesAlike ⟨rfl, rfl, rfl⟩ hfilter hfilter fun condition hc => ?_
    rw [CompiledFilter.touchesRelations_of_ofConditions hfilter, List.any_eq_false] at htouches
    obtain ⟨k, hk, hon, -⟩ := hkeys.names _ h.fields condition hc
    obtain ⟨name, rest, hpath, hname⟩ := hkeys.clear.exists_segments_path hk hon
      (Option.not_isSome_iff_eq_none.1 (htouches condition hc))
    exact j.get?_attach hpath hname record related

/-- A record keeps what is joined, or has nothing below `relations`. -/
theorem IsFor.keepRelations_or_eq_none (h : w.IsFor t c time) (hkeys : c.FiltersKeys t keys)
    (hrelated : ∃ condition ∈ c.conditions, condition.relation?.isSome = true) {source : Json}
    (hsource : source ∈ Stage.joinedWith t w.joins (t.store.documents (Store.itemsOf c.datastoreId))) :
    w.projection.keepRelations = true ∨ source.member? "relations" = none := by
  have hkeep := (Materialization.keeps_of_projection h.projection).2
  cases hjoins : w.joins with
  | cons j rest =>
    rw [hjoins] at hkeep
    exact .inl hkeep
  | nil =>
    rw [hjoins] at hsource
    rcases hkeys.joined hrelated _ h.relations with ⟨r, hr, hfields⟩ | hnone
    · have hjoin : Materialization.join r ∈ w.joins :=
        List.mem_map_of_mem (List.mem_filter.2 ⟨hr, by simpa using hfields⟩)
      rw [hjoins] at hjoin
      exact absurd hjoin List.not_mem_nil
    · exact .inr (hnone source hsource)

/-- **A record fulfils the conditions exactly if its row does.** -/
theorem IsFor.holds_row (h : w.IsFor t c time) (hkeys : c.FiltersKeys t keys) {f : CompiledFilter}
    {ctx : CompileContext} (htarget : ctx.target = .rows) {period : Option String}
    (hctx : (Rows.context t time period).Like ctx)
    (hfilter : CompiledFilter.ofConditions (Rows.context t time period) c.conditions c.combinator
      = .ok w.filter)
    (hf : CompiledFilter.ofConditions ctx c.conditions c.combinator = .ok f) {source kept : Json}
    (hsource : source ∈ Stage.joinedWith t w.joins (t.store.documents (Store.itemsOf c.datastoreId)))
    (happly : w.projection.apply source = .ok kept) : w.filter.predicate.holds source
      = f.predicate.holds ((Materialization.selection keys time).row kept) := by
  refine CompiledFilter.holds_eq_of_seesAlike hctx hfilter hf fun condition hc => ?_
  obtain ⟨k, hk, hon, hstored⟩ := hkeys.names _ h.fields condition hc
  rw [htarget, hon.path_rows, show (Rows.context t time period).target = .source from rfl,
    hkeys.clear.path_source hk hon]
  refine (hkeys.clear.get?_valuePath_row hk (Materialization.keeps_of_projection h.projection).1 hstored
    happly (fun hlookup => ?_) time).symm
  exact h.keepRelations_or_eq_none hkeys
    ⟨condition, hc, (hkeys.clear.isSome_relation? hk hon).trans hlookup⟩ hsource

end Computation

namespace ReportContent.FiltersKeys

variable {c : ReportContent} {t u : Tenant} {keys : List Key} {time : Instant}

/-- What a report is made from tells whether its conditions name its keys. -/
theorem congr (h : c.FiltersKeys t keys) (hsources : t.AgreeOn Store.sources u) : c.FiltersKeys u keys where
  mode := h.mode
  clear := h.clear
  names := fun fields hfields => h.names fields <| by
    rw [(Catalog.reads_resolve Store.catalogs_subset_sources _ _).agrees _ _ hsources, hfields]
  joined := fun hrelated relations hrelations => by
    rw [← hsources.documents _ (Store.itemsOf_mem_sources _)]
    refine h.joined hrelated relations ?_
    rw [(Rows.reads_relations Store.catalogs_subset_sources c).agrees _ _ hsources, hrelations]

/-- **The rows of a report with conditions are those rows of the report without that fulfil them**, the
conditions being compiled for rows. -/
theorem rows_eq_filter (h : c.FiltersKeys t keys) (hsources : t.AgreeOn Store.sources u)
    {rows all : List Json} (hrows : (Rows.computeAll c time).answer t = .ok rows)
    (hall : (Rows.computeAll c.unconditioned time).answer u = .ok all) :
    ∃ period, (Directory.processingPeriod c.appId).answer t = .ok period
      ∧ ∀ ctx : CompileContext, ctx.target = .rows → (Rows.context t time period).Like ctx →
        ∃ f, CompiledFilter.ofConditions ctx c.conditions c.combinator = .ok f
          ∧ rows = all.filter f.predicate.holds := by
  obtain ⟨w, records, hw, hrecords, rfl⟩ := exists_computation hrows
  obtain ⟨w', records', hw', hrecords', rfl⟩ := exists_computation hall
  obtain ⟨period, hperiod, hfilter⟩ := hw.exists_period
  obtain ⟨bare, heverything, htouches, hbare⟩ := hw.exists_unconditioned
  obtain rfl := hbare.unique hw' (hsources.mono Store.catalogs_subset_sources)
  refine ⟨period, hperiod, fun ctx htarget hctx => ?_⟩
  obtain ⟨f, hf⟩ := CompiledFilter.exists_ofConditions_of_like hctx hfilter
  refine ⟨f, hf, ?_⟩
  have hjoined : ({ w with filter := bare } : Computation).joined u
      (u.store.documents (Store.itemsOf c.datastoreId))
      = Stage.joinedWith t w.joins (t.store.documents (Store.itemsOf c.datastoreId)) := by
    rw [Computation.joined_of_everything heverything htouches,
      ← hsources.documents _ (Store.itemsOf_mem_sources _)]
    refine Stage.joinedWith_congr (fun j hj => ?_) _
    obtain ⟨r, -, rfl⟩ := List.mem_map.1 hj
    exact (hsources.documents _ (Store.itemsOf_mem_sources _)).symm
  have hkept := Projection.run_filter
    (fun source hsource kept hkept =>
      hw.holds_row h htarget hctx hfilter hf (hjoined ▸ hsource) hkept) hrecords'
  have hsame : records = records'.filter
      fun kept => f.predicate.holds ((Materialization.selection keys time).row kept) := by
    rw [hw.joined_eq_filter h, ← hjoined] at hrecords
    exact Except.ok.inj (hrecords.symm.trans hkept)
  show Materialization.shape time c.mode records
    = (Materialization.shape time c.mode records').filter _
  rw [h.mode, hsame]
  show (records'.filter _).map (Materialization.selection keys time).row
    = (records'.map (Materialization.selection keys time).row).filter _
  rw [List.filter_map]
  rfl

end ReportContent.FiltersKeys

/-- **The query that states the conditions of a report itself**, about another report. -/
def Query.adHoc (q : Query) (id : ReportId) (c : ReportContent) : Query :=
  { q with reportId := id.text, conditions := c.conditions, combinator := c.combinator }

namespace Publication

variable {p p' : Publication} {q : Query}

/-- **Queries are prepared alike** when the one is about published rows of a report with conditions, and the other
states these conditions about published rows of the report without. -/
theorem alikePrepared_adHoc {keys : List Key}
    (hkeys : p.definition.toReportContent.FiltersKeys p.before keys)
    (hbare : p'.definition.toReportContent = p.definition.toReportContent.unconditioned)
    (hsources : p.before.AgreeOn Store.sources p'.before) (hq : q.reportId = p.job.reportId.text)
    (hnone : q.conditions = []) {combinator : Combinator}
    (hcombinator : CompiledFilter.combinatorOf p.before.config.strictness q.combinator = .ok combinator) :
    Query.AlikePrepared p.after p'.after (q.prepare.answer p.after)
      ((q.adHoc p'.job.reportId p.definition.toReportContent).prepare.answer p'.after) := by
  have hall := p'.computed
  rw [hbare, ← hsources.clock] at hall
  obtain ⟨period, hperiod, hrows⟩ := hkeys.rows_eq_filter hsources p.computed hall
  have hafter : p'.after.AgreeOn Store.catalogs p.before :=
    p'.agreeOn_catalogs.trans (hsources.symm.mono Store.catalogs_subset_sources)
  have hreads : Reads Store.catalogs (Directory.processingPeriod p.definition.appId) :=
    Directory.reads_processingPeriod le_rfl _
  have hunderstood : CompiledFilter.combinatorOf (Query.context p.after period).strictness q.combinator
      = .ok combinator :=
    (congrArg (CompiledFilter.combinatorOf ·.strictness q.combinator) p.published.config).trans hcombinator
  obtain ⟨f, hf, hfilter⟩ := hrows (Query.context p'.after period) rfl
    ⟨hafter.clock.symm, rfl, congrArg Config.strictness hafter.config.symm⟩
  obtain ⟨bare, hnothing, heverything, -⟩ :=
    CompiledFilter.exists_ofConditions_nil_of_combinatorOf hunderstood
  obtain ⟨chosen, hchosen, hholds⟩ := Query.exists_compile (q := q)
    ((hreads.agrees _ _ p.agreeOn_catalogs).trans hperiod) (hnone ▸ hnothing)
  obtain ⟨chosen', hchosen', hholds'⟩ := Query.exists_compile
    (q := q.adHoc p'.job.reportId p.definition.toReportContent)
    ((hreads.agrees _ _ hafter).trans hperiod) hf
  refine alikePrepared hsources.today ?_ hq rfl ?_
  · rw [hbare]
    exact ⟨rfl, rfl, rfl⟩
  · rw [hbare]
    show ChooseAlike _ _ ((q.compile p.definition.appId).answer p.after)
      (((q.adHoc p'.job.reportId p.definition.toReportContent).compile p.definition.appId).answer p'.after)
    rw [hchosen, hchosen']
    show p.rows.filter _ = p'.rows.filter _
    rw [hfilter, List.filter_filter]
    refine List.filter_congr fun row _ => ?_
    rw [hholds, hholds', heverything]
    exact congrArg (· && _) (Bool.and_true _)

/-! ### Reports beside each other -/

/-- Publishing the rows of another report leaves a definition where it is. -/
theorem answer_find_of_ne {id : ReportId} {d : ReportDefinition} (hne : id ≠ p.job.reportId)
    (h : (Registry.find id).answer p.before = .ok (some d)) :
    (Registry.find id).answer p.after = .ok (some d) := by
  have havailable := Registry.available_of_find h
  rw [Registry.answer_find havailable] at h
  obtain ⟨document, rest, hfilter, hother⟩ := Registry.exists_document_of_firstOf_of_ne h hne
  rw [Registry.answer_find (p.published.unavailable ▸ havailable), p.published.reports,
    Registry.firstOf_stamped_of_ne hfilter hother, h]

/-- So it does with the definition of a report whose rows have been published. -/
theorem answer_find_of_published (hnext : p'.before = p.after) (hne : p.job.reportId ≠ p'.job.reportId) :
    (Registry.find p.job.reportId).answer p'.after = (Registry.find p.job.reportId).answer p.after := by
  have havailable := Registry.available_of_find p.found
  have hfound := p.found
  rw [Registry.answer_find havailable] at hfound
  obtain ⟨document, rest, hfilter, hother⟩ := Registry.exists_document_of_firstOf_of_ne hfound hne
  have hstamped : (p.after.store.documents Store.reports).filter (Registry.isReport p.job.reportId).holds
      = Registry.stamped p.job.reportId (Service.publishedStatus p.job p.rows p.before.today) document
        :: rest.map (Registry.stamped p.job.reportId
          (Service.publishedStatus p.job p.rows p.before.today)) := by
    rw [p.published.reports, List.filter_map, ← List.map_cons, ← hfilter]
    exact congrArg _ (congrArg (List.filter · _) (funext (Registry.holds_stamped _ _ _)))
  have hafter : p.after.store.unavailable.contains Store.reports = false :=
    p.published.unavailable ▸ havailable
  rw [Registry.answer_find hafter, Registry.answer_find (p'.published.unavailable ▸ hnext ▸ hafter),
    p'.published.reports, hnext]
  exact Registry.firstOf_stamped_of_ne hstamped ((Registry.holds_stamped _ _ _ _).trans hother) _

/-- **Publishing the rows of another report leaves queries as they were.** -/
theorem alikePrepared_of_ne (hnext : p'.before = p.after) (hne : p.job.reportId ≠ p'.job.reportId)
    (hq : q.reportId = p.job.reportId.text) :
    Query.AlikePrepared p'.after p.after (q.prepare.answer p'.after) (q.prepare.answer p.after) := by
  have hload : (Registry.load p.job.reportId).answer p'.after
      = (Registry.load p.job.reportId).answer p.after := by
    unfold Registry.load
    rw [answer_bind (Registry.reads_find (Set.mem_univ _) _) fun _ => .ofExcept .univ _ _,
      answer_bind (Registry.reads_find (Set.mem_univ _) _) fun _ => .ofExcept .univ _ _,
      answer_find_of_published hnext hne]
    exact congrArg _ (funext fun found => by cases Registry.active p.job.reportId found <;> rfl)
  have hcatalogs : p'.after.AgreeOn Store.catalogs p.after := hnext ▸ p'.agreeOn_catalogs
  rw [Query.answer_prepare, Query.answer_prepare, hq, ReportId.parse_text, bind_of_ok, bind_of_ok, hload]
  cases (Registry.load p.job.reportId).answer p.after with
  | error e => rfl
  | ok report =>
    rw [bind_of_ok, bind_of_ok, (Query.reads_compile le_rfl q report.appId).agrees _ _ hcatalogs]
    cases (q.compile report.appId).answer p.after with
    | error e => rfl
    | ok compiled =>
      have havailable : p.after.store.unavailable.contains p.job.reportId.collection = false :=
        p.published.unavailable ▸ p.published.available
      refine ⟨⟨rfl, rfl, hcatalogs.unavailable ▸ havailable, havailable, ?_⟩, rfl⟩
      refine congrArg (List.filter _) ?_
      refine (p'.published.others _ (fun h => hne (ReportId.collection_injective h))
        p.job.reportId.collection_ne_reports).trans ?_
      rw [hnext]

end Publication

/-- **Stored conditions and conditions of a query mean the same.** Where a listing report whose conditions name its
keys and the same report without conditions are both published for the same instant, in whichever order, the
query without conditions about the one and the query that states the conditions about the other are answered
with the same page, whatever the access groups of the caller and the part that is asked for. -/
theorem Service.query_eq_query_adHoc {s : Service} {stored bare first second : Job}
    {d d' : ReportDefinition} {keys : List Key} {q : Query} {combinator : Combinator}
    (hne : stored.reportId ≠ bare.reportId)
    (hstored : (Registry.find stored.reportId).answer s.tenant = .ok (some d))
    (hbare : (Registry.find bare.reportId).answer s.tenant = .ok (some d'))
    (hcontent : d'.toReportContent = d.toReportContent.unconditioned)
    (hkeys : d.toReportContent.FiltersKeys s.tenant keys)
    (horder : (first, second) = (stored, bare) ∨ (first, second) = (bare, stored))
    (hfirst : (execute first s).1.state = .published)
    (hsecond : (execute second (execute first s).2).1.state = .published)
    (hq : q.reportId = stored.reportId.text) (hnone : q.conditions = [])
    (hcombinator : CompiledFilter.combinatorOf s.tenant.config.strictness q.combinator = .ok combinator) :
    let u := (execute second (execute first s).2).2
    ((query q).run u).1 = ((query (q.adHoc bare.reportId d.toReportContent)).run u).1 := by
  obtain ⟨p, hjob, hbefore, hafter⟩ := Publication.exists_of_execute hfirst
  obtain ⟨p', hjob', hbefore', hafter'⟩ := Publication.exists_of_execute hsecond
  have hnext : p'.before = p.after := hbefore'.trans hafter.symm
  have hsources : p.before.AgreeOn Store.sources p'.before := hnext ▸ p.agreeOn_sources.symm
  have hcatalogs : p'.after.AgreeOn Store.catalogs p.after := hnext ▸ p'.agreeOn_catalogs
  show q.run.answer (execute second (execute first s).2).2.tenant
    = (q.adHoc bare.reportId d.toReportContent).run.answer (execute second (execute first s).2).2.tenant
  rw [← hafter']
  rcases horder with horder | horder
  · obtain ⟨rfl, rfl⟩ := Prod.mk.inj horder
    rw [← hjob, ← hbefore] at hstored
    rw [← hjob', ← hjob] at hne
    rw [← hjob', ← hbefore] at hbare
    obtain rfl := p.definition_eq hstored
    obtain rfl := p'.definition_eq (hnext ▸ p.answer_find_of_ne hne.symm hbare)
    rw [← hjob']
    exact ((Publication.alikePrepared_of_ne hnext hne (hjob ▸ hq)).answer_run hcatalogs rfl).trans
      ((Publication.alikePrepared_adHoc (hbefore ▸ hkeys) hcontent hsources (hjob ▸ hq) hnone
        (hbefore ▸ hcombinator)).answer_run hcatalogs.symm rfl)
  · obtain ⟨rfl, rfl⟩ := Prod.mk.inj horder
    rw [← hjob', ← hbefore] at hstored
    rw [← hjob', ← hjob] at hne
    rw [← hjob, ← hbefore] at hbare
    obtain rfl := p'.definition_eq (hnext ▸ p.answer_find_of_ne hne hstored)
    obtain rfl := p.definition_eq hbare
    rw [← hjob]
    refine ((Publication.alikePrepared_adHoc ((hbefore ▸ hkeys).congr hsources) hcontent hsources.symm
      (hjob' ▸ hq) hnone (hsources.config ▸ hbefore ▸ hcombinator)).answer_run hcatalogs rfl).trans ?_
    exact ((Publication.alikePrepared_of_ne hnext hne.symm rfl).answer_run hcatalogs rfl).symm

/-! ### A depot -/

/-- A report on orders, to be published with conditions or without. -/
def depotReport (id : ReportId) (keys : List Key) (conditions : List Condition) : ReportDefinition where
  appId := "app"
  datastoreId := "orders"
  conditions := conditions
  combinator := "and"
  mode := .select keys
  reportId := id

/-- The report that has conditions of its own. -/
def storedId : ReportId := ⟨"stored", by decide⟩

/-- The report on all orders. -/
def plainId : ReportId := ⟨"plain", by decide⟩

/-- A service for orders with both reports. -/
def depot (keys : List Key) (conditions : List Condition) (collections : Keyed Collection) : Service where
  tenant :=
    { store := { collections := collections ++ [("reports", { documents :=
        [(depotReport storedId keys conditions).toJson, (depotReport plainId keys []).toJson] })] }
      clock := .epoch
      today := .epoch }

/-- The wish for the rows of the report with conditions. -/
def storedJob : Job := ⟨storedId, 1, 0⟩

/-- The wish for the rows of the other one. -/
def plainJob : Job := ⟨plainId, 1, 1⟩

/-- A condition on a text. -/
def textIs (fieldId value : String) : Condition :=
  { fieldId, fieldType := .text, searchValue := value, operatorText := "=", isDynamic := true }

/-- A cell that holds a text. -/
def textCell (value : String) : Json :=
  .object [("data_type", DataType.text.toJson), ("value", .string value)]

/-- The field for the cities of orders. -/
def depotCity : Field := { fieldId := "city", appId := "app", datastoreId := "orders", fieldType := .text }

/-- Orders know the code of the customer. -/
def depotRelation : Relation := ⟨"r1", "customers", [("code", "customer")]⟩

/-- The customer Acme, and two orders from Ulm: one for Acme, and one for nobody who is known. -/
def depotCollections : Keyed Collection :=
  [("data_stores", { documents := [(Datastore.mk "orders" "app" [depotRelation]).toJson] }),
    ("fields", { documents := [depotCity.toJson] }),
    ("item_customers", { documents :=
      [.object [("items", .object [("code", textCell "A"), ("name", textCell "Acme")])]] }),
    ("item_orders", { documents :=
      [.object [("items", .object [("city", textCell "Ulm"), ("customer", textCell "A")]),
          ("owners", .ofStrings ["g1"])],
        .object [("items", .object [("city", textCell "Ulm"), ("customer", textCell "Z")]),
          ("owners", .ofStrings ["g1"])]] })]

/-- The city of an order and the name of its customer. -/
def depotKeys : List Key := [.dynamic "city" .text, .related "r1" "name" .text]

/-- The report on orders from Ulm that were sold to Acme. -/
def depotStored : ReportDefinition :=
  depotReport storedId depotKeys [textIs "city" "Ulm", textIs "r1#name" "Acme"]

/-- The service with this report. -/
def depotBefore : Service := depot depotKeys depotStored.conditions depotCollections

/-- The conditions name the keys of the report. -/
theorem depotStored_filtersKeys : depotStored.toReportContent.FiltersKeys depotBefore.tenant depotKeys where
  mode := rfl
  clear := ⟨by decide, by decide, by decide, by decide⟩
  names := by
    intro fields hfields condition hcondition
    have hcity : (((Catalog.resolve "app" "orders").answer depotBefore.tenant).map
        Catalog.rootFields).toOption = some [depotCity] := by decide +kernel
    replace hfields : ((Catalog.resolve "app" "orders").answer depotBefore.tenant).map Catalog.rootFields
      = .ok fields := hfields
    rw [hfields] at hcity
    obtain rfl := Option.some.inj hcity
    rcases List.mem_pair.1 hcondition with rfl | rfl
    · refine ⟨.dynamic "city" .text, by decide, ⟨rfl, rfl⟩, fun _ _ =>
        ⟨⟨depotCity, List.mem_singleton_self _, rfl⟩, fun f hf _ => ?_⟩⟩
      rw [List.mem_singleton.1 hf]
      rfl
    · exact ⟨.related "r1" "name" .text, by decide, ⟨rfl, rfl⟩, fun _ h => absurd h (by decide)⟩
  joined := by
    intro _ relations hrelations
    have hread : ((Rows.relations depotStored.toReportContent).answer depotBefore.tenant).toOption
        = some [depotRelation] := by decide +kernel
    rw [hrelations] at hread
    obtain rfl := Option.some.inj hread
    exact .inl ⟨depotRelation, List.mem_singleton_self _, by decide⟩

/-- **The orders from Ulm that were sold to Acme** are the same, be they chosen by the report or by the query. -/
theorem depot_query_eq_query_adHoc :
    let u := (Service.execute plainJob (Service.execute storedJob depotBefore).2).2
    let q := Query.all "stored" ["g1"]
    ((Service.query q).run u).1
      = ((Service.query (q.adHoc plainId depotStored.toReportContent)).run u).1 := by
  obtain ⟨hstored, hplain, hfirst, hsecond⟩ :
      ((Registry.find storedId).answer depotBefore.tenant).toOption = some (some depotStored)
        ∧ ((Registry.find plainId).answer depotBefore.tenant).toOption
          = some (some (depotReport plainId depotKeys []))
        ∧ (Service.execute storedJob depotBefore).1.state = .published
        ∧ (Service.execute plainJob (Service.execute storedJob depotBefore).2).1.state = .published := by
    decide +kernel
  exact @Service.query_eq_query_adHoc depotBefore storedJob plainJob storedJob plainJob depotStored
    (depotReport plainId depotKeys []) depotKeys (.all "stored" ["g1"]) .all (by decide)
    (eq_ok_of_toOption hstored) (eq_ok_of_toOption hplain) rfl depotStored_filtersKeys (.inl rfl) hfirst hsecond
    rfl rfl rfl

/-- The name of the customer of an order. -/
def strayKeys : List Key := [.related "r1" "name" .text]

/-- The report on orders that were sold to Acme. -/
def strayStored : ReportDefinition := depotReport storedId strayKeys [textIs "r1#name" "Acme"]

/-- The service with this report and one order, which brings its customer itself. Orders are not joined with
anything. -/
def strayBefore : Service := depot strayKeys strayStored.conditions
  [("item_orders", { documents := [.object [("item_id", .string "o1"), ("items", .object []),
    ("owners", .ofStrings ["g1"]),
    ("relations", .object [("r1", .object [("name", textCell "Acme")])])]] })]

/-- The service once both reports are published. -/
def strayAfter : Service := (Service.execute plainJob (Service.execute storedJob strayBefore).2).2

/-- **What an item has below `relations` of its own is seen by the report only**: its condition chooses the item,
and the row that is made of the item does not fulfil the condition. -/
theorem stray_query_ne_query_adHoc :
    strayStored.toReportContent.NamesKeys strayBefore.tenant strayKeys
      ∧ ((Registry.find storedId).answer strayBefore.tenant).toOption = some (some strayStored)
      ∧ ((Registry.find plainId).answer strayBefore.tenant).toOption
        = some (some (depotReport plainId strayKeys []))
      ∧ (Service.execute storedJob strayBefore).1.state = .published
      ∧ (Service.execute plainJob (Service.execute storedJob strayBefore).2).1.state = .published
      ∧ ((Service.query (.all "stored" ["g1"])).run strayAfter).1.toOption.map Page.total = some 1
      ∧ ((Service.query ((Query.all "stored" ["g1"]).adHoc plainId strayStored.toReportContent)).run
        strayAfter).1.toOption.map Page.total = some 0 := by
  refine ⟨⟨rfl, ⟨by decide, by decide, by decide, by decide⟩, fun fields _ condition hcondition => ?_⟩, ?_⟩
  · obtain rfl := List.mem_singleton.1 hcondition
    exact ⟨.related "r1" "name" .text, by decide, ⟨rfl, rfl⟩, fun _ h => absurd h (by decide)⟩
  · decide +kernel

end Rollup
