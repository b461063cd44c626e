import Rollup.Proofs.AccessGroups
import Rollup.Proofs.PublishedRows
import Rollup.Service.Reports

/-!
# Nothing comes through from hidden items

Take two services whose tenants hold the same, but for items of the datastore of a report that are hidden from
a caller. When the rows of the report are published in both, the caller gets the same answers from both: the
same pages, the same number of rows, the same downloads, whatever the conditions
(`Service.answers_eq_of_differInHidden`).

The rows themselves may differ. On the way to them the two computations go the same steps, with the same visible
records (`Tenant.DifferInHidden.filter_rows_eq`); and what a query chooses of the rows is visible, whatever
the caller adds to the demand for one of the caller's access groups.
-/

namespace Rollup

open Document (isHidden visible)

namespace Store

/-- Names that begin differently are different. -/
theorem ne_of_head?_ne {name other : String} (h : name.toList.head? ≠ other.toList.head?) : name ≠ other :=
  fun heq => h (congrArg (fun text : String => text.toList.head?) heq)

/-- How the names of collections begin that hold rows. -/
theorem head?_rowsOf (id : String) : (rowsOf id).toList.head? = some 'r' := by
  simp [rowsOf]

/-- How the names of collections begin that hold items. -/
theorem head?_itemsOf (id : String) : (itemsOf id).toList.head? = some 'i' := by
  simp [itemsOf]

/-- The names of catalogs begin otherwise. -/
theorem head?_ne_of_mem_catalogs {name : String} (h : name ∈ catalogs) :
    name.toList.head? ≠ some 'r' ∧ name.toList.head? ≠ some 'i' := by
  have hall : ∀ name ∈ [apps, fields, datastores, options, users],
      name.toList.head? ≠ some 'r' ∧ name.toList.head? ≠ some 'i' := by
    decide
  exact hall name h

/-- The collections that are known by name hold no rows. -/
theorem ne_rowsOf_of_mem_catalogs {name : String} (h : name ∈ catalogs) (id : String) : name ≠ rowsOf id :=
  ne_of_head?_ne (head?_rowsOf id ▸ (head?_ne_of_mem_catalogs h).1)

/-- They hold no items. -/
theorem ne_itemsOf_of_mem_catalogs {name : String} (h : name ∈ catalogs) (id : String) : name ≠ itemsOf id :=
  ne_of_head?_ne (head?_itemsOf id ▸ (head?_ne_of_mem_catalogs h).2)

/-- Catalogs are not in the registry. -/
theorem ne_reports_of_mem_catalogs {name : String} (h : name ∈ catalogs) : name ≠ reports :=
  ne_of_head?_ne (head?_ne_of_mem_catalogs h).1

/-- Definitions are not among items. -/
theorem reports_ne_itemsOf (id : String) : reports ≠ itemsOf id :=
  ne_of_head?_ne (by rw [head?_itemsOf]; decide)

/-- Items are not among rows. -/
theorem itemsOf_ne_rowsOf (id reportId : String) : itemsOf id ≠ rowsOf reportId :=
  ne_of_head?_ne (by rw [head?_itemsOf, head?_rowsOf]; decide)

/-- **What reports are made from**: everything but definitions and rows. -/
def sources : Set String := { name | name ≠ reports ∧ ∀ id, name ≠ rowsOf id }

/-- The catalogs are among that. -/
theorem catalogs_subset_sources : catalogs ⊆ sources :=
  fun _ h => ⟨ne_reports_of_mem_catalogs h, ne_rowsOf_of_mem_catalogs h⟩

/-- So are all items. -/
theorem itemsOf_mem_sources (id : String) : itemsOf id ∈ sources :=
  ⟨(reports_ne_itemsOf id).symm, itemsOf_ne_rowsOf id⟩

/-- Items of different datastores are in different collections. -/
theorem itemsOf_inj {id other : String} (h : itemsOf id = itemsOf other) : id = other := by
  have hchars := congrArg String.toList h
  simpa [itemsOf, String.toList_inj] using hchars

end Store

/-- What is joined only depends on the related collections. -/
theorem Stage.joinedWith_congr {t u : Tenant} {joins : List Join}
    (h : ∀ j ∈ joins, t.store.documents j.collection = u.store.documents j.collection)
    (items : List Json) : joinedWith t joins items = joinedWith u joins items := by
  unfold joinedWith
  induction joins generalizing items with
  | nil => rfl
  | cons j rest ih =>
    rw [List.foldl_cons, List.foldl_cons, h j List.mem_cons_self]
    exact ih (fun other hother => h other (List.mem_cons_of_mem _ hother)) _

namespace Computation

variable {w w' : Computation} {t u : Tenant} {c : ReportContent} {time : Instant}

/-- **Rows are computed one way only**, as far as the catalogs are the same. -/
theorem IsFor.unique (h : w.IsFor t c time) (h' : w'.IsFor u c time)
    (hcatalogs : t.AgreeOn Store.catalogs u) : w = w' := by
  obtain ⟨filter, fields, relations, projection⟩ := w
  obtain ⟨filter', fields', relations', projection'⟩ := w'
  have hfilter := h.filter.symm.trans
    (((Rows.reads_compile le_rfl c time).agrees t u hcatalogs).trans h'.filter)
  have hfields := h.fields.symm.trans ((congrArg _ <|
    (Catalog.reads_resolve le_rfl c.appId c.datastoreId).agrees t u hcatalogs).trans h'.fields)
  have hrelations := h.relations.symm.trans
    (((Rows.reads_relations le_rfl c).agrees t u hcatalogs).trans h'.relations)
  obtain rfl := Except.ok.inj hfilter
  obtain rfl := Except.ok.inj hfields
  obtain rfl := Except.ok.inj hrelations
  obtain rfl := Except.ok.inj (h.projection.symm.trans h'.projection)
  rfl

/-- The static columns are kept, those of the access groups among them. -/
theorem IsFor.columns (h : w.IsFor t c time) : w.projection.columns = Item.staticColumns := by
  obtain ⟨computed, -, hprojection⟩ := exists_of_bind_eq_ok h.projection
  exact congrArg Projection.columns (Except.ok.inj hprojection).symm

/-- What fulfils the conditions only depends on the related collections. -/
theorem joined_congr (w : Computation)
    (hjoins : ∀ j ∈ w.joins, t.store.documents j.collection = u.store.documents j.collection)
    (items : List Json) : w.joined t items = w.joined u items := by
  unfold joined
  rw [Stage.joinedWith_congr hjoins, Stage.joinedWith_congr hjoins]

end Computation

/-- **Tenants that differ in hidden items only**: they agree on everything but the items of a datastore, and of
these on the ones that are visible to some access groups. -/
structure Tenant.DifferInHidden (groups : List String) (datastoreId : String) (t u : Tenant) : Prop where
  /-- Elsewhere they agree. -/
  elsewhere : t.AgreeOn { name | name ≠ Store.itemsOf datastoreId } u
  /-- The same items are visible, in the same order. -/
  items : visible groups (t.store.documents (Store.itemsOf datastoreId))
    = visible groups (u.store.documents (Store.itemsOf datastoreId))

/-- **A report that is not about its own relations**: none of the relations of its datastore leads back to it. -/
def Tenant.JoinsOthers (t : Tenant) (c : ReportContent) : Prop :=
  ∀ relations, (Rows.relations c).answer t = .ok relations → ∀ r ∈ relations, r.datastoreId ≠ c.datastoreId

namespace Tenant.DifferInHidden

variable {groups : List String} {t u : Tenant} {c : ReportContent} {time : Instant}

/-- The catalogs are the same. -/
theorem catalogs {datastoreId : String} (h : t.DifferInHidden groups datastoreId u) :
    t.AgreeOn Store.catalogs u :=
  h.elsewhere.mono fun _ hname => Store.ne_itemsOf_of_mem_catalogs hname datastoreId

/-- **What is seen of the computed rows is the same**, as long as nothing hidden is chosen. -/
theorem filter_rows_eq (h : t.DifferInHidden groups c.datastoreId u) (hjoins : t.JoinsOthers c)
    {rows rows' : List Json} (hrows : (Rows.computeAll c time).answer t = .ok rows)
    (hrows' : (Rows.computeAll c time).answer u = .ok rows') {f : Json → Bool}
    (hf : ∀ row, isHidden groups row = true → f row = false) : rows.filter f = rows'.filter f := by
  obtain ⟨w, records, hw, hrecords, rfl⟩ := exists_computation hrows
  obtain ⟨w', records', hw', hrecords', rfl⟩ := exists_computation hrows'
  obtain rfl := hw.unique hw' h.catalogs
  have hcolumns : Stage.ownersPath ∈ w.projection.columns := by
    rw [hw.columns]
    decide
  have hcollections : ∀ j ∈ w.joins,
      t.store.documents j.collection = u.store.documents j.collection := by
    intro j hj
    obtain ⟨r, hr, rfl⟩ := List.mem_map.1 hj
    refine h.elsewhere.documents _ fun hsame => ?_
    exact hjoins w.relations hw.relations r (List.mem_of_mem_filter hr) (Store.itemsOf_inj hsame)
  have hvisible : visible groups records = visible groups records' := by
    have hleft := @Computation.visible_records groups _ _ _ _ hcolumns hrecords
    have hright := @Computation.visible_records groups _ _ _ _ hcolumns hrecords'
    rw [h.items, w.joined_congr hcollections] at hleft
    exact Except.ok.inj (hleft.symm.trans hright)
  rw [Materialization.filter_shape time c.mode hf records, hvisible,
    ← Materialization.filter_shape time c.mode hf records']

end Tenant.DifferInHidden

/-- The conditions of a query come beside the demand for an access group. -/
theorem CompiledFilter.exists_predicate_of_ofQuery {ctx : CompileContext} {conditions : List Condition}
    {combinator : String} {owners : List String} {compiled : CompiledFilter}
    (h : ofQuery ctx conditions combinator owners = .ok compiled) :
    ∃ p, compiled.predicate = .allOf [.among ownersPath owners, p] := by
  obtain ⟨f, -, hf⟩ := exists_of_bind_eq_ok h
  exact ⟨f.predicate, congrArg CompiledFilter.predicate (Except.ok.inj hf).symm⟩

/-- **A compiled query chooses nothing hidden** from its access groups, whatever its conditions. -/
theorem Query.holds_eq_false_of_compile {q : Query} {appId : String} {t : Tenant} {compiled : CompiledFilter}
    (h : (q.compile appId).answer t = .ok compiled) {row : Json} (hrow : isHidden q.owners row = true) :
    compiled.predicate.holds row = false := by
  rw [answer_compile] at h
  obtain ⟨period, -, h⟩ := exists_of_bind_eq_ok h
  obtain ⟨p, hp⟩ := CompiledFilter.exists_predicate_of_ofQuery (eq_ok_of_mapError h)
  rw [hp, Predicate.holds_allOf, List.all_cons,
    show (Predicate.among ownersPath q.owners).holds row = false from
      Document.not_among_of_isHidden hrow, Bool.false_and]

namespace Publication

/-- **Publishing leaves what reports are made from as it is.** -/
theorem agreeOn_sources (p : Publication) : p.after.AgreeOn Store.sources p.before :=
  ⟨p.published.config, p.published.clock, p.published.today, p.published.unavailable,
    fun name hname => p.published.others name (hname.2 _) hname.1⟩

/-- So it leaves the catalogs. -/
theorem agreeOn_catalogs (p : Publication) : p.after.AgreeOn Store.catalogs p.before :=
  p.agreeOn_sources.mono Store.catalogs_subset_sources

/-- **Queries about rows that were published where tenants differ in hidden items only** are prepared
alike. -/
theorem alikePrepared_of_differInHidden {p p' : Publication} (hjob : p'.job.reportId = p.job.reportId)
    {q : Query} (hq : q.reportId = p.job.reportId.text)
    (hdiffer : p.before.DifferInHidden q.owners p.definition.datastoreId p'.before)
    (hjoins : p.before.JoinsOthers p.definition.toReportContent) :
    Query.AlikePrepared p.after p'.after (q.prepare.answer p.after) (q.prepare.answer p'.after) := by
  have hdefinition : p'.definition = p.definition := p'.definition_eq (by
    rw [hjob, ← (Registry.reads_find (Store.reports_ne_itemsOf _) _).agrees _ _ hdiffer.elsewhere,
      p.found])
  have hcatalogs : p.after.AgreeOn Store.catalogs p'.after :=
    p.agreeOn_catalogs.trans (hdiffer.catalogs.trans p'.agreeOn_catalogs.symm)
  refine alikePrepared hdiffer.elsewhere.today (hdefinition ▸ ⟨rfl, rfl, rfl⟩) hq (hjob ▸ hq) ?_
  have hcompile := (Query.reads_compile le_rfl q p.definition.appId).agrees _ _ hcatalogs
  rw [hdefinition, ← hcompile]
  cases hcompiled : (q.compile p.definition.appId).answer p.after with
  | error e => rfl
  | ok compiled =>
    have hcomputed := p'.computed
    rw [hdefinition, ← hdiffer.elsewhere.clock] at hcomputed
    exact hdiffer.filter_rows_eq hjoins p.computed hcomputed
      fun row hrow => Query.holds_eq_false_of_compile hcompiled hrow

end Publication

/-- **Access groups are a boundary.** Where two services hold the same, but for items of the datastore of a
report that are hidden from a caller, and the rows of the report are published in both for the same instant,
the caller gets the same answers from both: the same page, the same number of rows, the same download, for all
conditions and however they are combined. -/
theorem Service.answers_eq_of_differInHidden {s₁ s₂ : Service} {job₁ job₂ : Job} {d : ReportDefinition}
    {q : Query} (hjob : job₂.reportId = job₁.reportId)
    (hfind : (Registry.find job₁.reportId).answer s₁.tenant = .ok (some d))
    (hjoins : s₁.tenant.JoinsOthers d.toReportContent)
    (hdiffer : s₁.tenant.DifferInHidden q.owners d.datastoreId s₂.tenant)
    (hpublished₁ : (execute job₁ s₁).1.state = .published)
    (hpublished₂ : (execute job₂ s₂).1.state = .published)
    (hq : q.reportId = job₁.reportId.text) :
    let s₁' := (execute job₁ s₁).2
    let s₂' := (execute job₂ s₂).2
    ((query q).run s₁').1 = ((query q).run s₂').1
      ∧ ((count q.reportId q.owners).run s₁').1 = ((count q.reportId q.owners).run s₂').1
      ∧ ((download q).run s₁').1 = ((download q).run s₂').1 := by
  obtain ⟨p, hpjob, hpbefore, hpafter⟩ := Publication.exists_of_execute hpublished₁
  obtain ⟨p', hpjob', hpbefore', hpafter'⟩ := Publication.exists_of_execute hpublished₂
  have hdefinition : p.definition = d := by
    have hfound := p.found
    rw [hpjob, hpbefore, hfind] at hfound
    exact (Option.some.inj (Except.ok.inj hfound)).symm
  have hprepared : ∀ r : Query, r.reportId = q.reportId → r.owners = q.owners →
      Query.AlikePrepared p.after p'.after (r.prepare.answer p.after) (r.prepare.answer p'.after) := by
    intro r hreport howners
    refine Publication.alikePrepared_of_differInHidden (by rw [hpjob, hpjob', hjob])
      (by rw [hreport, hq, hpjob]) ?_ ?_
    · rw [hpbefore, hpbefore', hdefinition, howners]
      exact hdiffer
    · rw [hpbefore, hdefinition]
      exact hjoins
  have hcatalogs : p.after.AgreeOn Store.catalogs p'.after :=
    p.agreeOn_catalogs.trans ((hpbefore ▸ hpbefore' ▸ hdiffer.catalogs).trans p'.agreeOn_catalogs.symm)
  show q.run.answer (execute job₁ s₁).2.tenant = q.run.answer (execute job₂ s₂).2.tenant
    ∧ (Query.count q.reportId q.owners).answer (execute job₁ s₁).2.tenant
      = (Query.count q.reportId q.owners).answer (execute job₂ s₂).2.tenant
    ∧ q.download.answer (execute job₁ s₁).2.tenant = q.download.answer (execute job₂ s₂).2.tenant
  rw [← hpafter, ← hpafter']
  exact ⟨(hprepared q rfl rfl).answer_run hcatalogs rfl,
    (hprepared (Query.all q.reportId q.owners) rfl rfl).answer_count hcatalogs,
    (hprepared q rfl rfl).answer_download hcatalogs⟩

/-! ### Two shops -/

/-- A report that lists the cities of orders, as it is stored. -/
def cities : Json :=
  .object [("app_id", .string "shop"), ("datastore_id", .string "orders"), ("mode", .string "select"),
    ("report_id", .string "cities"), ("select_key_infos", .array [.object
      [("data_type", DataType.text.toJson), ("field_id", .string "city")]])]

/-- Its definition. -/
def citiesReport : ReportDefinition where
  appId := "shop"
  datastoreId := "orders"
  mode := .select [.dynamic "city" .text]
  reportId := ⟨"cities", by decide⟩

/-- An order from a city that one access group may see. -/
def orderFrom (city owner : String) : Json :=
  .object [("items", .object [("city", .object
    [("data_type", DataType.text.toJson), ("value", .string city)])]), ("owners", .ofStrings [owner])]

/-- The field for the cities of orders, as it is stored. -/
def cityField : Json :=
  .object [("app_id", .string "shop"), ("datastore_id", .string "orders"), ("field_id", .string "city"),
    ("field_type", DataType.text.toJson)]

/-- A service for some orders. -/
def shop (orders : List Json) : Service where
  tenant :=
    { store := { collections := [("fields", { documents := [cityField] }),
        ("item_orders", { documents := orders }), ("reports", { documents := [cities] })] }
      clock := .epoch
      today := .epoch }

/-- The wish for the rows of the report. -/
def citiesJob : Job := ⟨citiesReport.reportId, 1, 0⟩

/-- Shops that differ in an order that is hidden from `north` differ in nothing else. -/
theorem shop_differInHidden : (shop [orderFrom "Ulm" "north"]).tenant.DifferInHidden ["north"] "orders"
    (shop [orderFrom "Bonn" "south", orderFrom "Ulm" "north"]).tenant where
  elsewhere := by
    refine ⟨rfl, rfl, rfl, rfl, fun name hname => ?_⟩
    have hne : "item_orders" ≠ name := fun h => hname h.symm
    simp [shop, Store.documents, Store.collection, Keyed.get?, hne]
  items := by
    have hshown : isHidden ["north"] (orderFrom "Ulm" "north") = false := by decide +kernel
    have hhidden : isHidden ["north"] (orderFrom "Bonn" "south") = true := by decide +kernel
    show visible ["north"] [orderFrom "Ulm" "north"]
      = visible ["north"] [orderFrom "Bonn" "south", orderFrom "Ulm" "north"]
    simp [visible, hshown, hhidden]

/-- **An order of the south does not show in the north**, in no page, no count and no download. -/
theorem shop_answers_eq :
    let s := (Service.execute citiesJob (shop [orderFrom "Ulm" "north"])).2
    let s' := (Service.execute citiesJob (shop [orderFrom "Bonn" "south", orderFrom "Ulm" "north"])).2
    let q := Query.all "cities" ["north"]
    ((Service.query q).run s).1 = ((Service.query q).run s').1
      ∧ ((Service.count "cities" ["north"]).run s).1 = ((Service.count "cities" ["north"]).run s').1
      ∧ ((Service.download q).run s).1 = ((Service.download q).run s').1 := by
  have hfind : ((Registry.find citiesJob.reportId).answer
      (shop [orderFrom "Ulm" "north"]).tenant).toOption = some (some citiesReport) := by decide +kernel
  have hrelations : ((Rows.relations citiesReport.toReportContent).answer
      (shop [orderFrom "Ulm" "north"]).tenant).toOption.map List.length = some 0 := by decide +kernel
  exact Service.answers_eq_of_differInHidden (q := .all "cities" ["north"]) rfl (eq_ok_of_toOption hfind)
    (fun relations h => by
      rw [h] at hrelations
      rw [List.length_eq_zero_iff.1 (Option.some.inj hrelations)]
      exact fun r hr => absurd hr List.not_mem_nil)
    shop_differInHidden (by decide +kernel) (by decide +kernel) rfl

end Rollup
