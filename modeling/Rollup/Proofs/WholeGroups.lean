import Rollup.Proofs.Conditions
import Rollup.Proofs.Merging
import Rollup.Proofs.Paging
import Rollup.Proofs.PublishedRows
import Rollup.Service.Reports

/-!
# Conditions and whole groups

Stored rows of a grouping report are kept apart by their access groups, and merged when they are shown. The
conditions of a query choose among the stored rows, before these are merged. Rows that are merged should
fulfil the conditions together or not at all: then a group is shown as it is without conditions, or it is
not shown (`Query.Undivided.showsWholeGroups`), and where records are counted this is the only way
(`Query.ShowsWholeGroups.undivided`). Conditions on the keys of the groups see to that
(`Query.undivided_of_isOn`), unless they compare the texts of numbers; conditions on reduced numbers do not,
and then a part of a group is shown for the whole.
-/

namespace Rollup

open TenantAction (answer answer_bind)

namespace GroupSpec

variable {spec : GroupSpec}

/-- A grouping whose keys have no labels shows nothing but what it merges. -/
theorem lookups_eq_nil (h : ∀ k ∈ spec.keys, k.dataType ≠ .options ∧ k.dataType ≠ .user)
    {c : ReportContent} (hmode : c.mode = .group spec) : (Presentation.ofReport c).lookups = [] := by
  show (Presentation.labelledKeys c.mode).filterMap (Presentation.lookup? c.appId) = []
  rw [hmode, List.filterMap_eq_nil_iff]
  intro k hk
  obtain ⟨hoptions, huser⟩ := h k hk
  unfold Presentation.lookup? Presentation.labelSource?
  split
  · split
    · exact absurd ‹_› huser
    · exact absurd ‹_› hoptions
    · rfl
  · rfl

/-- **The rows that are shown of some stored rows**, in their order. -/
def shown (spec : GroupSpec) (rows : List Json) : List Json :=
  Document.sort (Presentation.sortFor (.group spec)) ((Presentation.regrouping spec).run rows)

/-- A grouping is shown by labelling, merging and sorting. -/
theorem stages_eq {c : ReportContent} (hmode : c.mode = .group spec) : (Presentation.ofReport c).stages
      = (Presentation.ofReport c).lookups.map .lookup
        ++ ([.regroup (Presentation.regrouping spec)] ++ [.sort (Presentation.sortFor (.group spec))]) := by
  have hregroup : (Presentation.ofReport c).regroup = some (Presentation.regrouping spec) := by
    show c.mode.groupSpec?.map Presentation.regrouping = _
    rw [hmode]
    rfl
  have hsort : (Presentation.ofReport c).sort = Presentation.sortFor (.group spec) := by
    show Presentation.sortFor c.mode = _
    rw [hmode]
  unfold Presentation.stages Presentation.lookupStages
  rw [hregroup, hsort, List.append_assoc]
  rfl

end GroupSpec

/-- **What is shown of the groups that a prepared query chooses**: they are labelled, then merged and sorted. -/
theorem PreparedQuery.answer_groupedRows {q : PreparedQuery} {spec : GroupSpec} {c : ReportContent} {t : Tenant}
    (hmode : c.mode = .group spec) (hpresentation : q.presentation = .ofReport c) : q.groupedRows.answer t
      = (TenantAction.found "read report rows" q.collection q.predicate {} t).bind fun rows =>
          ((Stage.runAll ((Presentation.ofReport c).lookups.map .lookup) rows).answer t).bind fun labelled =>
            .ok (spec.shown labelled) := by
  unfold groupedRows
  rw [answer_bind (reads_read (Set.mem_univ _) _) fun _ => reads_present everywhere _ _,
    hpresentation, GroupSpec.stages_eq hmode]
  refine congr (congrArg Except.bind (TenantAction.answer_find _ _ _ _ _)) (funext fun rows => ?_)
  exact Stage.answer_runAll_append _ _ rows t

/-- **What a query for groups is answered.** -/
theorem Query.answer_run_group {q : Query} {t : Tenant} {id : ReportId} {d : ReportDefinition} {spec : GroupSpec}
    (hload : (Registry.load id).answer t = .ok d) (hmode : d.mode = .group spec) (hq : q.reportId = id.text) :
    q.run.answer t = ((q.compile d.appId).answer t).bind fun compiled =>
      (TenantAction.found "read report rows" id.collection compiled.predicate {} t).bind fun rows =>
        ((Stage.runAll ((Presentation.ofReport d.toReportContent).lookups.map .lookup) rows).answer t).bind
          fun labelled =>
            .ok { reportName := d.name, rows := Store.cut q.page.1 q.page.2 (spec.shown labelled),
                  fieldInfos := Presentation.fieldInfosFor d.mode, total := (spec.shown labelled).length } := by
  rw [answer_run, answer_prepare, hq, ReportId.parse_text, bind_of_ok, hload, bind_of_ok]
  cases (q.compile d.appId).answer t with
  | error e => rfl
  | ok compiled =>
    have hgroup : d.mode.isGroup = true := by
      rw [hmode]
      rfl
    rw [bind_of_ok, bind_of_ok, bind_of_ok, PreparedQuery.answer_pageRows_of_isGroup hgroup,
      PreparedQuery.answer_groupedRows hmode rfl]
    dsimp only
    cases TenantAction.found "read report rows" id.collection compiled.predicate {} t with
    | error e => rfl
    | ok rows =>
      rw [bind_of_ok, bind_of_ok]
      cases (Stage.runAll ((Presentation.ofReport d.toReportContent).lookups.map .lookup) rows).answer t <;> rfl

/-- **What a query for groups is answered**, where keys have no labels. -/
theorem Query.answer_run_grouped {q : Query} {t : Tenant} {id : ReportId} {d : ReportDefinition}
    {spec : GroupSpec} (hload : (Registry.load id).answer t = .ok d) (hmode : d.mode = .group spec)
    (hlabels : ∀ k ∈ spec.keys, k.dataType ≠ .options ∧ k.dataType ≠ .user) (hq : q.reportId = id.text) :
    q.run.answer t = ((q.compile d.appId).answer t).bind fun compiled =>
      (TenantAction.found "read report rows" id.collection compiled.predicate {} t).bind fun rows =>
        .ok { reportName := d.name, rows := Store.cut q.page.1 q.page.2 (spec.shown rows),
              fieldInfos := Presentation.fieldInfosFor d.mode, total := (spec.shown rows).length } := by
  rw [answer_run_group hload hmode hq, GroupSpec.lookups_eq_nil hlabels hmode]
  rfl

namespace Query

/-- **Conditions that do not divide groups**: rows that the caller sees and that are merged fulfil them together
or not at all. -/
def Undivided (q : Query) (t : Tenant) (appId : String) (spec : GroupSpec) (rows : List Json) : Prop :=
  ∀ compiled, (q.compile appId).answer t = .ok compiled → ∀ d ∈ rows, ∀ e ∈ rows,
    q.sees d = true → q.sees e = true →
    (Presentation.regrouping spec).keyOf d = (Presentation.regrouping spec).keyOf e →
      compiled.predicate.holds d = compiled.predicate.holds e

/-- **A page of whole groups**: each of its rows is one of the rows that are shown without conditions. -/
def ShowsWholeGroups (q : Query) (t : Tenant) (page : Page) : Prop :=
  ∃ all, q.unconditioned.run.answer t = .ok all ∧ ∀ row ∈ page.rows, row ∈ all.rows

/-- A page that shows something which is not shown without conditions is none of whole groups. -/
theorem not_showsWholeGroups {α : Type} {q : Query} {t : Tenant} {page all : Page} (f : Json → α)
    (hall : q.unconditioned.run.answer t = .ok all) (h : ¬ page.rows.map f ⊆ all.rows.map f) :
    ¬ q.ShowsWholeGroups t page := by
  rintro ⟨all', hall', hshown⟩
  obtain rfl := Except.ok.inj (hall.symm.trans hall')
  exact h (List.map_subset f hshown)

end Query

/-! ## Undivided groups -/

namespace Regroup

/-- **Undivided groups are left as they are.** -/
theorem mem_run_of_mem_run_filter {g : Regroup} {f : Json → Bool} {rows : List Json}
    (h : ∀ d ∈ rows, ∀ e ∈ rows, g.keyOf d = g.keyOf e → f d = f e) {row : Json}
    (hrow : row ∈ g.run (rows.filter f)) : row ∈ g.run rows := by
  unfold run at hrow ⊢
  rw [Stage.partitionBy_filter g.keyOf h] at hrow
  obtain ⟨group, hgroup, rfl⟩ := List.mem_map.1 hrow
  exact List.mem_map_of_mem (List.mem_of_mem_filter hgroup)

/-- Fewer rows have no more records. -/
theorem records_filter_le (f : Json → Bool) (rows : List Json) :
    records (rows.filter f) ≤ records rows :=
  (List.filter_sublist.map _).sum_le_sum fun _ _ => Nat.zero_le _

/-- **A row that is left out is missed** in the number of records. -/
theorem records_filter_lt {f : Json → Bool} {rows : List Json} {e : Json} (he : e ∈ rows)
    (hf : f e = false) (hcount : countIn e ≠ 0) : records (rows.filter f) < records rows := by
  obtain ⟨front, back, rfl⟩ := List.append_of_mem he
  have hpos : 0 < (countIn e).toNat :=
    Nat.pos_of_ne_zero fun h => hcount (UInt64.toNat_inj.1 h)
  have hfront := records_filter_le f front
  have hback := records_filter_le f back
  unfold records at *
  rw [List.filter_append, List.filter_cons_of_neg (Bool.eq_false_iff.1 hf)]
  simp only [List.map_append, List.sum_append, List.map_cons, List.sum_cons]
  omega

/-- **Rows whose records are counted**: each has some, and all of them together are a word. -/
structure Counted (rows : List Json) : Prop where
  /-- No row is without records. -/
  ne_zero : ∀ row ∈ rows, countIn row ≠ 0
  /-- No sum of counts wraps. -/
  lt : records rows < 2 ^ 64

/-- Fewer rows are counted, too. -/
theorem Counted.filter {rows : List Json} (h : Counted rows) (f : Json → Bool) :
    Counted (rows.filter f) where
  ne_zero row hrow := h.ne_zero row (List.mem_of_mem_filter hrow)
  lt := lt_of_le_of_lt (records_filter_le f rows) h.lt

/-- **The number of records shows that a row is missed.** -/
theorem Counted.countOf_filter_ne {rows : List Json} (h : Counted rows) {f : Json → Bool} {e : Json}
    (he : e ∈ rows) (hf : f e = false) : countOf (rows.filter f) ≠ countOf rows := by
  have hless := records_filter_lt he hf (h.ne_zero e he)
  rw [countOf_eq_records, countOf_eq_records]
  intro hsame
  have hnat := congrArg UInt64.toNat hsame
  rw [UInt64.toNat_ofNat_of_lt' (hless.trans h.lt), UInt64.toNat_ofNat_of_lt' h.lt] at hnat
  exact absurd hnat (ne_of_lt hless)

end Regroup

/-- **Where records are counted, a group that is shown as it is has not been divided.** -/
theorem GroupSpec.Plain.eq_true_of_mem_run {spec : GroupSpec} (h : spec.Plain)
    (hcount : spec.showCount = true) {f : Json → Bool} {rows : List Json} (hcounted : Regroup.Counted rows)
    (hshown : ∀ row ∈ (Presentation.regrouping spec).run (rows.filter f),
      row ∈ (Presentation.regrouping spec).run rows)
    {d e : Json} (hd : d ∈ rows) (he : e ∈ rows)
    (hkey : (Presentation.regrouping spec).keyOf d = (Presentation.regrouping spec).keyOf e)
    (hf : f d = true) : f e = true := by
  let g := Presentation.regrouping spec
  let whole := Stage.sharing g.keyOf (g.keyOf d) rows
  have hpart : Stage.sharing g.keyOf (g.keyOf d) (rows.filter f) = whole.filter f :=
    List.filter_comm _ _ _
  have hchosen := Stage.sharing_mem_partitionBy g.keyOf (List.mem_filter.2 ⟨hd, hf⟩)
  rw [hpart] at hchosen
  obtain ⟨⟨k, members⟩, hmembers, hrow⟩ := List.mem_map.1 (hshown _ (List.mem_map_of_mem hchosen))
  replace hrow : g.row members = g.row (whole.filter f) := hrow
  -- the row that is shown without conditions is the one of the same group
  have hk : k = g.keyOf d := calc
    k = g.keyOf (members.headD .null) := (Stage.head_of_mem_partitionBy g.keyOf hmembers).2.symm
    _ = g.keyOf (g.row members) := (h.separate.keyOf_mergedRow members).symm
    _ = g.keyOf (g.row (whole.filter f)) := congrArg g.keyOf hrow
    _ = g.keyOf ((whole.filter f).headD .null) := h.separate.keyOf_mergedRow _
    _ = g.keyOf d := (Stage.head_of_mem_partitionBy g.keyOf hchosen).2
  have hwhole : members = whole := ((Stage.mem_partitionBy g.keyOf).1 hmembers).1.trans
    (congrArg (fun k => Stage.sharing g.keyOf k rows) hk)
  have hcounts := congrArg (Document.get? Stage.countPath) hrow
  rw [h.separate.get?_mergedCount _ h.count_not_mem, h.separate.get?_mergedCount _ h.count_not_mem, if_pos hcount,
    if_pos hcount, hwhole] at hcounts
  have hwords := congrArg Decode.word (Option.some.inj hcounts)
  rw [Decode.word_ofWord, Decode.word_ofWord] at hwords
  by_contra hne
  exact (hcounted.filter _).countOf_filter_ne ((Stage.mem_sharing g.keyOf).2 ⟨he, hkey.symm⟩)
    (Bool.eq_false_iff.2 hne) (Option.some.inj hwords).symm

namespace Query

variable {q : Query} {t : Tenant} {id : ReportId} {d : ReportDefinition} {spec : GroupSpec} {page : Page}
  (hload : (Registry.load id).answer t = .ok d) (hmode : d.mode = .group spec)
  (hlabels : ∀ k ∈ spec.keys, k.dataType ≠ .options ∧ k.dataType ≠ .user) (hq : q.reportId = id.text)
  (hpage : q.run.answer t = .ok page)
include hload hmode hlabels hq hpage

/-- **A page with conditions and without**: groups of what the caller sees, or of what is chosen of it. -/
theorem exists_pages : ∃ compiled all, (q.compile d.appId).answer t = .ok compiled
      ∧ page.rows = Store.cut q.page.1 q.page.2 (spec.shown
          (((t.store.documents id.collection).filter q.sees).filter compiled.predicate.holds))
      ∧ q.unconditioned.run.answer t = .ok all
      ∧ all.rows = spec.shown ((t.store.documents id.collection).filter q.sees) := by
  rw [answer_run_grouped hload hmode hlabels hq] at hpage
  obtain ⟨compiled, hcompiled, hpage⟩ := exists_of_bind_eq_ok hpage
  obtain ⟨rows, hrows, hpage⟩ := exists_of_bind_eq_ok hpage
  obtain ⟨-, f, bare, -, hholds, hbare, hsees⟩ := exists_of_compile hcompiled
  have hchosen : ((t.store.documents id.collection).filter q.sees).filter compiled.predicate.holds
      = rows := by
    rw [TenantAction.eq_of_found hrows, List.filter_filter]
    refine List.filter_congr fun row _ => ?_
    rw [hholds, Bool.and_right_comm, Bool.and_self]
  have hall : TenantAction.found "read report rows" id.collection bare.predicate {} t
      = .ok ((t.store.documents id.collection).filter q.sees) := by
    unfold TenantAction.found at hrows ⊢
    split at hrows
    · exact absurd hrows nofun
    · next havailable =>
      rw [if_neg havailable, List.filter_congr fun row _ => hsees row]
      rfl
  have hunconditioned := answer_run_grouped (q := q.unconditioned) hload hmode hlabels hq
  rw [hbare, bind_of_ok, hall, bind_of_ok] at hunconditioned
  refine ⟨compiled, _, hcompiled, ?_, hunconditioned, rfl⟩
  rw [hchosen]
  exact (congrArg Page.rows (Except.ok.inj hpage)).symm

/-- **Groups that are not divided are shown whole.** -/
theorem Undivided.showsWholeGroups (h : q.Undivided t d.appId spec (t.store.documents id.collection)) :
    q.ShowsWholeGroups t page := by
  obtain ⟨compiled, all, hcompiled, hrows, hall, hallRows⟩ := exists_pages hload hmode hlabels hq hpage
  refine ⟨all, hall, fun row hrow => ?_⟩
  rw [hrows] at hrow
  rw [hallRows]
  refine Document.mem_sort.2 (Regroup.mem_run_of_mem_run_filter (fun d hd e he hkey => ?_)
    (Document.mem_sort.1 (Store.mem_of_mem_cut hrow)))
  rw [List.mem_filter] at hd he
  exact h compiled hcompiled d hd.1 e he.1 hd.2 he.2 hkey

/-- **Groups that are shown whole have not been divided**, where records are counted and everything is on one
page. -/
theorem ShowsWholeGroups.undivided (h : q.ShowsWholeGroups t page) (hplain : spec.Plain)
    (hcount : spec.showCount = true) (hsize : q.pageSize = 0)
    (hcounted : Regroup.Counted (t.store.documents id.collection)) :
    q.Undivided t d.appId spec (t.store.documents id.collection) := by
  obtain ⟨compiled, all, hcompiled, hrows, hall, hallRows⟩ := exists_pages hload hmode hlabels hq hpage
  obtain ⟨all', hall', hshown⟩ := h
  obtain rfl := Except.ok.inj (hall.symm.trans hall')
  have hcut : q.page = (0, none) := if_pos hsize
  rw [hrows, hallRows, hcut] at hshown
  have hmerged : ∀ row ∈ (Presentation.regrouping spec).run
      (((t.store.documents id.collection).filter q.sees).filter compiled.predicate.holds),
      row ∈ (Presentation.regrouping spec).run ((t.store.documents id.collection).filter q.sees) :=
    fun row hrow => Document.mem_sort.1 (hshown row (Document.mem_sort.2 hrow))
  intro compiled' hcompiled' d hd e he hsd hse hkey
  obtain rfl := Except.ok.inj (hcompiled.symm.trans hcompiled')
  have htogether := @GroupSpec.Plain.eq_true_of_mem_run spec hplain hcount _ _ (hcounted.filter q.sees)
    hmerged
  have hd' := List.mem_filter.2 ⟨hd, hsd⟩
  have he' := List.mem_filter.2 ⟨he, hse⟩
  exact Bool.eq_iff_iff.2 ⟨htogether hd' he' hkey, htogether he' hd' hkey.symm⟩

end Query

/-! ## Conditions on keys -/

namespace GroupSpec

/-- **Rows that are merged have key values that agree.** -/
theorem canonical_valuePath {spec : GroupSpec} {d e : Json}
    (h : (Presentation.regrouping spec).keyOf d = (Presentation.regrouping spec).keyOf e) {k : Key}
    (hk : k ∈ spec.keys) : Document.canonical (Document.get? k.valuePath d)
      = Document.canonical (Document.get? k.valuePath e) := by
  have hcolumns := List.map_inj_left.1 (List.map_map.symm.trans ((Document.tupleKey_concat_eq_iff.1 h).1.trans
    List.map_map)) k.outputPath (List.mem_map_of_mem hk)
  replace hcolumns : Document.canonical (Document.get? k.outputPath d)
      = Document.canonical (Document.get? k.outputPath e) := hcolumns
  unfold Key.outputPath at hcolumns
  unfold Key.valuePath
  split
  · next hitem =>
    rw [if_pos hitem] at hcolumns
    show Document.canonical (Document.get? (Stage.valuePath _) d)
      = Document.canonical (Document.get? (Stage.valuePath _) e)
    rw [Stage.get?_valuePath, Stage.get?_valuePath]
    exact Document.canonical_bind_getAt? hcolumns "value"
  · next hitem => rwa [if_neg hitem] at hcolumns

end GroupSpec

/-- **Conditions on the keys of a grouping do not divide groups**, unless one of them looks for numbers in a list
of texts. -/
theorem Query.undivided_of_isOn {q : Query} {t : Tenant} {appId : String} {spec : GroupSpec}
    {rows : List Json} (h : ∀ c ∈ q.conditions, ∃ k ∈ spec.keys, c.IsOn k ∧ (c.operator? = some .among →
      ∀ row ∈ rows, q.sees row = true → Predicate.hasNumber (Document.get? k.valuePath row) = false)) :
    q.Undivided t appId spec rows := by
  intro compiled hcompiled d hd e he hsd hse hkey
  obtain ⟨period, f, -, hf, hholds, -⟩ := exists_of_compile hcompiled
  have hcontext : (context t period).Like (context t period) := ⟨rfl, rfl, rfl⟩
  have halike : ∀ c ∈ q.conditions,
      c.SeesAlike (Document.get? (c.path .rows) d) (Document.get? (c.path .rows) e) := by
    intro c hc
    obtain ⟨k, hk, hon, hnumbers⟩ := h c hc
    rw [hon.path_rows]
    exact Condition.seesAlike_of_canonical (GroupSpec.canonical_valuePath hkey hk)
      fun hamong => ⟨hnumbers hamong d hd hsd, hnumbers hamong e he hse⟩
  have hmeans := @CompiledFilter.map_holds_ofConditions _ _ hcontext d e _ q.combinator halike
  rw [hf] at hmeans
  rw [hholds, hholds, hsd, hse, show f.predicate.holds d = f.predicate.holds e from
    Except.ok.inj hmeans]

/-- **When conditions leave groups whole.** A page of a grouping report whose keys have no labels shows whole
groups if the conditions do not divide groups; and only then, if records are counted, the fields can be told
apart and everything is on one page. Conditions on keys do not divide groups, unless one of them looks for
numbers in a list of texts. -/
theorem Service.showsWholeGroups_iff_undivided {s : Service} {id : ReportId} {d : ReportDefinition}
    {spec : GroupSpec} {q : Query} {page : Page} (hload : (Registry.load id).answer s.tenant = .ok d)
    (hmode : d.mode = .group spec)
    (hlabels : ∀ k ∈ spec.keys, k.dataType ≠ .options ∧ k.dataType ≠ .user) (hq : q.reportId = id.text)
    (hpage : ((query q).run s).1 = .ok page) :
    let rows := s.tenant.store.documents id.collection
    (q.Undivided s.tenant d.appId spec rows → q.ShowsWholeGroups s.tenant page)
      ∧ (spec.Plain → spec.showCount = true → q.pageSize = 0 → Regroup.Counted rows →
        q.ShowsWholeGroups s.tenant page → q.Undivided s.tenant d.appId spec rows)
      ∧ ((∀ c ∈ q.conditions, ∃ k ∈ spec.keys, c.IsOn k ∧ (c.operator? = some .among →
          ∀ row ∈ rows, q.sees row = true → Predicate.hasNumber (Document.get? k.valuePath row) = false)) →
        q.ShowsWholeGroups s.tenant page) := by
  rw [run_query] at hpage
  refine ⟨fun h => ?_, fun hplain hcount hsize hcounted h => ?_, fun h => ?_⟩
  · exact h.showsWholeGroups hload hmode hlabels hq hpage
  · exact h.undivided hload hmode hlabels hq hpage hplain hcount hsize hcounted
  · exact (Query.undivided_of_isOn h).showsWholeGroups hload hmode hlabels hq hpage

/-! ### Amounts of sales that were checked -/

/-- Sales grouped by whether they were checked. -/
def byCheck : GroupSpec where
  keys := [.fixed "check_status" .check]
  aggregates := [⟨.dynamic "amount" .number, .sum⟩]
  showCount := true

/-- The report about them. -/
def checksReport : ReportDefinition where
  appId := "market"
  datastoreId := "sales"
  mode := .group byCheck
  reportId := ⟨"checks", by decide⟩

/-- A checked sale that one access group may see. -/
def saleOf (amount : Int64) (owner : String) : Json :=
  .object [("check_status", .string "1"),
    ("items", .object [("amount", Stage.openCell .number (some (.ofSigned amount)))]),
    ("owners", .ofStrings [owner])]

/-- The field for the amounts of sales, as it is stored. -/
def amountField : Json :=
  .object [("app_id", .string "market"), ("datastore_id", .string "sales"), ("field_id", .string "amount"),
    ("field_type", DataType.number.toJson)]

/-- A market with one sale of each of two access groups. -/
def market : Service where
  tenant :=
    { store := { collections := [("fields", { documents := [amountField] }),
        ("item_sales", { documents := [saleOf 100 "g1", saleOf 10 "g2"] }),
        ("reports", { documents := [checksReport.toJson] })] }
      clock := .epoch
      today := .epoch }

/-- The market after the rows of the report were published. -/
def marketPublished : Service := (Service.execute ⟨checksReport.reportId, 1, 0⟩ market).2

/-- A query about the report for both access groups. -/
def checksWhere (conditions : List Condition) : Query :=
  { Query.all "checks" ["g1", "g2"] with conditions }

/-- Sales of more than fifty. -/
def overFifty : Condition where
  fieldId := "amount"
  fieldType := .number
  searchValue := "50"
  operatorText := ">"
  isDynamic := true

/-- Sales that were checked. -/
def checked : Condition where
  fieldId := "check_status"
  fieldType := .check
  searchValue := "1"

/-- What a row shows of its group: the key, the number of the sales and the sum of their amounts. -/
def checkShown (row : Json) : Option String × UInt64 × Option Float :=
  ((Document.get? "check_status" row).bind Json.asString?, Regroup.countIn row, Regroup.valueOf? "amount" row)

/-- What a query shows of all groups. -/
def checksShown (conditions : List Condition) : Option (List (Option String × UInt64 × Option Float)) :=
  ((Service.query (checksWhere conditions)).run marketPublished).1.toOption.map fun page =>
    page.rows.map checkShown

/-- **A condition on the key leaves the group whole**, and so it does not divide it. -/
theorem marketPublished_showsWholeGroups :
    ∃ page, ((Service.query (checksWhere [checked])).run marketPublished).1 = .ok page
      ∧ (checksWhere [checked]).ShowsWholeGroups marketPublished.tenant page
      ∧ (checksWhere [checked]).Undivided marketPublished.tenant "market" byCheck
          (marketPublished.tenant.store.documents checksReport.reportId.collection) := by
  obtain ⟨hfound, hanswered, hne, hrecords⟩ :
      ((Registry.load checksReport.reportId).answer marketPublished.tenant).toOption.map
          (fun d => (d.mode, d.appId)) = some (.group byCheck, "market")
        ∧ ((Service.query (checksWhere [checked])).run marketPublished).1.toOption.isSome = true
        ∧ (∀ row ∈ marketPublished.tenant.store.documents checksReport.reportId.collection,
          Regroup.countIn row ≠ 0)
        ∧ Regroup.records (marketPublished.tenant.store.documents checksReport.reportId.collection) = 2 := by
    decide +kernel
  obtain ⟨d, hd, hcontent⟩ := Option.map_eq_some_iff.1 hfound
  obtain ⟨hmode, happ⟩ := Prod.mk.inj hcontent
  obtain ⟨page, hpage⟩ := Option.isSome_iff_exists.1 hanswered
  replace hpage := eq_ok_of_toOption hpage
  obtain ⟨-, hundivided, hkeys⟩ :=
    Service.showsWholeGroups_iff_undivided (eq_ok_of_toOption hd) hmode (by decide) rfl hpage
  have hshown := hkeys fun c hc => by
    obtain rfl := List.mem_singleton.1 hc
    exact ⟨.fixed "check_status" .check, List.mem_singleton_self _, ⟨rfl, rfl⟩, fun h => absurd h (by decide)⟩
  have hplain : byCheck.Plain := ⟨by decide, by decide, by decide⟩
  have hcounted : Regroup.Counted
      (marketPublished.tenant.store.documents checksReport.reportId.collection) := by
    refine ⟨hne, ?_⟩
    rw [hrecords]
    norm_num
  refine ⟨page, hpage, hshown, ?_⟩
  rw [← happ]
  exact hundivided hplain rfl rfl hcounted hshown

/-- **A condition on the sum divides the group**: one of two sales is shown for both. -/
theorem marketPublished_dividesGroups :
    (Service.execute ⟨checksReport.reportId, 1, 0⟩ market).1.state = .published
      ∧ checksShown [] = some [(some "1", 2, some 110)]
      ∧ checksShown [overFifty] = some [(some "1", 1, some 100)]
      ∧ ∃ page, ((Service.query (checksWhere [overFifty])).run marketPublished).1 = .ok page
        ∧ ¬ (checksWhere [overFifty]).ShowsWholeGroups marketPublished.tenant page := by
  obtain ⟨hpublished, hall, hpart⟩ :
      (Service.execute ⟨checksReport.reportId, 1, 0⟩ market).1.state = .published
        ∧ checksShown [] = some [(some "1", 2, some 110)]
        ∧ checksShown [overFifty] = some [(some "1", 1, some 100)] := by
    decide +kernel
  refine ⟨hpublished, hall, hpart, ?_⟩
  obtain ⟨page, hpage, hrows⟩ := Option.map_eq_some_iff.1 hpart
  obtain ⟨all, hanswer, hallRows⟩ := Option.map_eq_some_iff.1 hall
  replace hanswer := eq_ok_of_toOption hanswer
  rw [Service.run_query] at hanswer
  refine ⟨page, eq_ok_of_toOption hpage,
    Query.not_showsWholeGroups (q := checksWhere [overFifty]) checkShown hanswer fun h => ?_⟩
  -- the row with a count of one is not among the rows of the whole groups
  rw [hrows, hallRows] at h
  have hcount := List.mem_singleton.1 (h (List.mem_singleton_self _))
  exact absurd (Prod.mk.inj (Prod.mk.inj hcount).2).1 (by decide)

end Rollup
