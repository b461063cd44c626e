import Rollup.Proofs.Footprints
import Rollup.Service.Reports

/-!
# What queries answer

A query only reads: the registry, the catalogs and the rows of its report. So its answer is a function of
the tenant, put together from what its parts answer (`Query.answer_run`, `Query.answer_count`,
`Query.answer_download`). Of the stored rows it depends only on those that match its predicate
(`PreparedQuery.SameView`): two queries that are shown the same way, and whose predicates choose the same
rows, get the same answer, be it from different tenants.
-/

namespace Rollup

open TenantAction (Reads answer answer_bind)

namespace Document

/-- Sorting brings documents into another order, and that is all. -/
theorem sort_perm (keys : List SortKey) (documents : List Json) : (sort keys documents).Perm documents := by
  unfold sort
  split
  · exact List.Perm.refl _
  · exact List.mergeSort_perm _ _

/-- Sorting keeps the documents. -/
theorem mem_sort {keys : List SortKey} {documents : List Json} {d : Json} :
    d ∈ sort keys documents ↔ d ∈ documents := (sort_perm keys documents).mem_iff

/-- Sorting keeps the number of documents. -/
theorem length_sort (keys : List SortKey) (documents : List Json) :
    (sort keys documents).length = documents.length := (sort_perm keys documents).length_eq

/-- Documents in order are left in their order. -/
theorem sort_of_pairwise {keys : List SortKey} {documents : List Json}
    (h : documents.Pairwise fun a b => (order keys a b).isLE = true) : sort keys documents = documents := by
  unfold sort
  split
  · rfl
  · exact List.mergeSort_of_pairwise h

end Document

/-- A page holds nothing but what was cut. -/
theorem Store.mem_of_mem_cut {α : Type} {skip : ℕ} {limit : Option ℕ} {xs : List α} {x : α}
    (h : x ∈ cut skip limit xs) : x ∈ xs := by
  cases limit with
  | none => exact List.mem_of_mem_drop h
  | some n => exact List.mem_of_mem_drop (List.mem_of_mem_take h)

namespace Query

variable {names : Set String}

/-- Counting a refusal reads what the action reads. -/
theorem reads_countRefusal {α : Type} {a : TenantAction α} (ha : Reads names a) :
    Reads names (countRefusal a) := by
  refine ha.outcome.bind fun result => ?_
  cases result with
  | ok x => exact .pure _ _
  | error e => exact .ite ((Reads.meter _ _).bind fun _ => .throw _ _) (.throw _ _)

/-- Counting a refusal changes no answer. -/
theorem answer_countRefusal {α : Type} (a : TenantAction α) (t : Tenant) :
    (countRefusal a).answer t = a.answer t := by
  unfold countRefusal answer
  rw [run_bind, TenantAction.run_outcome]
  generalize a.run t = ran
  obtain ⟨e | x, t'⟩ := ran
  · dsimp only
    split <;> rfl
  · rfl

/-- What the meaning of the conditions of a query depends on. -/
def context (t : Tenant) (period : Option String) : CompileContext :=
  { target := .rows, now := t.clock, period, strictness := t.config.strictness }

/-- Tenants that are alike understand queries alike. -/
theorem context_eq_of_alike {t u : Tenant} (h : t.Alike names u) : context t = context u := by
  unfold context
  rw [h.strictness, h.clock]

/-- How the conditions of a query are compiled. -/
theorem compile_eq (q : Query) (appId : String) : q.compile appId = TenantAction.compiling appId
    fun t period => CompiledFilter.ofQuery (context t period) q.conditions q.combinator q.owners := rfl

/-- Compiling the conditions of a query reads the catalogs. -/
theorem reads_compile (hnames : Store.catalogs ⊆ names) (q : Query) (appId : String) :
    Reads names (q.compile appId) := by
  rw [compile_eq]
  exact TenantAction.reads_compiling hnames _ fun t u htu => by rw [context_eq_of_alike htu]

/-- **What compiling the conditions of a query answers.** -/
theorem answer_compile (q : Query) (appId : String) (t : Tenant) :
    (q.compile appId).answer t = ((Directory.processingPeriod appId).answer t).bind fun period =>
      (CompiledFilter.ofQuery (context t period) q.conditions q.combinator q.owners).mapError
        .compile := by
  rw [compile_eq, TenantAction.answer_compiling]
  exact fun t u htu => by rw [context_eq_of_alike htu]

/-- Preparing a query reads the registry and the catalogs. -/
theorem reads_prepare (hnames : Store.catalogs ⊆ names) (hreports : Store.reports ∈ names) (q : Query) :
    Reads names q.prepare := by
  refine (Reads.ofExcept _ _ _).bind fun id => (Registry.reads_load hreports id).bind fun report =>
    (reads_compile hnames q _).bind fun compiled => ?_
  exact (Reads.pure _ _).tryEnsure_bind _ _

/-- **What preparing a query answers.** -/
theorem answer_prepare (q : Query) (t : Tenant) :
    q.prepare.answer t = (ReportId.parse q.reportId).bind fun id =>
      ((Registry.load id).answer t).bind fun report =>
        ((q.compile report.appId).answer t).bind fun compiled => .ok
          { report, collection := id.collection, predicate := compiled.predicate,
            presentation := Presentation.ofReport report.toReportContent } := by
  have hlast : ∀ (id : ReportId) (report : ReportDefinition) (compiled : CompiledFilter),
      Reads .univ (do
        let presentation := Presentation.ofReport report.toReportContent
        let _ ← IndexBudget.tryEnsure id.collection (indexPaths compiled presentation)
        return ({ report, collection := id.collection, predicate := compiled.predicate,
                  presentation } : PreparedQuery)) :=
    fun id report compiled => (Reads.pure _ _).tryEnsure_bind _ _
  have hcompile := fun report : ReportDefinition =>
    reads_compile (Set.subset_univ _) q report.appId
  unfold prepare
  rw [answer_bind (.ofExcept .univ _ _) fun id => (Registry.reads_load (Set.mem_univ _) id).bind
    fun report => (hcompile report).bind fun compiled => hlast id report compiled]
  cases ReportId.parse q.reportId with
  | error e => rfl
  | ok id =>
    show answer (Registry.load id >>= _) t = ((Registry.load id).answer t).bind _
    rw [answer_bind (Registry.reads_load (Set.mem_univ _) id)
      fun report => (hcompile report).bind fun compiled => hlast id report compiled]
    refine congrArg _ (funext fun report => ?_)
    rw [answer_bind (hcompile report) fun compiled => hlast id report compiled]
    refine congrArg _ (funext fun compiled => ?_)
    exact TenantAction.answer_tryEnsure_bind (Reads.pure .univ _) _ _ t

end Query

namespace PreparedQuery

variable {names : Set String} {p q : PreparedQuery} {t u : Tenant}

/-- A presentation joins nothing. -/
theorem readsAmong_of_mem_stages {stage : Stage} {presentation : Presentation}
    (h : stage ∈ presentation.stages) : stage.ReadsAmong names := by
  unfold Presentation.stages Presentation.lookupStages at h
  rcases List.mem_append.1 h with h | h
  · rcases List.mem_append.1 h with h | h
    · obtain ⟨l, -, rfl⟩ := List.mem_map.1 h
      trivial
    · cases hg : presentation.regroup with
      | none => exact absurd (hg ▸ h) List.not_mem_nil
      | some g =>
        rw [hg] at h
        rw [List.mem_singleton.1 h]
        trivial
  · rw [List.mem_singleton.1 h]
    trivial

/-- What follows a batch of a listing report: nothing behind one that is not full. -/
def afterBatch (p : PreparedQuery) (size fuel skip : ℕ) :
    Except ReportError (ℕ × List Json) → TenantAction (List (Except ReportError (List Json)))
  | .error e => return [.error e]
  | .ok (read, rows) => do
    if read = 0 then return []
    else if read < size then return [.ok rows]
    else return .ok rows :: (← p.listedBatches size fuel (skip + size))

/-- Batches come one after the other. -/
theorem listedBatches_succ (p : PreparedQuery) (size fuel skip : ℕ) :
    p.listedBatches size (fuel + 1) skip
      = TenantAction.outcome (p.listedBatch size skip) >>= p.afterBatch size fuel skip := by
  conv_lhs => unfold listedBatches
  refine congrArg _ (funext fun result => ?_)
  unfold afterBatch
  cases result <;> rfl

section Reads

variable (hnames : Store.catalogs ⊆ names)
include hnames

/-- Presenting rows reads the catalogs. -/
theorem reads_present (presentation : Presentation) (rows : List Json) :
    Reads names (Stage.runAll presentation.stages rows) :=
  Stage.reads_runAll hnames (fun _ h => readsAmong_of_mem_stages h) rows

/-- Labelling rows reads the catalogs. -/
theorem reads_label (p : PreparedQuery) (rows : List Json) : Reads names (p.label rows) := by
  refine Stage.reads_runAll hnames (fun stage h => ?_) rows
  obtain ⟨l, -, rfl⟩ := List.mem_map.1 h
  trivial

variable (hrows : p.collection ∈ names)
include hrows

omit hnames in
/-- Reading rows reads the rows of the report. -/
theorem reads_read (window : Store.Window) : Reads names (p.read window) := .find hrows _ _ _

omit hnames in
/-- A part of the rows is read in the rows of the report. -/
theorem reads_listedPart (skip : ℕ) (limit : Option ℕ) : Reads names (p.listedPart skip limit) :=
  reads_read hrows _

omit hnames in
/-- Counting rows reads the rows of the report. -/
theorem reads_count : Reads names p.count := .count hrows _ _

/-- Presented rows come from the rows of the report and the catalogs. -/
theorem reads_groupedRows : Reads names p.groupedRows :=
  (reads_read hrows _).bind fun _ => reads_present hnames _ _

/-- A page comes from the rows of the report and the catalogs. -/
theorem reads_pageRows (skip : ℕ) (limit : Option ℕ) : Reads names (p.pageRows skip limit) :=
  .ite ((reads_groupedRows hnames hrows).bind fun _ => .pure _ _)
    ((reads_read hrows _).bind fun _ => (reads_count hrows).bind fun _ =>
      (reads_label hnames p _).bind fun _ => .pure _ _)

/-- A total comes from the rows of the report and the catalogs. -/
theorem reads_total : Reads names p.total :=
  .ite ((reads_groupedRows hnames hrows).bind fun _ => .pure _ _) (reads_count hrows)

/-- A batch comes from the rows of the report and the catalogs. -/
theorem reads_listedBatch (size skip : ℕ) : Reads names (p.listedBatch size skip) :=
  (reads_read hrows _).bind fun _ =>
    .ite (.pure _ _) ((reads_label hnames p _).bind fun _ => .pure _ _)

/-- Batches come from the rows of the report and the catalogs. -/
theorem reads_listedBatches (size fuel skip : ℕ) : Reads names (p.listedBatches size fuel skip) := by
  induction fuel generalizing skip with
  | zero => exact .pure _ _
  | succ fuel ih =>
    refine (reads_listedBatch hnames hrows size skip).outcome.bind fun result => ?_
    split
    · exact .pure _ _
    · exact .ite (.pure _ _) (.ite (.pure _ _) ((ih _).bind fun _ => .pure _ _))

/-- What follows a batch comes from the rows of the report and the catalogs. -/
theorem reads_afterBatch (size fuel skip : ℕ) (result : Except ReportError (ℕ × List Json)) :
    Reads names (p.afterBatch size fuel skip result) := by
  unfold afterBatch
  split
  · exact .pure _ _
  · exact .ite (.pure _ _)
      (.ite (.pure _ _) ((reads_listedBatches hnames hrows _ _ _).bind fun _ => .pure _ _))

/-- All batches come from the rows of the report and the catalogs. -/
theorem reads_batches : Reads names p.batches := by
  refine .get (fun t => .ite ?_ (reads_listedBatches hnames hrows _ _ _)) fun t u htu => ?_
  · refine (reads_groupedRows hnames hrows).outcome.bind fun result => ?_
    cases result <;> exact .pure _ _
  · dsimp only
    rw [htu.downloadBatchSize, htu.documents p.collection hrows]

end Reads

/-- **What is seen of two prepared queries is the same**: they are shown the same way, and the rows that
they choose are the same. -/
structure SameView (t u : Tenant) (p q : PreparedQuery) : Prop where
  /-- Both group or both list. -/
  mode : p.report.mode.isGroup = q.report.mode.isGroup
  /-- They have the same presentation. -/
  presentation : p.presentation = q.presentation
  /-- The rows of the one can be read. -/
  left : t.store.unavailable.contains p.collection = false
  /-- And those of the other. -/
  right : u.store.unavailable.contains q.collection = false
  /-- The same rows are chosen. -/
  rows : (t.store.documents p.collection).filter p.predicate.holds
    = (u.store.documents q.collection).filter q.predicate.holds

/-- The rows that a prepared query chooses. -/
def chosen (p : PreparedQuery) (t : Tenant) : List Json :=
  (t.store.documents p.collection).filter p.predicate.holds

/-- The rows that a prepared query of a listing report chooses, in order. -/
def ordered (p : PreparedQuery) (t : Tenant) : List Json :=
  Document.sort p.presentation.sort (p.chosen t)

/-- There are as many in order. -/
theorem length_ordered (p : PreparedQuery) (t : Tenant) : (p.ordered t).length = (p.chosen t).length :=
  Document.length_sort _ _

/-- **What reading a part of the rows answers.** -/
theorem answer_listedPart (hread : t.store.unavailable.contains p.collection = false) (skip : ℕ)
    (limit : Option ℕ) :
    (p.listedPart skip limit).answer t = .ok (Store.cut skip limit (p.ordered t)) := by
  unfold listedPart read
  rw [TenantAction.answer_find, TenantAction.found, hread]
  rfl

/-- Rows that were read could be reached. -/
theorem available_of_read {window : Store.Window} {rows : List Json}
    (h : (p.read window).answer t = .ok rows) : t.store.unavailable.contains p.collection = false := by
  unfold read at h
  rw [TenantAction.answer_find, TenantAction.found] at h
  refine Bool.eq_false_iff.2 fun hread => ?_
  rw [if_pos hread] at h
  cases h

/-- Behind the last row there are no batches. -/
theorem answer_listedBatches_of_le (hread : t.store.unavailable.contains p.collection = false)
    (size fuel : ℕ) {skip : ℕ} (hskip : (p.chosen t).length ≤ skip) :
    (p.listedBatches size fuel skip).answer t = .ok [] := by
  cases fuel with
  | zero => rfl
  | succ fuel =>
    have hcut : Store.cut skip (some size) (p.ordered t) = [] := by
      show (List.drop skip _).take size = []
      rw [List.drop_of_length_le (p.length_ordered t ▸ hskip), List.take_nil]
    have hread : (p.listedPart skip (some size)).answer t = .ok [] :=
      (answer_listedPart hread _ _).trans (congrArg Except.ok hcut)
    have hbatch : (p.listedBatch size skip).answer t = .ok (0, []) := by
      unfold listedBatch
      rw [answer_bind (reads_listedPart (Set.mem_univ _) _ _) fun _ =>
        .ite (.pure _ _) ((reads_label everywhere p _).bind fun _ => .pure _ _), hread]
      rfl
    rw [listedBatches_succ, answer_bind
      (reads_listedBatch everywhere (Set.mem_univ _) size skip).outcome
      (reads_afterBatch everywhere (Set.mem_univ _) size fuel skip), TenantAction.answer_outcome,
      hbatch]
    rfl

namespace SameView

variable (h : SameView t u p q) (hcatalogs : t.AgreeOn Store.catalogs u)
include h

/-- The same rows are read. -/
theorem answer_read (window : Store.Window) : (p.read window).answer t = (q.read window).answer u := by
  unfold read
  rw [TenantAction.answer_find, TenantAction.answer_find]
  unfold TenantAction.found
  rw [h.left, h.right, h.rows]
  rfl

/-- As many rows are counted. -/
theorem answer_count : p.count.answer t = q.count.answer u := by
  unfold PreparedQuery.count
  rw [TenantAction.answer_count, TenantAction.answer_count, h.left, h.right, h.rows]
  rfl

include hcatalogs

/-- The same rows are presented. -/
theorem answer_groupedRows : p.groupedRows.answer t = q.groupedRows.answer u := by
  refine TenantAction.answer_bind_congr (reads_read (Set.mem_univ _) _) (fun _ => reads_present everywhere _ _)
    (reads_read (Set.mem_univ _) _) (fun _ => reads_present everywhere _ _) (h.answer_read _) fun rows => ?_
  rw [h.presentation]
  exact (reads_present le_rfl _ rows).agrees t u hcatalogs

/-- Rows get the same labels. -/
theorem answer_label (rows : List Json) : (p.label rows).answer t = (q.label rows).answer u := by
  unfold label
  rw [h.presentation]
  exact (reads_label le_rfl q rows).agrees t u hcatalogs

/-- **The same pages are given.** -/
theorem answer_pageRows (skip : ℕ) (limit : Option ℕ) :
    (p.pageRows skip limit).answer t = (q.pageRows skip limit).answer u := by
  unfold pageRows
  rw [h.mode]
  cases q.report.mode.isGroup with
  | true =>
    exact TenantAction.answer_map_congr (reads_groupedRows everywhere (Set.mem_univ _))
      (reads_groupedRows everywhere (Set.mem_univ _)) (h.answer_groupedRows hcatalogs) _
  | false =>
    have hnext : ∀ (p : PreparedQuery) (rows : List Json), Reads .univ (do
        let total ← p.count
        return (← p.label rows, total)) := fun p rows =>
      (reads_count (Set.mem_univ _)).bind fun _ => (reads_label everywhere p rows).bind fun _ => .pure _ _
    refine TenantAction.answer_bind_congr (reads_read (Set.mem_univ _) _) (hnext p) (reads_read (Set.mem_univ _) _)
      (hnext q) ?_ fun rows => ?_
    · rw [h.presentation]
      exact h.answer_read _
    · exact TenantAction.answer_bind_congr (reads_count (Set.mem_univ _))
        (fun _ => (reads_label everywhere p rows).bind fun _ => .pure _ _) (reads_count (Set.mem_univ _))
        (fun _ => (reads_label everywhere q rows).bind fun _ => .pure _ _) h.answer_count
        fun total => TenantAction.answer_map_congr (reads_label everywhere p rows) (reads_label everywhere q rows)
          (h.answer_label hcatalogs rows) _

/-- **The same totals are given.** -/
theorem answer_total : p.total.answer t = q.total.answer u := by
  unfold total
  rw [h.mode]
  cases q.report.mode.isGroup with
  | true =>
    exact TenantAction.answer_map_congr (reads_groupedRows everywhere (Set.mem_univ _))
      (reads_groupedRows everywhere (Set.mem_univ _)) (h.answer_groupedRows hcatalogs) _
  | false => exact h.answer_count

/-- The same batch is given. -/
theorem answer_listedBatch (size skip : ℕ) :
    (p.listedBatch size skip).answer t = (q.listedBatch size skip).answer u := by
  have hnext : ∀ (p : PreparedQuery) (rows : List Json), Reads .univ (if rows.isEmpty then return (0, [])
      else return (rows.length, ← p.label rows) : TenantAction (ℕ × List Json)) := fun p rows =>
    .ite (.pure _ _) ((reads_label everywhere p _).bind fun _ => .pure _ _)
  refine TenantAction.answer_bind_congr (reads_read (Set.mem_univ _) _) (hnext p)
    (reads_read (Set.mem_univ _) _) (hnext q) ?_ fun rows => ?_
  · rw [h.presentation]
    exact h.answer_read _
  · split
    · rfl
    · exact TenantAction.answer_map_congr (reads_label everywhere p rows) (reads_label everywhere q rows)
        (h.answer_label hcatalogs rows) _

/-- **The same batches are given**, as long as the bounds on their number reach behind the last row. -/
theorem answer_listedBatches {size fuel fuel' skip : ℕ} (hsize : 0 < size)
    (hfuel : (p.chosen t).length < skip + fuel) (hfuel' : (p.chosen t).length < skip + fuel') :
    (p.listedBatches size fuel skip).answer t = (q.listedBatches size fuel' skip).answer u := by
  induction fuel generalizing fuel' skip with
  | zero =>
    rw [p.answer_listedBatches_of_le h.left size 0 (by omega)]
    refine (q.answer_listedBatches_of_le h.right size fuel' ?_).symm
    show (List.filter _ _).length ≤ skip
    rw [← h.rows]
    exact (by omega : (p.chosen t).length ≤ skip)
  | succ fuel ih =>
    cases fuel' with
    | zero =>
      rw [p.answer_listedBatches_of_le h.left size (fuel + 1) (by omega)]
      rfl
    | succ fuel' =>
      rw [listedBatches_succ, listedBatches_succ]
      refine TenantAction.answer_bind_congr
        (reads_listedBatch everywhere (Set.mem_univ _) size skip).outcome
        (reads_afterBatch everywhere (Set.mem_univ _) size fuel skip)
        (reads_listedBatch everywhere (Set.mem_univ _) size skip).outcome
        (reads_afterBatch everywhere (Set.mem_univ _) size fuel' skip) ?_ fun result => ?_
      · rw [TenantAction.answer_outcome, TenantAction.answer_outcome,
          h.answer_listedBatch hcatalogs]
      · unfold afterBatch
        split
        · rfl
        · split
          · rfl
          · split
            · rfl
            · exact TenantAction.answer_map_congr (reads_listedBatches everywhere (Set.mem_univ _) size fuel _)
                (reads_listedBatches everywhere (Set.mem_univ _) size fuel' _) (ih (by omega) (by omega)) _

/-- **The same download is given.** -/
theorem answer_batches : p.batches.answer t = q.batches.answer u := by
  unfold batches
  rw [TenantAction.answer_get_bind, TenantAction.answer_get_bind]
  dsimp only
  rw [h.mode, hcatalogs.config]
  cases q.report.mode.isGroup with
  | true =>
    refine TenantAction.answer_bind_congr (reads_groupedRows everywhere (Set.mem_univ _)).outcome
      (fun result => ?_) (reads_groupedRows everywhere (Set.mem_univ _)).outcome (fun result => ?_)
      ?_ fun result => ?_
    · cases result <;> exact .pure _ _
    · cases result <;> exact .pure _ _
    · rw [TenantAction.answer_outcome, TenantAction.answer_outcome, h.answer_groupedRows hcatalogs]
    · cases result <;> rfl
  | false =>
    have hchosen : (p.chosen t).length ≤ (t.store.documents p.collection).length :=
      List.length_filter_le _ _
    have hother : (p.chosen t).length ≤ (u.store.documents q.collection).length := by
      unfold chosen
      rw [h.rows]
      exact List.length_filter_le _ _
    exact h.answer_listedBatches hcatalogs (Nat.le_max_right _ _) (by omega)
      (by omega)

end SameView

end PreparedQuery

namespace Query

/-- A prepared query is answered on the whole tenant. -/
theorem reads_prepare_bind {α : Type} (q : Query) {f : PreparedQuery → TenantAction α}
    (hf : ∀ p, Reads .univ (f p)) : Reads .univ (q.prepare >>= f) :=
  (reads_prepare everywhere (Set.mem_univ _) q).bind hf

/-- A page is made of what can be read. -/
theorem reads_page (q : Query) (p : PreparedQuery) : Reads .univ (do
    let (rows, total) ← p.pageRows q.page.1 q.page.2
    return ({ reportName := p.report.name, rows, fieldInfos := p.presentation.fieldInfos, total } : Page)) :=
  (PreparedQuery.reads_pageRows everywhere (Set.mem_univ _) _ _).bind fun _ => .pure _ _

/-- So is a count. -/
theorem reads_rowCount (p : PreparedQuery) : Reads .univ (do
    return ({ fieldInfos := p.presentation.fieldInfos, total := ← p.total } : RowCount)) :=
  (PreparedQuery.reads_total everywhere (Set.mem_univ _)).bind fun _ => .pure _ _

/-- So is a download. -/
theorem reads_downloaded (p : PreparedQuery) : Reads .univ (do
    return ({ fieldInfos := p.presentation.fieldInfos, batches := ← p.batches } : Download)) :=
  (PreparedQuery.reads_batches everywhere (Set.mem_univ _)).bind fun _ => .pure _ _

/-- **A query for a page only reads.** -/
theorem reads_run (q : Query) : Reads .univ q.run :=
  (reads_countRefusal (reads_prepare_bind q (reads_page q))).bind fun _ =>
    (Reads.meter _ _).bind fun _ => .pure _ _

/-- **A query for the number of rows only reads.** -/
theorem reads_count (reportId : String) (owners : List String) : Reads .univ (count reportId owners) :=
  reads_countRefusal (reads_prepare_bind _ reads_rowCount)

/-- **A download only reads.** -/
theorem reads_download (q : Query) : Reads .univ q.download :=
  (reads_countRefusal (reads_prepare everywhere (Set.mem_univ _) q)).bind reads_downloaded

/-- **What a query for a page answers.** -/
theorem answer_run (q : Query) (t : Tenant) :
    q.run.answer t = (q.prepare.answer t).bind fun p =>
      ((p.pageRows q.page.1 q.page.2).answer t).bind fun shown => .ok
        { reportName := p.report.name, rows := shown.1, fieldInfos := p.presentation.fieldInfos,
          total := shown.2 } := by
  unfold run
  rw [answer_bind (reads_countRefusal (reads_prepare_bind q (reads_page q)))
    fun page => (Reads.meter .univ _).bind fun _ => .pure _ _, answer_countRefusal]
  show Except.bind ((q.prepare >>= _).answer t) .ok = _
  rw [answer_bind (reads_prepare everywhere (Set.mem_univ _) q) (reads_page q)]
  cases q.prepare.answer t with
  | error e => rfl
  | ok p =>
    show Except.bind ((p.pageRows q.page.1 q.page.2 >>= _).answer t) .ok = _
    rw [answer_bind
      (PreparedQuery.reads_pageRows everywhere (Set.mem_univ _) _ _) fun _ => .pure _ _, bind_of_ok]
    cases (p.pageRows q.page.1 q.page.2).answer t <;> rfl

/-- **What a query for the number of rows answers.** -/
theorem answer_count (reportId : String) (owners : List String) (t : Tenant) :
    (count reportId owners).answer t = ((all reportId owners).prepare.answer t).bind fun p =>
      (p.total.answer t).bind fun total =>
        .ok { fieldInfos := p.presentation.fieldInfos, total } := by
  unfold count
  rw [answer_countRefusal,
    answer_bind (reads_prepare everywhere (Set.mem_univ _) _) reads_rowCount]
  refine congrArg _ (funext fun p => ?_)
  rw [answer_bind
    (PreparedQuery.reads_total everywhere (Set.mem_univ _)) fun _ => .pure _ _]
  rfl

/-- **What a download answers.** -/
theorem answer_download (q : Query) (t : Tenant) :
    q.download.answer t = (q.prepare.answer t).bind fun p =>
      (p.batches.answer t).bind fun batches =>
        .ok { fieldInfos := p.presentation.fieldInfos, batches } := by
  unfold download
  rw [answer_bind
    (reads_countRefusal (reads_prepare everywhere (Set.mem_univ _) q)) reads_downloaded,
    answer_countRefusal]
  refine congrArg _ (funext fun p => ?_)
  rw [answer_bind
    (PreparedQuery.reads_batches everywhere (Set.mem_univ _)) fun _ => .pure _ _]
  rfl

/-- **Two prepared queries are answered alike**: both are refused for the same reason, or the same is seen of
both, under the same name. -/
def AlikePrepared (t u : Tenant) :
    Except ReportError PreparedQuery → Except ReportError PreparedQuery → Prop
  | .ok p, .ok q => PreparedQuery.SameView t u p q ∧ p.report.name = q.report.name
  | .error e, .error e' => e = e'
  | _, _ => False

namespace AlikePrepared

variable {t u : Tenant}

/-- What is answered from the same view is the same. -/
theorem bind_congr {α : Type} {x y : Except ReportError PreparedQuery} (h : AlikePrepared t u x y)
    {f g : PreparedQuery → Except ReportError α}
    (hfg : ∀ p p', PreparedQuery.SameView t u p p' → p.report.name = p'.report.name → f p = g p') :
    x.bind f = y.bind g := by
  cases x with
  | error e =>
    cases y with
    | error e' => exact congrArg Except.error h
    | ok p' => exact h.elim
  | ok p =>
    cases y with
    | error e' => exact h.elim
    | ok p' => exact hfg p p' h.1 h.2

variable (hcatalogs : t.AgreeOn Store.catalogs u)
include hcatalogs

/-- **The same page is answered.** -/
theorem answer_run {q r : Query} (h : AlikePrepared t u (q.prepare.answer t) (r.prepare.answer u))
    (hpage : q.page = r.page) : q.run.answer t = r.run.answer u := by
  rw [Query.answer_run, Query.answer_run, hpage]
  refine h.bind_congr fun p p' hview hname => ?_
  rw [hview.answer_pageRows hcatalogs, hview.presentation, hname]

/-- **The same number of rows is answered.** -/
theorem answer_count {reportId reportId' : String} {owners owners' : List String}
    (h : AlikePrepared t u ((all reportId owners).prepare.answer t)
      ((all reportId' owners').prepare.answer u)) :
    (count reportId owners).answer t = (count reportId' owners').answer u := by
  rw [Query.answer_count, Query.answer_count]
  refine h.bind_congr fun p p' hview _ => ?_
  rw [hview.answer_total hcatalogs, hview.presentation]

/-- **The same download is answered.** -/
theorem answer_download {q r : Query}
    (h : AlikePrepared t u (q.prepare.answer t) (r.prepare.answer u)) :
    q.download.answer t = r.download.answer u := by
  rw [Query.answer_download, Query.answer_download]
  refine h.bind_congr fun p p' hview _ => ?_
  rw [hview.answer_batches hcatalogs, hview.presentation]

end AlikePrepared

end Query

namespace Service

/-- A service answers queries on its tenant. -/
theorem run_query (q : Query) (s : Service) : ((query q).run s).1 = q.run.answer s.tenant := rfl

/-- And it downloads them from there. -/
theorem run_download (q : Query) (s : Service) : ((download q).run s).1 = q.download.answer s.tenant := rfl

end Service

end Rollup
