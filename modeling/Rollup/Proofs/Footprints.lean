import Rollup.Index.Budget
import Rollup.Proofs.Reading
import Rollup.Query.Run
import Rollup.Report.Rows

/-!
# What the parts of the engine read

Compiling conditions, resolving catalogs and labelling values read what is kept of an app beside its items:
the **catalogs**. Definitions are read from the registry. Making sure of an index reads nothing that comes
back in an answer, and never fails (`TenantAction.Reads.tryEnsure_bind`).
-/

namespace Rollup

namespace Store

/-- **The collections that hold what is known of apps** beside their items and reports. -/
def catalogs : Set String := { name | name ∈ [apps, fields, datastores, options, users] }

/-- The catalogs, one by one. -/
theorem mem_catalogs {name : String} (h : name ∈ [apps, fields, datastores, options, users]) :
    name ∈ catalogs := h

variable {name : String}

/-- A change of a collection that keeps its documents keeps what can be read. -/
theorem keeps_change {f : Collection → Collection} (hf : ∀ c, (f c).documents = c.documents) :
    Keeps readable (change name f) := by
  intro s
  refine Prod.ext rfl (funext fun other => ?_)
  show (s.withCollection name (f (s.collection name))).documents other = s.documents other
  unfold documents collection withCollection
  by_cases h : other = name
  · subst h
    rw [Keyed.get?_insert_self]
    exact hf _
  · rw [Keyed.get?_insert_of_ne h]

/-- Demanding a collection keeps what can be read. -/
theorem keeps_requireAvailable : Keeps readable (requireAvailable name) := by
  intro s
  rw [run_requireAvailable]

/-- Looking at the use of indexes keeps what can be read. -/
theorem keeps_indexUsage : Keeps readable (indexUsage name) :=
  keeps_requireAvailable.bind fun _ => (Keeps.get _).bind fun _ => Keeps.pure _ _

/-- Creating an index keeps what can be read. -/
theorem keeps_createIndex (spec : IndexSpec) : Keeps readable (createIndex name spec) := by
  unfold createIndex
  refine keeps_requireAvailable.bind fun _ => ?_
  refine .ite (.throw_bind _ _ _) (.bind (keeps_change ?_) fun _ => (Keeps.get _).bind fun s => ?_)
  · exact fun _ => rfl
  · dsimp only
    split
    · exact .pure _ _
    · exact .ite (.throw_bind _ _ _) (.bind (keeps_change fun _ => rfl) fun _ => .pure _ _)

/-- Dropping an index keeps what can be read. -/
theorem keeps_dropIndex (index : String) : Keeps readable (dropIndex name index) :=
  keeps_requireAvailable.bind fun _ => (Keeps.get _).bind fun _ =>
    .ite (keeps_change fun _ => rfl) (.throw _ _)

end Store

/-- **What index maintenance leaves alone**: what can be read, and the runs that were counted. -/
def Tenant.undisturbed (t : Tenant) := (t.readable, t.runs)

namespace TenantAction

variable {α β : Type} {names : Set String}

/-- Actions on the store that change no document disturb nothing. -/
theorem undisturbed_onStore (operation : String) {a : StoreAction α} (h : Keeps Store.readable a) :
    Keeps Tenant.undisturbed (onStore operation a) := fun t => Prod.ext (keeps_onStore operation h t) rfl

/-- Neither do counters other than those of runs. -/
theorem undisturbed_meter (change : Metrics → Metrics)
    (hruns : ∀ m, (change m).runs = m.runs := by exact fun _ => rfl) : Keeps Tenant.undisturbed (meter change) :=
  fun t => Prod.ext rfl (hruns t.metrics)

/-- Looking at an outcome never fails. -/
theorem run_outcome (a : TenantAction α) (t : Tenant) :
    (outcome a).run t = (.ok (a.run t).1, (a.run t).2) := rfl

/-- The outcome that is looked at is the answer of the action. -/
theorem answer_outcome (a : TenantAction α) (t : Tenant) :
    (outcome a).answer t = .ok (a.answer t) := rfl

/-- Looking at an outcome disturbs what the action disturbs. -/
theorem undisturbed_outcome {a : TenantAction α} (h : Keeps Tenant.undisturbed a) :
    Keeps Tenant.undisturbed (outcome a) := fun t => h t

end TenantAction

namespace IndexBudget

open TenantAction

/-- Dropping indexes disturbs nothing. -/
theorem undisturbed_dropAll (collection : String) (names : List String) :
    Keeps Tenant.undisturbed (dropAll collection names) := by
  induction names with
  | nil => exact .pure _ _
  | cons name rest ih => exact (undisturbed_onStore _ (Store.keeps_dropIndex name)).bind fun _ => ih

/-- Making room disturbs nothing. -/
theorem undisturbed_evict (collection : String) (usage : List IndexUsage) (keep : Nat)
    (isProtected : String → Bool) :
    Keeps Tenant.undisturbed (evict collection usage keep isProtected) :=
  (undisturbed_dropAll collection _).bind fun _ => (undisturbed_meter _).bind fun _ => .pure _ _

/-- Making sure of an index disturbs nothing. -/
theorem undisturbed_ensure (collection : String) (paths : List String) :
    Keeps Tenant.undisturbed (ensure collection paths) := by
  refine (Keeps.get _).bind fun t => .ite (.pure _ _) (.ite (.pure _ _) ?_)
  unfold provide
  refine (Keeps.get _).bind fun t => (undisturbed_onStore _ Store.keeps_indexUsage).bind fun usage => ?_
  split
  · exact (undisturbed_evict _ _ _ _).bind fun _ => .pure _ _
  · exact (undisturbed_evict _ _ _ _).bind fun _ => (undisturbed_onStore _ (Store.keeps_createIndex _)).bind
      fun _ => (undisturbed_meter _).bind fun _ => .pure _ _

/-- Trying to make sure of an index disturbs nothing. -/
theorem undisturbed_tryEnsure (collection : String) (paths : List String) :
    Keeps Tenant.undisturbed (tryEnsure collection paths) := by
  refine (undisturbed_outcome (undisturbed_ensure collection paths)).bind fun result => ?_
  cases result with
  | ok outcome => exact .pure _ _
  | error e => exact (undisturbed_meter _).bind fun _ => .pure _ _

/-- So it keeps what can be read. -/
theorem keeps_tryEnsure (collection : String) (paths : List String) :
    Keeps Tenant.readable (tryEnsure collection paths) :=
  fun t => congrArg Prod.fst (undisturbed_tryEnsure collection paths t)

/-- And it counts no run. -/
theorem counts_tryEnsure (collection : String) (paths : List String) :
    Keeps Tenant.runs (tryEnsure collection paths) :=
  fun t => congrArg Prod.snd (undisturbed_tryEnsure collection paths t)

/-- **Trying to make sure of an index never fails.** -/
theorem answer_tryEnsure (collection : String) (paths : List String) (t : Tenant) :
    ∃ outcome, (tryEnsure collection paths).answer t = .ok outcome := by
  unfold tryEnsure answer
  rw [run_bind, run_outcome]
  generalize (ensure collection paths).run t = ran
  obtain ⟨e | x, t'⟩ := ran
  · exact ⟨none, rfl⟩
  · exact ⟨some x, rfl⟩

end IndexBudget

namespace TenantAction

variable {α β : Type} {names : Set String}

/-- What follows an index that is made sure of is answered as without it. -/
theorem answer_tryEnsure_bind {a : TenantAction α} (ha : Reads names a) (collection : String)
    (paths : List String) (t : Tenant) :
    (IndexBudget.tryEnsure collection paths >>= fun _ => a).answer t = a.answer t := by
  have hkept := IndexBudget.keeps_tryEnsure collection paths t
  obtain ⟨outcome, hanswer⟩ := IndexBudget.answer_tryEnsure collection paths t
  unfold answer at *
  rw [run_bind]
  generalize (IndexBudget.tryEnsure collection paths).run t = ran at hkept hanswer ⊢
  obtain ⟨x, t'⟩ := ran
  obtain rfl : x = .ok outcome := hanswer
  exact ha.agrees t' t (.of_readable hkept names)

/-- **Making sure of an index reads nothing that comes back.** -/
theorem Reads.tryEnsure_bind {a : TenantAction α} (ha : Reads names a) (collection : String)
    (paths : List String) :
    Reads names (IndexBudget.tryEnsure collection paths >>= fun _ => a) where
  keeps := (IndexBudget.keeps_tryEnsure collection paths).bind fun _ => ha.keeps
  counts := (IndexBudget.counts_tryEnsure collection paths).bind fun _ => ha.counts
  alike t u htu := by
    rw [answer_tryEnsure_bind ha, answer_tryEnsure_bind ha, ha.alike t u htu]

/-- Whichever way is taken reads what both ways read. -/
theorem Reads.ite {c : Prop} [Decidable c] {a b : TenantAction α} (ha : Reads names a)
    (hb : Reads names b) : Reads names (if c then a else b) := by
  split
  · exact ha
  · exact hb

end TenantAction

open TenantAction (Reads)

/-- All collections are among all collections. -/
theorem everywhere : Store.catalogs ⊆ Set.univ := Set.subset_univ _

variable {names : Set String}

namespace Directory

/-- Loading documents of a directory reads its collection. -/
theorem reads_load {α : Type} {collection : String} (h : collection ∈ names) (operation : String)
    (filter : Predicate) (decode? : Json → Option α) :
    Reads names (load operation collection filter decode?) :=
  (Reads.find h _ _ _).bind fun _ => .decodeAll _ _ _ _ _

variable (hnames : Store.catalogs ⊆ names)
include hnames

/-- The labels of options are in the catalogs. -/
theorem reads_labels (appId optionId : String) : Reads names (labels appId optionId) :=
  (reads_load (hnames (Store.mem_catalogs (by decide))) _ _ _).bind fun _ => .pure _ _

/-- The names of users are in the catalogs. -/
theorem reads_displayNames (ids : List String) : Reads names (displayNames ids) :=
  .ite (.pure _ _) ((reads_load (hnames (Store.mem_catalogs (by decide))) _ _ _).bind fun _ => .pure _ _)

/-- The processing period of an app is in the catalogs. -/
theorem reads_processingPeriod (appId : String) : Reads names (processingPeriod appId) :=
  (reads_load (hnames (Store.mem_catalogs (by decide))) _ _ _).bind fun _ => .pure _ _

end Directory

namespace Catalog

variable (hnames : Store.catalogs ⊆ names)
include hnames

/-- The fields of a datastore are in the catalogs. -/
theorem reads_loadFields (appId datastoreId : String) : Reads names (loadFields appId datastoreId) :=
  (Reads.find (hnames (Store.mem_catalogs (by decide))) _ _ _).bind fun _ => .decodeAll _ _ _ _ _

/-- Datastores are in the catalogs. -/
theorem reads_loadDatastore (appId datastoreId : String) :
    Reads names (loadDatastore appId datastoreId) := by
  refine (Reads.find (hnames (Store.mem_catalogs (by decide))) _ _ _).bind fun documents => ?_
  split
  · exact .pure _ _
  · split
    · exact .pure _ _
    · exact .throw _ _

/-- Taking datastores one by one reads the catalogs. -/
theorem reads_resolveFrom (fuel : ℕ) (pending : List (String × String)) (c : Catalog) :
    Reads names (resolveFrom fuel pending c) := by
  induction fuel generalizing pending c with
  | zero => cases pending <;> exact .pure _ _
  | succ fuel ih =>
    cases pending with
    | nil => exact .pure _ _
    | cons first pending =>
      exact .ite (ih _ _) ((reads_loadFields hnames _ _).bind fun _ => ih _ _)

/-- **Resolving a catalog reads the catalogs.** -/
theorem reads_resolve (appId datastoreId : String) : Reads names (resolve appId datastoreId) := by
  refine .get (fun t => reads_resolveFrom hnames _ _ _) fun t u htu => ?_
  rw [htu.documents Store.fields (hnames (Store.mem_catalogs (by decide)))]

end Catalog

namespace Registry

/-- Reading the definition that was found reads nothing more. -/
theorem reads_found (documents : List Json) : Reads names (match documents with
    | document :: _ => return some (← decode document)
    | [] => return none : TenantAction (Option ReportDefinition)) := by
  cases documents with
  | nil => exact .pure _ _
  | cons document rest =>
    refine .bind ?_ fun _ => .pure _ _
    unfold decode
    split
    · exact .pure _ _
    · exact .throw _ _

/-- Definitions are read from the registry. -/
theorem reads_find (hnames : Store.reports ∈ names) (id : ReportId) : Reads names (find id) :=
  (Reads.find hnames _ _ _).bind fun documents => reads_found documents

/-- **The definition of a report is read from the registry.** -/
theorem reads_load (hnames : Store.reports ∈ names) (id : ReportId) : Reads names (load id) :=
  (reads_find hnames id).bind fun _ => .ofExcept _ _ _

end Registry

/-! ## Compiling conditions -/

namespace TenantAction

/-- A filter that was compiled, with what makes no sense of its conditions counted. -/
def counted (compiled : Except CompileError CompiledFilter) : TenantAction CompiledFilter := do
  let f ← ofExcept .compile compiled
  meter (Metrics.recordSkippedConditions f.skipped)
  return f

/-- **Compiling conditions for an app**: as a tenant and the processing period of the app have it. -/
def compiling (appId : String) (compile : Tenant → Option String → Except CompileError CompiledFilter) :
    TenantAction CompiledFilter := do
  let period ← Directory.processingPeriod appId
  let t ← get
  counted (compile t period)

variable {compile : Tenant → Option String → Except CompileError CompiledFilter}

/-- Counting reads nothing. -/
theorem reads_counted (compiled : Except CompileError CompiledFilter) : Reads names (counted compiled) :=
  (Reads.ofExcept _ _ _).bind fun _ => (Reads.meter _ _).bind fun _ => .pure _ _

/-- **Compiling conditions reads the catalogs**, where tenants that are alike compile alike. -/
theorem reads_compiling (hnames : Store.catalogs ⊆ names) (appId : String)
    (hcompile : ∀ t u : Tenant, t.Alike names u → compile t = compile u) : Reads names (compiling appId compile) :=
  (Directory.reads_processingPeriod hnames _).bind fun _ => .get (fun _ => reads_counted _)
    fun t u htu => by rw [hcompile t u htu]

/-- **What compiling conditions answers.** -/
theorem answer_compiling (appId : String) (hcompile : ∀ t u : Tenant, t.Alike .univ u → compile t = compile u)
    (t : Tenant) : (compiling appId compile).answer t
      = ((Directory.processingPeriod appId).answer t).bind fun period => (compile t period).mapError .compile := by
  unfold compiling
  rw [answer_bind (Directory.reads_processingPeriod everywhere _) fun period =>
    .get (fun t => reads_counted _) fun t u htu => by rw [hcompile t u htu]]
  refine congrArg _ (funext fun period => ?_)
  show (counted (compile t period)).answer t = _
  cases compile t period <;> rfl

end TenantAction

namespace Rows

/-- What the meaning of the conditions of a report depends on. -/
def context (t : Tenant) (time : Instant) (period : Option String) : CompileContext :=
  { target := .source, now := time, period, strictness := t.config.strictness }

/-- Tenants that are alike understand reports alike. -/
theorem context_eq_of_alike {t u : Tenant} (h : t.Alike names u) (time : Instant) :
    context t time = context u time := by
  unfold context
  rw [h.strictness]

/-- How the conditions of a report are compiled. -/
theorem compile_eq (c : ReportContent) (time : Instant) : compile c time = TenantAction.compiling c.appId
    fun t period => CompiledFilter.ofConditions (context t time period) c.conditions c.combinator := rfl

/-- **What compiling the conditions of a report answers.** -/
theorem answer_compile (c : ReportContent) (time : Instant) (t : Tenant) :
    (compile c time).answer t = ((Directory.processingPeriod c.appId).answer t).bind fun period =>
      (CompiledFilter.ofConditions (context t time period) c.conditions c.combinator).mapError
        .compile := by
  rw [compile_eq, TenantAction.answer_compiling]
  exact fun t u htu => by rw [context_eq_of_alike htu]

variable (hnames : Store.catalogs ⊆ names)
include hnames

/-- Compiling the conditions of a report reads the catalogs. -/
theorem reads_compile (c : ReportContent) (time : Instant) : Reads names (compile c time) := by
  rw [compile_eq]
  exact TenantAction.reads_compiling hnames _ fun t u htu => by rw [context_eq_of_alike htu]

/-- The relations of a datastore are in the catalogs. -/
theorem reads_relations (c : ReportContent) : Reads names (relations c) :=
  (Catalog.reads_loadDatastore hnames _ _).bind fun _ => .pure _ _

end Rows

namespace Stage

/-- **Whether a stage reads among some collections** beside the catalogs. -/
def ReadsAmong (names : Set String) : Stage → Prop
  | .join j => j.collection ∈ names
  | _ => True

variable (hnames : Store.catalogs ⊆ names)
include hnames

/-- **A stage reads the catalogs and what it joins.** -/
theorem reads_run {stage : Stage} (h : stage.ReadsAmong names) (documents : List Json) :
    Reads names (stage.run documents) := by
  cases stage with
  | join j => exact (Reads.find h _ _ _).bind fun _ => .pure _ _
  | project p => exact .ofExcept _ _ _
  | lookup l =>
    refine .bind ?_ fun _ => .pure _ _
    unfold labelsFor
    split
    · exact Directory.reads_labels hnames _ _
    · exact Directory.reads_displayNames hnames _
  | _ => exact .pure _ _

/-- Stages read the catalogs and what they join. -/
theorem reads_runAll {stages : List Stage} (h : ∀ stage ∈ stages, stage.ReadsAmong names)
    (documents : List Json) : Reads names (runAll stages documents) := by
  induction stages generalizing documents with
  | nil => exact .pure _ _
  | cons stage rest ih =>
    exact (reads_run hnames (h stage List.mem_cons_self) documents).bind fun _ =>
      ih (fun s hs => h s (List.mem_cons_of_mem _ hs)) _

end Stage

end Rollup
