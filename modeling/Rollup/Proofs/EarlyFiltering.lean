import Rollup.Proofs.StoredConditions

/-!
# Where conditions are tested

Conditions on related fields can only be tested on joined records. All other conditions are tested by the store,
when the items of a datastore are scanned, and that is a matter of speed only: joining changes nothing outside
`relations`, so what is chosen before makes exactly the records that are chosen afterwards, in the same order, and a
related collection that cannot be reached fails both (`Stage.answer_joins_filter`). Hence the rows of a report
whose conditions look at nothing below `relations` are the same wherever these are tested
(`Rows.computeAll_eq_wherever_tested`).
-/

namespace Rollup

open TenantAction (Reads answer answer_bind)

/-- **A condition that looks at nothing below `relations`**: it is about no related datastore, and a static one
names neither that member nor a path into it. -/
def Condition.AvoidsRelations (c : Condition) : Prop :=
  c.relation? = none ∧ (c.isDynamic = false → (Document.segments c.fieldId).head? ≠ some "relations")

instance (c : Condition) : Decidable c.AvoidsRelations := inferInstanceAs (Decidable (_ ∧ _))

namespace Condition.AvoidsRelations

variable {c : Condition}

/-- Its field stands elsewhere. -/
theorem exists_segments_path (h : c.AvoidsRelations) :
    ∃ name rest, Document.segments (c.path .source) = name :: rest ∧ name ≠ "relations" := by
  cases hdynamic : c.isDynamic with
  | true =>
    obtain ⟨rest, hpath⟩ := exists_segments_path_of_isDynamic hdynamic h.1
    exact ⟨"items", rest, hpath, by decide⟩
  | false =>
    obtain ⟨name, rest, hpath⟩ := List.exists_cons_of_ne_nil (Document.segments_ne_nil c.fieldId)
    have hname := h.2 hdynamic
    rw [hpath, List.head?_cons] at hname
    refine ⟨name, rest, ?_, fun heq => hname (congrArg some heq)⟩
    unfold path
    rw [if_neg (Bool.eq_false_iff.1 hdynamic), hpath]

end Condition.AvoidsRelations

/-- **Conditions that avoid `relations`** are fulfilled by a record exactly if they are by its copies. -/
theorem CompiledFilter.holds_attach {ctx : CompileContext} {conditions : List Condition} {combinator : String}
    {f : CompiledFilter} (hsource : ctx.target = .source) (hf : ofConditions ctx conditions combinator = .ok f)
    (h : ∀ c ∈ conditions, c.AvoidsRelations) (j : Join) (record related : Json) :
    f.predicate.holds (j.attach record related) = f.predicate.holds record := by
  refine holds_eq_of_seesAlike ⟨rfl, rfl, rfl⟩ hf hf fun c hc => ?_
  rw [hsource]
  obtain ⟨name, rest, hpath, hname⟩ := (h c hc).exists_segments_path
  exact j.get?_attach hpath hname record related

/-- **Joining what is chosen** gives what is chosen of everything that is joined, or fails with it. -/
theorem Stage.answer_joins_filter {joins : List Join} {f : Json → Bool}
    (hf : ∀ (j : Join) (record related : Json), f (j.attach record related) = f record) (documents : List Json)
    (t : Tenant) : (runAll (joins.map .join) (documents.filter f)).answer t
      = ((runAll (joins.map .join) documents).answer t).map (List.filter f) := by
  induction joins generalizing documents with
  | nil => rfl
  | cons j rest ih =>
    have hfirst : (j :: rest).map Stage.join = [.join j] ++ rest.map .join := rfl
    rw [hfirst, answer_runAll_append, answer_runAll_append, answer_runAll_singleton, answer_runAll_singleton,
      answer_run_join, answer_run_join]
    split
    · rfl
    · rw [bind_of_ok, bind_of_ok, Join.run_filter (hf j)]
      exact ih _

namespace Rows

/-- **Where the conditions of a report are tested.** -/
inductive Placement where
  /-- By the store, when the items are scanned. -/
  | scanned
  /-- On records that are joined. -/
  | joined
  deriving DecidableEq

/-- The filter that the store applies, and the one that runs behind the joins. -/
def Placement.split (f : CompiledFilter) : Placement → Predicate × Option Predicate
  | .scanned => (f.predicate, none)
  | .joined => (.everything, some f.predicate)

/-- Where computing rows tests the conditions. -/
def placement (f : CompiledFilter) : Placement :=
  if f.touchesRelations then .joined else .scanned

/-- The filter is split for this place. -/
theorem splitFilter_eq_split (f : CompiledFilter) : splitFilter f = (placement f).split f := by
  unfold splitFilter placement
  cases f.touchesRelations <;> rfl

/-- **Runs the plan of a report on some items**, testing a filter behind the joins if one is given. -/
def runPlan (mode : ReportMode) (relations : List Relation) (fields : List Field) (filter : Option Predicate)
    (time : Instant) (items : List Json) : TenantAction (List Json) := do
  let stages ← TenantAction.ofExcept id (Materialization.stages mode relations fields filter time)
  Stage.runAll stages items

/-- Plans the rows of a content and runs the plan on the items of its datastore; the filter is given in two parts,
as `splitFilter` gives it. -/
def computePlanned (c : ReportContent) (relations : List Relation) (fields : List Field) (time : Instant)
    (parts : Predicate × Option Predicate) : TenantAction (List Json) := do
  let stages ← TenantAction.ofExcept id (Materialization.stages c.mode relations fields parts.2 time)
  let items ← TenantAction.onStore "scan source records" (Store.find (Store.itemsOf c.datastoreId) parts.1 {})
  Stage.runAll stages items

/-- **Computes the rows of a content**, testing the conditions at a place of choice. -/
def computeAllBy (place : CompiledFilter → Placement) (c : ReportContent) (time : Instant) :
    TenantAction (List Json) := do
  let compiled ← compile c time
  let catalog ← Catalog.resolve c.appId c.datastoreId
  let relations ← relations c
  computePlanned c relations catalog.rootFields time ((place compiled).split compiled)

/-- Rows are computed with the conditions tested at their place. -/
theorem computeAll_eq_computeAllBy (c : ReportContent) (time : Instant) :
    computeAll c time = computeAllBy placement c time := by
  rw [computeAll_eq]
  simp only [splitFilter_eq_split]
  rfl

section Plans

variable {mode : ReportMode} {relations : List Relation} {fields : List Field} {time : Instant} {f : Predicate}
  {t : Tenant}

/-- The stages of a plan, unless the known fields cannot be projected to. -/
theorem stages_eq_bind (filter : Option Predicate) : Materialization.stages mode relations fields filter time
    = (Materialization.projection fields (!(Materialization.joins relations).isEmpty)).bind fun projection =>
      .ok ((Materialization.joins relations).map .join ++ ((filter.map Stage.filter).toList
        ++ [.project projection, Materialization.shaping time mode])) := by
  simp only [← List.append_assoc]
  rfl

/-- **A plan** joins, chooses, and makes rows of what is chosen. -/
theorem answer_runPlan (filter : Option Predicate) (items : List Json) :
    (runPlan mode relations fields filter time items).answer t
      = (Materialization.projection fields (!(Materialization.joins relations).isEmpty)).bind fun projection =>
        ((Stage.runAll ((Materialization.joins relations).map .join) items).answer t).bind fun joined =>
          (Stage.runAll [.project projection, Materialization.shaping time mode]
            (joined.filter fun record => filter.all fun f => f.holds record)).answer t := by
  unfold runPlan
  rw [TenantAction.answer_ofExcept_bind, stages_eq_bind]
  cases Materialization.projection fields (!(Materialization.joins relations).isEmpty) with
  | error e => rfl
  | ok projection =>
    rw [bind_of_ok, bind_of_ok, bind_of_ok, Stage.answer_runAll_append]
    refine congrArg _ (funext fun joined => ?_)
    cases filter with
    | none => exact congrArg (answer · t) (congrArg _ (List.filter_eq_self.2 fun _ _ => rfl).symm)
    | some f => rfl

/-- **Items that are chosen before** are handled like items that are chosen behind the joins. -/
theorem answer_runPlan_filter
    (hf : ∀ (j : Join) (record related : Json), f.holds (j.attach record related) = f.holds record)
    (items : List Json) : (runPlan mode relations fields none time (items.filter f.holds)).answer t
      = (runPlan mode relations fields (some f) time items).answer t := by
  rw [answer_runPlan, answer_runPlan, Stage.answer_joins_filter hf]
  refine congrArg _ (funext fun projection => ?_)
  cases (Stage.runAll ((Materialization.joins relations).map .join) items).answer t with
  | error e => rfl
  | ok joined => exact congrArg (answer · t) (congrArg _ (List.filter_eq_self.2 fun _ _ => rfl))

end Plans

/-- What conditions are compiled to for a report. -/
theorem exists_ofConditions_of_compile {c : ReportContent} {time : Instant} {t : Tenant} {f : CompiledFilter}
    (h : (compile c time).answer t = .ok f) : ∃ ctx : CompileContext, ctx.target = .source
      ∧ CompiledFilter.ofConditions ctx c.conditions c.combinator = .ok f := by
  rw [answer_compile] at h
  obtain ⟨period, -, h⟩ := exists_of_bind_eq_ok h
  exact ⟨context t time period, rfl, eq_ok_of_mapError h⟩

/-- Planning and running reads something. -/
theorem reads_computePlanned (c : ReportContent) (relations : List Relation) (fields : List Field) (time : Instant)
    (parts : Predicate × Option Predicate) : Reads .univ (computePlanned c relations fields time parts) :=
  reads_staged c _ _

/-- **What computing rows answers**, once it is known what they depend on: either planning fails, or the items
cannot be reached, or the plan runs on those that were found. -/
theorem answer_computePlanned (c : ReportContent) (relations : List Relation) (fields : List Field) (time : Instant)
    (parts : Predicate × Option Predicate) (t : Tenant) : (computePlanned c relations fields time parts).answer t
      = if t.store.unavailable.contains (Store.itemsOf c.datastoreId) then
          (Materialization.projection fields (!(Materialization.joins relations).isEmpty)).bind fun _ =>
            .error (.store "scan source records" (.unavailable (Store.itemsOf c.datastoreId)))
        else (runPlan c.mode relations fields parts.2 time
          ((t.store.documents (Store.itemsOf c.datastoreId)).filter parts.1.holds)).answer t := by
  have hscan : ∀ stages, (TenantAction.onStore "scan source records"
      (Store.find (Store.itemsOf c.datastoreId) parts.1 {}) >>= fun items => Stage.runAll stages items).answer t
        = if t.store.unavailable.contains (Store.itemsOf c.datastoreId) then
            .error (.store "scan source records" (.unavailable (Store.itemsOf c.datastoreId)))
          else (Stage.runAll stages
            ((t.store.documents (Store.itemsOf c.datastoreId)).filter parts.1.holds)).answer t := by
    intro stages
    rw [answer_bind (Reads.find (Set.mem_univ _) _ _ _) fun items => Stage.reads_runAll_everywhere stages items,
      TenantAction.answer_find, TenantAction.found]
    split <;> rfl
  unfold computePlanned runPlan
  rw [TenantAction.answer_ofExcept_bind, TenantAction.answer_ofExcept_bind, funext hscan]
  split
  · rw [stages_eq_bind]
    cases Materialization.projection fields (!(Materialization.joins relations).isEmpty) <;> rfl
  · rfl

/-- **Wherever a filter is tested** that does not see what is joined, the rows are the same. -/
theorem answer_computePlanned_split (c : ReportContent) (relations : List Relation) (fields : List Field)
    (time : Instant) {f : CompiledFilter} (hf : ∀ (j : Join) (record related : Json),
      f.predicate.holds (j.attach record related) = f.predicate.holds record) (place other : Placement) (t : Tenant) :
    (computePlanned c relations fields time (place.split f)).answer t
      = (computePlanned c relations fields time (other.split f)).answer t := by
  have hall : ∀ items : List Json, items.filter Predicate.everything.holds = items :=
    fun items => List.filter_eq_self.2 fun _ _ => rfl
  rw [answer_computePlanned, answer_computePlanned]
  split
  · rfl
  · cases place <;> cases other <;> simp only [Placement.split, hall, answer_runPlan_filter hf]

/-- What computing rows answers, step by step. -/
theorem answer_computeAllBy (place : CompiledFilter → Placement) (c : ReportContent) (time : Instant) (t : Tenant) :
    (computeAllBy place c time).answer t = ((compile c time).answer t).bind fun compiled =>
      ((Catalog.resolve c.appId c.datastoreId).answer t).bind fun catalog =>
        ((relations c).answer t).bind fun related =>
          (computePlanned c related catalog.rootFields time ((place compiled).split compiled)).answer t := by
  have hplanned := fun (compiled : CompiledFilter) (catalog : Catalog) (related : List Relation) =>
    reads_computePlanned c related catalog.rootFields time ((place compiled).split compiled)
  have hrelated := fun (compiled : CompiledFilter) (catalog : Catalog) =>
    (reads_relations everywhere c).bind (hplanned compiled catalog)
  have hresolved := fun (compiled : CompiledFilter) =>
    (Catalog.reads_resolve everywhere c.appId c.datastoreId).bind (hrelated compiled)
  unfold computeAllBy
  rw [answer_bind (reads_compile everywhere c time) hresolved]
  refine congrArg _ (funext fun compiled => ?_)
  rw [answer_bind (Catalog.reads_resolve everywhere _ _) (hrelated compiled)]
  refine congrArg _ (funext fun catalog => ?_)
  rw [answer_bind (reads_relations everywhere c) (hplanned compiled catalog)]

/-- **Wherever conditions that avoid `relations` are tested**, the rows of a report are the same, or the same
failure comes. -/
theorem answer_computeAllBy_eq {c : ReportContent} (h : ∀ condition ∈ c.conditions, condition.AvoidsRelations)
    (place : CompiledFilter → Placement) (time : Instant) (t : Tenant) :
    (computeAllBy place c time).answer t = (computeAll c time).answer t := by
  rw [computeAll_eq_computeAllBy, answer_computeAllBy, answer_computeAllBy]
  cases hcompile : (compile c time).answer t with
  | error e => rw [bind_of_error, bind_of_error]
  | ok compiled =>
    obtain ⟨ctx, hsource, hcompiled⟩ := exists_ofConditions_of_compile hcompile
    rw [bind_of_ok, bind_of_ok]
    refine congrArg _ (funext fun catalog => congrArg _ (funext fun related => ?_))
    exact answer_computePlanned_split c related _ time (CompiledFilter.holds_attach hsource hcompiled h) _ _ t

/-- **Testing conditions early is a matter of speed.** For a report whose conditions look at nothing below
`relations`, a plan makes the same rows of the items that fulfil the conditions as it makes, with the conditions
tested behind the joins, of all items, or it fails the same way. So the rows are those that would be computed with
the conditions tested at any other place, and no other rows are ever published. -/
theorem computeAll_eq_wherever_tested {c : ReportContent}
    (h : ∀ condition ∈ c.conditions, condition.AvoidsRelations) :
    (∀ (ctx : CompileContext) (f : CompiledFilter), ctx.target = .source →
      CompiledFilter.ofConditions ctx c.conditions c.combinator = .ok f →
      ∀ (relations : List Relation) (fields : List Field) (time : Instant) (items : List Json) (t : Tenant),
        (runPlan c.mode relations fields none time (items.filter f.predicate.holds)).answer t
          = (runPlan c.mode relations fields (some f.predicate) time items).answer t)
    ∧ (∀ (place : CompiledFilter → Placement) (time : Instant) (t : Tenant),
      (computeAllBy place c time).answer t = (computeAll c time).answer t)
    ∧ ∀ (place : CompiledFilter → Placement) (job : Job) (s : Service) (d : ReportDefinition),
      (Registry.find job.reportId).answer s.tenant = .ok (some d) → d.toReportContent = c →
      (Service.execute job s).1.state = .published →
      (computeAllBy place c s.tenant.clock).answer s.tenant
        = .ok ((Service.execute job s).2.tenant.store.documents job.reportId.collection) := by
  refine ⟨fun ctx f hsource hf relations fields time items t => ?_, answer_computeAllBy_eq h,
    fun place job s d hfind hcontent hpublished => ?_⟩
  · exact answer_runPlan_filter (CompiledFilter.holds_attach hsource hf h) items
  · obtain ⟨p, rfl, hbefore, hafter⟩ := Publication.exists_of_execute hpublished
    obtain rfl := p.definition_eq (hbefore ▸ hfind)
    rw [answer_computeAllBy_eq h, ← hafter, ← hbefore, p.published.rows, ← hcontent]
    exact p.computed

end Rows

/-! ### Orders from Ulm -/

/-- The report on orders from Ulm, with the names of the customers. -/
def ulmReport : ReportDefinition := depotReport storedId depotKeys [textIs "city" "Ulm"]

/-- The service with this report. -/
def ulmBefore : Service := depot depotKeys ulmReport.conditions depotCollections

/-- **Two orders are published**, and they are also found when all orders are joined first. -/
theorem ulm_eq_wherever_tested :
    (∀ condition ∈ ulmReport.toReportContent.conditions, condition.AvoidsRelations)
      ∧ ((Service.execute storedJob ulmBefore).2.tenant.store.documents storedJob.reportId.collection).length = 2
      ∧ (Rows.computeAllBy (fun _ => .joined) ulmReport.toReportContent ulmBefore.tenant.clock).answer
        ulmBefore.tenant
          = .ok ((Service.execute storedJob ulmBefore).2.tenant.store.documents storedJob.reportId.collection) := by
  have havoids : ∀ condition ∈ ulmReport.toReportContent.conditions, condition.AvoidsRelations := by decide
  obtain ⟨hfound, hpublished, hrows⟩ :
      ((Registry.find storedJob.reportId).answer ulmBefore.tenant).toOption = some (some ulmReport)
        ∧ (Service.execute storedJob ulmBefore).1.state = .published
        ∧ ((Service.execute storedJob ulmBefore).2.tenant.store.documents
          storedJob.reportId.collection).length = 2 := by
    decide +kernel
  exact ⟨havoids, hrows, (Rows.computeAll_eq_wherever_tested havoids).2.2 (fun _ => .joined) storedJob ulmBefore
    ulmReport (eq_ok_of_toOption hfound) rfl hpublished⟩

/-- A static condition on what is joined is tested before anything is: it finds nothing then. -/
example :
    let sold : ReportContent := { ulmReport.toReportContent with
      conditions := [{ fieldId := "relations.r1.name.value", fieldType := .check, searchValue := "Acme" }] }
    ((Rows.computeAll sold .epoch).answer ulmBefore.tenant).toOption.map List.length = some 0
      ∧ ((Rows.computeAllBy (fun _ => .joined) sold .epoch).answer ulmBefore.tenant).toOption.map List.length
        = some 1 := by
  decide +kernel

end Rollup
