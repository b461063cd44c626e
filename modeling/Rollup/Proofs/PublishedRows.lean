import Rollup.Proofs.Answers
import Rollup.Proofs.Conditions
import Rollup.Proofs.Publishing

/-!
# Queries on published rows

A query chooses among the rows that the caller may see those that fulfil its conditions
(`Query.exists_of_compile`). Once the rows of a report are published, a query about it is prepared from the
definition they were computed for, and chooses among these rows (`Publication.answer_prepare`). So two queries,
on the same or on different tenants, are answered alike when the reports are shown the same way and the queries
choose the same rows (`Publication.alikePrepared`).
-/

namespace Rollup

open TenantAction (answer)

namespace Query

/-- Whether the caller may see a row. -/
def sees (q : Query) (row : Json) : Bool := (Predicate.among ownersPath q.owners).holds row

/-- The same query for all rows, whatever they fulfil. -/
def unconditioned (q : Query) : Query := { q with conditions := [], pageIndex := 1, pageSize := 0 }

/-- **What the conditions of a query come to** is demanded of the rows that the caller sees. -/
theorem exists_compile {q : Query} {appId : String} {t : Tenant} {period : Option String}
    {f : CompiledFilter} (hperiod : (Directory.processingPeriod appId).answer t = .ok period)
    (hf : CompiledFilter.ofConditions (context t period) q.conditions q.combinator = .ok f) :
    ∃ compiled, (q.compile appId).answer t = .ok compiled
      ∧ ∀ row, compiled.predicate.holds row = (q.sees row && f.predicate.holds row) := by
  refine ⟨{ f with
    predicate := .allOf [.among ownersPath q.owners, f.predicate]
    indexKeys := ownersPath :: f.indexKeys.filter fun key => key ≠ ownersPath }, ?_, fun row => ?_⟩
  · rw [answer_compile, hperiod, bind_of_ok, CompiledFilter.ofQuery, hf]
    rfl
  · rw [Predicate.holds_allOf, List.all_cons, List.all_cons, List.all_nil, Bool.and_true]
    rfl

/-- **What a query is compiled to**: it chooses the rows that the caller sees and that fulfil the conditions;
without conditions, those that the caller sees. -/
theorem exists_of_compile {q : Query} {appId : String} {t : Tenant} {compiled : CompiledFilter}
    (h : (q.compile appId).answer t = .ok compiled) : ∃ (period : Option String) (f bare : CompiledFilter),
      CompiledFilter.ofConditions (context t period) q.conditions q.combinator = .ok f
        ∧ (∀ row, compiled.predicate.holds row = (q.sees row && f.predicate.holds row))
        ∧ (q.unconditioned.compile appId).answer t = .ok bare
        ∧ ∀ row, bare.predicate.holds row = q.sees row := by
  have hanswer := h
  rw [answer_compile] at hanswer
  obtain ⟨period, hperiod, hanswer⟩ := exists_of_bind_eq_ok hanswer
  obtain ⟨f, hf, -⟩ := exists_of_bind_eq_ok (eq_ok_of_mapError hanswer)
  obtain ⟨chosen, hchosen, hholds⟩ := exists_compile hperiod hf
  obtain rfl := Except.ok.inj (h.symm.trans hchosen)
  obtain ⟨bare, hbare, heverything, -⟩ := CompiledFilter.exists_ofConditions_nil hf
  obtain ⟨all, hall, hsees⟩ := exists_compile (q := q.unconditioned) hperiod hbare
  refine ⟨period, f, all, hf, hholds, hall, fun row => ?_⟩
  rw [hsees, heverything]
  exact Bool.and_true _

/-- **Without conditions** a query leaves out nothing that its caller sees. -/
theorem filter_eq_self {q : Query} {appId : String} {t : Tenant} {compiled : CompiledFilter} {rows : List Json}
    (hq : q.unconditioned = q) (h : (q.compile appId).answer t = .ok compiled)
    (hsees : ∀ row ∈ rows, q.sees row = true) : rows.filter compiled.predicate.holds = rows := by
  obtain ⟨-, -, bare, -, -, hbare, hholds⟩ := exists_of_compile h
  rw [hq, h] at hbare
  obtain rfl := Except.ok.inj hbare
  rw [List.filter_congr fun row _ => hholds row]
  exact List.filter_eq_self.2 hsees

end Query

/-- **Rows of a report that were published**: by a job, for the definition that was found, leaving a tenant
behind. -/
structure Publication where
  /-- The job. -/
  job : Job
  /-- The definition. -/
  definition : ReportDefinition
  /-- The rows. -/
  rows : List Json
  /-- The tenant before. -/
  before : Tenant
  /-- The tenant afterwards. -/
  after : Tenant
  /-- The definition was found. -/
  found : (Registry.find job.reportId).answer before = .ok (some definition)
  /-- It was not deleted. -/
  notDeleted : definition.isDeleted = false
  /-- The rows are those of the definition, at the instant of the tenant. -/
  computed : (Rows.computeAll definition.toReportContent before.clock).answer before = .ok rows
  /-- They were published. -/
  published : Tenant.Published job.reportId rows (Service.publishedStatus job rows before.today) before
    after

namespace Publication

/-- **A run that ends published is a publication.** -/
theorem exists_of_execute {job : Job} {s : Service}
    (h : (Service.execute job s).1.state = .published) : ∃ p : Publication,
      p.job = job ∧ p.before = s.tenant ∧ p.after = (Service.execute job s).2.tenant := by
  obtain ⟨d, rows, hfind, hdeleted, hrows, hstatus, hleft⟩ := Service.published_of_execute rfl h
  exact ⟨⟨job, d, rows, s.tenant, _, hfind, hdeleted, answer_computeAll_of_computeFor hrows,
    hstatus ▸ hleft⟩, rfl, rfl, rfl⟩

/-- The definition is the one that is found. -/
theorem definition_eq (p : Publication) {d : ReportDefinition}
    (h : (Registry.find p.job.reportId).answer p.before = .ok (some d)) : p.definition = d :=
  Option.some.inj (Except.ok.inj (p.found.symm.trans h))

/-- The definition with the status that is noted in it. -/
def noted (p : Publication) (time : Instant) : ReportDefinition :=
  { p.definition with materialization := Service.publishedStatus p.job p.rows time }

/-- **How a query about published rows is prepared.** -/
theorem answer_prepare (p : Publication) {q : Query} (hq : q.reportId = p.job.reportId.text) :
    q.prepare.answer p.after = match Decode.instant p.before.today.toJson with
      | some time => ((q.compile p.definition.appId).answer p.after).bind fun compiled => .ok
          { report := p.noted time, collection := p.job.reportId.collection,
            predicate := compiled.predicate,
            presentation := Presentation.ofReport p.definition.toReportContent }
      | none => .error (.store "decode report" (.decode Store.reports none)) := by
  rw [Query.answer_prepare, hq, ReportId.parse_text, bind_of_ok,
    Registry.answer_load_of_published p.found p.notDeleted p.published]
  cases Decode.instant p.before.today.toJson <;> rfl

/-- Whether two compiled queries choose the same rows. -/
def ChooseAlike (rows rows' : List Json) :
    Except ReportError CompiledFilter → Except ReportError CompiledFilter → Prop
  | .ok f, .ok f' => rows.filter f.predicate.holds = rows'.filter f'.predicate.holds
  | .error e, .error e' => e = e'
  | _, _ => False

/-- **Reports that are shown the same way.** -/
structure ShownAlike (c c' : ReportContent) : Prop where
  /-- They are of the same app. -/
  appId : c.appId = c'.appId
  /-- They have the same name. -/
  name : c.name = c'.name
  /-- They make the same of their items. -/
  mode : c.mode = c'.mode

/-- **Queries that choose the same published rows are prepared alike.** -/
theorem alikePrepared {p p' : Publication} {q q' : Query} (htoday : p.before.today = p'.before.today)
    (hshown : ShownAlike p.definition.toReportContent p'.definition.toReportContent)
    (hq : q.reportId = p.job.reportId.text) (hq' : q'.reportId = p'.job.reportId.text)
    (hchoose : ChooseAlike p.rows p'.rows ((q.compile p.definition.appId).answer p.after)
      ((q'.compile p'.definition.appId).answer p'.after)) :
    Query.AlikePrepared p.after p'.after (q.prepare.answer p.after) (q'.prepare.answer p'.after) := by
  rw [p.answer_prepare hq, p'.answer_prepare hq', htoday]
  cases Decode.instant p'.before.today.toJson with
  | none => rfl
  | some time =>
    have hpresentation : Presentation.ofReport p.definition.toReportContent
        = Presentation.ofReport p'.definition.toReportContent := by
      unfold Presentation.ofReport
      rw [hshown.appId, hshown.mode]
    revert hchoose
    dsimp only
    cases (q.compile p.definition.appId).answer p.after with
    | error e =>
      cases (q'.compile p'.definition.appId).answer p'.after with
      | error e' => exact id
      | ok f' => exact False.elim
    | ok f =>
      cases (q'.compile p'.definition.appId).answer p'.after with
      | error e' => exact False.elim
      | ok f' =>
        intro hrows
        refine ⟨⟨congrArg ReportMode.isGroup hshown.mode, hpresentation, ?_, ?_, ?_⟩, hshown.name⟩
        · exact p.published.unavailable ▸ p.published.available
        · exact p'.published.unavailable ▸ p'.published.available
        · exact p.published.rows ▸ p'.published.rows ▸ hrows

end Publication

end Rollup
