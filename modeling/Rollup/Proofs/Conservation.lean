import Mathlib.Data.UInt
import Rollup.Proofs.AtRest

/-!
# No run is lost or counted twice

Each call that asks for the rows of a report makes one job, and each job ends in one run: it is superseded before it
begins, or it begins and then publishes, fails, finds nothing to publish or is superseded after all. Four counters
tell how runs ended, and one how many rows they published. Once nothing waits and nothing runs, the four add up to
the calls that were answered, and the rows to those that the runs tell in their statuses
(`Service.accounted_of_isIdle`).

Calls come while jobs wait and while runs are under way, so that the law is about a service **at work**: with the jobs
that were given to workers and with the runs that have begun. A step asks for at most one job, or moves one job on
by one place, or ends it, and it counts exactly what it ends (`Service.AtWork.Tallied.take`). A caller who waits for
rows drains the queue, and so ends all that waits at once; waiting while others work is asking and looking later.
-/

namespace Rollup

/-! ## Counting how runs end -/

namespace RunCounts

/-- The counters behind a run that ended with a status. -/
def after (c : RunCounts) (status : MaterializationStatus) : RunCounts :=
  match status.state with
  | .published => { c with published := c.published + 1, rows := c.rows + status.rows }
  | .failed => { c with failed := c.failed + 1 }
  | .superseded => { c with superseded := c.superseded + 1 }
  | .skipped => { c with skipped := c.skipped + 1 }
  | .pending | .scheduled | .running => c

/-- How many runs were counted in all. -/
def total (c : RunCounts) : ℕ := c.published + c.failed + c.superseded + c.skipped

/-- A run that is over is counted once. -/
theorem total_after (c : RunCounts) {status : MaterializationStatus} (h : status.state.isTerminal = true) :
    (c.after status).total = c.total + 1 := by
  unfold after total
  cases hstate : status.state with
  | published | failed | superseded | skipped => dsimp only; omega
  | pending | scheduled | running => exact absurd (hstate ▸ h) nofun

/-- Runs that are over are counted once each. -/
theorem total_foldl_after (c : RunCounts) {ended : List MaterializationStatus}
    (h : ∀ status ∈ ended, status.state.isTerminal = true) : (ended.foldl after c).total = c.total + ended.length := by
  induction ended generalizing c with
  | nil => rfl
  | cons status rest ih =>
    obtain ⟨hstatus, hrest⟩ := List.forall_mem_cons.1 h
    rw [List.foldl_cons, ih (c.after status) hrest, total_after c hstatus, List.length_cons]
    omega

/-- **What the counters tell of runs that ended**: how many came to each end, and the rows that were published. -/
theorem foldl_after (c : RunCounts) (ended : List MaterializationStatus) : ended.foldl after c
    = { published := c.published + ended.countP (·.state = .published)
        failed := c.failed + ended.countP (·.state = .failed)
        superseded := c.superseded + ended.countP (·.state = .superseded)
        skipped := c.skipped + ended.countP (·.state = .skipped)
        rows := c.rows + ((ended.filter (·.state = .published)).map (·.rows)).sum } := by
  induction ended generalizing c with
  | nil => simp
  | cons status rest ih =>
    rw [List.foldl_cons, ih]
    unfold after
    cases hstate : status.state <;> simp [hstate, Nat.add_assoc, Nat.add_comm 1, UInt64.add_assoc]

end RunCounts

namespace Service

/-! ## Runs that end -/

variable {s u v : Service} {job : Job} {status : MaterializationStatus} {statuses others : List MaterializationStatus}

/-- **Runs that ended were counted**: between two states they came to these statuses, each of them is over, and nothing
else was counted. -/
structure Counted (s : Service) (statuses : List MaterializationStatus) (u : Service) : Prop where
  /-- The runs are over. -/
  terminal : ∀ status ∈ statuses, status.state.isTerminal = true
  /-- They were counted. -/
  counted : u.tenant.runs = statuses.foldl RunCounts.after s.tenant.runs

/-- **Runs ended**: they were counted, and the same jobs wait as before. -/
structure Ended (s : Service) (statuses : List MaterializationStatus) (u : Service) : Prop
    extends Counted s statuses u where
  /-- The same jobs wait. -/
  jobs : u.queue.jobs = s.queue.jobs

/-- Where nothing is counted, no run ended. -/
theorem Counted.none (h : u.tenant.runs = s.tenant.runs) : Counted s [] u :=
  ⟨fun _ hmem => absurd hmem List.not_mem_nil, h⟩

/-- Runs are counted one after the other. -/
theorem Counted.trans (h : Counted s statuses u) (h' : Counted u others v) : Counted s (statuses ++ others) v where
  terminal status hmem := (List.mem_append.1 hmem).elim (h.terminal status) (h'.terminal status)
  counted := by rw [h'.counted, h.counted, List.foldl_append]

/-- Where nothing is counted and no job comes or goes, no run ended. -/
theorem Ended.none (hcounted : u.tenant.runs = s.tenant.runs) (hjobs : u.queue.jobs = s.queue.jobs) :
    Ended s [] u :=
  ⟨.none hcounted, hjobs⟩

/-- One run that ended and was counted. -/
theorem Ended.one (hterminal : status.state.isTerminal = true) (hcounted : u.tenant.runs = s.tenant.runs.after status)
    (hjobs : u.queue.jobs = s.queue.jobs) : Ended s [status] u :=
  ⟨⟨List.forall_mem_singleton.2 hterminal, hcounted⟩, hjobs⟩

/-- Runs end one after the other. -/
theorem Ended.trans (h : Ended s statuses u) (h' : Ended u others v) : Ended s (statuses ++ others) v :=
  ⟨h.toCounted.trans h'.toCounted, h'.jobs.trans h.jobs⟩

/-! ## Runs -/

/-- **An action in which one run ends** with the status that it gives. -/
def EndsRun (a : StateM Service MaterializationStatus) : Prop := ∀ s, Ended s [(a s).1] (a s).2

namespace EndsRun

variable {α : Type} {a b : StateM Service MaterializationStatus}

/-- What the service is like may decide how the run ends. -/
theorem get {f : Service → StateM Service MaterializationStatus} (h : ∀ s, EndsRun (f s)) :
    EndsRun (MonadState.get >>= f) := fun s => h s s

/-- Either way a run ends. -/
theorem ite {c : Prop} [Decidable c] (ha : EndsRun a) (hb : EndsRun b) : EndsRun (if c then a else b) := by
  split
  · exact ha
  · exact hb

/-- A run may do something for the tenant before it ends, as long as that counts no run. -/
theorem attempt {action : TenantAction α} {f : Except ReportError α → StateM Service MaterializationStatus}
    (haction : Keeps Tenant.runs action) (h : ∀ outcome, EndsRun (f outcome)) :
    EndsRun (Service.attempt action >>= f) := by
  intro s
  have hbefore : Ended s [] { s with tenant := (action.run s.tenant).2 } := .none (haction s.tenant) rfl
  exact hbefore.trans (h (action.run s.tenant).1 _)

/-- **Recording counts nothing**: the run was counted just before. -/
theorem record {s u : Service} {job : Job} {status : MaterializationStatus} (hterminal : status.state.isTerminal = true)
    (hcounted : u.tenant.runs = s.tenant.runs.after status) (hjobs : u.queue.jobs = s.queue.jobs) :
    Ended s [(Service.record job status u).1] (Service.record job status u).2 :=
  .one hterminal ((Registry.counts_recordStatus job.reportId status u.tenant).trans hcounted) hjobs

/-- A job that is superseded is counted as such. -/
theorem supersede (job : Job) : EndsRun (Service.supersede job) := fun _ => .one rfl rfl rfl

/-- A run that fails is counted as such. -/
theorem concludeFailed (r : Run) (e : ReportError) : EndsRun (Service.concludeFailed r e) := fun s =>
  record (u := { s with
    tenant := { s.tenant with metrics := { s.tenant.metrics with failed := s.tenant.metrics.failed + 1 } }
    failures := s.failures ++ [{ reportId := r.job.reportId, generation := r.job.generation, error := e }] })
    rfl rfl rfl

/-- A run with nothing to publish is counted as such. -/
theorem concludeSkipped (r : Run) : EndsRun (Service.concludeSkipped r) := fun s =>
  record (u := { s with
    tenant := { s.tenant with metrics := { s.tenant.metrics with skipped := s.tenant.metrics.skipped + 1 } } })
    rfl rfl rfl

/-- A run that publishes is counted as such, with its rows. -/
theorem concludePublished (r : Run) (rows : ℕ) : EndsRun (Service.concludePublished r rows) := by
  intro s
  refine record (u := { s with tenant := { s.tenant with metrics := s.tenant.metrics.recordPublished rows } })
    rfl ?_ rfl
  show (s.tenant.metrics.recordPublished rows).runs = _
  unfold Metrics.recordPublished Metrics.runs
  rw [UInt64.ofNat_add]
  rfl

/-- Publishing rows counts no run by itself. -/
theorem counts_publish (id : ReportId) (rows : List Json) : Keeps Tenant.runs (Rows.publish id rows) :=
  (TenantAction.counts_onStore _ _).bind fun _ => .pure _ _

/-- **Every run that is finished is counted once.** -/
theorem finish (r : Run) : EndsRun (Service.finish r) := by
  refine attempt (reads_compute r).counts fun computed => ?_
  rcases computed with e | rows | _
  · exact concludeFailed r e
  · refine get fun s => ite (supersede r.job) (attempt (counts_publish _ _) fun published => ?_)
    rcases published with e | count
    · exact concludeFailed r e
    · exact concludePublished r count
  · exact concludeSkipped r

/-- Beginning a run neither ends it nor counts it. -/
theorem ended_begin (job : Job) (s : Service) : Ended s [] (begin job s).2 :=
  .none ((Registry.reads_find (Set.mem_univ _) job.reportId).counts s.tenant) rfl

/-- **Every job that is executed is counted once.** -/
theorem execute (job : Job) : EndsRun (Service.execute job) :=
  get fun _ => ite (supersede job) fun s => (ended_begin job s).trans (finish (begin job s).1 (begin job s).2)

end EndsRun

/-! ## Jobs that are drained -/

/-- What the runs of jobs end with, one after the other. -/
def endings : List Job → Service → List MaterializationStatus
  | [], _ => []
  | job :: rest, s => (execute job s).1 :: endings rest (execute job s).2

/-- What the runs of the jobs that wait end with when the queue is drained. -/
def drained (s : Service) : List MaterializationStatus :=
  endings s.queue.jobs { s with queue := { s.queue with jobs := [] } }

/-- Each job has an ending. -/
theorem length_endings (jobs : List Job) (s : Service) : (endings jobs s).length = jobs.length := by
  induction jobs generalizing s with
  | nil => rfl
  | cons job rest ih => exact congrArg Nat.succ (ih _)

/-- Of jobs that are executed the later ones find what the earlier ones left. -/
theorem endings_append (jobs later : List Job) (s : Service) : endings (jobs ++ later) s
    = endings jobs s ++ endings later (executeAll jobs s).2 := by
  induction jobs generalizing s with
  | nil => rfl
  | cons job rest ih => exact congrArg (_ :: ·) (ih _)

/-- So does what is left behind them. -/
theorem executeAll_append (jobs later : List Job) (s : Service) :
    (executeAll (jobs ++ later) s).2 = (executeAll later (executeAll jobs s).2).2 := by
  induction jobs generalizing s with
  | nil => rfl
  | cons job rest ih => exact ih _

/-- **Jobs that are executed one after the other are counted once each.** -/
theorem ended_executeAll (jobs : List Job) (s : Service) : Ended s (endings jobs s) (executeAll jobs s).2 := by
  induction jobs generalizing s with
  | nil => exact .none rfl rfl
  | cons job rest ih => exact (EndsRun.execute job s).trans (ih (execute job s).2)

/-- **Draining** ends the runs of all jobs that wait. -/
theorem ended_drain (s : Service) :
    Ended { s with queue := { s.queue with jobs := [] } } (drained s) (drain s).2 :=
  ended_executeAll s.queue.jobs _

/-- **Waiting for the rows of a report** is asking for them and draining the queue; the answer is what the last run
ended with. -/
theorem materialize_eq_generate (reportId : String) (s : Service) :
    (∃ e u, (generate reportId).run s = (.error e, u) ∧ (materialize reportId).run s = (.error e, u))
      ∨ ∃ generation u earlier status, (generate reportId).run s = (.ok generation, u)
        ∧ drained u = earlier ++ [status] ∧ (materialize reportId).run s = (.ok status, (drain u).2) := by
  unfold generate materialize
  rw [run_bind, run_bind]
  obtain ⟨e | id, u⟩ := (idOf reportId).run s
  · exact .inl ⟨e, u, rfl, rfl⟩
  dsimp only
  rw [run_bind, run_bind]
  obtain ⟨e | d, v⟩ := (load id).run u
  · exact .inl ⟨e, v, rfl, rfl⟩
  have hdrained := endings_append (v.queue.issue id).2.jobs [(v.queue.issue id).1]
    { v with queue := { (v.queue.issue id).2 with jobs := [] } }
  have hdrain := executeAll_append (v.queue.issue id).2.jobs [(v.queue.issue id).1]
    { v with queue := { (v.queue.issue id).2 with jobs := [] } }
  refine .inr ⟨_, _, _, _, rfl, hdrained, ?_⟩
  exact Prod.ext rfl hdrain.symm

/-! ## Calls -/

/-- Whether a call asks for the rows of a report, if it is answered. -/
def Call.asksForRows : Call → Bool
  | .create .. | .modify .. | .generate .. | .materialize .. => true
  | .delete .. | .purge .. | .ask .. => false

/-- How many runs a call brings about: one, if it asks for rows and is answered. -/
def Call.accepted (made : Call) (s : Service) : ℕ :=
  if made.asksForRows && (made.perform.run s).1.isOk then 1 else 0

/-- What the runs end with that a call waits for. -/
def Call.endings : Call → Service → List MaterializationStatus
  | .materialize reportId, s => match (Service.generate reportId).run s with
    | (.ok _, u) => drained u
    | (.error _, _) => []
  | _, _ => []

/-- **Jobs came and ended**: so many were accepted, runs came to these statuses and were counted, and what was accepted
and has not ended waits. -/
structure Moved (s : Service) (accepted : ℕ) (statuses : List MaterializationStatus) (u : Service) : Prop
    extends Counted s statuses u where
  /-- No job is lost, and none is there twice. -/
  conserved : s.queue.jobs.length + accepted = statuses.length + u.queue.jobs.length

/-- A service that is kept accepted nothing. -/
theorem Kept.moved (h : Kept s u) : Moved s 0 [] u :=
  ⟨.none h.runs, by rw [h.queue, List.length_nil, Nat.add_comm]⟩

/-- A job that is submitted waits. -/
theorem Moved.submitted {id : ReportId} (hqueue : u.queue = (s.queue.submit id).2)
    (hruns : u.tenant.runs = s.tenant.runs) : Moved s 1 [] u := by
  refine ⟨.none hruns, ?_⟩
  rw [hqueue]
  show _ = ([] : List MaterializationStatus).length + ((s.queue.issue id).2.jobs ++ [(s.queue.issue id).1]).length
  rw [jobs_issue, List.length_append, List.length_nil, List.length_singleton, Nat.zero_add]

/-- Draining ends what waits. -/
theorem Moved.drain {accepted : ℕ} (h : Moved s accepted [] u) : Moved s accepted (drained u) (Service.drain u).2 := by
  have hended := ended_drain u
  refine ⟨h.toCounted.trans ⟨hended.terminal, hended.counted⟩, h.conserved.trans ?_⟩
  rw [hended.jobs]
  exact Nat.add_comm _ _ |>.trans (congrArg (· + 0) (length_endings ..).symm)

/-- A call that does something and does not look at the result, which is refused or submits a job. -/
theorem Moved.quietly {α : Type} {a : ServiceAction α} {made : Call} (hmade : made.perform = quietly a)
    (hasks : made.asksForRows = true) (hendings : made.endings s = [])
    (hcases : (∃ e u, a.run s = (.error e, u) ∧ Kept s u)
      ∨ ∃ answer u, a.run s = (.ok answer, u) ∧ Moved s 1 [] u) :
    Moved s (made.accepted s) (made.endings s) (made.perform.run s).2 := by
  unfold Call.accepted
  rw [hasks, hendings, hmade, run_quietly]
  rcases hcases with ⟨e, u, hrun, hu⟩ | ⟨answer, u, hrun, hu⟩
  · rw [hrun]
    exact hu.moved
  · rw [hrun]
    exact hu

/-- Purging a report ends no run and takes no job away: those of the report are superseded when their turn comes. -/
theorem moved_purge (reportId : String) (s : Service) : Moved s 0 [] ((Service.purge reportId).run s).2 := by
  cases hparse : ReportId.parse reportId with
  | error e =>
    rw [run_purge_of_error hparse]
    exact (Kept.refl s).moved
  | ok id =>
    have hruns : Keeps Tenant.runs (removeAll id) :=
      (Registry.counts_remove id).bind fun _ => (TenantAction.counts_onStore _ _).bind fun _ => .pure _ _
    rw [run_purge hparse]
    refine ⟨.none (hruns s.tenant), ?_⟩
    show _ = _ + (s.queue.assign id).2.jobs.length
    rw [Queue.jobs_assign, List.length_nil, Nat.add_comm]

/-- Waiting for the rows of a report accepts a job, and ends it together with all that wait before it. -/
theorem moved_materialize (reportId : String) (s : Service) : Moved s ((Call.materialize reportId).accepted s)
    ((Call.materialize reportId).endings s) ((Call.materialize reportId).perform.run s).2 := by
  show Moved s (if ((quietly (materialize reportId)).run s).1.isOk then 1 else 0)
    (match (generate reportId).run s with
      | (.ok _, u) => drained u
      | (.error _, _) => []) ((quietly (materialize reportId)).run s).2
  rw [run_quietly]
  have hgenerate := generate_cases reportId s
  rcases materialize_eq_generate reportId s with
    ⟨e, u, hgenerated, hrun⟩ | ⟨generation, u, earlier, status, hgenerated, -, hrun⟩
  · rw [hgenerated] at hgenerate ⊢
    rw [hrun]
    rcases hgenerate with ⟨e', u', hrefused, hu⟩ | ⟨-, -, answer, u', hanswered, -⟩
    · obtain ⟨-, rfl⟩ := Prod.mk.inj hrefused
      exact hu.moved
    · exact absurd (Prod.mk.inj hanswered).1 nofun
  · rw [hgenerated] at hgenerate ⊢
    rw [hrun]
    rcases hgenerate with ⟨e', u', hrefused, -⟩ | ⟨id, -, answer, u', hanswered, -, -, hqueue, hruns⟩
    · exact absurd (Prod.mk.inj hrefused).1 nofun
    · obtain ⟨-, rfl⟩ := Prod.mk.inj hanswered
      exact .drain (.submitted hqueue hruns)

/-- **Every call accepts a job or none**, and the runs that it waits for are counted. -/
theorem moved_call (made : Call) (s : Service) :
    Moved s (made.accepted s) (made.endings s) (made.perform.run s).2 := by
  cases made with
  | create draft writer =>
    refine .quietly rfl rfl rfl ((create_cases draft writer s).imp_right ?_)
    rintro ⟨newId, answer, u, hrun, -, -, hu⟩
    exact ⟨answer, u, hrun, .submitted hu.queue hu.runs⟩
  | modify reportId patch writer =>
    refine .quietly rfl rfl rfl ((modify_cases reportId patch writer s).imp_right ?_)
    rintro ⟨id, stored, answer, u, hrun, -, hu⟩
    exact ⟨answer, u, hrun, .submitted hu.queue hu.runs⟩
  | delete reportId writer =>
    show Moved s 0 [] ((Service.delete reportId writer).run s).2
    rcases delete_cases reportId writer s with ⟨e, u, hrun, hu⟩ | ⟨id, stored, u, hrun, -, hu⟩
    · rw [hrun]
      exact hu.moved
    · rw [hrun]
      exact ⟨.none hu.runs, by rw [hu.queue, List.length_nil, Nat.add_comm]⟩
  | purge reportId =>
    show Moved s 0 [] ((quietly (Service.purge reportId)).run s).2
    rw [run_quietly]
    exact moved_purge reportId s
  | generate reportId =>
    refine .quietly rfl rfl rfl ((generate_cases reportId s).imp_right ?_)
    rintro ⟨id, stored, answer, u, hrun, -, -, hqueue, hruns⟩
    exact ⟨answer, u, hrun, .submitted hqueue hruns⟩
  | materialize reportId =>
    exact moved_materialize reportId s
  | ask question => exact (kept_put question s).moved

/-! ## A service at work -/

/-- **What callers look at** without asking for rows. -/
inductive Look where
  /-- The definition of a report. -/
  | definition (reportId : String)
  /-- The reports of an app. -/
  | list (appId : String) (datastoreId : Option String)
  /-- Where a materialization stands. -/
  | status (reportId : String)
  /-- The failures since the last look. -/
  | failures

/-- The service behind a look. -/
def Look.behind : Look → Service → Service
  | .definition reportId, s => ((Service.definition reportId).run s).2
  | .list appId datastoreId, s => ((Service.list appId datastoreId).run s).2
  | .status reportId, s => ((Service.status reportId).run s).2
  | .failures, s => (takeFailures s).2

/-- What a look must leave: the runs that were counted and the jobs that wait. -/
def tallied (s : Service) : RunCounts × List Job := (s.tenant.runs, s.queue.jobs)

/-- An action for the tenant that counts no run. -/
theorem keeps_onTenant {α : Type} {a : TenantAction α} (h : Keeps Tenant.runs a) : Keeps tallied (onTenant a) :=
  fun s => Prod.ext (h s.tenant) rfl

/-- A text that is to be an id counts nothing. -/
theorem keeps_idOf (text : String) : Keeps tallied (idOf text) :=
  keeps_onTenant (TenantAction.Reads.ofExcept .univ _ _).counts

/-- Loading a definition counts nothing. -/
theorem keeps_load (id : ReportId) : Keeps tallied (load id) :=
  keeps_onTenant (Registry.reads_load (Set.mem_univ _) id).counts

/-- Neither does listing definitions. -/
theorem keeps_list (appId : String) (datastoreId : Option String) : Keeps tallied (list appId datastoreId) := by
  refine keeps_onTenant ((TenantAction.counts_onStore _ _).bind fun documents => .mapM (fun document => ?_) documents)
  unfold Registry.decode
  split
  · exact .pure _ _
  · exact .throw _ _

/-- Nor does asking where a materialization stands. -/
theorem keeps_status (reportId : String) : Keeps tallied (Service.status reportId) := by
  refine (keeps_idOf reportId).bind fun id => Keeps.bind (.get _) fun s => ?_
  split
  · exact .pure _ _
  · exact (keeps_load id).bind fun _ => .pure _ _

/-- **Looks end no run.** -/
theorem ended_look (look : Look) (s : Service) : Ended s [] (look.behind s) := by
  have hkept : tallied (look.behind s) = tallied s := by
    cases look with
    | definition reportId => exact ((keeps_idOf reportId).bind keeps_load) s
    | list appId datastoreId => exact keeps_list appId datastoreId s
    | status reportId => exact keeps_status reportId s
    | failures =>
      show tallied (takeFailures s).2 = tallied s
      unfold takeFailures
      dsimp only
      split <;> rfl
  exact .none (congrArg Prod.fst hkept) (congrArg Prod.snd hkept)

/-- **A service at work**, with the jobs that workers hold, and with an account of what came and went. -/
structure AtWork where
  /-- The service. -/
  service : Service
  /-- The jobs that were given to workers and have not begun. -/
  given : List Job := []
  /-- The runs that have begun. -/
  begun : List Run := []
  /-- How many of the calls that ask for rows were answered. -/
  accepted : ℕ := 0
  /-- What the runs that are over ended with. -/
  ended : List MaterializationStatus := []

/-- **What can happen to a service at work.** Workers take and start jobs in any order, and runs take any time. -/
inductive WorkStep where
  /-- A call. -/
  | call (made : Call)
  /-- A look. -/
  | look (glance : Look)
  /-- A worker is given one of the jobs that wait. -/
  | give (n : ℕ)
  /-- A job that was given to a worker is superseded or begins. -/
  | start (n : ℕ)
  /-- A run that has begun is finished. -/
  | finish (n : ℕ)
  /-- Something else happens to the tenant that counts no run. -/
  | elsewhere (change : Tenant → Tenant) (counts : ∀ t, (change t).runs = t.runs)

namespace AtWork

/-- A run is over. -/
def conclude (ran : MaterializationStatus × Service) (w : AtWork) : AtWork :=
  { w with service := ran.2, ended := w.ended ++ [ran.1] }

/-- Starts a job: it is superseded, or the run begins. -/
def start (job : Job) (w : AtWork) : AtWork :=
  if w.service.queue.isStale job then w.conclude (supersede job w.service)
  else { w with service := (begin job w.service).2, begun := w.begun ++ [(begin job w.service).1] }

/-- Nothing waits and nothing runs. -/
structure IsIdle (w : AtWork) : Prop where
  /-- No job waits. -/
  jobs : w.service.queue.jobs = []
  /-- No worker has one. -/
  given : w.given = []
  /-- No run is under way. -/
  begun : w.begun = []

end AtWork

/-- **Takes a step.** Where there is no such job or run, nothing happens. -/
def WorkStep.take : WorkStep → AtWork → AtWork
  | .call made, w =>
    { w with
      service := (made.perform.run w.service).2
      accepted := w.accepted + made.accepted w.service
      ended := w.ended ++ made.endings w.service }
  | .look glance, w => { w with service := glance.behind w.service }
  | .give n, w => match w.service.queue.jobs[n]? with
    | some job => { w with service := w.service.takeOut n, given := w.given ++ [job] }
    | none => w
  | .start n, w => match w.given[n]? with
    | some job => { w with given := w.given.eraseIdx n }.start job
    | none => w
  | .finish n, w => match w.begun[n]? with
    | some r => { w with begun := w.begun.eraseIdx n }.conclude (Service.finish r w.service)
    | none => w
  | .elsewhere change _, w => { w with service := { w.service with tenant := change w.service.tenant } }

/-- The service at work behind some steps. -/
def worked (steps : List WorkStep) (s : Service) : AtWork :=
  steps.foldl (fun w step => step.take w) { service := s }

/-- **The account is right**: what ended was counted, and what was accepted has ended, runs, was given to a worker or
waits. -/
structure AtWork.Tallied (s : Service) (w : AtWork) : Prop extends Counted s w.ended w.service where
  /-- No job is lost, and none is there twice. -/
  conserved : s.queue.jobs.length + w.accepted
    = w.ended.length + w.begun.length + w.given.length + w.service.queue.jobs.length

namespace AtWork.Tallied

variable {w : AtWork}

/-- A run that is over is counted; it is no longer among those that are to end. -/
theorem conclude {ran : MaterializationStatus × Service} (hended : Ended w.service [ran.1] ran.2)
    (hcounted : Counted s w.ended w.service) (hconserved : s.queue.jobs.length + w.accepted
      = w.ended.length + w.begun.length + w.given.length + w.service.queue.jobs.length + 1) :
    Tallied s (w.conclude ran) := by
  refine ⟨hcounted.trans hended.toCounted, ?_⟩
  show _ + w.accepted = (w.ended ++ [ran.1]).length + w.begun.length + w.given.length + ran.2.queue.jobs.length
  rw [hended.jobs, List.length_append, List.length_singleton, hconserved]
  omega

/-- A job that is started is superseded at once, or counted among the runs that have begun. -/
theorem start (job : Job) (hcounted : Counted s w.ended w.service) (hconserved : s.queue.jobs.length + w.accepted
      = w.ended.length + w.begun.length + w.given.length + w.service.queue.jobs.length + 1) :
    Tallied s (w.start job) := by
  unfold AtWork.start
  split
  · exact conclude (EndsRun.supersede job w.service) hcounted hconserved
  · have hended := EndsRun.ended_begin job w.service
    refine ⟨List.append_nil w.ended ▸ hcounted.trans hended.toCounted, ?_⟩
    show _ + w.accepted = w.ended.length + (w.begun ++ [(begin job w.service).1]).length + w.given.length
      + (begin job w.service).2.queue.jobs.length
    rw [hended.jobs, List.length_append, List.length_singleton, hconserved]
    omega

/-- **Every step keeps the account right.** -/
theorem take (h : Tallied s w) (step : WorkStep) : Tallied s (step.take w) := by
  have hconserved := h.conserved
  cases step with
  | call made =>
    have hmoved := moved_call made w.service
    have hjobs := hmoved.conserved
    refine ⟨h.toCounted.trans hmoved.toCounted, ?_⟩
    show _ + (w.accepted + made.accepted w.service) = (w.ended ++ made.endings w.service).length + w.begun.length
      + w.given.length + (made.perform.run w.service).2.queue.jobs.length
    rw [List.length_append]
    omega
  | look glance =>
    have hended := ended_look glance w.service
    refine ⟨List.append_nil w.ended ▸ h.toCounted.trans hended.toCounted, ?_⟩
    exact hconserved.trans (congrArg (_ + List.length ·) hended.jobs.symm)
  | give n =>
    unfold WorkStep.take
    dsimp only
    split
    · next job hjob =>
      have hlength := List.length_eraseIdx_add_one (List.getElem?_eq_some_iff.1 hjob).1
      refine ⟨⟨h.terminal, h.counted⟩, ?_⟩
      show _ + w.accepted = w.ended.length + w.begun.length + (w.given ++ [job]).length
        + (w.service.queue.jobs.eraseIdx n).length
      rw [List.length_append, List.length_singleton]
      omega
    · exact h
  | start n =>
    unfold WorkStep.take
    dsimp only
    split
    · next job hjob =>
      have hlength := List.length_eraseIdx_add_one (List.getElem?_eq_some_iff.1 hjob).1
      exact start (w := { w with given := w.given.eraseIdx n }) job h.toCounted (by dsimp only; omega)
    · exact h
  | finish n =>
    unfold WorkStep.take
    dsimp only
    split
    · next r hr =>
      have hlength := List.length_eraseIdx_add_one (List.getElem?_eq_some_iff.1 hr).1
      exact conclude (w := { w with begun := w.begun.eraseIdx n }) (EndsRun.finish r w.service) h.toCounted
        (by dsimp only; omega)
    · exact h
  | elsewhere change hcounts =>
    exact ⟨⟨h.terminal, (hcounts w.service.tenant).trans h.counted⟩, hconserved⟩

end AtWork.Tallied

/-- **The account is right behind any steps.** -/
theorem tallied_worked (s : Service) (steps : List WorkStep) : (worked steps s).Tallied s := by
  have hstart : AtWork.Tallied s { service := s } :=
    ⟨.none rfl, by show s.queue.jobs.length + 0 = 0 + 0 + 0 + s.queue.jobs.length; omega⟩
  unfold worked
  generalize ({ service := s } : AtWork) = w at hstart
  induction steps generalizing w with
  | nil => exact hstart
  | cons step rest ih => exact ih _ (hstart.take step)

/-- **The counters account for a service at work**: for the calls that were answered and for what the runs ended with. -/
structure AtWork.Accounted (w : AtWork) : Prop where
  /-- Each call that asked for rows and was answered brought about one run that was counted. -/
  total : w.service.tenant.metrics.published + w.service.tenant.metrics.failed + w.service.tenant.metrics.superseded
    + w.service.tenant.metrics.skipped = w.accepted
  /-- The runs that published. -/
  published : w.service.tenant.metrics.published = w.ended.countP (·.state = .published)
  /-- The runs that failed. -/
  failed : w.service.tenant.metrics.failed = w.ended.countP (·.state = .failed)
  /-- The runs that were superseded, be it before they began or behind it. -/
  superseded : w.service.tenant.metrics.superseded = w.ended.countP (·.state = .superseded)
  /-- The runs with nothing to publish. -/
  skipped : w.service.tenant.metrics.skipped = w.ended.countP (·.state = .skipped)
  /-- The rows are those that the runs tell that published. -/
  rows : UInt64.ofNat w.service.tenant.metrics.rowsPublished
    = ((w.ended.filter (·.state = .published)).map (·.rows)).sum

/-- **No run is lost or counted twice.** On a service that has counted no run and lets no job wait, callers call, jobs
are given to workers and run in any order, reports are purged and collections come and go meanwhile. Once nothing
waits and nothing runs, the counters account for all of it. -/
theorem accounted_of_isIdle {s : Service} (hnew : s.tenant.runs = ⟨0, 0, 0, 0, 0⟩) (hjobs : s.queue.jobs = [])
    (steps : List WorkStep) (hidle : (worked steps s).IsIdle) : (worked steps s).Accounted := by
  obtain ⟨⟨hterminal, hcounted⟩, hconserved⟩ := tallied_worked s steps
  generalize worked steps s = w at *
  have hruns : w.service.tenant.runs = w.ended.foldl RunCounts.after ⟨0, 0, 0, 0, 0⟩ := hnew ▸ hcounted
  have htotal : w.service.tenant.runs.total = w.accepted := by
    simp only [hjobs, hidle.jobs, hidle.given, hidle.begun, List.length_nil] at hconserved
    rw [hruns, RunCounts.total_foldl_after _ hterminal]
    show 0 + w.ended.length = w.accepted
    omega
  rw [RunCounts.foldl_after] at hruns
  unfold Tenant.runs Metrics.runs at hruns
  simp only [RunCounts.mk.injEq, Nat.zero_add, UInt64.zero_add] at hruns
  obtain ⟨hpublished, hfailed, hsuperseded, hskipped, hrows⟩ := hruns
  exact ⟨htotal, hpublished, hfailed, hsuperseded, hskipped, hrows⟩

end Service

/-! ### A busy guest book -/

/-- The visits go out of reach, or come back. -/
def visitsUnavailable (unavailable : Bool) : Service.WorkStep :=
  .elsewhere (fun t => { t with store := t.store.setUnavailable "item_visits" unavailable }) fun _ => rfl

/-- The guests are asked for again and again: before the first job began, while a run is under way, while the visits
are out of reach, and just before the report is purged. -/
def busySteps : List Service.WorkStep :=
  [.call (.create guestsDraft "Ada"), .call (.generate "guests"), .give 0, .start 0, .give 0, .start 0, .finish 0,
    .call (.generate "guests"), .give 0, .start 0, .call (.generate "guests"), .finish 0, visitsUnavailable true,
    .call (.materialize "guests"), visitsUnavailable false, .call (.generate "guests"), .call (.purge "guests"),
    .call (.generate "guests"), .look (.status "guests"), .give 0, .start 0]

/-- **The busy book is accounted for**: six calls were answered, and their runs came to all sorts of ends. -/
theorem busyBook_accounted : newBook.tenant.runs = ⟨0, 0, 0, 0, 0⟩ ∧ newBook.queue.jobs = []
    ∧ (Service.worked busySteps newBook).IsIdle
    ∧ (Service.worked busySteps newBook).accepted = 6
    ∧ (Service.worked busySteps newBook).ended.map (·.state)
      = [.superseded, .published, .superseded, .superseded, .failed, .superseded]
    ∧ (Service.worked busySteps newBook).Accounted := by
  have hidle : (Service.worked busySteps newBook).IsIdle :=
    ⟨by decide +kernel, by decide +kernel, by decide +kernel⟩
  exact ⟨rfl, rfl, hidle, by decide +kernel, by decide +kernel, Service.accounted_of_isIdle rfl rfl busySteps hidle⟩

end Rollup
