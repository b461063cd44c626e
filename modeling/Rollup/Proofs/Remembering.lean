import Rollup.Proofs.AtRest

/-!
# What a run that publishes nothing leaves of the status

A run that fails or has nothing to publish leaves the published rows in place, and its status is meant to go on
telling how many they are and when they were published. It takes both from the slot of its report. A slot remembers
what was published on it since it was there (`Service.remembered`), and a new slot remembers nothing: it does not ask
the definition what an earlier service or an earlier slot had published.

So the status in the definition goes on telling of the rows exactly if the service itself published them on this very
slot (`Service.remembers_of_unpublished`).
-/

namespace Rollup

/-- **What a status tells of the rows**: how many were published, and when. -/
def MaterializationStatus.output (status : MaterializationStatus) : UInt64 × Option Instant :=
  (status.rows, status.lastMaterializedAt)

/-- **The rows are still told of**, by a status of a newer generation. -/
structure MaterializationStatus.Keeps (before after : MaterializationStatus) : Prop where
  /-- They are as many. -/
  rows : after.rows = before.rows
  /-- They were published at the same time. -/
  lastMaterializedAt : after.lastMaterializedAt = before.lastMaterializedAt
  /-- The generation is newer. -/
  generation : before.generation < after.generation

namespace Service

/-- What a run published on a slot. -/
def publishedOn? (n : ℕ) : Happening → Option (UInt64 × Option Instant)
  | .ended job _ status _ => if job.slot = n ∧ status.state = .published then some status.output else none
  | _ => none

/-- **What a slot remembers of a history**: what was published on it last, or else nothing. -/
def remembered (n : ℕ) (past : List Happening) : UInt64 × Option Instant :=
  past.foldl (fun known happening => (publishedOn? n happening).getD known) (0, none)

/-- What a slot remembers after one more thing happened. -/
theorem remembered_append_singleton (n : ℕ) (past : List Happening) (happening : Happening) :
    remembered n (past ++ [happening]) = (publishedOn? n happening).getD (remembered n past) := by
  unfold remembered
  rw [List.foldl_append]
  rfl

/-- **The slots remember the history.** -/
def Remembers (past : List Happening) (q : Queue) : Prop :=
  ∀ n, (q.slot n).status.output = remembered n past

namespace Remembers

open Queue (slot_modifySlot slot_assign)

variable {past : List Happening} {q : Queue} {n : ℕ}

/-- A queue without slots remembers nothing. -/
theorem nil : Remembers [] {} := fun _ => rfl

/-- Changing a slot makes nothing forgotten, if it keeps what the status tells. -/
theorem modifySlot (h : Remembers past q) (n : ℕ) {change : Slot → Slot}
    (hchange : (change (q.slot n)).status.output = (q.slot n).status.output) : Remembers past (q.modifySlot n change) := by
  intro m
  rw [slot_modifySlot]
  split
  · next heq =>
    obtain ⟨rfl, -⟩ := heq
    exact hchange.trans (h n)
  · exact h m

/-- Giving a report a slot makes nothing forgotten. -/
theorem assign (h : Remembers past q) (id : ReportId) : Remembers past (q.assign id).2 := fun m =>
  (congrArg (fun slot : Slot => slot.status.output) (slot_assign id m q)).trans (h m)

/-- **What is not published is not remembered.** -/
theorem append (h : Remembers past q) {happening : Happening} (hnothing : ∀ n, publishedOn? n happening = none) :
    Remembers (past ++ [happening]) q := by
  intro n
  rw [remembered_append_singleton, hnothing n]
  exact h n

/-- **What is published is remembered** by its slot. -/
theorem published (h : Remembers past q) {job : Job} {status : MaterializationStatus} (before after : Service)
    (hslot : job.slot < q.slots.length) (hpublished : status.state = .published) :
    Remembers (past ++ [.ended job before status after]) (q.setStatus job.slot status) := by
  intro n
  unfold Queue.setStatus
  rw [remembered_append_singleton, slot_modifySlot]
  by_cases hn : job.slot = n
  · subst hn
    rw [if_pos ⟨rfl, hslot⟩, publishedOn?, if_pos ⟨rfl, hpublished⟩]
    rfl
  · rw [if_neg fun heq => hn heq.1, publishedOn?, if_neg fun heq => hn heq.1]
    exact h n

/-- A run that is not published is not remembered, whatever it notes of the rows before. -/
theorem unpublished (h : Remembers past q) {job : Job} {status : MaterializationStatus} (before after : Service)
    (hstate : status.state ≠ .published) (houtput : status.output = (q.slot job.slot).status.output) :
    Remembers (past ++ [.ended job before status after]) (q.setStatus job.slot status) :=
  (h.modifySlot job.slot houtput).append fun _ => if_neg fun heq => hstate heq.2

end Remembers

/-- **What the status of a run that is not published tells of the rows** is what that of its slot told. -/
theorem output_of_unpublished {job : Job} {s : Service} (hstate : (execute job s).1.state ≠ .published) :
    (execute job s).1.output = (s.queue.slot job.slot).status.output := by
  have hending := ending_execute job s
  generalize execute job s = ended at hending hstate
  cases hending with
  | superseded | skipped | failed => rfl
  | published => exact absurd rfl hstate

/-- **Every step is remembered.** -/
theorem Remembers.take {past : List Happening} {s : Service} (hrecorded : Recorded past s.queue)
    (h : Remembers past s.queue) (step : Step) :
    Remembers (past ++ (step.take s).1.toList) (step.take s).2.queue := by
  cases step with
  | submit id =>
    -- scheduling changes the state and the generation of a status, not what it tells of the rows
    exact ((h.assign id).modifySlot _ rfl).append fun _ => rfl
  | run n =>
    show Remembers (past ++ (runWaiting n s).1.toList) (runWaiting n s).2.queue
    unfold runWaiting
    split
    · exact (List.append_nil past).symm ▸ h
    · next job hjob =>
      have hslot : job.slot < s.queue.slots.length :=
        hrecorded.slot_lt (hrecorded.waiting (List.mem_of_getElem? hjob))
      have hbefore : Remembers past (s.takeOut n).queue := h
      have hending := ending_execute job (s.takeOut n)
      have houtput := @output_of_unpublished job (s.takeOut n)
      generalize execute job (s.takeOut n) = ended at hending houtput ⊢
      -- a status is recorded behind all endings but the first, and only the last one tells of new rows
      cases hending with
      | superseded => exact hbefore.append fun _ => if_neg fun heq => absurd heq.2 nofun
      | skipped _ _ hran => exact hran.queue_record _ ▸ hbefore.unpublished _ _ nofun (houtput nofun)
      | failed _ _ hran => exact hran.queue_record _ ▸ hbefore.unpublished _ _ nofun (houtput nofun)
      | published _ _ _ hran => exact hran.queue_record _ ▸ hbefore.published _ _ hslot rfl
  | purge id =>
    -- the slot stays where it is; only its report has none any more
    have hraised : Remembers past ((s.queue.assign id).2.modifySlot (s.queue.assign id).1
        fun slot => { slot with latest := slot.latest + 1 }) := (h.assign id).modifySlot _ rfl
    have hretired : Remembers past (s.queue.retire id) := hraised
    exact queue_purge id s ▸ hretired.append fun _ => rfl
  | elsewhere change => exact (List.append_nil past).symm ▸ h

/-! ## What becomes of the definition -/

/-- The status that a definition has behind a run, which cannot be noted where definitions cannot be reached. -/
def noted (before : Service) (old new : MaterializationStatus) : MaterializationStatus :=
  if before.tenant.store.unavailable.contains Store.reports then old else new

/-- **What a run that is not published leaves of the definition.** -/
structure Unpublished (memory : UInt64 × Option Instant) (job : Job) (before : Service)
    (status : MaterializationStatus) (after : Service) (d : ReportDefinition) : Prop where
  /-- Its status tells of the rows what its slot remembers. -/
  output : status.output = memory
  /-- It is of the generation of its job. -/
  generation : status.generation = UInt64.ofNat job.generation
  /-- The status is noted in the definition. -/
  firstOf : Registry.firstOf job.reportId after.definitions
    = .ok (some { d with materialization := noted before d.materialization status })
  /-- The definition goes on to tell of the rows, exactly if the definitions can be reached, the slot remembers what
  the definition tells, and the generation is newer. -/
  keeps_iff : d.materialization.Keeps (noted before d.materialization status)
    ↔ before.tenant.store.unavailable.contains Store.reports = false ∧ memory = d.materialization.output
      ∧ d.materialization.generation < UInt64.ofNat job.generation

/-- The definition that is found behind a run that goes on and does not publish. -/
theorem firstOf_record {job : Job} {s u : Service} {d : ReportDefinition} (hran : Ran job s.tenant s u)
    (hfound : Registry.firstOf job.reportId s.definitions = .ok (some d)) (status : MaterializationStatus) :
    Registry.firstOf job.reportId (record job status u).2.definitions
      = .ok (some { d with materialization := noted s d.materialization status }) := by
  have hdefinitions : (record job status u).2.definitions = _ := hran.documents_record status
  rw [hdefinitions]
  unfold noted
  split
  · exact hfound
  · have hstamped := Registry.firstOf_stamped hfound status
    rw [MaterializationStatus.readsBack] at hstamped
    exact hstamped

/-- What a status that is noted keeps of the one before. -/
theorem keeps_noted_iff {memory : UInt64 × Option Instant} {before : Service} {old new : MaterializationStatus}
    (houtput : new.output = memory) : old.Keeps (noted before old new)
      ↔ before.tenant.store.unavailable.contains Store.reports = false ∧ memory = old.output
        ∧ old.generation < new.generation := by
  subst houtput
  unfold noted
  cases before.tenant.store.unavailable.contains Store.reports with
  | true => exact iff_of_false (fun h => absurd h.generation (UInt64.lt_irrefl _)) fun h => absurd h.1 nofun
  | false =>
    rw [if_neg Bool.false_ne_true]
    constructor
    · exact fun h => ⟨rfl, Prod.ext h.rows h.lastMaterializedAt, h.generation⟩
    · rintro ⟨-, houtput, hgeneration⟩
      exact ⟨congrArg Prod.fst houtput, congrArg Prod.snd houtput, hgeneration⟩

/-- **A run that fails or has nothing to publish goes on to tell of the rows exactly if its slot remembers them.**
Whatever happened to the service before, its definition tells behind the run what the slot remembers: what was last
published on it, or that nothing ever was. -/
theorem remembers_of_unpublished {tenant : Tenant} {steps : List Step} {earlier later : List Happening} {job : Job}
    {before after : Service} {status : MaterializationStatus} {d : ReportDefinition}
    (heq : (history steps { tenant }).1 = earlier ++ .ended job before status after :: later)
    (hstate : status.state = .failed ∨ status.state = .skipped)
    (hfound : Registry.firstOf job.reportId before.definitions = .ok (some d)) :
    Unpublished (remembered job.slot earlier) job before status after d := by
  obtain ⟨step, s, hs, htake⟩ := exists_step_of_history_of_kept
    (P := fun past s => Recorded past s.queue ∧ Remembers past s.queue)
    (fun step h => ⟨h.1.take step, h.2.take h.1 step⟩) ⟨.nil, .nil⟩ heq
  obtain ⟨n, -, rfl, hexecute⟩ := execute_of_take htake
  -- the run was a step taken where the history so far is remembered
  have houtput : status.output = remembered job.slot earlier := by
    have hunpublished : (execute job (s.takeOut n)).1.state ≠ .published := by
      rw [hexecute]
      rcases hstate with hstate | hstate <;> exact hstate ▸ nofun
    have hslot := output_of_unpublished hunpublished
    rw [hexecute] at hslot
    exact hslot.trans (hs.2 job.slot)
  have hended : status.generation = UInt64.ofNat job.generation ∧ Registry.firstOf job.reportId after.definitions
      = .ok (some { d with materialization := noted (s.takeOut n) d.materialization status }) := by
    have hending := ending_execute job (s.takeOut n)
    rw [hexecute] at hending
    cases hending with
    | superseded => rcases hstate with hstate | hstate <;> exact absurd hstate nofun
    | skipped _ _ hran => exact ⟨rfl, firstOf_record hran hfound _⟩
    | failed _ _ hran => exact ⟨rfl, firstOf_record hran hfound _⟩
    | published => rcases hstate with hstate | hstate <;> exact absurd hstate nofun
  exact ⟨houtput, hended.1, hended.2, hended.1 ▸ keeps_noted_iff houtput⟩

/-- A history that goes on with the run of the first job that waits. -/
theorem history_concat_run {steps : List Step} {s : Service} {job : Job}
    (h : (history steps s).2.queue.jobs[0]? = some job) : (history (steps ++ [.run 0]) s).1
      = (history steps s).1 ++ [.ended job ((history steps s).2.takeOut 0)
          (execute job ((history steps s).2.takeOut 0)).1 (execute job ((history steps s).2.takeOut 0)).2] := by
  induction steps generalizing s with
  | nil =>
    show (runWaiting 0 s).1.toList ++ [] = _
    unfold runWaiting
    rw [show s.queue.jobs[0]? = some job from h]
    rfl
  | cons step steps ih =>
    show (step.take s).1.toList ++ (history (steps ++ [.run 0]) (step.take s).2).1 = _
    have hlater : (history steps (step.take s).2).2.queue.jobs[0]? = some job := h
    rw [ih hlater]
    exact (List.append_assoc ..).symm

end Service

/-! ### Guest books that go out of reach -/

/-- The visits go out of reach. -/
def visitsLost : Service.Step :=
  .elsewhere fun t => { t with store := t.store.setUnavailable "item_visits" true }

/-- A guest book whose report is stored. -/
def storedBook : Tenant :=
  { newBook.tenant with store :=
      { collections := [("item_visits", { documents := visits }), ("reports", { documents := [guestsReport.toJson] })] } }

/-- The report is published, the visits go out of reach, and the report is asked for again. -/
def storedSteps : List Service.Step :=
  [.submit guestsReport.reportId, .run 0, visitsLost, .submit guestsReport.reportId]

/-- The second job of the guests. -/
def secondJob : Job := ⟨guestsReport.reportId, 2, 0⟩

/-- **The second run fails, and the three rows of the first one are still told of.** -/
theorem storedBook_remembers : ∃ earlier before status after d,
    (Service.history (storedSteps ++ [.run 0]) { tenant := storedBook }).1
        = earlier ++ [.ended secondJob before status after]
      ∧ status.state = .failed
      ∧ Registry.firstOf guestsReport.reportId before.definitions = .ok (some d)
      ∧ d.materialization.output = (3, some .epoch)
      ∧ Service.Unpublished (3, some .epoch) secondJob before status after d
      ∧ d.materialization.Keeps (Service.noted before d.materialization status) := by
  have hwaits : (Service.history storedSteps { tenant := storedBook }).2.queue.jobs[0]? = some secondJob := by
    decide +kernel
  have hstate : (Service.execute secondJob
      ((Service.history storedSteps { tenant := storedBook }).2.takeOut 0)).1.state = .failed := by decide +kernel
  have hknown : (Registry.firstOf guestsReport.reportId
      ((Service.history storedSteps { tenant := storedBook }).2.takeOut 0).definitions).toOption
        = some (some { guestsReport with materialization := .published 1 3 .epoch }) := by decide +kernel
  have hremembered : Service.remembered 0 (Service.history storedSteps { tenant := storedBook }).1
      = (3, some .epoch) := by decide +kernel
  have hreach : ((Service.history storedSteps { tenant := storedBook }).2.takeOut 0).tenant.store.unavailable.contains
      Store.reports = false := by decide +kernel
  have heq := Service.history_concat_run hwaits
  -- what the steps lead to is evaluated above, and is nothing to unfold from here on
  generalize Service.history storedSteps { tenant := storedBook } = reached at heq hstate hknown hremembered hreach
  have hleft := Service.remembers_of_unpublished heq (.inl hstate) (eq_ok_of_toOption hknown)
  rw [show secondJob.slot = 0 from rfl, hremembered] at hleft
  exact ⟨_, _, _, _, _, heq, hstate, eq_ok_of_toOption hknown, rfl, hleft, hleft.keeps_iff.2 ⟨hreach, rfl, by decide⟩⟩

/-- The guest book that another service left. It published three rows in its third generation, and the visits are out
of reach by now. -/
def leftBook : Tenant :=
  { newBook.tenant with store :=
      { collections := [("report_guests", { documents := visits }), ("reports", { documents :=
          [({ guestsReport with materialization := .published 3 3 .epoch } : ReportDefinition).toJson] })]
        unavailable := ["item_visits"] } }

/-- The first job of the guests. -/
def firstJob : Job := ⟨guestsReport.reportId, 1, 0⟩

/-- What the first job fails with. -/
def visitsUnreachable : String :=
  "Store error during scan source records: Collection item_visits is unavailable"

/-- **A run that fails can forget what is published**: behind the first run of a new service the three rows are still
there, but the definition tells of none, that were never published, and of the first generation. -/
theorem leftBook_forgets : ∃ before status after d d',
    (Service.history [.submit guestsReport.reportId, .run 0] { tenant := leftBook }).1
        = [.submitted firstJob, .ended firstJob before status after]
      ∧ status.state = .failed
      ∧ Registry.firstOf guestsReport.reportId before.definitions = .ok (some d)
      ∧ d.materialization = .published 3 3 .epoch
      ∧ Registry.firstOf guestsReport.reportId after.definitions = .ok (some d')
      ∧ d'.materialization = .fail 1 visitsUnreachable {}
      ∧ (after.tenant.store.documents guestsReport.reportId.collection).length = 3
      ∧ ¬ d.materialization.Keeps d'.materialization := by
  have hwaits : (Service.history [.submit guestsReport.reportId] { tenant := leftBook }).2.queue.jobs[0]?
      = some firstJob := by decide +kernel
  have hpast : (Service.history [.submit guestsReport.reportId] { tenant := leftBook }).1 = [.submitted firstJob] := rfl
  have hstate : (Service.execute firstJob
      ((Service.history [.submit guestsReport.reportId] { tenant := leftBook }).2.takeOut 0)).1.state = .failed := by
    decide +kernel
  have hbefore : (Registry.firstOf guestsReport.reportId
      ((Service.history [.submit guestsReport.reportId] { tenant := leftBook }).2.takeOut 0).definitions).toOption
        = some (some { guestsReport with materialization := .published 3 3 .epoch }) := by decide +kernel
  have hafter : (Registry.firstOf guestsReport.reportId (Service.execute firstJob
      ((Service.history [.submit guestsReport.reportId] { tenant := leftBook }).2.takeOut 0)).2.definitions).toOption
        = some (some { guestsReport with materialization := .fail 1 visitsUnreachable {} }) := by decide +kernel
  have hrows : ((Service.execute firstJob
      ((Service.history [.submit guestsReport.reportId] { tenant := leftBook }).2.takeOut 0)).2.tenant.store.documents
        guestsReport.reportId.collection).length = 3 := by decide +kernel
  have heq := Service.history_concat_run hwaits
  rw [hpast] at heq
  generalize Service.history [.submit guestsReport.reportId] { tenant := leftBook } = reached
    at heq hstate hbefore hafter hrows
  refine ⟨_, _, _, _, _, heq, hstate, eq_ok_of_toOption hbefore, rfl, eq_ok_of_toOption hafter, rfl, hrows,
    fun hkeeps => ?_⟩
  exact absurd hkeeps.rows (by decide)

end Rollup
