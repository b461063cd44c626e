import Mathlib.Data.List.Nodup
import Mathlib.Data.List.Perm.Basic
import Rollup.Proofs.Running
import Rollup.Service.Reports

/-!
# The last job that was submitted wins

Jobs of a report are submitted one after the other, but workers may pick them up in any order, and between two of
them the report may be purged and created again under its old id. What happens to a service is told by its
**history**: which jobs were submitted, how each run ended and what it found and left, which reports were purged.

A history says of every job whether it may still publish: it may not once a newer job was submitted on its slot or
its report was purged. A run that ends published has therefore the latest generation of its slot, a slot is never
given to a report again after it was purged, and the generations that start from one on a new slot meet no job of
the old one (`Service.lastSubmittedWins`).

The proof goes along the steps. Of the queue it needs to know only the latest generation of every slot and which
slot each report has, and both are told by what was submitted and purged (`Service.Recorded`).
-/

namespace Rollup

/-! ## What submitting and purging do to the queue -/

namespace Queue

/-- The slot that a report has, if it has one. -/
def slotOf? (id : ReportId) (q : Queue) : Option ℕ := Keyed.get? id.text q.assigned

/-- A slot that there is not yet has no generation. -/
theorem latest_slot_of_le {n : ℕ} {q : Queue} (h : q.slots.length ≤ n) : (q.slot n).latest = 0 := by
  unfold slot
  rw [List.getElem?_eq_none h]
  rfl

/-- **A report counts one generation more** on a slot: its own one, or a new one if it has none. -/
structure Raised (id : ReportId) (n : ℕ) (q q' : Queue) : Prop where
  /-- The slot is that of the report, or it is new. -/
  slot : q.slotOf? id = some n ∨ q.slotOf? id = none ∧ n = q.slots.length
  /-- The slot exists afterwards. -/
  exists_slot : n < q'.slots.length
  /-- All slots remain. -/
  le_length : q.slots.length ≤ q'.slots.length
  /-- One generation more. -/
  latest_self : (q'.slot n).latest = (q.slot n).latest + 1
  /-- The other slots stay. -/
  latest_of_ne : ∀ m, m ≠ n → (q'.slot m).latest = (q.slot m).latest
  /-- The other reports keep their slots. -/
  slotOf?_of_ne : ∀ other, other ≠ id → q'.slotOf? other = q.slotOf? other

/-- What becomes of a slot where one was changed. -/
theorem slot_modifySlot (n m : ℕ) (change : Slot → Slot) (q : Queue) : (q.modifySlot n change).slot m
    = if n = m ∧ m < q.slots.length then change (q.slot m) else q.slot m := by
  unfold slot modifySlot
  simp only [List.getElem?_modify]
  by_cases hm : m < q.slots.length
  · rw [List.getElem?_eq_getElem hm]
    by_cases h : n = m <;> simp [h, hm]
  · rw [List.getElem?_eq_none (not_lt.1 hm), if_neg fun h => hm h.2]
    rfl

/-- The latest generation of a slot that was changed. -/
theorem latest_slot_modifySlot (n m : ℕ) (change : Slot → Slot) (q : Queue) :
    ((q.modifySlot n change).slot m).latest
      = if n = m ∧ m < q.slots.length then (change (q.slot m)).latest else (q.slot m).latest := by
  rw [slot_modifySlot]
  split <;> rfl

/-- Giving a report a slot leaves all slots as they are; one that there is not yet is empty. -/
theorem slot_assign (id : ReportId) (m : ℕ) (q : Queue) : (q.assign id).2.slot m = q.slot m := by
  unfold assign
  split
  · rfl
  · unfold slot
    rw [List.getElem?_append]
    split
    · rfl
    · next h =>
      rw [List.getElem?_eq_none (not_lt.1 h)]
      cases m - q.slots.length <;> rfl

/-- Giving a report a slot counts nothing. -/
theorem latest_slot_assign (id : ReportId) (m : ℕ) (q : Queue) :
    ((q.assign id).2.slot m).latest = (q.slot m).latest := congrArg Slot.latest (slot_assign id m q)

/-- Where a report gets its slot. -/
theorem slotOf?_assign (id other : ReportId) (q : Queue) : (q.assign id).2.slotOf? other
    = if other = id then some (q.assign id).1 else q.slotOf? other := by
  unfold assign slotOf?
  split
  · next n hn =>
    split
    · next h => exact h ▸ hn
    · rfl
  · split
    · next h => exact h ▸ Keyed.get?_insert_self ..
    · next h => exact Keyed.get?_insert_of_ne (fun heq => h (ReportId.eq_of_text heq)) ..

/-- A slot that is given to a report exists, and no slot is lost. -/
theorem length_slots_assign (id : ReportId) {q : Queue} (h : ∀ {n}, q.slotOf? id = some n → n < q.slots.length) :
    (q.assign id).1 < (q.assign id).2.slots.length ∧ q.slots.length ≤ (q.assign id).2.slots.length := by
  unfold assign
  split
  · next n hn => exact ⟨h hn, le_rfl⟩
  · simp

/-- Giving a report a slot lets the same jobs wait. -/
theorem jobs_assign (id : ReportId) (q : Queue) : (q.assign id).2.jobs = q.jobs := by
  unfold assign
  split <;> rfl

/-- A report that is given a slot and counts one generation more. -/
theorem raised_assign_modifySlot (id : ReportId) {q : Queue}
    (h : ∀ {n}, q.slotOf? id = some n → n < q.slots.length) (change : Slot → Slot)
    (hchange : ∀ s, (change s).latest = s.latest + 1) :
    Raised id (q.assign id).1 q ((q.assign id).2.modifySlot (q.assign id).1 change) where
  slot := by
    unfold assign slotOf?
    split
    · next hn => exact .inl hn
    · next hn => exact .inr ⟨hn, rfl⟩
  exists_slot := (length_slots_assign id h).1.trans_eq (List.length_modify ..).symm
  le_length := (length_slots_assign id h).2.trans_eq (List.length_modify ..).symm
  latest_self := by
    rw [latest_slot_modifySlot, if_pos ⟨rfl, (length_slots_assign id h).1⟩, hchange, latest_slot_assign]
  latest_of_ne m hm := by
    rw [latest_slot_modifySlot, if_neg fun h => hm h.1.symm, latest_slot_assign]
  slotOf?_of_ne other hother := (slotOf?_assign id other q).trans (if_neg hother)

/-- **What submitting a job does.** -/
structure Submitted (job : Job) (q q' : Queue) : Prop where
  /-- The report counts one generation more. -/
  raised : Raised job.reportId job.slot q q'
  /-- The job has the new generation. -/
  generation : job.generation = (q.slot job.slot).latest + 1
  /-- The slot of the report is that of the job. -/
  slotOf?_self : q'.slotOf? job.reportId = some job.slot
  /-- The job waits behind the others. -/
  jobs : q'.jobs = q.jobs ++ [job]

/-- Submitting a job. -/
theorem submitted_submit (id : ReportId) {q : Queue} (h : ∀ {n}, q.slotOf? id = some n → n < q.slots.length) :
    (q.submit id).1.reportId = id ∧ Submitted (q.submit id).1 q (q.submit id).2 := by
  have hraised := raised_assign_modifySlot id h scheduleSlot fun _ => rfl
  exact ⟨rfl, { hraised with }, congrArg (· + 1) (latest_slot_assign id _ q),
    (slotOf?_assign id id q).trans (if_pos rfl), congrArg (· ++ _) (jobs_assign id q)⟩

/-- **What retiring a report does.** -/
structure Retired (id : ReportId) (n : ℕ) (q q' : Queue) : Prop where
  /-- The report counts one generation more. -/
  raised : Raised id n q q'
  /-- The report has no slot. -/
  slotOf?_self : q'.slotOf? id = none
  /-- The same jobs wait. -/
  jobs : q'.jobs = q.jobs

/-- Retiring a report. -/
theorem exists_retired_retire (id : ReportId) {q : Queue}
    (h : ∀ {n}, q.slotOf? id = some n → n < q.slots.length) : ∃ n, Retired id n q (q.retire id) := by
  have hraised := raised_assign_modifySlot id h (fun s => { s with latest := s.latest + 1 }) fun _ => rfl
  refine ⟨(q.assign id).1, { hraised with slotOf?_of_ne := ?_ }, Keyed.get?_erase_self ..,
    jobs_assign id q⟩
  intro other hother
  exact (Keyed.get?_erase_of_ne (fun heq => hother (ReportId.eq_of_text heq)) _).trans
    (hraised.slotOf?_of_ne other hother)

/-- **What taking a job out and running it does**, as far as jobs are counted: nothing but that it no longer
waits. -/
structure TakenOut (job : Job) (q q' : Queue) : Prop where
  /-- The slots count the same. -/
  latest : ∀ m, (q'.slot m).latest = (q.slot m).latest
  /-- There are as many. -/
  length : q'.slots.length = q.slots.length
  /-- The reports have the same. -/
  slotOf? : ∀ id, q'.slotOf? id = q.slotOf? id
  /-- One job less waits. -/
  jobs : (job :: q'.jobs).Perm q.jobs

end Queue

/-! ## Histories -/

/-- **Something that happens to a service.** -/
inductive Happening where
  /-- A job was submitted. -/
  | submitted (job : Job)
  /-- A run ended; it found the service in one state and left it in another. -/
  | ended (job : Job) (before : Service) (status : MaterializationStatus) (after : Service)
  /-- A report was purged. -/
  | purged (id : ReportId)

/-- Whether a job was submitted on a slot. -/
def Happening.isSubmittedOn (n : ℕ) : Happening → Bool
  | .submitted job => job.slot == n
  | _ => false

/-- **One thing happened before another.** -/
def Happening.Before (x y : Happening) (h : List Happening) : Prop :=
  ∃ earlier later, h = earlier ++ y :: later ∧ x ∈ earlier

namespace Service

/-- **A step of a service.** -/
inductive Step where
  /-- A job is submitted. -/
  | submit (id : ReportId)
  /-- One of the jobs that wait is run. -/
  | run (n : ℕ)
  /-- A report is purged. -/
  | purge (id : ReportId)
  /-- Something else happens to the tenant: documents are written, clocks go on. -/
  | elsewhere (change : Tenant → Tenant)

/-- The service without one of the jobs that wait. -/
def takeOut (n : ℕ) (s : Service) : Service :=
  { s with queue := { s.queue with jobs := s.queue.jobs.eraseIdx n } }

/-- Runs one of the jobs that wait, if there is one in this place. -/
def runWaiting (n : ℕ) (s : Service) : Option Happening × Service :=
  match s.queue.jobs[n]? with
  | none => (none, s)
  | some job =>
    let (status, after) := execute job (s.takeOut n)
    (some (.ended job (s.takeOut n) status after), after)

/-- **Takes a step**, and tells what happened. -/
def Step.take : Step → Service → Option Happening × Service
  | .submit id, s =>
    let (job, s) := changeQueue (Queue.submit id) s
    (some (.submitted job), s)
  | .run n, s => runWaiting n s
  | .purge id, s => (some (.purged id), ((Service.purge id.text).run s).2)
  | .elsewhere change, s => (none, { s with tenant := change s.tenant })

/-- **The history of a service** that takes steps, and what becomes of it. -/
def history : List Step → Service → List Happening × Service
  | [], s => ([], s)
  | step :: steps, s =>
    let (happening, s) := step.take s
    let (happenings, s) := history steps s
    (happening.toList ++ happenings, s)

/-- **The last job that was submitted wins.** -/
structure LastSubmittedWins (h : List Happening) : Prop where
  /-- The jobs of a slot are counted from one. -/
  generation_eq : ∀ {earlier later job}, h = earlier ++ .submitted job :: later →
    job.generation = earlier.countP (·.isSubmittedOn job.slot) + 1
  /-- Two jobs have the same slot exactly if they are of one report that was not purged between them. -/
  slot_eq_iff : ∀ {earlier between later job job'},
    h = earlier ++ .submitted job :: between ++ .submitted job' :: later →
      (job.slot = job'.slot ↔ job.reportId = job'.reportId ∧ .purged job.reportId ∉ between)
  /-- On a slot generations increase. -/
  generation_lt : ∀ {job job'}, Happening.Before (.submitted job) (.submitted job') h →
    job.slot = job'.slot → job.generation < job'.generation
  /-- A job that ran was submitted. -/
  submitted : ∀ {earlier later job before status after},
    h = earlier ++ .ended job before status after :: later → .submitted job ∈ earlier
  /-- A run is superseded exactly if until then a newer job was submitted on its slot or its report was purged
  behind it. -/
  superseded_iff : ∀ {earlier later job before status after},
    h = earlier ++ .ended job before status after :: later →
      (status.state = .superseded ↔ (∃ newer, .submitted newer ∈ earlier ∧ newer.slot = job.slot
        ∧ job.generation < newer.generation) ∨ Happening.Before (.submitted job) (.purged job.reportId) earlier)
  /-- It changes neither documents, nor the statuses of the slots, nor the jobs that wait. -/
  unchanged : ∀ {job before status after}, .ended job before status after ∈ h →
    status.state = .superseded →
      after.queue = before.queue ∧ after.tenant.store = before.tenant.store
  /-- The generations that publish on a slot increase. -/
  publishing : ∀ {job job' before before' status status' after after'},
    Happening.Before (.ended job before status after) (.ended job' before' status' after') h →
      job.slot = job'.slot → status.state = .published → status'.state = .published →
        job.generation < job'.generation

end Service

namespace Happening

variable {x y e : Happening} {past : List Happening}

/-- Where something is, after one more thing. -/
theorem append_singleton_eq_append_cons {earlier later : List Happening}
    (h : past ++ [e] = earlier ++ x :: later) : e = x ∧ past = earlier ∧ later = []
      ∨ ∃ between, later = between ++ [e] ∧ past = earlier ++ x :: between := by
  rcases List.eq_nil_or_concat' later with rfl | ⟨between, last, rfl⟩
  · obtain ⟨hpast, he⟩ := List.append_inj' h rfl
    exact .inl ⟨List.singleton_inj.1 he, hpast, rfl⟩
  · rw [← List.cons_append, ← List.append_assoc] at h
    obtain ⟨hpast, he⟩ := List.append_inj' h rfl
    exact .inr ⟨between, by rw [List.singleton_inj.1 he], hpast⟩

/-- What was before something, after one more thing. -/
theorem before_append_singleton :
    Before x y (past ++ [e]) ↔ Before x y past ∨ x ∈ past ∧ e = y := by
  constructor
  · rintro ⟨earlier, later, heq, hx⟩
    rcases append_singleton_eq_append_cons heq with ⟨he, rfl, -⟩ | ⟨between, -, rfl⟩
    · exact .inr ⟨hx, he⟩
    · exact .inl ⟨earlier, between, rfl, hx⟩
  · rintro (⟨earlier, later, rfl, hx⟩ | ⟨hx, rfl⟩)
    · exact ⟨earlier, later ++ [e], by simp, hx⟩
    · exact ⟨past, [], rfl, hx⟩

/-- What was before something else happened. -/
theorem Before.mem (h : Before x y past) : x ∈ past := by
  obtain ⟨earlier, later, rfl, hx⟩ := h
  exact List.mem_append_left _ hx

end Happening

/-! ## What the queue knows of the history -/

namespace Service

open Happening (Before before_append_singleton append_singleton_eq_append_cons)

/-- **The queue knows which report has which slot.** -/
structure SlotsRecorded (past : List Happening) (q : Queue) : Prop where
  /-- The slot of a report exists. -/
  exists_slot : ∀ {id n}, q.slotOf? id = some n → n < q.slots.length
  /-- Reports do not share slots. -/
  slotOf?_inj : ∀ {id id' n}, q.slotOf? id = some n → q.slotOf? id' = some n → id = id'
  /-- The slot of a report counts the jobs that were submitted on it. -/
  latest_eq : ∀ {id n}, q.slotOf? id = some n →
    (q.slot n).latest = past.countP (·.isSubmittedOn n)
  /-- The slot of a job exists. -/
  slot_lt : ∀ {job}, .submitted job ∈ past → job.slot < q.slots.length
  /-- No other report has it. -/
  reportId_eq : ∀ {job id}, .submitted job ∈ past → q.slotOf? id = some job.slot → job.reportId = id
  /-- The report has it as long as it is not purged. -/
  slotOf?_eq : ∀ {earlier later job}, past = earlier ++ .submitted job :: later →
    .purged job.reportId ∉ later → q.slotOf? job.reportId = some job.slot
  /-- Once it was purged no report has it. -/
  slotOf?_ne : ∀ {job}, Before (.submitted job) (.purged job.reportId) past → ∀ id,
    q.slotOf? id ≠ some job.slot

/-- **The queue knows which jobs are behind.** -/
structure GenerationsRecorded (past : List Happening) (q : Queue) : Prop where
  /-- No job is ahead of its slot. -/
  generation_le : ∀ {job}, .submitted job ∈ past → job.generation ≤ (q.slot job.slot).latest
  /-- A job is behind once its report was purged. -/
  generation_lt : ∀ {job}, Before (.submitted job) (.purged job.reportId) past →
    job.generation < (q.slot job.slot).latest
  /-- Else it is behind only if a newer one was submitted. -/
  exists_newer : ∀ {job}, .submitted job ∈ past → job.generation < (q.slot job.slot).latest →
    (∃ newer, .submitted newer ∈ past ∧ newer.slot = job.slot ∧ job.generation < newer.generation)
      ∨ Before (.submitted job) (.purged job.reportId) past
  /-- A job is known by its slot and its generation. -/
  job_inj : ∀ {job job'}, .submitted job ∈ past → .submitted job' ∈ past → job.slot = job'.slot →
    job.generation = job'.generation → job = job'

/-- **The queue knows which jobs wait.** -/
structure JobsRecorded (past : List Happening) (q : Queue) : Prop where
  /-- The jobs that wait were submitted. -/
  waiting : ∀ {job}, job ∈ q.jobs → .submitted job ∈ past
  /-- No job waits twice. -/
  nodup : q.jobs.Nodup
  /-- A job that ran was submitted and no longer waits. -/
  ended : ∀ {job before status after}, .ended job before status after ∈ past →
    .submitted job ∈ past ∧ job ∉ q.jobs

/-- **The queue knows the history.** -/
structure Recorded (past : List Happening) (q : Queue) : Prop extends SlotsRecorded past q,
  GenerationsRecorded past q, JobsRecorded past q

namespace Recorded

variable {past : List Happening} {q q' : Queue} {id : ReportId} {n : ℕ} {job : Job}

/-- Nothing happened to a queue without slots. -/
theorem nil : Recorded [] {} where
  exists_slot := nofun
  slotOf?_inj := nofun
  latest_eq := nofun
  slot_lt := nofun
  reportId_eq := nofun
  slotOf?_eq h := absurd h (by simp)
  slotOf?_ne h := absurd h.mem nofun
  generation_le := nofun
  generation_lt h := absurd h.mem nofun
  exists_newer := nofun
  job_inj := nofun
  waiting := nofun
  nodup := .nil
  ended := nofun

/-! ### One generation more -/

section Raised

variable (h : Recorded past q) (hraised : Queue.Raised id n q q')
include hraised

omit h in
/-- No slot counts back. -/
theorem latest_le (m : ℕ) : (q.slot m).latest ≤ (q'.slot m).latest := by
  by_cases hm : m = n
  · rw [hm, hraised.latest_self]
    exact Nat.le_succ _
  · exact (hraised.latest_of_ne m hm).ge

include h

/-- The slot that is raised is that of no other report. -/
theorem ne_of_slotOf? {other : ReportId} {m : ℕ} (hother : other ≠ id) (hm : q.slotOf? other = some m) :
    m ≠ n := by
  rintro rfl
  rcases hraised.slot with hn | ⟨-, rfl⟩
  · exact hother (h.slotOf?_inj hm hn)
  · exact absurd (h.exists_slot hm) (lt_irrefl _)

/-- The earlier jobs on the slot that is raised are those of the report. -/
theorem slotOf?_of_slot_eq (hjob : .submitted job ∈ past) (hn : job.slot = n) :
    q.slotOf? id = some n ∧ job.reportId = id := by
  rcases hraised.slot with hid | ⟨-, rfl⟩
  · exact ⟨hid, h.reportId_eq hjob (hn ▸ hid)⟩
  · exact absurd (hn ▸ h.slot_lt hjob) (lt_irrefl _)

/-- The slot that is raised counted the jobs that were submitted on it. -/
theorem latest_eq_of_raised : (q.slot n).latest = past.countP (·.isSubmittedOn n) := by
  rcases hraised.slot with hid | ⟨-, rfl⟩
  · exact h.latest_eq hid
  · rw [Queue.latest_slot_of_le le_rfl, eq_comm, List.countP_eq_zero]
    intro happening hmem
    cases happening with
    | submitted job => simpa [Happening.isSubmittedOn] using (h.slot_lt hmem).ne
    | ended => exact Bool.false_ne_true
    | purged => exact Bool.false_ne_true

variable (hself : ∀ m, q'.slotOf? id = some m → m = n)
include hself

/-- Which slots reports have afterwards: the raised one, if any, and the other reports theirs. -/
theorem slotOf?_cases {other : ReportId} {m : ℕ} (hm : q'.slotOf? other = some m) :
    other = id ∧ m = n ∨ other ≠ id ∧ q.slotOf? other = some m ∧ m ≠ n := by
  by_cases hid : other = id
  · subst hid
    exact .inl ⟨rfl, hself m hm⟩
  · rw [hraised.slotOf?_of_ne other hid] at hm
    exact .inr ⟨hid, hm, h.ne_of_slotOf? hraised hid hm⟩

/-- The slot of a report exists afterwards. -/
theorem exists_slot_of_raised {other : ReportId} {m : ℕ} (hm : q'.slotOf? other = some m) :
    m < q'.slots.length := by
  rcases h.slotOf?_cases hraised hself hm with ⟨-, rfl⟩ | ⟨-, hm, -⟩
  · exact hraised.exists_slot
  · exact (h.exists_slot hm).trans_le hraised.le_length

/-- Reports do not share slots afterwards. -/
theorem slotOf?_inj_of_raised {other other' : ReportId} {m : ℕ} (hm : q'.slotOf? other = some m)
    (hm' : q'.slotOf? other' = some m) : other = other' := by
  rcases h.slotOf?_cases hraised hself hm with ⟨rfl, hn⟩ | ⟨-, hm, hn⟩ <;>
    rcases h.slotOf?_cases hraised hself hm' with ⟨rfl, hn'⟩ | ⟨-, hm', hn'⟩
  · rfl
  · exact absurd hn hn'
  · exact absurd hn' hn
  · exact h.slotOf?_inj hm hm'

/-- No other report has the slot of an earlier job afterwards. -/
theorem reportId_eq_of_raised (hjob : .submitted job ∈ past) {other : ReportId}
    (hother : q'.slotOf? other = some job.slot) : job.reportId = other := by
  rcases h.slotOf?_cases hraised hself hother with ⟨rfl, hn⟩ | ⟨-, hother, -⟩
  · exact (h.slotOf?_of_slot_eq hraised hjob hn).2
  · exact h.reportId_eq hjob hother

/-- No slot goes back to a report that was purged. -/
theorem slotOf?_ne_of_raised (hpurged : Before (.submitted job) (.purged job.reportId) past)
    (other : ReportId) : q'.slotOf? other ≠ some job.slot := by
  intro hother
  rcases h.slotOf?_cases hraised hself hother with ⟨rfl, hn⟩ | ⟨-, hother, -⟩
  · exact h.slotOf?_ne hpurged other (hn ▸ (h.slotOf?_of_slot_eq hraised hpurged.mem hn).1)
  · exact h.slotOf?_ne hpurged other hother

end Raised

/-! ### Submitting a job -/

section Submitted

variable (h : Recorded past q) (hsubmitted : Queue.Submitted job q q')
include h hsubmitted

omit h in
/-- The report gets the slot of the job. -/
theorem slot_eq_of_submitted (m : ℕ) (hm : q'.slotOf? job.reportId = some m) : m = job.slot :=
  Option.some.inj (hm.symm.trans hsubmitted.slotOf?_self)

/-- The job is newer than all earlier jobs on its slot. -/
theorem generation_lt_of_submitted {earlier : Job} (hearlier : .submitted earlier ∈ past)
    (hslot : earlier.slot = job.slot) : earlier.generation < job.generation := by
  have hle := h.generation_le hearlier
  rw [hslot] at hle
  exact (Nat.lt_succ_of_le hle).trans_eq hsubmitted.generation.symm

/-- The job was not submitted before. -/
theorem not_mem_of_submitted : .submitted job ∉ past :=
  fun hmem => lt_irrefl _ (h.generation_lt_of_submitted hsubmitted hmem rfl)

omit h hsubmitted in
/-- Which jobs were submitted afterwards. -/
theorem mem_append_submitted {other : Job} : Happening.submitted other ∈ past ++ [.submitted job]
    ↔ .submitted other ∈ past ∨ other = job := by simp

omit h hsubmitted in
/-- Which jobs lie before a purge afterwards. -/
theorem before_append_submitted {other : Job} {id : ReportId} :
    Before (.submitted other) (.purged id) (past ++ [.submitted job])
      ↔ Before (.submitted other) (.purged id) past :=
  before_append_singleton.trans (or_iff_left fun h => absurd h.2 nofun)

/-- The slots are known after submitting a job. -/
theorem slotsRecorded_submitted : SlotsRecorded (past ++ [.submitted job]) q' where
  exists_slot := h.exists_slot_of_raised hsubmitted.raised (slot_eq_of_submitted hsubmitted)
  slotOf?_inj := h.slotOf?_inj_of_raised hsubmitted.raised (slot_eq_of_submitted hsubmitted)
  latest_eq {id m} hm := by
    rw [List.countP_append, List.countP_singleton]
    rcases h.slotOf?_cases hsubmitted.raised (slot_eq_of_submitted hsubmitted) hm with
      ⟨-, rfl⟩ | ⟨-, hm, hn⟩
    · have hon : (Happening.submitted job).isSubmittedOn job.slot = true := beq_self_eq_true _
      rw [hsubmitted.raised.latest_self, h.latest_eq_of_raised hsubmitted.raised, if_pos hon]
    · have hoff : ¬ (Happening.submitted job).isSubmittedOn m = true := by
        simpa [Happening.isSubmittedOn] using Ne.symm hn
      rw [hsubmitted.raised.latest_of_ne m hn, h.latest_eq hm, if_neg hoff]
      rfl
  slot_lt hother := by
    rcases mem_append_submitted.1 hother with hother | rfl
    · exact (h.slot_lt hother).trans_le hsubmitted.raised.le_length
    · exact hsubmitted.raised.exists_slot
  reportId_eq {other id} hother hid := by
    rcases mem_append_submitted.1 hother with hother | rfl
    · exact h.reportId_eq_of_raised hsubmitted.raised (slot_eq_of_submitted hsubmitted) hother hid
    · exact h.slotOf?_inj_of_raised hsubmitted.raised (slot_eq_of_submitted hsubmitted)
        hsubmitted.slotOf?_self hid
  slotOf?_eq {earlier later other} heq hpurged := by
    rcases append_singleton_eq_append_cons heq with ⟨he, -, -⟩ | ⟨between, rfl, hpast⟩
    · rw [← Happening.submitted.inj he]
      exact hsubmitted.slotOf?_self
    · have hold := h.slotOf?_eq hpast fun hbetween => hpurged (List.mem_append_left _ hbetween)
      by_cases hid : other.reportId = job.reportId
      · rw [hid] at hold ⊢
        rcases hsubmitted.raised.slot with hn | ⟨hn, -⟩
        · exact hsubmitted.slotOf?_self.trans (hn.symm.trans hold)
        · exact absurd (hn.symm.trans hold) nofun
      · exact (hsubmitted.raised.slotOf?_of_ne _ hid).trans hold
  slotOf?_ne hother := h.slotOf?_ne_of_raised hsubmitted.raised (slot_eq_of_submitted hsubmitted)
    (before_append_submitted.1 hother)

/-- Which jobs are behind is known after submitting a job. -/
theorem generationsRecorded_submitted : GenerationsRecorded (past ++ [.submitted job]) q' where
  generation_le hother := by
    rcases mem_append_submitted.1 hother with hother | rfl
    · exact (h.generation_le hother).trans (latest_le hsubmitted.raised _)
    · exact (hsubmitted.generation.trans hsubmitted.raised.latest_self.symm).le
  generation_lt hother := (h.generation_lt (before_append_submitted.1 hother)).trans_le
    (latest_le hsubmitted.raised _)
  exists_newer {other} hother hlt := by
    rcases mem_append_submitted.1 hother with hother | rfl
    · by_cases hn : other.slot = job.slot
      · exact .inl ⟨job, mem_append_submitted.2 (.inr rfl), hn.symm,
          h.generation_lt_of_submitted hsubmitted hother hn⟩
      · rw [hsubmitted.raised.latest_of_ne _ hn] at hlt
        refine (h.exists_newer hother hlt).imp ?_ before_append_submitted.2
        rintro ⟨newer, hnewer, hslot⟩
        exact ⟨newer, mem_append_submitted.2 (.inl hnewer), hslot⟩
    · exact absurd (hsubmitted.generation.trans hsubmitted.raised.latest_self.symm) hlt.ne
  job_inj {other other'} hother hother' hslot hgeneration := by
    rcases mem_append_submitted.1 hother with hold | rfl <;>
      rcases mem_append_submitted.1 hother' with hold' | rfl
    · exact h.job_inj hold hold' hslot hgeneration
    · exact absurd hgeneration (h.generation_lt_of_submitted hsubmitted hold hslot).ne
    · exact absurd hgeneration (h.generation_lt_of_submitted hsubmitted hold' hslot.symm).ne'
    · rfl

/-- The jobs that wait are known after submitting a job. -/
theorem jobsRecorded_submitted : JobsRecorded (past ++ [.submitted job]) q' where
  waiting hother := by
    rw [hsubmitted.jobs, List.mem_append, List.mem_singleton] at hother
    exact mem_append_submitted.2 (hother.imp_left h.waiting)
  nodup := by
    rw [hsubmitted.jobs]
    refine List.nodup_append.2 ⟨h.nodup, List.nodup_singleton _, ?_⟩
    rintro other hother job' hjob rfl
    rw [List.mem_singleton.1 hjob] at hother
    exact h.not_mem_of_submitted hsubmitted (h.waiting hother)
  ended hother := by
    have hpast := h.ended ((List.mem_append.1 hother).resolve_right (by simp))
    refine ⟨mem_append_submitted.2 (.inl hpast.1), fun hwaits => ?_⟩
    rw [hsubmitted.jobs, List.mem_append, List.mem_singleton] at hwaits
    rcases hwaits with hwaits | rfl
    · exact hpast.2 hwaits
    · exact h.not_mem_of_submitted hsubmitted hpast.1

/-- **Submitting a job** is recorded. -/
theorem submitted : Recorded (past ++ [.submitted job]) q' :=
  ⟨h.slotsRecorded_submitted hsubmitted, h.generationsRecorded_submitted hsubmitted,
    h.jobsRecorded_submitted hsubmitted⟩

end Submitted

/-! ### Purging a report -/

section Retired

variable (h : Recorded past q) (hretired : Queue.Retired id n q q')
include h hretired

omit h in
/-- The report gets no slot. -/
theorem slot_eq_of_retired (m : ℕ) (hm : q'.slotOf? id = some m) : m = n :=
  absurd (hm.symm.trans hretired.slotOf?_self) nofun

omit h hretired in
/-- Which jobs were submitted afterwards. -/
theorem mem_append_purged : Happening.submitted job ∈ past ++ [.purged id] ↔ .submitted job ∈ past := by
  simp

/-- The slots are known after purging a report. -/
theorem slotsRecorded_purged : SlotsRecorded (past ++ [.purged id]) q' where
  exists_slot := h.exists_slot_of_raised hretired.raised (slot_eq_of_retired hretired)
  slotOf?_inj := h.slotOf?_inj_of_raised hretired.raised (slot_eq_of_retired hretired)
  latest_eq {other m} hm := by
    rcases h.slotOf?_cases hretired.raised (slot_eq_of_retired hretired) hm with
      ⟨rfl, -⟩ | ⟨-, hother, hn⟩
    · exact absurd (hm.symm.trans hretired.slotOf?_self) nofun
    · rw [hretired.raised.latest_of_ne m hn, h.latest_eq hother, List.countP_append]
      rfl
  slot_lt hjob := (h.slot_lt (mem_append_purged.1 hjob)).trans_le hretired.raised.le_length
  reportId_eq hjob := h.reportId_eq_of_raised hretired.raised (slot_eq_of_retired hretired)
    (mem_append_purged.1 hjob)
  slotOf?_eq {earlier later job} heq hpurged := by
    rcases append_singleton_eq_append_cons heq with ⟨he, -, -⟩ | ⟨between, rfl, hpast⟩
    · exact absurd he nofun
    · have hid : job.reportId ≠ id := fun hid => hpurged (by simp [hid])
      exact (hretired.raised.slotOf?_of_ne _ hid).trans
        (h.slotOf?_eq hpast fun hbetween => hpurged (List.mem_append_left _ hbetween))
  slotOf?_ne {job} hpurged other hother := by
    rcases before_append_singleton.1 hpurged with hpurged | ⟨hjob, hid⟩
    · exact h.slotOf?_ne_of_raised hretired.raised (slot_eq_of_retired hretired) hpurged other hother
    · have hreport := h.reportId_eq_of_raised hretired.raised (slot_eq_of_retired hretired) hjob hother
      rw [← hreport, ← Happening.purged.inj hid, hretired.slotOf?_self] at hother
      exact absurd hother nofun

/-- Which jobs are behind is known after purging a report. -/
theorem generationsRecorded_purged : GenerationsRecorded (past ++ [.purged id]) q' where
  generation_le hjob :=
    (h.generation_le (mem_append_purged.1 hjob)).trans (latest_le hretired.raised _)
  generation_lt {job} hpurged := by
    rcases before_append_singleton.1 hpurged with hpurged | ⟨hjob, hid⟩
    · exact (h.generation_lt hpurged).trans_le (latest_le hretired.raised _)
    · obtain rfl := Happening.purged.inj hid
      obtain ⟨earlier, later, hpast⟩ := List.append_of_mem hjob
      by_cases hlater : .purged job.reportId ∈ later
      · obtain ⟨between, later, rfl⟩ := List.append_of_mem hlater
        have hbefore : Before (.submitted job) (.purged job.reportId) past :=
          ⟨earlier ++ .submitted job :: between, later, by simp [hpast], by simp⟩
        exact (h.generation_lt hbefore).trans_le (latest_le hretired.raised _)
      · have hslot := h.slotOf?_eq hpast hlater
        rcases hretired.raised.slot with hn | ⟨hn, -⟩
        · obtain rfl : n = job.slot := Option.some.inj (hn.symm.trans hslot)
          rw [hretired.raised.latest_self]
          exact Nat.lt_succ_of_le (h.generation_le hjob)
        · exact absurd (hn.symm.trans hslot) nofun
  exists_newer {job} hjob hlt := by
    have hjob := mem_append_purged.1 hjob
    by_cases hn : job.slot = n
    · have hid := (h.slotOf?_of_slot_eq hretired.raised hjob hn).2
      exact .inr (before_append_singleton.2 (.inr ⟨hjob, by rw [hid]⟩))
    · rw [hretired.raised.latest_of_ne _ hn] at hlt
      refine (h.exists_newer hjob hlt).imp ?_ fun hpurged => before_append_singleton.2 (.inl hpurged)
      rintro ⟨newer, hnewer, hslot⟩
      exact ⟨newer, mem_append_purged.2 hnewer, hslot⟩
  job_inj hjob hjob' := h.job_inj (mem_append_purged.1 hjob) (mem_append_purged.1 hjob')

/-- **Purging a report** is recorded. -/
theorem purged : Recorded (past ++ [.purged id]) q' where
  toSlotsRecorded := h.slotsRecorded_purged hretired
  toGenerationsRecorded := h.generationsRecorded_purged hretired
  waiting hjob := mem_append_purged.2 (h.waiting (hretired.jobs ▸ hjob))
  nodup := hretired.jobs ▸ h.nodup
  ended hjob := by
    have hpast := h.ended ((List.mem_append.1 hjob).resolve_right (by simp))
    exact ⟨mem_append_purged.2 hpast.1, hretired.jobs ▸ hpast.2⟩

end Retired

/-! ### Running a job -/

section TakenOut

variable {before after : Service} {status : MaterializationStatus} {other : Job}

/-- Which jobs were submitted before and after a run. -/
theorem mem_append_ended : Happening.submitted other ∈ past ++ [.ended job before status after]
    ↔ .submitted other ∈ past := by
  simp

/-- Which jobs were submitted before a purge that is before a run. -/
theorem before_append_ended :
    Before (.submitted other) (.purged id) (past ++ [.ended job before status after])
      ↔ Before (.submitted other) (.purged id) past :=
  before_append_singleton.trans (or_iff_left fun h => absurd h.2 nofun)

variable (h : Recorded past q) (htaken : Queue.TakenOut job q q')
include h htaken

/-- The slots are known after running a job. -/
theorem slotsRecorded_ran : SlotsRecorded (past ++ [.ended job before status after]) q' where
  exists_slot hm := by
    rw [htaken.slotOf?] at hm
    exact (h.exists_slot hm).trans_eq htaken.length.symm
  slotOf?_inj hm hm' := by
    rw [htaken.slotOf?] at hm hm'
    exact h.slotOf?_inj hm hm'
  latest_eq hm := by
    rw [htaken.slotOf?] at hm
    rw [htaken.latest, h.latest_eq hm, List.countP_append]
    rfl
  slot_lt hother := (h.slot_lt (mem_append_ended.1 hother)).trans_eq htaken.length.symm
  reportId_eq hother hid := by
    rw [htaken.slotOf?] at hid
    exact h.reportId_eq (mem_append_ended.1 hother) hid
  slotOf?_eq heq hpurged := by
    rcases append_singleton_eq_append_cons heq with ⟨he, -, -⟩ | ⟨between, rfl, hpast⟩
    · exact absurd he nofun
    · rw [htaken.slotOf?]
      exact h.slotOf?_eq hpast fun hbetween => hpurged (List.mem_append_left _ hbetween)
  slotOf?_ne hpurged id := by
    rw [htaken.slotOf?]
    exact h.slotOf?_ne (before_append_ended.1 hpurged) id

/-- Which jobs are behind is known after running a job. -/
theorem generationsRecorded_ran :
    GenerationsRecorded (past ++ [.ended job before status after]) q' where
  generation_le hother :=
    (h.generation_le (mem_append_ended.1 hother)).trans_eq (htaken.latest _).symm
  generation_lt hpurged :=
    (h.generation_lt (before_append_ended.1 hpurged)).trans_eq (htaken.latest _).symm
  exists_newer hother hlt := by
    rw [htaken.latest] at hlt
    refine (h.exists_newer (mem_append_ended.1 hother) hlt).imp ?_ before_append_ended.2
    rintro ⟨newer, hnewer, hslot⟩
    exact ⟨newer, mem_append_ended.2 hnewer, hslot⟩
  job_inj hother hother' := h.job_inj (mem_append_ended.1 hother) (mem_append_ended.1 hother')

/-- The jobs that wait are known after running a job, which no longer waits. -/
theorem jobsRecorded_ran : JobsRecorded (past ++ [.ended job before status after]) q' := by
  have hwaits : job ∈ q.jobs := htaken.jobs.subset List.mem_cons_self
  have hrest : ∀ {other}, other ∈ q'.jobs → other ∈ q.jobs := fun hother =>
    htaken.jobs.subset (List.mem_cons_of_mem _ hother)
  have hnodup := List.nodup_cons.1 (htaken.jobs.nodup_iff.2 h.nodup)
  refine ⟨fun hother => mem_append_ended.2 (h.waiting (hrest hother)), hnodup.2, ?_⟩
  intro other _ _ _ hother
  rcases List.mem_append.1 hother with hpast | hlast
  · exact ⟨mem_append_ended.2 (h.ended hpast).1, fun hin => (h.ended hpast).2 (hrest hin)⟩
  · obtain rfl : other = job := (Happening.ended.inj (List.mem_singleton.1 hlast)).1
    exact ⟨mem_append_ended.2 (h.waiting hwaits), hnodup.1⟩

/-- **Running a job** is recorded. -/
theorem ran (before : Service) (status : MaterializationStatus) (after : Service) :
    Recorded (past ++ [.ended job before status after]) q' :=
  ⟨h.slotsRecorded_ran htaken, h.generationsRecorded_ran htaken, h.jobsRecorded_ran htaken⟩

end TakenOut

end Recorded

/-! ## Steps -/

/-- A run is superseded exactly if its job is stale. -/
theorem execute_superseded_iff (job : Job) (s : Service) :
    (execute job s).1.state = .superseded ↔ s.queue.isStale job = true := by
  have hending := ending_execute job s
  generalize execute job s = ended at hending
  cases hending with
  | superseded hstale => exact iff_of_true rfl hstale
  | skipped hfresh => exact iff_of_false nofun (Bool.eq_false_iff.1 hfresh)
  | failed hfresh => exact iff_of_false nofun (Bool.eq_false_iff.1 hfresh)
  | published hfresh => exact iff_of_false nofun (Bool.eq_false_iff.1 hfresh)

/-- A superseded run changes neither the queue nor the store. -/
theorem unchanged_of_superseded {job : Job} {s : Service}
    (h : (execute job s).1.state = .superseded) :
    (execute job s).2.queue = s.queue ∧ (execute job s).2.tenant.store = s.tenant.store := by
  have hending := ending_execute job s
  generalize execute job s = ended at h hending
  cases hending with
  | superseded => exact ⟨rfl, rfl⟩
  | skipped => exact absurd h nofun
  | failed => exact absurd h nofun
  | published => exact absurd h nofun

/-- A run notes at most a status in the queue. -/
theorem queue_execute (job : Job) (s : Service) : (execute job s).2.queue = s.queue
    ∨ ∃ status, (execute job s).2.queue = s.queue.setStatus job.slot status := by
  have hending := ending_execute job s
  generalize execute job s = ended at hending
  cases hending with
  | superseded => exact .inl rfl
  | skipped _ _ hran => exact .inr ⟨_, hran.queue_record _⟩
  | failed _ _ hran => exact .inr ⟨_, hran.queue_record _⟩
  | published _ _ _ hran => exact .inr ⟨_, hran.queue_record _⟩

/-- Running a job that waits takes it out. -/
theorem takenOut_execute {n : ℕ} {job : Job} {s : Service} (h : s.queue.jobs[n]? = some job) :
    Queue.TakenOut job s.queue (execute job (s.takeOut n)).2.queue := by
  obtain ⟨hn, hjob⟩ := List.getElem?_eq_some_iff.1 h
  have hperm : (job :: s.queue.jobs.eraseIdx n).Perm s.queue.jobs :=
    hjob ▸ List.getElem_cons_eraseIdx_perm hn
  rcases queue_execute job (s.takeOut n) with hqueue | ⟨status, hqueue⟩
  · rw [hqueue]
    exact ⟨fun _ => rfl, rfl, fun _ => rfl, hperm⟩
  · rw [hqueue]
    exact ⟨fun m => Queue.latest_slot_setStatus .., List.length_modify .., fun _ => rfl, hperm⟩

/-- Purging a report retires it. -/
theorem queue_purge (id : ReportId) (s : Service) :
    ((purge id.text).run s).2.queue = s.queue.retire id := by
  unfold purge idOf
  rw [ReportId.parse_text]
  rfl

/-- **Every step is recorded.** -/
theorem Recorded.take {past : List Happening} {s : Service} (h : Recorded past s.queue) (step : Step) :
    Recorded (past ++ (step.take s).1.toList) (step.take s).2.queue := by
  cases step with
  | submit id => exact h.submitted (Queue.submitted_submit id h.exists_slot).2
  | run n =>
    show Recorded (past ++ (runWaiting n s).1.toList) (runWaiting n s).2.queue
    unfold runWaiting
    split
    · exact (List.append_nil past).symm ▸ h
    · next job hjob => exact h.ran (takenOut_execute hjob) ..
  | purge id =>
    obtain ⟨n, hretired⟩ := Queue.exists_retired_retire id h.exists_slot
    exact h.purged (queue_purge id s ▸ hretired)
  | elsewhere change => exact (List.append_nil past).symm ▸ h

/-- **Whatever happened in a history happened in a step, before which there was what every step keeps.** -/
theorem exists_step_of_history_of_kept {P : List Happening → Service → Prop}
    (hkept : ∀ {past s} (step : Step), P past s → P (past ++ (step.take s).1.toList) (step.take s).2)
    {steps : List Step} {past : List Happening} {s : Service} (h : P past s) {earlier later : List Happening}
    {e : Happening} (heq : (history steps s).1 = earlier ++ e :: later) :
    ∃ step t, P (past ++ earlier) t ∧ (Step.take step t).1 = some e := by
  -- along the steps: each either happens in the middle of `earlier`, or it is the one that is looked for
  induction steps generalizing past s earlier with
  | nil => exact absurd heq (by simp [history])
  | cons step steps ih =>
    have hnext := hkept step h
    have heq : (step.take s).1.toList ++ (history steps (step.take s).2).1 = earlier ++ e :: later := heq
    cases htake : (step.take s).1 with
    | none =>
      rw [htake] at hnext heq
      rw [Option.toList_none, List.append_nil] at hnext
      exact ih hnext heq
    | some happening =>
      rw [htake] at hnext heq
      cases earlier with
      | nil =>
        obtain rfl : happening = e := (List.cons.inj heq).1
        exact ⟨step, s, (List.append_nil past).symm ▸ h, htake⟩
      | cons first earlier =>
        obtain ⟨hfirst, heq⟩ := List.cons.inj heq
        obtain ⟨step', t, ht, htake'⟩ := ih hnext heq
        rw [hfirst] at ht
        exact ⟨step', t, by simpa using ht, htake'⟩

/-- **Whatever happened in a history happened in a step, of which the queue knew what was before.** -/
theorem exists_step_of_history {steps : List Step} {past : List Happening} {s : Service}
    (h : Recorded past s.queue) {earlier later : List Happening} {e : Happening}
    (heq : (history steps s).1 = earlier ++ e :: later) :
    ∃ step t, Recorded (past ++ earlier) t.queue ∧ (Step.take step t).1 = some e :=
  exists_step_of_history_of_kept (P := fun past s => Recorded past s.queue) (fun step h => h.take step) h heq

/-- What happened in a step that submitted a job. -/
theorem submitted_of_take {step : Step} {s : Service} {job : Job} {past : List Happening}
    (h : Recorded past s.queue) (htake : (step.take s).1 = some (.submitted job)) :
    ∃ q', Queue.Submitted job s.queue q' := by
  cases step with
  | submit id =>
    obtain rfl : (s.queue.submit id).1 = job := Happening.submitted.inj (Option.some.inj htake)
    exact ⟨_, (Queue.submitted_submit id h.exists_slot).2⟩
  | run n =>
    replace htake : (runWaiting n s).1 = some (.submitted job) := htake
    unfold runWaiting at htake
    split at htake
    · exact absurd htake nofun
    · exact absurd (Option.some.inj htake) nofun
  | purge id => exact absurd htake nofun
  | elsewhere change => exact absurd htake nofun

/-- What happened in a step in which a run ended. -/
theorem execute_of_take {step : Step} {s before after : Service} {job : Job}
    {status : MaterializationStatus}
    (htake : (step.take s).1 = some (.ended job before status after)) :
    ∃ n, job ∈ s.queue.jobs ∧ before = s.takeOut n ∧ execute job before = (status, after) := by
  cases step with
  | run n =>
    replace htake : (runWaiting n s).1 = some (.ended job before status after) := htake
    unfold runWaiting at htake
    split at htake
    · exact absurd htake nofun
    · next job' hjob =>
      obtain ⟨rfl, rfl, rfl, rfl⟩ := Happening.ended.inj (Option.some.inj htake)
      exact ⟨n, List.mem_of_getElem? hjob, rfl, rfl⟩
  | submit id => exact absurd htake nofun
  | purge id => exact absurd htake nofun
  | elsewhere change => exact absurd htake nofun

/-- **A job that was submitted in a history**: the queue knew what was before, and was given this job. -/
theorem exists_submitted {steps : List Step} {tenant : Tenant} {earlier later : List Happening} {job : Job}
    (heq : (history steps { tenant }).1 = earlier ++ .submitted job :: later) :
    ∃ q q', Recorded earlier q ∧ Queue.Submitted job q q' := by
  obtain ⟨step, s, hrecorded, htake⟩ := exists_step_of_history .nil heq
  obtain ⟨q', hsubmitted⟩ := submitted_of_take hrecorded htake
  exact ⟨s.queue, q', hrecorded, hsubmitted⟩

/-- **A run that ended in a history**: the queue knew what was before, the job waited, and it was taken out and run. -/
theorem exists_executed {steps : List Step} {tenant : Tenant} {earlier later : List Happening} {job : Job}
    {before after : Service} {status : MaterializationStatus}
    (heq : (history steps { tenant }).1 = earlier ++ .ended job before status after :: later) :
    ∃ (s : Service) (n : ℕ), Recorded earlier s.queue ∧ job ∈ s.queue.jobs ∧ before = s.takeOut n
      ∧ execute job before = (status, after) := by
  obtain ⟨step, s, hrecorded, htake⟩ := exists_step_of_history .nil heq
  obtain ⟨n, hends⟩ := execute_of_take htake
  exact ⟨s, n, hrecorded, hends⟩

/-- **The last job that was submitted wins**, whatever steps a service takes. -/
theorem lastSubmittedWins (tenant : Tenant) (steps : List Step) :
    LastSubmittedWins (history steps { tenant }).1 where
  generation_eq heq := by
    obtain ⟨q, q', hrecorded, hsubmitted⟩ := exists_submitted heq
    rw [hsubmitted.generation, hrecorded.latest_eq_of_raised hsubmitted.raised]
  slot_eq_iff {earlier between later job job'} heq := by
    obtain ⟨q, q', hrecorded, hsubmitted⟩ := exists_submitted heq
    constructor
    · intro hslot
      obtain ⟨hself, hreport⟩ := hrecorded.slotOf?_of_slot_eq hsubmitted.raised (by simp) hslot
      refine ⟨hreport, fun hpurged => ?_⟩
      obtain ⟨left, right, rfl⟩ := List.append_of_mem hpurged
      exact hrecorded.slotOf?_ne ⟨earlier ++ .submitted job :: left, right, by simp, by simp⟩ _
        (hself.trans (congrArg some hslot.symm))
    · rintro ⟨hreport, hpurged⟩
      have hself := hrecorded.slotOf?_eq rfl hpurged
      rw [hreport] at hself
      rcases hsubmitted.raised.slot with hn | ⟨hn, -⟩
      · exact Option.some.inj (hself.symm.trans hn)
      · exact absurd (hself.symm.trans hn) nofun
  generation_lt hbefore hslot := by
    obtain ⟨earlier, later, heq, hjob⟩ := hbefore
    obtain ⟨q, q', hrecorded, hsubmitted⟩ := exists_submitted heq
    exact hrecorded.generation_lt_of_submitted hsubmitted hjob hslot
  submitted heq := by
    obtain ⟨s, n, hrecorded, hwaits, -, -⟩ := exists_executed heq
    exact hrecorded.waiting hwaits
  superseded_iff {earlier later job before status after} heq := by
    obtain ⟨s, n, hrecorded, hwaits, rfl, hexecute⟩ := exists_executed heq
    have hstale := execute_superseded_iff job (s.takeOut n)
    rw [hexecute] at hstale
    rw [hstale]
    show decide (job.generation < (s.queue.slot job.slot).latest) = true ↔ _
    rw [decide_eq_true_iff]
    constructor
    · exact hrecorded.exists_newer (hrecorded.waiting hwaits)
    · rintro (⟨newer, hnewer, hslot, hlt⟩ | hpurged)
      · exact hlt.trans_le (hslot ▸ hrecorded.generation_le hnewer)
      · exact hrecorded.generation_lt hpurged
  unchanged hmem hstate := by
    obtain ⟨earlier, later, heq⟩ := List.append_of_mem hmem
    obtain ⟨s, n, -, -, rfl, hexecute⟩ := exists_executed heq
    have hunchanged := unchanged_of_superseded (s := s.takeOut n) (by rw [hexecute]; exact hstate)
    rwa [hexecute] at hunchanged
  publishing {job job' before before' status status' after after'} hbefore hslot hpublished hpublished' := by
    obtain ⟨earlier, later, heq, hended⟩ := hbefore
    obtain ⟨s, n, hrecorded, hwaits, rfl, hexecute⟩ := exists_executed heq
    obtain ⟨hsubmitted, hran⟩ := hrecorded.ended hended
    have hstale : ¬ job'.generation < (s.queue.slot job'.slot).latest := by
      intro hlt
      have hsuperseded := (execute_superseded_iff job' (s.takeOut n)).2 (decide_eq_true hlt)
      rw [hexecute] at hsuperseded
      exact absurd (hpublished'.symm.trans hsuperseded) nofun
    have hle : job.generation ≤ job'.generation :=
      (hslot ▸ hrecorded.generation_le hsubmitted).trans (not_lt.1 hstale)
    -- a job of the same generation would be the one that ran before, which no longer waits
    refine lt_of_le_of_ne hle fun hgeneration => hran ?_
    rwa [hrecorded.job_inj hsubmitted (hrecorded.waiting hwaits) hslot hgeneration]

end Service

end Rollup
