import Rollup.Proofs.Calls
import Rollup.Proofs.Generations

/-!
# At rest the queue, the definitions and the rows agree

Where the materialization of a report stands is kept twice: in the slot of the report, and in its stored definition.
They are written by different operations, and the definition goes through its stored form each time. How many rows
were published is kept a third time, as the rows themselves. When no job waits all three agree, whatever callers did
before and whatever could not be reached meanwhile, as long as the definitions could (`Service.exists_atRest`).

Every call leaves the reports alone but one. So what has to hold is said report by report (`Service.Settled`), a call
may upset the report that it is about, and the job that is then run settles this report again
(`Service.Resting.runFresh`).
-/

namespace Rollup

/-! ## What is known of a report in the queue -/

namespace Queue

variable {q : Queue} {other : ReportId}

/-- What is known of a report is the status of its slot. -/
theorem status?_eq (id : ReportId) (q : Queue) : q.status? id = (q.slotOf? id).map fun n => (q.slot n).status := rfl

/-- **What is known of a report does not depend on the slots of others.** -/
theorem status?_congr {q' : Queue} (hslot : q'.slotOf? other = q.slotOf? other)
    (hsame : ∀ n, q.slotOf? other = some n → q'.slot n = q.slot n) : q'.status? other = q.status? other := by
  rw [status?_eq, status?_eq, hslot]
  cases h : q.slotOf? other with
  | none => rfl
  | some n => rw [Option.map_some, Option.map_some, hsame n h]

/-- **A job that was run at once**: behind its run the queue is as if the job had waited and had been taken out. -/
theorem takenOut_setStatus_issue (id : ReportId) (q : Queue) (status : MaterializationStatus) :
    TakenOut (q.issue id).1 (q.submit id).2 ((q.issue id).2.setStatus (q.issue id).1.slot status) := by
  refine ⟨fun m => latest_slot_setStatus .., List.length_modify .., fun _ => rfl, ?_⟩
  show ((q.issue id).1 :: (q.issue id).2.jobs).Perm ((q.issue id).2.jobs ++ [(q.issue id).1])
  exact (List.perm_append_singleton _ _).symm

end Queue

namespace Service

open Queue (status?_congr slot_modifySlot slot_assign slotOf?_assign)

section Slots

variable {past : List Happening} {q : Queue} {id other : ReportId}

/-- The slot that a report is given is not that of another report. -/
theorem SlotsRecorded.ne_of_assign (h : SlotsRecorded past q) (hother : other ≠ id) {m : ℕ}
    (hm : q.slotOf? other = some m) : m ≠ (q.assign id).1 := by
  rintro rfl
  unfold Queue.assign at hm
  split at hm
  · next n hn => exact hother (h.slotOf?_inj hm hn)
  · exact absurd (h.exists_slot hm) (lt_irrefl _)

/-- Changing the slot that a report is given leaves the other reports alone. -/
theorem SlotsRecorded.status?_assign_modifySlot (h : SlotsRecorded past q) (hother : other ≠ id)
    (change : Slot → Slot) :
    ((q.assign id).2.modifySlot (q.assign id).1 change).status? other = q.status? other := by
  refine status?_congr ((slotOf?_assign id other q).trans (if_neg hother)) fun m hm => ?_
  rw [slot_modifySlot, if_neg fun hn => h.ne_of_assign hother hm hn.1.symm, slot_assign]

/-- Making a job of a report leaves the other reports alone. -/
theorem SlotsRecorded.status?_issue (h : SlotsRecorded past q) (hother : other ≠ id) :
    (q.issue id).2.status? other = q.status? other :=
  h.status?_assign_modifySlot hother Queue.scheduleSlot

/-- **The status that is given to a job of a report** is what is known of the report. -/
theorem SlotsRecorded.status?_setStatus_issue_self (h : SlotsRecorded past q) (id : ReportId)
    (status : MaterializationStatus) :
    ((q.issue id).2.setStatus (q.issue id).1.slot status).status? id = some status := by
  have hsubmitted := (Queue.submitted_submit id h.exists_slot).2
  have hslot : (q.issue id).2.slotOf? id = some (q.issue id).1.slot := hsubmitted.slotOf?_self
  have hexists : (q.issue id).1.slot < (q.issue id).2.slots.length := hsubmitted.raised.exists_slot
  have hset := slot_modifySlot (q.issue id).1.slot (q.issue id).1.slot (fun slot => { slot with status }) (q.issue id).2
  rw [if_pos ⟨rfl, hexists⟩] at hset
  rw [Queue.status?_eq]
  show ((q.issue id).2.slotOf? id).map _ = _
  rw [hslot, Option.map_some]
  exact congrArg (fun slot : Slot => some slot.status) hset

/-- Nothing else is known of the other reports. -/
theorem SlotsRecorded.status?_setStatus_issue (h : SlotsRecorded past q) (hother : other ≠ id)
    (status : MaterializationStatus) :
    ((q.issue id).2.setStatus (q.issue id).1.slot status).status? other = q.status? other := by
  have hsubmitted := (Queue.submitted_submit id h.exists_slot).2
  have hslot : (q.issue id).2.slotOf? other = q.slotOf? other := hsubmitted.raised.slotOf?_of_ne other hother
  rw [← h.status?_issue hother]
  refine status?_congr rfl fun n hn => (slot_modifySlot _ _ _ _).trans (if_neg fun heq => ?_)
  rw [hslot] at hn
  exact h.ne_of_assign hother hn heq.1.symm

/-- Retiring a report leaves the other reports alone. -/
theorem SlotsRecorded.status?_retire (h : SlotsRecorded past q) (hother : other ≠ id) :
    (q.retire id).status? other = q.status? other := by
  have herased : (q.retire id).status? other
      = ((q.assign id).2.modifySlot (q.assign id).1 fun s => { s with latest := s.latest + 1 }).status? other := by
    refine status?_congr ?_ fun _ _ => rfl
    exact Keyed.get?_erase_of_ne (fun heq => hother (ReportId.eq_of_text heq)) _
  rw [herased, h.status?_assign_modifySlot hother]

end Slots

/-! ## Reports that are settled -/

/-- **A report is settled** when what is known of it in the queue is over and is what its definition says, and the
rows are as many as it tells, if it is published. -/
structure Settled (s : Service) (d : ReportDefinition) : Prop where
  /-- It is over. -/
  isTerminal : ∀ status, s.queue.status? d.reportId = some status → status.state.isTerminal = true
  /-- The definition says the same. -/
  materialization : ∀ status, s.queue.status? d.reportId = some status → d.materialization = status
  /-- The rows that were published are there. -/
  rows : ∀ status, s.queue.status? d.reportId = some status → status.state = .published →
    status.rows = UInt64.ofNat (s.tenant.store.documents d.reportId.collection).length

/-- **A service at rest**: its definitions all decode, those of different documents have different ids, and all of
them are settled. -/
structure AtRest (s : Service) (definitions : List ReportDefinition) : Prop where
  /-- The documents are those of the definitions. -/
  decodes : Registry.Decodes s.definitions definitions
  /-- No two are of one report. -/
  nodup : (definitions.map ReportDefinition.reportId).Nodup
  /-- Every report is settled. -/
  settled : ∀ d ∈ definitions, s.Settled d

/-- **A service that rests** but for some reports that are not quiet, and goes on to rest. -/
structure Resting (quiet : Set ReportId) (s : Service) (definitions : List ReportDefinition) : Prop where
  /-- The documents are those of the definitions. -/
  decodes : Registry.Decodes s.definitions definitions
  /-- No two are of one report. -/
  nodup : (definitions.map ReportDefinition.reportId).Nodup
  /-- The quiet reports are settled. -/
  settled : ∀ d ∈ definitions, d.reportId ∈ quiet → s.Settled d
  /-- The definitions can be reached. -/
  available : s.tenant.store.unavailable.contains Store.reports = false
  /-- The queue knows what happened. -/
  recorded : ∃ past, Recorded past s.queue
  /-- No job waits. -/
  jobs : s.queue.jobs = []

variable {s u : Service} {definitions : List ReportDefinition} {quiet : Set ReportId} {id : ReportId}

/-- A service in which every report is quiet is at rest. -/
theorem Resting.atRest (h : Resting .univ s definitions) : s.AtRest definitions :=
  ⟨h.decodes, h.nodup, fun d hd => h.settled d hd (Set.mem_univ _)⟩

/-- **A report stays settled** as long as its slot, its rows and the status in its definition do. -/
theorem Settled.congr {d d' : ReportDefinition} (h : s.Settled d) (hid : d'.reportId = d.reportId)
    (hmaterialization : d'.materialization = d.materialization)
    (hstatus : u.queue.status? d.reportId = s.queue.status? d.reportId)
    (hrows : u.tenant.store.documents d.reportId.collection = s.tenant.store.documents d.reportId.collection) :
    u.Settled d' where
  isTerminal status hknown := h.isTerminal status (by rwa [← hstatus, ← hid])
  materialization status hknown := hmaterialization.trans (h.materialization status (by rwa [← hstatus, ← hid]))
  rows status hknown hpublished := by
    rw [hid, hrows]
    exact h.rows status (by rwa [← hstatus, ← hid]) hpublished

/-- **A report is settled** if what is known of it is. -/
theorem Settled.of_known {d : ReportDefinition} (hknown : s.queue.status? d.reportId = some d.materialization)
    (hterminal : d.materialization.state.isTerminal = true)
    (hrows : d.materialization.state = .published →
      d.materialization.rows = UInt64.ofNat (s.tenant.store.documents d.reportId.collection).length) :
    s.Settled d where
  isTerminal _ hstatus := Option.some.inj (hknown.symm.trans hstatus) ▸ hterminal
  materialization _ hstatus := Option.some.inj (hknown.symm.trans hstatus)
  rows _ hstatus := Option.some.inj (hknown.symm.trans hstatus) ▸ hrows

namespace Resting

/-- Fewer reports are quiet as well. -/
theorem mono (h : Resting .univ s definitions) (quiet : Set ReportId) : Resting quiet s definitions :=
  { h with settled := fun d hd _ => h.settled d hd (Set.mem_univ _) }

/-- What only reads leaves a service at rest. -/
theorem kept (h : Resting quiet s definitions) (hkept : Kept s u) : Resting quiet u definitions where
  decodes := hkept.definitions ▸ h.decodes
  nodup := h.nodup
  settled d hd hquiet := (h.settled d hd hquiet).congr rfl rfl (hkept.queue ▸ rfl) (hkept.documents _)
  available := hkept.unavailable ▸ h.available
  recorded := hkept.queue ▸ h.recorded
  jobs := hkept.queue ▸ h.jobs

/-- **Adding a definition** upsets at most its own report. -/
theorem added (h : Resting .univ s definitions) {d : ReportDefinition}
    (hnone : s.definitions.filter (Registry.isReport d.reportId).holds = [])
    (hleft : Left s (s.definitions ++ [d.toJson]) s.queue u) :
    Resting { other | other ≠ d.reportId } u (definitions ++ [d]) := by
  exact {
    decodes := hleft.definitions ▸ h.decodes.append_toJson d
    nodup := by
      rw [List.map_append, List.nodup_append]
      refine ⟨h.nodup, List.nodup_singleton _, ?_⟩
      rintro other hother id hid rfl
      obtain ⟨d', hd', rfl⟩ := List.mem_map.1 hother
      exact h.decodes.ne_of_filter_eq_nil hnone d' hd' (List.mem_singleton.1 hid)
    settled := fun d' hd' hother => by
      rcases List.mem_append.1 hd' with hd' | hd'
      · exact (h.settled d' hd' (Set.mem_univ _)).congr rfl rfl (hleft.queue ▸ rfl)
          (hleft.documents_of_ne d'.reportId.collection_ne_reports)
      · exact absurd (congrArg ReportDefinition.reportId (List.mem_singleton.1 hd')) hother
    available := hleft.unavailable ▸ h.available
    recorded := hleft.queue ▸ h.recorded
    jobs := hleft.queue ▸ h.jobs }

/-- **Editing a definition** upsets no report: what is known of its materialization stays. -/
theorem edited (h : Resting quiet s definitions) {edit : ReportDefinition}
    (hleft : Left s (s.definitions.map (Registry.rewritten edit)) s.queue u) :
    Resting quiet u (definitions.map (Registry.exchanged edit)) := by
  have hids : (definitions.map (Registry.exchanged edit)).map ReportDefinition.reportId
      = definitions.map ReportDefinition.reportId := by
    rw [List.map_map]
    exact List.map_congr_left fun d _ => Registry.reportId_exchanged edit d
  exact {
    decodes := hleft.definitions ▸ h.decodes.map fun hd => Registry.decode?_rewritten hd edit
    nodup := hids ▸ h.nodup
    settled := fun d' hd' hquiet => by
      obtain ⟨d, hd, rfl⟩ := List.mem_map.1 hd'
      rw [Registry.reportId_exchanged] at hquiet
      exact (h.settled d hd hquiet).congr (Registry.reportId_exchanged edit d)
        (Registry.materialization_exchanged edit d) (hleft.queue ▸ rfl)
        (hleft.documents_of_ne d.reportId.collection_ne_reports)
    available := hleft.unavailable ▸ h.available
    recorded := hleft.queue ▸ h.recorded
    jobs := hleft.queue ▸ h.jobs }

/-- **Removing a report** upsets no other, whether its rows are removed or not. -/
theorem removed (h : Resting .univ s definitions)
    (hdefinitions : u.definitions = Registry.others id s.definitions)
    (hunavailable : u.tenant.store.unavailable = s.tenant.store.unavailable)
    (hrows : ∀ other, other ≠ id →
      u.tenant.store.documents other.collection = s.tenant.store.documents other.collection)
    (hqueue : u.queue = s.queue.retire id) :
    Resting .univ u (definitions.filter fun d => d.reportId ≠ id) := by
  obtain ⟨past, hpast⟩ := h.recorded
  obtain ⟨n, hretired⟩ := Queue.exists_retired_retire id hpast.exists_slot
  exact {
    decodes := hdefinitions ▸ h.decodes.others id
    nodup := h.nodup.sublist (List.filter_sublist.map _)
    settled := fun d hd _ => by
      obtain ⟨hmem, hid⟩ := List.mem_filter.1 hd
      have hother : d.reportId ≠ id := of_decide_eq_true hid
      exact (h.settled d hmem (Set.mem_univ _)).congr rfl rfl (hqueue ▸ hpast.status?_retire hother)
        (hrows _ hother)
    available := hunavailable ▸ h.available
    recorded := ⟨_, hqueue ▸ hpast.purged hretired⟩
    jobs := (congrArg Queue.jobs hqueue).trans (hretired.jobs.trans h.jobs) }

end Resting

/-! ## The job that is run -/

/-- The service behind a job of a report that is made and run at once. -/
def runFresh (id : ReportId) (s : Service) : Service :=
  (execute (s.queue.issue id).1 { s with queue := (s.queue.issue id).2 }).2

/-- Where no job waits, nothing is drained. -/
theorem drain_of_jobs_eq_nil (h : s.queue.jobs = []) : (drain s).2 = s := by
  have hdrain : (drain s).2 = (executeAll s.queue.jobs { s with queue := { s.queue with jobs := [] } }).2 := rfl
  have hsame : ({ s.queue with jobs := [] } : Queue) = s.queue := by rw [← h]
  rw [hdrain, hsame, h]
  rfl

/-- Making a job lets no job wait. -/
theorem jobs_issue (id : ReportId) (q : Queue) : (q.issue id).2.jobs = q.jobs := Queue.jobs_assign id q

/-- **A job that is submitted where no other waits** is run when the queue is drained. -/
theorem drain_submit (hjobs : s.queue.jobs = []) :
    (drain { s with queue := (s.queue.submit id).2 }).2 = runFresh id s := by
  have hissue : ({ (s.queue.submit id).2 with jobs := [] } : Queue) = (s.queue.issue id).2 := by
    have hnone := (jobs_issue id s.queue).trans hjobs
    show ({ (s.queue.issue id).2 with jobs := [] } : Queue) = (s.queue.issue id).2
    rw [← hnone]
  have hwaits : (s.queue.submit id).2.jobs = [(s.queue.issue id).1] := by
    show (s.queue.issue id).2.jobs ++ [(s.queue.issue id).1] = _
    rw [jobs_issue, hjobs]
    rfl
  have hdrain : (drain { s with queue := (s.queue.submit id).2 }).2 = (executeAll (s.queue.submit id).2.jobs
      { s with queue := { (s.queue.submit id).2 with jobs := [] } }).2 := rfl
  rw [hdrain, hwaits, hissue]
  rfl

namespace Resting

/-- **A run that records its status settles its report.** -/
theorem record {job : Job} {t : Tenant} {status : MaterializationStatus}
    (h : Resting { other | other ≠ id } s definitions) (hjob : (s.queue.issue id).1 = job)
    (hran : Ran job t { s with queue := (s.queue.issue id).2 } u)
    (ht : t.AgreeOn { name | name ≠ id.collection } s.tenant) (hterminal : status.state.isTerminal = true)
    (hrows : status.state = .published → status.rows = UInt64.ofNat (t.store.documents id.collection).length) :
    Resting .univ (Service.record job status u).2 (definitions.map (Registry.noted id status)) := by
  subst hjob
  obtain ⟨past, hpast⟩ := h.recorded
  have hsubmitted := (Queue.submitted_submit id hpast.exists_slot).2
  have hqueue := hran.queue_record status
  have hagree := hran.agreeOn_record status
  have hreach : t.store.unavailable.contains Store.reports = false := ht.unavailable ▸ h.available
  have hdefinitions : (Service.record (s.queue.issue id).1 status u).2.definitions
      = s.definitions.map (Registry.stamped id status) := by
    refine (hran.documents_record status).trans ?_
    rw [hreach, ht.documents _ id.collection_ne_reports.symm]
    rfl
  have hids : (definitions.map (Registry.noted id status)).map ReportDefinition.reportId
      = definitions.map ReportDefinition.reportId := by
    rw [List.map_map]
    exact List.map_congr_left fun d _ => Registry.reportId_noted id status d
  have hself : (Service.record (s.queue.issue id).1 status u).2.queue.status? id = some status :=
    hqueue ▸ hpast.status?_setStatus_issue_self id status
  have hother : ∀ other, other ≠ id →
      (Service.record (s.queue.issue id).1 status u).2.queue.status? other = s.queue.status? other :=
    fun other hne => hqueue ▸ hpast.status?_setStatus_issue hne status
  refine {
    decodes := hdefinitions ▸ h.decodes.map fun hd => Registry.decode?_stamped hd id status
    nodup := hids ▸ h.nodup
    settled := fun d' hd' _ => ?_
    available := hagree.unavailable ▸ hreach
    recorded := ?_
    jobs := by
      rw [hqueue]
      exact (jobs_issue id s.queue).trans h.jobs }
  · obtain ⟨d, hd, rfl⟩ := List.mem_map.1 hd'
    -- the report of the job need not have been settled before: all that is known of it was recorded just now
    by_cases hid : d.reportId = id
    · subst hid
      have hnoted : Registry.noted d.reportId status d = { d with materialization := status } := if_pos rfl
      rw [hnoted]
      refine .of_known hself hterminal fun hpublished => (hrows hpublished).trans ?_
      rw [hagree.documents _ d.reportId.collection_ne_reports]
    · have hsame : Registry.noted id status d = d := if_neg hid
      rw [hsame]
      refine (h.settled d hd hid).congr rfl rfl (hother _ hid) ?_
      exact (hagree.documents _ d.reportId.collection_ne_reports).trans
        (ht.documents _ fun heq => hid (ReportId.collection_injective heq))
  · have htaken := hqueue ▸ Queue.takenOut_setStatus_issue id s.queue status
    exact ⟨_, (hpast.submitted hsubmitted).ran htaken s status u⟩

/-- **A job that is run settles its report** and leaves the others settled. -/
theorem runFresh (h : Resting { other | other ≠ id } s definitions) :
    ∃ definitions', Resting .univ (runFresh id s) definitions' := by
  obtain ⟨past, hpast⟩ := h.recorded
  have hsubmitted := (Queue.submitted_submit id hpast.exists_slot).2
  have hfresh : (s.queue.issue id).2.isStale (s.queue.issue id).1 = false := by
    have hlatest : ((s.queue.issue id).2.slot (s.queue.issue id).1.slot).latest = (s.queue.issue id).1.generation :=
      hsubmitted.raised.latest_self.trans hsubmitted.generation.symm
    unfold Queue.isStale
    rw [hlatest, decide_eq_false_iff_not]
    exact lt_irrefl _
  have hending := ending_execute (s.queue.issue id).1 { s with queue := (s.queue.issue id).2 }
  unfold Service.runFresh
  generalize execute (s.queue.issue id).1 { s with queue := (s.queue.issue id).2 } = ended at hending
  cases hending with
  | superseded hstale => exact absurd (hfresh.symm.trans hstale) nofun
  | skipped _ _ hran => exact ⟨_, h.record rfl hran (.refl _ _) rfl nofun⟩
  | failed _ _ hran => exact ⟨_, h.record rfl hran (.refl _ _) rfl nofun⟩
  | @published rows v _ _ _ hran =>
    refine ⟨_, h.record rfl hran (Tenant.agreeOn_replaced _ _ _) rfl fun _ => ?_⟩
    exact congrArg (fun rows : List Json => UInt64.ofNat rows.length)
      (Store.documents_replaced_self rows s.tenant.store).symm

/-- **A job that was submitted** and is run when the queue is drained settles its report. -/
theorem drain_submitted {q : Queue} (h : Resting { other | other ≠ id } { u with queue := q } definitions)
    (hqueue : u.queue = (q.submit id).2) : ∃ definitions', Resting .univ (drain u).2 definitions' := by
  have hsubmitted : u = { u with queue := (q.submit id).2 } := by rw [← hqueue]
  have hdrain : (drain { u with queue := (q.submit id).2 }).2 = _ := drain_submit h.jobs
  rw [hsubmitted]
  exact hdrain ▸ h.runFresh

end Resting

/-! ## Steps -/

/-- **What happens to a tenant from outside** without touching reports: clocks go on, items and catalogs are written,
settings change, collections other than that of the definitions come and go. -/
structure Outside where
  /-- What becomes of the tenant. -/
  change : Tenant → Tenant
  /-- The definitions can still be reached. -/
  available : ∀ t : Tenant, t.store.unavailable.contains Store.reports = false →
    (change t).store.unavailable.contains Store.reports = false
  /-- They stay the same. -/
  definitions : ∀ t, Registry.documents (change t) = Registry.documents t
  /-- So do the rows of reports. -/
  rows : ∀ (t : Tenant) (id : ReportId),
    (change t).store.documents id.collection = t.store.documents id.collection

/-- **An outage**: a collection other than that of the definitions cannot be reached any more. -/
def Outside.outage (name : String) (h : name ≠ Store.reports) : Outside where
  change t := { t with store := t.store.setUnavailable name true }
  available t ht := by
    rw [← Bool.not_eq_true, List.contains_iff_mem] at ht ⊢
    show Store.reports ∉ name :: t.store.unavailable.filter fun other => other ≠ name
    rw [List.mem_cons, not_or]
    exact ⟨h.symm, fun hmem => ht (List.mem_filter.1 hmem).1⟩
  definitions _ := rfl
  rows _ _ := rfl

/-- **A step of a service that is left alone until it rests.** -/
inductive RestStep where
  /-- A call, behind which the queue is drained. -/
  | call (made : Call)
  /-- Something from outside. -/
  | outside (event : Outside)

/-- Takes a step. -/
def RestStep.take : RestStep → Service → Service
  | .call made, s => (drain (made.perform.run s).2).2
  | .outside event, s => { s with tenant := event.change s.tenant }

/-- The service behind some steps. -/
def rested (steps : List RestStep) (s : Service) : Service :=
  steps.foldl (fun s step => step.take s) s

namespace Resting

/-- What only reads, and is then drained, leaves a service at rest. -/
theorem drain_kept (h : Resting .univ s definitions) (hkept : Kept s u) :
    ∃ definitions', Resting .univ (drain u).2 definitions' := by
  have hu := h.kept hkept
  exact ⟨definitions, (drain_of_jobs_eq_nil hu.jobs).symm ▸ hu⟩

/-- Purging a report leaves a service at rest, however it ends. -/
theorem drain_purge (h : Resting .univ s definitions) (reportId : String) :
    ∃ definitions', Resting .univ (drain ((Service.purge reportId).run s).2).2 definitions' := by
  cases hparse : ReportId.parse reportId with
  | error e =>
    rw [run_purge_of_error hparse]
    exact h.drain_kept (.refl s)
  | ok id =>
    have hending := ending_purge hparse s
    generalize (Service.purge reportId).run s = ended at hending
    cases hending with
    | refused why => exact absurd (h.available.symm.trans why) nofun
    | halfway _ _ hleft =>
      have hremoved := h.removed hleft.definitions hleft.unavailable
        (fun other _ => hleft.documents_of_ne other.collection_ne_reports) hleft.queue
      exact hremoved.drain_kept (.refl _)
    | purged _ _ htenant hqueue =>
      have hagree := Tenant.AgreeOn.of_readable htenant .univ
      refine (h.removed ?_ hagree.unavailable (fun other hother => ?_) hqueue).drain_kept (.refl _)
      · exact (hagree.documents _ (Set.mem_univ _)).trans
          ((Store.documents_replaced_of_ne id.collection_ne_reports.symm _ _).trans
            (Store.documents_replaced_self _ _))
      · exact (hagree.documents _ (Set.mem_univ _)).trans
          ((Store.documents_replaced_of_ne (fun heq => hother (ReportId.collection_injective heq)) _ _).trans
            (Store.documents_replaced_of_ne other.collection_ne_reports _ _))

/-- **A call that was made and drained** leaves a service at rest that was at rest. -/
theorem call (h : Resting .univ s definitions) (made : Call) :
    ∃ definitions', Resting .univ (RestStep.take (.call made) s) definitions' := by
  show ∃ definitions', Resting .univ (drain (made.perform.run s).2).2 definitions'
  cases made with
  | create draft writer =>
    rw [Call.perform, run_quietly]
    rcases create_cases draft writer s with ⟨e, u, hrun, hu⟩ | ⟨newId, answer, u, hrun, -, hnone, hu⟩
    · rw [hrun]
      exact h.drain_kept hu
    · rw [hrun]
      exact (h.added (u := { u with queue := s.queue }) hnone ⟨hu.tenant, rfl, hu.runs⟩).drain_submitted hu.queue
  | modify reportId patch writer =>
    rw [Call.perform, run_quietly]
    rcases modify_cases reportId patch writer s with ⟨e, u, hrun, hu⟩ | ⟨id, stored, answer, u, hrun, -, hu⟩
    · rw [hrun]
      exact h.drain_kept hu
    · rw [hrun]
      -- the edit is looked at before the job is submitted, so that the slots are still those of the queue before
      exact ((h.mono _).edited (u := { u with queue := s.queue }) ⟨hu.tenant, rfl, hu.runs⟩).drain_submitted hu.queue
  | delete reportId writer =>
    rw [Call.perform]
    rcases delete_cases reportId writer s with ⟨e, u, hrun, hu⟩ | ⟨id, stored, u, hrun, -, hu⟩
    · rw [hrun]
      exact h.drain_kept hu
    · rw [hrun]
      exact (h.edited hu).drain_kept (.refl u)
  | purge reportId =>
    rw [Call.perform, run_quietly]
    exact h.drain_purge reportId
  | generate reportId =>
    rw [Call.perform, run_quietly]
    rcases generate_cases reportId s with ⟨e, u, hrun, hu⟩ | ⟨id, stored, answer, u, hrun, -, htenant, hqueue, hruns⟩
    · rw [hrun]
      exact h.drain_kept hu
    · rw [hrun]
      exact ((h.mono _).kept (u := { u with queue := s.queue }) ⟨htenant, rfl, hruns⟩).drain_submitted hqueue
  | materialize reportId =>
    rw [Call.perform, run_quietly]
    rcases materialize_cases reportId s with ⟨e, u, hrun, hu⟩ | ⟨id, stored, u, -, hu, hrun⟩
    · rw [hrun]
      exact h.drain_kept hu
    · rw [hrun]
      have hresting := h.kept hu
      have hissued : ({ u with queue := (u.queue.issue id).2 } : Service).queue.jobs = [] :=
        (jobs_issue id u.queue).trans hresting.jobs
      obtain ⟨definitions', hran⟩ := (hresting.mono { other | other ≠ id }).runFresh
      dsimp only
      rw [drain_of_jobs_eq_nil hissued]
      exact hran.drain_kept (.refl _)
  | ask question => exact h.drain_kept (kept_put question s)

/-- What happens from outside leaves a service at rest. -/
theorem outside (h : Resting .univ s definitions) (event : Outside) :
    Resting .univ (RestStep.take (.outside event) s) definitions where
  decodes := by
    show Registry.Decodes (Registry.documents (event.change s.tenant)) definitions
    rw [event.definitions]
    exact h.decodes
  nodup := h.nodup
  settled d hd hquiet := (h.settled d hd hquiet).congr rfl rfl rfl (event.rows s.tenant d.reportId)
  available := event.available s.tenant h.available
  recorded := h.recorded
  jobs := h.jobs

/-- **A service goes on to rest**, whatever steps it takes. -/
theorem rested (h : Resting .univ s definitions) (steps : List RestStep) :
    ∃ definitions', Resting .univ (rested steps s) definitions' := by
  induction steps generalizing s definitions with
  | nil => exact ⟨definitions, h⟩
  | cons step steps ih =>
    cases step with
    | call made =>
      obtain ⟨definitions', hstep⟩ := h.call made
      exact ih hstep
    | outside event => exact ih (h.outside event)

end Resting

/-- **At rest the queue, the definitions and the rows agree.** A service starts without definitions and jobs, on a
store whose definitions can be reached and will be. Whatever callers do, if the queue is drained behind every call,
then all definitions decode, no two are of one report, and what the queue knows of a report is over and is what its
definition says, with the number of the published rows. -/
theorem exists_atRest {s : Service} (hqueue : s.queue = {}) (hdefinitions : s.definitions = [])
    (havailable : s.tenant.store.unavailable.contains Store.reports = false) (steps : List RestStep) :
    ∃ definitions, (rested steps s).AtRest definitions := by
  have hstart : Resting .univ s [] := {
    decodes := hdefinitions ▸ .nil
    nodup := .nil
    settled := fun d hd => absurd hd List.not_mem_nil
    available := havailable
    recorded := ⟨[], hqueue ▸ .nil⟩
    jobs := hqueue ▸ rfl }
  obtain ⟨definitions, hrested⟩ := hstart.rested steps
  exact ⟨definitions, hrested.atRest⟩

end Service

/-! ### A new guest book -/

/-- A service that has visits and no reports yet. -/
def newBook : Service where
  tenant :=
    { store := { collections := [("item_visits", { documents := visits })] }
      clock := .epoch
      today := .epoch }

/-- The draft of the report that lists the guests. -/
def guestsDraft : ReportDraft where
  toReportContent := guestsReport.toReportContent
  reportId := some guestsReport.reportId

/-- The report is created, the visits go out of reach, and the report is asked for again and deleted. -/
def bookSteps : List Service.RestStep :=
  [.call (.create guestsDraft "Ada"), .outside (.outage "item_visits" (by decide)), .call (.generate "guests"),
    .call (.delete "guests" "Ada")]

/-- **The guest book is at rest** behind these steps. Its report was published behind the first of them, and failed
behind all. -/
theorem newBook_atRest :
    newBook.queue = {} ∧ newBook.definitions = []
      ∧ newBook.tenant.store.unavailable.contains Store.reports = false
      ∧ ((Service.rested (bookSteps.take 1) newBook).queue.status? guestsReport.reportId).map
          (fun status => (status.state, status.generation, status.rows)) = some (.published, 1, 3)
      ∧ ((Service.rested bookSteps newBook).queue.status? guestsReport.reportId).map
          (fun status => (status.state, status.generation, status.rows)) = some (.failed, 2, 3)
      ∧ ∃ definitions, (Service.rested bookSteps newBook).AtRest definitions := by
  refine ⟨rfl, rfl, rfl, ?_, ?_, Service.exists_atRest rfl rfl rfl bookSteps⟩
  · decide +kernel
  · decide +kernel

end Rollup
