import Rollup.Proofs.Running

/-!
# A run is all or nothing

A run has many places to fail at: the definition is gone, settings or catalogs cannot be read, a condition or a
formula does not compile, a collection cannot be reached. None of them is seen in the documents. Either all rows
that were computed from the documents before the run are in the place of the old ones, or the old ones are
still there, and beside them a run writes nothing but its own status into the definition of its report
(`Service.execute_allOrNothing`).

Which of the two it is depends on the job, the documents and the destination alone, so that a run which could
publish does.
-/

namespace Rollup

namespace Service

/-- **What a run leaves of the documents**, however it ended. -/
structure AllOrNothing (job : Job) (before : Service) (status : MaterializationStatus) (after : Service) :
    Prop where
  /-- The run is over. -/
  isTerminal : status.state.isTerminal = true
  /-- It is published exactly if its job is not stale, its rows can be computed and put in place. -/
  published_iff : status.state = .published ↔ before.queue.isStale job = false
    ∧ before.tenant.store.unavailable.contains job.reportId.collection = false
    ∧ ∃ rows, computed job before = .ok (.rows rows)
  /-- All: the rows of the report are those that are computed from the documents before the run, and the status
  tells how many. -/
  all : status.state = .published → ∃ rows, computed job before = .ok (.rows rows)
    ∧ after.tenant.store.documents job.reportId.collection = rows
    ∧ status.rows = UInt64.ofNat rows.length
  /-- Nothing: the rows of the report are still there. -/
  nothing : status.state ≠ .published → after.tenant.store.documents job.reportId.collection
    = before.tenant.store.documents job.reportId.collection
  /-- No document of another collection changes, the definitions left out. -/
  elsewhere : ∀ name, name ≠ job.reportId.collection → name ≠ Store.reports →
    after.tenant.store.documents name = before.tenant.store.documents name
  /-- The definitions do not change either, or the status is noted in those of the report; that of a superseded
  run never is. -/
  definitions : after.tenant.store.documents Store.reports = before.tenant.store.documents Store.reports
    ∨ status.state ≠ .superseded ∧ after.tenant.store.documents Store.reports
      = (before.tenant.store.documents Store.reports).map (Registry.stamped job.reportId status)

/-- The definitions behind a run that recorded its status. -/
theorem Ran.definitions {job : Job} {t : Tenant} {s u : Service} (h : Ran job t s u)
    (hreports : t.store.documents Store.reports = s.tenant.store.documents Store.reports)
    {status : MaterializationStatus} (hstate : status.state ≠ .superseded) :
    (record job status u).2.tenant.store.documents Store.reports = s.tenant.store.documents Store.reports
      ∨ status.state ≠ .superseded ∧ (record job status u).2.tenant.store.documents Store.reports
        = (s.tenant.store.documents Store.reports).map (Registry.stamped job.reportId status) := by
  rw [h.documents_record, hreports]
  split
  · exact .inl rfl
  · exact .inr ⟨hstate, rfl⟩

/-- A run that goes on and does not publish leaves all documents but its status. -/
theorem Ran.allOrNothing {job : Job} {s u : Service} (h : Ran job s.tenant s u)
    {status : MaterializationStatus} (hterminal : status.state.isTerminal = true)
    (hstate : status.state ≠ .published) (hsuperseded : status.state ≠ .superseded)
    (why : ¬ (s.tenant.store.unavailable.contains job.reportId.collection = false
      ∧ ∃ rows, computed job s = .ok (.rows rows))) :
    AllOrNothing job s status (record job status u).2 where
  isTerminal := hterminal
  published_iff := iff_of_false hstate fun hpublished => why hpublished.2
  all := fun hpublished => absurd hpublished hstate
  nothing := fun _ => (h.agreeOn_record status).documents _ job.reportId.collection_ne_reports
  elsewhere := fun name _ hname => (h.agreeOn_record status).documents name hname
  definitions := h.definitions rfl hsuperseded

/-- **A run is all or nothing, and touches nothing else.** -/
theorem execute_allOrNothing (job : Job) (s : Service) :
    AllOrNothing job s (execute job s).1 (execute job s).2 := by
  have hending := ending_execute job s
  generalize execute job s = ended at hending
  cases hending with
  | superseded hstale => exact {
      isTerminal := rfl
      published_iff := iff_of_false nofun fun h => absurd (hstale.symm.trans h.1) nofun
      all := nofun
      nothing := fun _ => rfl
      elsewhere := fun _ _ _ => rfl
      definitions := .inl rfl }
  | skipped _ hcomputed hran =>
    refine hran.allOrNothing rfl nofun nofun ?_
    rintro ⟨-, rows, hrows⟩
    exact absurd (hcomputed.symm.trans hrows) nofun
  | failed _ hwhy hran =>
    refine hran.allOrNothing rfl nofun nofun ?_
    rintro ⟨havailable, rows, hrows⟩
    rcases hwhy with hcomputed | ⟨-, hunavailable⟩
    · exact absurd (hcomputed.symm.trans hrows) nofun
    · exact absurd (hunavailable.symm.trans havailable) nofun
  | @published rows u hfresh hcomputed havailable hran =>
    have hleft := hran.agreeOn_record (publishedStatus job rows s.tenant.today)
    have hreplaced := Tenant.agreeOn_replaced job.reportId.collection rows s.tenant
    exact {
      isTerminal := rfl
      published_iff := iff_of_true rfl ⟨hfresh, havailable, rows, hcomputed⟩
      all := fun _ => ⟨rows, hcomputed, (hleft.documents _ job.reportId.collection_ne_reports).trans
        (Store.documents_replaced_self _ _), rfl⟩
      nothing := fun h => absurd rfl h
      elsewhere := fun name hrows hname =>
        (hleft.documents name hname).trans (hreplaced.documents name hrows)
      definitions := hran.definitions
        (hreplaced.documents _ job.reportId.collection_ne_reports.symm) nofun }

end Service

end Rollup
