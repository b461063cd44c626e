import Rollup.Proofs.Computing
import Rollup.Service.Run

/-!
# How runs end

A run that goes on computes the rows of its report, puts them in place and records its status. What it leaves
behind is settled by three things: whether the job is stale, what computing the rows answers, and whether the
rows can be put in place (`Service.Ending`). Every run ends in one of these ways (`Service.ending_execute`), so
that what a run keeps is shown way by way, without looking into the run again.
-/

namespace Rollup

open TenantAction (Reads answer answer_bind)

namespace Store

variable {name other : String}

/-- A collection that was put in place is there. -/
theorem collection_withCollection_self (c : Collection) (s : Store) :
    (s.withCollection name c).collection name = c := by
  unfold collection withCollection
  rw [Keyed.get?_insert_self]
  rfl

/-- Putting a collection in place leaves the others alone. -/
theorem collection_withCollection_of_ne (h : other ≠ name) (c : Collection) (s : Store) :
    (s.withCollection name c).collection other = s.collection other := by
  unfold collection withCollection
  rw [Keyed.get?_insert_of_ne h]

/-- Its documents are there. -/
theorem documents_withCollection_self (c : Collection) (s : Store) :
    (s.withCollection name c).documents name = c.documents :=
  congrArg Collection.documents (collection_withCollection_self c s)

/-- The documents of the others are as they were. -/
theorem documents_withCollection_of_ne (h : other ≠ name) (c : Collection) (s : Store) :
    (s.withCollection name c).documents other = s.documents other :=
  congrArg Collection.documents (collection_withCollection_of_ne h c s)

/-- The store with other documents in the place of all of a collection. -/
def replaced (name : String) (documents : List Json) (s : Store) : Store :=
  s.withCollection name { s.collection name with documents }

/-- Documents that replace others are there. -/
theorem documents_replaced_self (documents : List Json) (s : Store) :
    (s.replaced name documents).documents name = documents := documents_withCollection_self _ s

/-- Replacing the documents of a collection leaves the others alone. -/
theorem documents_replaced_of_ne (h : other ≠ name) (documents : List Json) (s : Store) :
    (s.replaced name documents).documents other = s.documents other :=
  documents_withCollection_of_ne h _ s

/-- What replacing all documents gives. -/
theorem run_replace (documents : List Json) (s : Store) : (replace name documents).run s
    = if s.unavailable.contains name then (.error (.unavailable name), s)
      else (.ok (), s.replaced name documents) := by
  unfold replace
  by_cases h : s.unavailable.contains name
  · rw [run_of_unavailable h, if_pos h]
  · rw [run_of_available (Bool.eq_false_iff.2 h), if_neg h]
    rfl

/-- What writing fields of documents leaves. -/
theorem run_update_of_available (h : s.unavailable.contains name = false) (filter : Predicate)
    (written : List (String × Json)) : (update name filter written).run s
      = (.ok ((s.documents name).filter filter.holds).length, s.changed name fun c =>
          { c with documents := c.documents.map fun d => if filter.holds d then setFields written d else d }) := by
  unfold update
  rw [run_of_available h]
  exact run_changeExisting_pure _ _ _ s

/-- A collection that does not exist is empty, and a change of its documents that leaves it empty may be left
out. -/
theorem documents_changed_self {f : List Json → List Json} (hf : f [] = []) (s : Store) :
    (s.changed name fun c => { c with documents := f c.documents }).documents name = f (s.documents name) := by
  unfold changed
  split
  · exact documents_withCollection_self _ s
  · next h =>
    have hnone : Keyed.get? name s.collections = none := by
      unfold hasCollection Keyed.contains at h
      simpa using h
    unfold documents collection
    rw [hnone]
    exact hf.symm

/-- A changed collection that does not exist stays empty. -/
theorem documents_changed_map (f : Json → Json) (s : Store) :
    (s.changed name fun c => { c with documents := c.documents.map f }).documents name
      = (s.documents name).map f :=
  documents_changed_self (f := List.map f) rfl s

end Store

/-- An action on the store is run on the store of the tenant. -/
theorem TenantAction.run_onStore {α : Type} (operation : String) (a : StoreAction α) (t : Tenant) :
    (onStore operation a).run t
      = ((a.run t.store).1.mapError (.store operation), { t with store := (a.run t.store).2 }) := rfl

/-- A definition with a status noted in it, where it is the one of a report. -/
def Registry.stamped (id : ReportId) (status : MaterializationStatus) (document : Json) : Json :=
  if (isReport id).holds document then Document.set statusPath status.toJson document else document

/-- The store with a status noted in the definition of a report. -/
def Store.noted (id : ReportId) (status : MaterializationStatus) (s : Store) : Store :=
  s.changed Store.reports fun c => { c with documents := c.documents.map (Registry.stamped id status) }

/-- Noting a status changes the registry only. -/
theorem Registry.run_recordStatus {t : Tenant} (h : t.store.unavailable.contains Store.reports = false)
    (id : ReportId) (status : MaterializationStatus) :
    ((recordStatus id status).run t).2 = { t with store := t.store.noted id status } := by
  unfold recordStatus
  rw [run_bind, TenantAction.run_onStore, Store.run_update_of_available h]
  rfl

/-- The text of a report id is read back. -/
theorem ReportId.parse_text (id : ReportId) : parse id.text = .ok id := by
  unfold parse ofText?
  rw [dif_pos id.valid]

/-- A report id is its text. -/
theorem ReportId.eq_of_text {id other : ReportId} (h : id.text = other.text) : id = other := by
  cases id
  cases other
  exact ReportId.mk.injEq .. ▸ h

/-- Rows of different reports are kept apart. -/
theorem ReportId.collection_injective {id other : ReportId} (h : id.collection = other.collection) :
    id = other := by
  have hchars := congrArg String.toList h
  exact eq_of_text (by simpa [collection, Store.rowsOf, String.toList_inj] using hchars)

/-- Rows are not kept among the definitions. -/
theorem ReportId.collection_ne_reports (id : ReportId) : id.collection ≠ Store.reports := by
  intro h
  have hchars := congrArg String.toList h
  simp [ReportId.collection, Store.rowsOf, Store.reports] at hchars

namespace Registry

variable (id : ReportId) (status : MaterializationStatus) (t : Tenant)

/-- A status is not noted where the definitions cannot be reached. -/
theorem run_recordStatus_of_unavailable {t : Tenant}
    (h : t.store.unavailable.contains Store.reports = true) :
    ((recordStatus id status).run t).2 = t := by
  unfold recordStatus Store.update
  rw [run_bind, TenantAction.run_onStore, Store.run_of_unavailable h]
  rfl

/-- **Noting a status** touches the definitions only. -/
theorem agreeOn_recordStatus :
    ((recordStatus id status).run t).2.AgreeOn { name | name ≠ Store.reports } t := by
  cases h : t.store.unavailable.contains Store.reports with
  | true =>
    rw [run_recordStatus_of_unavailable id status h]
    exact .refl _ _
  | false =>
    rw [run_recordStatus h]
    exact ⟨rfl, rfl, rfl, Store.unavailable_changed _ _ _,
      fun name hname => Store.documents_changed_of_ne hname _ _⟩

/-- What noting a status makes of the definitions. -/
theorem documents_recordStatus : ((recordStatus id status).run t).2.store.documents Store.reports
    = if t.store.unavailable.contains Store.reports then t.store.documents Store.reports
      else (t.store.documents Store.reports).map (stamped id status) := by
  cases h : t.store.unavailable.contains Store.reports with
  | true => rw [run_recordStatus_of_unavailable id status h, if_pos rfl]
  | false =>
    rw [run_recordStatus h, if_neg Bool.false_ne_true]
    exact Store.documents_changed_map _ _

end Registry

namespace Tenant

/-- The tenant with other documents in the place of all of a collection. -/
def replaced (name : String) (documents : List Json) (t : Tenant) : Tenant :=
  { t with store := t.store.replaced name documents }

/-- Replacing the documents of a collection touches no other. -/
theorem agreeOn_replaced (name : String) (documents : List Json) (t : Tenant) :
    (t.replaced name documents).AgreeOn { other | other ≠ name } t :=
  ⟨rfl, rfl, rfl, rfl, fun _ hother => Store.documents_replaced_of_ne hother _ _⟩

/-- Replacing documents depends on what can be read only. -/
theorem readable_replaced {t u : Tenant} (h : t.readable = u.readable) (name : String)
    (documents : List Json) : (t.replaced name documents).readable = (u.replaced name documents).readable := by
  have hagree := AgreeOn.of_readable h .univ
  have hdocuments : ∀ other, (t.store.replaced name documents).documents other
      = (u.store.replaced name documents).documents other := by
    intro other
    by_cases hname : other = name
    · subst hname
      rw [Store.documents_replaced_self, Store.documents_replaced_self]
    · rw [Store.documents_replaced_of_ne hname, Store.documents_replaced_of_ne hname,
        hagree.documents other (Set.mem_univ _)]
  exact Prod.ext hagree.config (Prod.ext hagree.clock (Prod.ext hagree.today
    (Prod.ext hagree.unavailable (funext hdocuments))))

end Tenant

/-- What follows a pure step is answered behind it. -/
theorem TenantAction.answer_ofExcept_bind {α β : Type} (result : Except ReportError α)
    (f : α → TenantAction β) (t : Tenant) :
    (ofExcept id result >>= f).answer t = result.bind fun x => (f x).answer t := by
  cases result <;> rfl

namespace Rows

/-- **What computing the rows of a report answers.** -/
theorem answer_compute (id : ReportId) (time : Instant) (t : Tenant) :
    (compute id time).answer t = ((Registry.find id).answer t).bind fun found =>
      (Registry.active id found).bind fun d => (computeFor d.toReportContent time).answer t := by
  have hnext : ∀ found, Reads .univ (TenantAction.ofExcept (fun e => e) (Registry.active id found) >>=
      fun d => computeFor d.toReportContent time) :=
    fun _ => (Reads.ofExcept _ _ _).bind fun _ => reads_computeFor _ _
  have hcompute : compute id time = Registry.find id >>= fun found =>
      TenantAction.ofExcept (fun e => e) (Registry.active id found) >>= fun d =>
        computeFor d.toReportContent time := by
    unfold compute Registry.load
    simp only [bind_assoc]
  rw [hcompute, answer_bind (Registry.reads_find (Set.mem_univ _) id) hnext]
  exact congrArg _ (funext fun found => TenantAction.answer_ofExcept_bind _ _ _)

/-- Rows that were computed are those of the definition of the report, which is not deleted. -/
theorem exists_definition_of_compute {id : ReportId} {time : Instant} {t : Tenant}
    {computed : ComputedRows} (h : (compute id time).answer t = .ok computed) :
    ∃ d, (Registry.find id).answer t = .ok (some d) ∧ d.isDeleted = false
      ∧ (computeFor d.toReportContent time).answer t = .ok computed := by
  rw [answer_compute] at h
  obtain ⟨found, hfound, h⟩ := exists_of_bind_eq_ok h
  obtain ⟨d, hactive, h⟩ := exists_of_bind_eq_ok h
  unfold Registry.active at hactive
  split at hactive
  · split at hactive
    · exact absurd hactive nofun
    · next hdeleted =>
      obtain rfl := Except.ok.inj hactive
      exact ⟨_, hfound, Bool.eq_false_iff.2 hdeleted, h⟩
  · exact absurd hactive nofun

/-- **What publishing gives.** -/
theorem run_publish (id : ReportId) (rows : List Json) (t : Tenant) : (publish id rows).run t
    = if t.store.unavailable.contains id.collection
      then (.error (.store "publish report rows" (.unavailable id.collection)), t)
      else (.ok rows.length, t.replaced id.collection rows) := by
  unfold publish
  rw [run_bind, TenantAction.run_onStore, Store.run_replace]
  cases t.store.unavailable.contains id.collection <;> rfl

end Rows

namespace Queue

/-- Of two statuses that are noted the second remains. -/
@[simp] theorem setStatus_setStatus (n : ℕ) (status status' : MaterializationStatus) (q : Queue) :
    (q.setStatus n status).setStatus n status' = q.setStatus n status' := by
  unfold setStatus modifySlot
  rw [List.modify_modify_eq]
  rfl

/-- Noting a status asks for nothing. -/
@[simp] theorem latest_slot_setStatus (n m : ℕ) (status : MaterializationStatus) (q : Queue) :
    ((q.setStatus n status).slot m).latest = (q.slot m).latest := by
  unfold slot setStatus modifySlot
  simp only [List.getElem?_modify]
  cases q.slots[m]? with
  | none => rfl
  | some s => by_cases h : n = m <;> simp [h]

/-- Noting a status makes no job stale. -/
@[simp] theorem isStale_setStatus (job : Job) (n : ℕ) (status : MaterializationStatus) (q : Queue) :
    (q.setStatus n status).isStale job = q.isStale job := by
  unfold isStale
  rw [latest_slot_setStatus]

end Queue

namespace Service

/-- The status of a run that published rows. -/
def publishedStatus (job : Job) (rows : List Json) (time : Instant) : MaterializationStatus :=
  .published (UInt64.ofNat job.generation) (UInt64.ofNat rows.length) time

/-- **What computing the rows of the report of a job answers**, for the instant of the tenant. -/
def computed (job : Job) (s : Service) : Except ReportError ComputedRows :=
  (Rows.compute job.reportId s.tenant.clock).answer s.tenant

/-- The status of the slot of a job that runs. -/
def running (job : Job) (s : Service) : MaterializationStatus :=
  { (s.queue.slot job.slot).status with state := .running }

/-- **What a run leaves before it records its status**: the slot runs, and the same can be read as of some
tenant. -/
structure Ran (job : Job) (t : Tenant) (s u : Service) : Prop where
  /-- What can be read. -/
  tenant : u.tenant.readable = t.readable
  /-- The slot runs. -/
  queue : u.queue = s.queue.setStatus job.slot (running job s)

namespace Ran

variable {job : Job} {t : Tenant} {s u : Service} (h : Ran job t s u) (status : MaterializationStatus)
include h

/-- Recording a status touches the definitions only. -/
theorem agreeOn_record : (record job status u).2.tenant.AgreeOn { name | name ≠ Store.reports } t :=
  (Registry.agreeOn_recordStatus _ _ _).trans (.of_readable h.tenant _)

/-- What recording a status makes of the definitions. -/
theorem documents_record : (record job status u).2.tenant.store.documents Store.reports
    = if t.store.unavailable.contains Store.reports then t.store.documents Store.reports
      else (t.store.documents Store.reports).map (Registry.stamped job.reportId status) := by
  have hagree := Tenant.AgreeOn.of_readable h.tenant .univ
  rw [← hagree.unavailable, ← hagree.documents Store.reports (Set.mem_univ _)]
  exact Registry.documents_recordStatus _ _ _

/-- The status is noted in the slot. -/
theorem queue_record : (record job status u).2.queue = s.queue.setStatus job.slot status := by
  show u.queue.setStatus job.slot status = _
  rw [h.queue, Queue.setStatus_setStatus]

end Ran

/-- **How a run ends**, and why. -/
inductive Ending (job : Job) (s : Service) : MaterializationStatus × Service → Prop where
  /-- The job is stale: nothing happens. -/
  | superseded (stale : s.queue.isStale job = true) :
    Ending job s (supersede job s)
  /-- There is nothing to publish. -/
  | skipped {u : Service} (fresh : s.queue.isStale job = false) (why : computed job s = .ok .nothing)
    (ran : Ran job s.tenant s u) :
    Ending job s (record job ((running job s).reach .skipped (UInt64.ofNat job.generation)) u)
  /-- The rows could not be computed, or they could not be put in place. -/
  | failed {e : ReportError} {u : Service} (fresh : s.queue.isStale job = false)
    (why : computed job s = .error e ∨ (∃ rows, computed job s = .ok (.rows rows))
      ∧ s.tenant.store.unavailable.contains job.reportId.collection = true)
    (ran : Ran job s.tenant s u) :
    Ending job s (record job ((running job s).fail (UInt64.ofNat job.generation) e.message) u)
  /-- The rows were computed and put in place. -/
  | published {rows : List Json} {u : Service} (fresh : s.queue.isStale job = false)
    (why : computed job s = .ok (.rows rows))
    (available : s.tenant.store.unavailable.contains job.reportId.collection = false)
    (ran : Ran job (s.tenant.replaced job.reportId.collection rows) s u) :
    Ending job s (record job (publishedStatus job rows s.tenant.today) u)

/-- Computing for a run only reads. -/
theorem reads_compute (r : Run) : Reads .univ r.compute :=
  (Reads.ofExcept _ _ _).bind fun _ => (Reads.ofExcept _ _ _).bind fun _ => reads_computeFor _ _

/-- A run that has just begun computes the rows of its report. -/
theorem answer_compute_begin (job : Job) (s : Service) :
    (begin job s).1.compute.answer (begin job s).2.tenant = computed job s := by
  have hkept : (begin job s).2.tenant.readable = s.tenant.readable :=
    (Registry.reads_find (Set.mem_univ _) job.reportId).keeps s.tenant
  rw [(reads_compute _).agrees _ _ (.of_readable hkept .univ), computed, Rows.answer_compute]
  unfold Run.compute
  rw [TenantAction.answer_ofExcept_bind]
  exact congrArg _ (funext fun found => TenantAction.answer_ofExcept_bind _ _ _)

/-- What finishing a run does, once it is known what computing the rows answers. -/
theorem finish_eq (r : Run) (s : Service) : finish r s = (match r.compute.answer s.tenant with
    | .error e => concludeFailed r e
    | .ok .nothing => concludeSkipped r
    | .ok (.rows rows) => do
      if (← get).queue.isStale r.job then supersede r.job
      else
        match ← attempt (Rows.publish r.job.reportId rows) with
        | .error e => concludeFailed r e
        | .ok count => concludePublished r count : StateM Service MaterializationStatus)
      { s with tenant := (r.compute.run s.tenant).2 } := rfl

/-- **How a run ends that has rows to publish**: they are published, unless the rows of the report cannot be reached. -/
theorem ending_publish {job : Job} {s : Service} {t : Tenant} {rows : List Json}
    (hstale : s.queue.isStale job = false) (hcomputed : computed job s = .ok (.rows rows))
    (hkept : t.readable = s.tenant.readable) :
    Ending job s ((match ((Rows.publish job.reportId rows).run t).1 with
      | .error e => concludeFailed (begin job s).1 e
      | .ok count => concludePublished (begin job s).1 count)
        { (begin job s).2 with tenant := ((Rows.publish job.reportId rows).run t).2 }) := by
  have hagree := Tenant.AgreeOn.of_readable hkept .univ
  rw [Rows.run_publish, hagree.unavailable]
  cases havailable : s.tenant.store.unavailable.contains job.reportId.collection with
  | true => exact .failed hstale (.inr ⟨⟨rows, hcomputed⟩, havailable⟩) ⟨hkept, rfl⟩
  | false =>
    rw [if_neg Bool.false_ne_true]
    show Ending job s (record job (publishedStatus job rows t.today)
      { (begin job s).2 with tenant := { t.replaced job.reportId.collection rows with
        metrics := t.metrics.recordPublished rows.length } })
    have hstatus : publishedStatus job rows t.today = publishedStatus job rows s.tenant.today := by
      rw [hagree.today]
    rw [hstatus]
    exact .published hstale hcomputed havailable ⟨Tenant.readable_replaced hkept _ _, rfl⟩

/-- **Every run ends in one of these ways.** -/
theorem ending_execute (job : Job) (s : Service) : Ending job s (execute job s) := by
  have hexecute : execute job s
      = (if s.queue.isStale job then supersede job else begin job >>= finish) s := rfl
  cases hstale : s.queue.isStale job with
  | true =>
    rw [hexecute, hstale, if_pos rfl]
    exact .superseded hstale
  | false =>
    rw [hexecute, hstale, if_neg Bool.false_ne_true]
    show Ending job s (finish (begin job s).1 (begin job s).2)
    have hkept : ((begin job s).1.compute.run (begin job s).2.tenant).2.readable = s.tenant.readable :=
      ((reads_compute _).keeps _).trans
        ((Registry.reads_find (Set.mem_univ _) job.reportId).keeps s.tenant)
    -- nothing is submitted while the run computes, so that its job is not stale behind that either
    have hfresh : (begin job s).2.queue.isStale job = false :=
      (Queue.isStale_setStatus ..).trans hstale
    rw [finish_eq, answer_compute_begin]
    generalize ((begin job s).1.compute.run (begin job s).2.tenant).2 = t at hkept ⊢
    cases hcomputed : computed job s with
    | error e => exact .failed hstale (.inl hcomputed) ⟨hkept, rfl⟩
    | ok result =>
      cases result with
      | nothing => exact .skipped hstale hcomputed ⟨hkept, rfl⟩
      | rows rows =>
        show Ending job s ((if (begin job s).2.queue.isStale job then supersede job
          else attempt (Rows.publish job.reportId rows) >>= fun result =>
            match result with
            | .error e => concludeFailed (begin job s).1 e
            | .ok count => concludePublished (begin job s).1 count) { (begin job s).2 with tenant := t })
        rw [hfresh, if_neg Bool.false_ne_true]
        exact ending_publish hstale hcomputed hkept

end Service

end Rollup
