import Rollup.Proofs.Editing
import Rollup.Proofs.Paging

/-!
# What calls leave behind

A call of a service looks at the definitions, writes one or two collections and changes the queue. Each operation has
one lemma here that says how it can end and what it then leaves of the definitions and of the queue, as far as can be
read; whoever needs to know what a call does looks there.

Most calls are refused before they write anything, or do all that they were asked for. So **a failed call leaves all
documents as they were** (`Service.documents_of_failed_call`), with one exception: purging a report removes its
definition first and its rows then, and rows that cannot be reached do not bring the definition back.
-/

namespace Rollup

open TenantAction (Reads answer)

/-- A definition that can be loaded is found, and is not deleted. -/
theorem Registry.found_of_load {id : ReportId} {t : Tenant} {d : ReportDefinition} (h : (load id).answer t = .ok d) :
    t.store.unavailable.contains Store.reports = false ∧ firstOf id (documents t) = .ok (some d)
      ∧ d.isDeleted = false := by
  unfold load at h
  rw [TenantAction.answer_bind (reads_find (Set.mem_univ _) id) fun _ => .ofExcept .univ _ _] at h
  obtain ⟨found, hfound, h⟩ := exists_of_bind_eq_ok h
  have havailable := available_of_find hfound
  rw [answer_find havailable] at hfound
  cases found with
  | none => exact absurd h nofun
  | some d' =>
    cases hdeleted : d'.isDeleted with
    | true =>
      have hactive : active id (some d') = .error (missing id) := if_pos hdeleted
      rw [hactive] at h
      exact absurd h nofun
    | false =>
      have hactive : active id (some d') = .ok d' := if_neg (Bool.eq_false_iff.1 hdeleted)
      rw [hactive] at h
      obtain rfl := Except.ok.inj h
      exact ⟨havailable, hfound, hdeleted⟩

/-- Where no definition is found, no document is of the report. -/
theorem Registry.filter_of_firstOf_none {id : ReportId} {documents : List Json} (h : firstOf id documents = .ok none) :
    documents.filter (isReport id).holds = [] := by
  unfold firstOf at h
  cases hfilter : documents.filter (isReport id).holds with
  | nil => rfl
  | cons document rest =>
    rw [hfilter] at h
    dsimp only at h
    cases hdecode : ReportDefinition.decode? document with
    | none => exact absurd (hdecode ▸ h) nofun
    | some d => exact absurd (hdecode ▸ h) nofun

namespace Service

/-! ## Calls -/

/-- Does something whose result is not looked at. -/
def quietly {α : Type} (a : ServiceAction α) : ServiceAction Unit := do
  let _ ← a

/-- Puts a question. -/
def Question.put : Question → ServiceAction Unit
  | .page q => quietly (Service.query q)
  | .count reportId owners => quietly (Service.count reportId owners)
  | .download q => quietly (Service.download q)

/-- **What callers ask of a service.** -/
inductive Call where
  /-- Create a report. -/
  | create (draft : ReportDraft) (writer : String)
  /-- Change a report. -/
  | modify (reportId : String) (patch : ReportPatch) (writer : String)
  /-- Delete a report. -/
  | delete (reportId writer : String)
  /-- Purge a report. -/
  | purge (reportId : String)
  /-- Ask for the rows of a report. -/
  | generate (reportId : String)
  /-- Ask for the rows of a report and wait for them. -/
  | materialize (reportId : String)
  /-- Put a question about rows. -/
  | ask (question : Question)

/-- **Performs a call.** -/
def Call.perform : Call → ServiceAction Unit
  | .create draft writer => quietly (Service.create draft writer)
  | .modify reportId patch writer => quietly (Service.modify reportId patch writer)
  | .delete reportId writer => Service.delete reportId writer
  | .purge reportId => quietly (Service.purge reportId)
  | .generate reportId => quietly (Service.generate reportId)
  | .materialize reportId => quietly (Service.materialize reportId)
  | .ask question => question.put

/-- Not looking at a result changes nothing. -/
theorem run_quietly {α : Type} (a : ServiceAction α) (s : Service) :
    (quietly a).run s = ((a.run s).1.map fun _ => (), (a.run s).2) := by
  unfold quietly
  rw [run_bind]
  rcases a.run s with ⟨_ | _, u⟩ <;> rfl

/-! ## What is left -/

/-- **A service that is left as it was**, as far as can be read. -/
structure Kept (s u : Service) : Prop where
  /-- The tenant. -/
  tenant : u.tenant.readable = s.tenant.readable
  /-- The queue. -/
  queue : u.queue = s.queue
  /-- The runs that were counted. -/
  runs : u.tenant.runs = s.tenant.runs

/-- **A service that is left with other definitions and another queue.** -/
structure Left (s : Service) (documents : List Json) (queue : Queue) (u : Service) : Prop where
  /-- The tenant. -/
  tenant : u.tenant.readable = (Registry.put documents s.tenant).readable
  /-- The queue. -/
  queue : u.queue = queue
  /-- The runs that were counted, which are those before. -/
  runs : u.tenant.runs = s.tenant.runs

/-- The definitions that a service has. -/
def definitions (s : Service) : List Json := Registry.documents s.tenant

/-- **A report that a caller names is found**, and is not deleted. -/
structure Found (s : Service) (text : String) (id : ReportId) (d : ReportDefinition) : Prop where
  /-- The text is an id. -/
  parse : ReportId.parse text = .ok id
  /-- The definitions can be reached. -/
  available : s.tenant.store.unavailable.contains Store.reports = false
  /-- The definition is among them. -/
  firstOf : Registry.firstOf id s.definitions = .ok (some d)
  /-- It is not deleted. -/
  notDeleted : d.isDeleted = false

/-- A service keeps itself. -/
theorem Kept.refl (s : Service) : Kept s s := ⟨rfl, rfl, rfl⟩

/-- Keeping goes on. -/
theorem Kept.trans {s u v : Service} (h : Kept s u) (h' : Kept u v) : Kept s v :=
  ⟨h'.tenant.trans h.tenant, h'.queue.trans h.queue, h'.runs.trans h.runs⟩

/-- A service that is kept has the same documents. -/
theorem Kept.documents {s u : Service} (h : Kept s u) (name : String) :
    u.tenant.store.documents name = s.tenant.store.documents name :=
  (Tenant.AgreeOn.of_readable h.tenant .univ).documents name (Set.mem_univ _)

/-- A service that is kept has the same definitions. -/
theorem Kept.definitions {s u : Service} (h : Kept s u) : u.definitions = s.definitions :=
  h.documents Store.reports

/-- A service that is kept can reach the same collections. -/
theorem Kept.unavailable {s u : Service} (h : Kept s u) :
    u.tenant.store.unavailable = s.tenant.store.unavailable :=
  (Tenant.AgreeOn.of_readable h.tenant .univ).unavailable

section Left

variable {s u : Service} {documents : List Json} {queue : Queue} (h : Left s documents queue u)
include h

/-- The definitions that are left. -/
theorem Left.definitions : u.definitions = documents :=
  ((Tenant.AgreeOn.of_readable h.tenant .univ).documents _ (Set.mem_univ _)).trans
    (Store.documents_replaced_self _ _)

/-- All other documents are left as they were. -/
theorem Left.documents_of_ne {name : String} (hname : name ≠ Store.reports) :
    u.tenant.store.documents name = s.tenant.store.documents name :=
  ((Tenant.AgreeOn.of_readable h.tenant .univ).documents _ (Set.mem_univ _)).trans
    (Store.documents_replaced_of_ne hname _ _)

/-- The same collections can be reached. -/
theorem Left.unavailable : u.tenant.store.unavailable = s.tenant.store.unavailable :=
  (Tenant.AgreeOn.of_readable h.tenant .univ).unavailable

end Left

/-- A service that is kept is left as it would be left before. -/
theorem Kept.left {s u v : Service} (h : Kept s u) {documents : List Json} {queue : Queue}
    (h' : Left u documents queue v) : Left s documents queue v :=
  ⟨h'.tenant.trans (Tenant.readable_replaced h.tenant _ _), h'.queue, h'.runs.trans h.runs⟩

/-- What only reads keeps the service. -/
theorem kept_onTenant {α : Type} {a : TenantAction α} (h : Reads .univ a) (s : Service) :
    Kept s ((onTenant a).run s).2 :=
  ⟨h.keeps s.tenant, rfl, h.counts s.tenant⟩

variable {α : Type}

/-- A pure step succeeds or fails, and nothing else. -/
theorem run_onTenant_ofExcept (result : Except ReportError α) (s : Service) :
    (onTenant (TenantAction.ofExcept id result)).run s = (result, s) := by
  cases result <;> rfl

/-- **What follows the loading of a definition** happens if it is found, on a service that is kept. -/
theorem load_bind_cases (text : String) (f : ReportId → ReportDefinition → ServiceAction α) (s : Service) :
    (∃ e u, (idOf text >>= fun id => load id >>= fun d => f id d).run s = (.error e, u) ∧ Kept s u)
      ∨ ∃ id d u, Found s text id d ∧ Kept s u
        ∧ (idOf text >>= fun id => load id >>= fun d => f id d).run s = (f id d).run u := by
  rw [run_bind]
  unfold idOf
  rw [run_onTenant_ofExcept]
  cases hparse : ReportId.parse text with
  | error e => exact .inl ⟨e, s, rfl, .refl s⟩
  | ok id =>
    have hkept : Kept s ((load id).run s).2 := kept_onTenant (Registry.reads_load (Set.mem_univ _) id) s
    have hanswer : (Registry.load id).answer s.tenant = ((load id).run s).1 := rfl
    show (∃ e u, (load id >>= fun d => f id d).run s = (.error e, u) ∧ Kept s u)
      ∨ ∃ id' d u, Found s text id' d ∧ Kept s u ∧ (load id >>= fun d => f id d).run s = (f id' d).run u
    rw [run_bind]
    generalize (load id).run s = ran at hkept hanswer ⊢
    obtain ⟨e | d, u⟩ := ran
    · exact .inl ⟨e, u, rfl, hkept⟩
    · obtain ⟨havailable, hfirst, hdeleted⟩ := Registry.found_of_load hanswer
      exact .inr ⟨id, d, u, ⟨hparse, havailable, hfirst, hdeleted⟩, hkept, rfl⟩

/-! ## One lemma for each operation -/

/-- An operation that looks at the service is run on it. -/
theorem run_get_bind (f : Service → ServiceAction α) (s : Service) :
    (MonadState.get >>= f : ServiceAction α).run s = (f s).run s := rfl

/-- Asking for the rows of a definition submits a job and does nothing else. -/
theorem run_schedule (d : ReportDefinition) (s : Service) : ∃ answer, (schedule d).run s
    = (.ok answer, { s with queue := (s.queue.submit d.reportId).2 }) := ⟨_, rfl⟩

/-- A service that was kept looks for a definition. -/
theorem find_cases {s u : Service} (h : Kept s u) (id : ReportId) :
    (∃ e v, (onTenant (Registry.find id)).run u = (.error e, v) ∧ Kept s v)
      ∨ ∃ found v, (onTenant (Registry.find id)).run u = (.ok found, v) ∧ Kept s v
        ∧ s.tenant.store.unavailable.contains Store.reports = false ∧ Registry.firstOf id s.definitions = .ok found := by
  have hreads := Registry.reads_find (Set.mem_univ Store.reports) id
  have hkept : Kept s ((onTenant (Registry.find id)).run u).2 := h.trans (kept_onTenant hreads u)
  have hanswer : (Registry.find id).answer s.tenant = ((onTenant (Registry.find id)).run u).1 :=
    hreads.agrees _ _ (Tenant.AgreeOn.of_readable h.tenant.symm .univ)
  generalize (onTenant (Registry.find id)).run u = ran at hkept hanswer ⊢
  obtain ⟨e | found, v⟩ := ran
  · exact .inl ⟨e, v, rfl, hkept⟩
  · have havailable := Registry.available_of_find hanswer
    rw [Registry.answer_find havailable] at hanswer
    exact .inr ⟨found, v, rfl, hkept, havailable, hanswer⟩

/-- Saving a new definition and asking for its rows. -/
theorem run_save_schedule {d : ReportDefinition} {s : Service}
    (havailable : s.tenant.store.unavailable.contains Store.reports = false)
    (hnone : s.definitions.filter (Registry.isReport d.reportId).holds = []) :
    ∃ answer u, (onTenant (Registry.save d) >>= fun _ => schedule d).run s = (.ok answer, u)
      ∧ Left s (s.definitions ++ [d.toJson]) (s.queue.submit d.reportId).2 u := by
  have hsave : (onTenant (Registry.save d)).run s
      = (.ok (), { s with tenant := Registry.put (s.definitions ++ [d.toJson]) s.tenant }) := by
    show (((Registry.save d).run s.tenant).1, { s with tenant := ((Registry.save d).run s.tenant).2 }) = _
    rw [Registry.run_save hnone, havailable]
    rfl
  obtain ⟨answer, hschedule⟩ := run_schedule d { s with tenant := Registry.put (s.definitions ++ [d.toJson]) s.tenant }
  rw [run_bind, hsave]
  exact ⟨answer, _, hschedule, rfl, rfl, rfl⟩

/-- Editing a definition. -/
theorem update_cases (d : ReportDefinition) (s : Service) :
    (∃ e u, (onTenant (Registry.update d)).run s = (.error e, u) ∧ Kept s u)
      ∨ ∃ u, (onTenant (Registry.update d)).run s = (.ok (), u)
        ∧ Left s (s.definitions.map (Registry.rewritten d)) s.queue u := by
  have hrun : (onTenant (Registry.update d)).run s
      = (((Registry.update d).run s.tenant).1, { s with tenant := ((Registry.update d).run s.tenant).2 }) := rfl
  have hruns := Registry.counts_update d s.tenant
  rw [hrun]
  rcases Registry.update_cases d s.tenant with ⟨e, t, hupdate, ht⟩ | ⟨t, hupdate, -, ht⟩
  · rw [hupdate] at hruns ⊢
    exact .inl ⟨e, _, rfl, ht, rfl, hruns⟩
  · rw [hupdate] at hruns ⊢
    exact .inr ⟨_, rfl, ht, rfl, hruns⟩

/-- **How creating a report can end**: it is refused, or its definition is added and its rows are asked for. -/
theorem create_cases (draft : ReportDraft) (writer : String) (s : Service) :
    (∃ e u, (create draft writer).run s = (.error e, u) ∧ Kept s u)
      ∨ ∃ newId answer u, (create draft writer).run s = (.ok answer, u)
        ∧ s.tenant.store.unavailable.contains Store.reports = false
        ∧ s.definitions.filter (Registry.isReport (draft.define newId writer s.tenant.today).reportId).holds = []
        ∧ Left s (s.definitions ++ [(draft.define newId writer s.tenant.today).toJson])
            (s.queue.submit (draft.define newId writer s.tenant.today).reportId).2 u := by
  have hid : ∃ newId u, (idFor draft).run s = (.ok newId, u) ∧ Kept s u ∧ u.tenant.today = s.tenant.today := by
    unfold idFor
    cases draft.reportId with
    | none => exact ⟨_, _, rfl, ⟨rfl, rfl, rfl⟩, rfl⟩
    | some id => exact ⟨id, s, rfl, .refl s, rfl⟩
  obtain ⟨newId, u, hrun, hu, htoday⟩ := hid
  unfold create
  rw [run_bind, hrun]
  dsimp only
  rw [run_get_bind, htoday]
  generalize hd : draft.define newId writer s.tenant.today = d
  rw [run_bind, run_onTenant_ofExcept]
  cases d.validate with
  | error e => exact .inl ⟨e, u, rfl, hu⟩
  | ok _ =>
    dsimp only
    rw [run_bind]
    rcases find_cases hu d.reportId with ⟨e, v, hfind, hv⟩ | ⟨found, v, hfind, hv, havailable, hfirst⟩
    · rw [hfind]
      exact .inl ⟨e, v, rfl, hv⟩
    · rw [hfind]
      cases found with
      | some stored => exact .inl ⟨_, v, rfl, hv⟩
      | none =>
        have hnone := Registry.filter_of_firstOf_none hfirst
        obtain ⟨answer, w, hsave, hw⟩ := run_save_schedule (d := d) (s := v) (hv.unavailable ▸ havailable)
          (hv.definitions.symm ▸ hnone)
        rw [hv.definitions, hv.queue] at hw
        exact .inr ⟨newId, answer, w, hsave, havailable, hd ▸ hnone, hd ▸ hv.left hw⟩

/-- **How changing a report can end**: it is refused, or its definition is edited and its rows are asked for. -/
theorem modify_cases (reportId : String) (patch : ReportPatch) (writer : String) (s : Service) :
    (∃ e u, (modify reportId patch writer).run s = (.error e, u) ∧ Kept s u)
      ∨ ∃ id stored answer u, (modify reportId patch writer).run s = (.ok answer, u) ∧ Found s reportId id stored
        ∧ Left s (s.definitions.map (Registry.rewritten (patch.apply writer s.tenant.today stored)))
            (s.queue.submit stored.reportId).2 u := by
  unfold modify
  rcases load_bind_cases reportId (fun _ stored => do
      let d := patch.apply writer (← get).tenant.today stored
      onTenant (TenantAction.ofExcept id d.validate)
      onTenant (Registry.update d)
      schedule d) s with ⟨e, u, hrun, hu⟩ | ⟨id, stored, u, hfound, hu, hrun⟩
  · exact .inl ⟨e, u, hrun, hu⟩
  · have htoday := (Tenant.AgreeOn.of_readable hu.tenant .univ).today
    rw [hrun, run_get_bind, htoday]
    dsimp only
    rw [run_bind, run_onTenant_ofExcept]
    cases (patch.apply writer s.tenant.today stored).validate with
    | error e => exact .inl ⟨e, u, rfl, hu⟩
    | ok _ =>
      dsimp only
      rw [run_bind]
      rcases update_cases (patch.apply writer s.tenant.today stored) u with ⟨e, v, hupdate, hv⟩ | ⟨v, hupdate, hv⟩
      · rw [hupdate]
        exact .inl ⟨e, v, rfl, hu.trans hv⟩
      · rw [hupdate]
        obtain ⟨answer, hschedule⟩ := run_schedule (patch.apply writer s.tenant.today stored) v
        rw [hu.definitions, hu.queue] at hv
        refine .inr ⟨id, stored, answer, _, hschedule, hfound, (hu.left hv).tenant, ?_, (hu.left hv).runs⟩
        rw [hv.queue]
        rfl

/-- **How deleting a report can end**: it is refused, or its definition is edited. -/
theorem delete_cases (reportId writer : String) (s : Service) :
    (∃ e u, (delete reportId writer).run s = (.error e, u) ∧ Kept s u)
      ∨ ∃ id stored u, (delete reportId writer).run s = (.ok (), u) ∧ Found s reportId id stored
        ∧ Left s (s.definitions.map (Registry.rewritten
            { stored with deletedAt := some s.tenant.today, deletedBy := writer })) s.queue u := by
  unfold delete
  rcases load_bind_cases reportId (fun _ d => do
      onTenant (Registry.update { d with deletedAt := some (← get).tenant.today, deletedBy := writer })) s with
    ⟨e, u, hrun, hu⟩ | ⟨id, stored, u, hfound, hu, hrun⟩
  · exact .inl ⟨e, u, hrun, hu⟩
  · have htoday := (Tenant.AgreeOn.of_readable hu.tenant .univ).today
    rw [hrun, run_get_bind, htoday]
    rcases update_cases { stored with deletedAt := some s.tenant.today, deletedBy := writer } u with
      ⟨e, v, hupdate, hv⟩ | ⟨v, hupdate, hv⟩
    · exact .inl ⟨e, v, hupdate, hu.trans hv⟩
    · rw [hu.definitions, hu.queue] at hv
      exact .inr ⟨id, stored, v, hupdate, hfound, hu.left hv⟩

/-- **How asking for rows can end**: it is refused, or a job is submitted. -/
theorem generate_cases (reportId : String) (s : Service) :
    (∃ e u, (generate reportId).run s = (.error e, u) ∧ Kept s u)
      ∨ ∃ id stored answer u, (generate reportId).run s = (.ok answer, u) ∧ Found s reportId id stored
        ∧ u.tenant.readable = s.tenant.readable ∧ u.queue = (s.queue.submit id).2
        ∧ u.tenant.runs = s.tenant.runs := by
  unfold generate
  rcases load_bind_cases reportId (fun id _ => do return (← submit id).generation) s with
    ⟨e, u, hrun, hu⟩ | ⟨id, stored, u, hfound, hu, hrun⟩
  · exact .inl ⟨e, u, hrun, hu⟩
  · refine .inr ⟨id, stored, _, _, hrun, hfound, hu.tenant, ?_, hu.runs⟩
    rw [← hu.queue]
    rfl

/-- **How waiting for rows can end**: it is refused, or a job is made and run behind those that wait. -/
theorem materialize_cases (reportId : String) (s : Service) :
    (∃ e u, (materialize reportId).run s = (.error e, u) ∧ Kept s u)
      ∨ ∃ id stored u, Found s reportId id stored ∧ Kept s u ∧ (materialize reportId).run s
        = ((execute (u.queue.issue id).1 (drain { u with queue := (u.queue.issue id).2 }).2).1 |> .ok,
          (execute (u.queue.issue id).1 (drain { u with queue := (u.queue.issue id).2 }).2).2) := by
  unfold materialize
  rcases load_bind_cases reportId (fun id _ => do
      let job ← ExceptT.lift (changeQueue (Queue.issue id))
      ExceptT.lift drain
      ExceptT.lift (execute job)) s with ⟨e, u, hrun, hu⟩ | ⟨id, stored, u, hfound, hu, hrun⟩
  · exact .inl ⟨e, u, hrun, hu⟩
  · exact .inr ⟨id, stored, u, hfound, hu, hrun⟩

/-- **Questions keep the service**, however they are answered. -/
theorem kept_put (question : Question) (s : Service) : Kept s (question.put.run s).2 := by
  cases question with
  | page q =>
    rw [Question.put, run_quietly]
    exact kept_onTenant (Query.reads_run q) s
  | count reportId owners =>
    rw [Question.put, run_quietly]
    exact kept_onTenant (Query.reads_count reportId owners) s
  | download q =>
    rw [Question.put, run_quietly]
    exact kept_onTenant (Query.reads_download q) s

/-- **How purging a report ends.** -/
inductive PurgeEnding (id : ReportId) (s : Service) : Except ReportError Bool × Service → Prop where
  /-- The definitions cannot be reached: only the slot is gone. -/
  | refused {e : ReportError} {u : Service} (why : s.tenant.store.unavailable.contains Store.reports = true)
    (tenant : u.tenant.readable = s.tenant.readable) (queue : u.queue = s.queue.retire id) :
    PurgeEnding id s (.error e, u)
  /-- The rows cannot be reached: the definition and the slot are gone. -/
  | halfway {u : Service} (available : s.tenant.store.unavailable.contains Store.reports = false)
    (why : s.tenant.store.unavailable.contains id.collection = true)
    (left : Left s (Registry.others id s.definitions) (s.queue.retire id) u) :
    PurgeEnding id s (.error (.store "drop report rows" (.unavailable id.collection)), u)
  /-- Everything is gone. -/
  | purged {existed : Bool} {u : Service} (available : s.tenant.store.unavailable.contains Store.reports = false)
    (rowsAvailable : s.tenant.store.unavailable.contains id.collection = false)
    (tenant : u.tenant.readable
      = ((Registry.put (Registry.others id s.definitions) s.tenant).replaced id.collection []).readable)
    (queue : u.queue = s.queue.retire id) : PurgeEnding id s (.ok existed, u)

/-- Purging removes everything, retires the report, and then tells how removing went. -/
theorem run_purge {reportId : String} {id : ReportId} (h : ReportId.parse reportId = .ok id) (s : Service) :
    (purge reportId).run s = (((removeAll id).run s.tenant).1,
      { s with tenant := ((removeAll id).run s.tenant).2, queue := s.queue.retire id }) := by
  unfold purge idOf
  rw [run_bind, run_onTenant_ofExcept, h]
  exact run_onTenant_ofExcept ((removeAll id).run s.tenant).1
    { s with tenant := ((removeAll id).run s.tenant).2, queue := s.queue.retire id }

/-- A text that is no report id purges nothing. -/
theorem run_purge_of_error {reportId : String} {e : ReportError} (h : ReportId.parse reportId = .error e)
    (s : Service) : (purge reportId).run s = (.error e, s) := by
  unfold purge idOf
  rw [run_bind, run_onTenant_ofExcept, h]

/-- **Every purge ends in one of these ways.** -/
theorem ending_purge {reportId : String} {id : ReportId} (h : ReportId.parse reportId = .ok id) (s : Service) :
    PurgeEnding id s ((purge reportId).run s) := by
  rw [run_purge h]
  unfold removeAll
  rw [run_bind]
  rcases Registry.remove_cases id s.tenant with ⟨hunavailable, hremove⟩ | ⟨existed, t, hremove, havailable, ht⟩
  · rw [hremove]
    exact .refused hunavailable rfl rfl
  · have hrows : t.store.unavailable.contains id.collection = s.tenant.store.unavailable.contains id.collection :=
      congrArg (List.contains · _) (Tenant.AgreeOn.of_readable ht .univ).unavailable
    have hruns : t.runs = s.tenant.runs :=
      (congrArg (fun ran => ran.2.runs) hremove).symm.trans (Registry.counts_remove id s.tenant)
    rw [hremove]
    dsimp only
    rw [run_bind, TenantAction.run_onStore]
    cases hreach : s.tenant.store.unavailable.contains id.collection with
    | true =>
      unfold Store.drop
      rw [Store.run_of_unavailable (hrows.trans hreach)]
      exact .halfway havailable hreach ⟨ht, rfl, hruns⟩
    | false =>
      rw [Store.run_drop_of_available (hrows.trans hreach)]
      refine .purged havailable hreach ?_ rfl
      exact (Tenant.readable_withStore (Store.readable_dropped _ _)).trans (Tenant.readable_replaced ht _ _)

/-! ## Calls that fail -/

/-- **A call goes halfway** if it is to purge a report whose rows cannot be reached, while the definitions can. -/
inductive Call.GoesHalfway (s : Service) : Call → Prop where
  /-- The report that is to be purged. -/
  | purge {reportId : String} {id : ReportId} (parse : ReportId.parse reportId = .ok id)
    (available : s.tenant.store.unavailable.contains Store.reports = false)
    (unavailable : s.tenant.store.unavailable.contains id.collection = true) : GoesHalfway s (.purge reportId)

/-- **What a failed call leaves of the documents**, and which failure it is. -/
inductive FailedCall (s : Service) : Call → ReportError → Service → Prop where
  /-- The call did not go halfway: everything is as it was. -/
  | harmless {call : Call} {e : ReportError} {u : Service} (whole : ¬ call.GoesHalfway s)
    (documents : ∀ name, u.tenant.store.documents name = s.tenant.store.documents name) : FailedCall s call e u
  /-- A purge went halfway: the report has lost its definition, and nothing else has changed. -/
  | halfPurged {reportId : String} {u : Service} (id : ReportId) (parse : ReportId.parse reportId = .ok id)
    (available : s.tenant.store.unavailable.contains Store.reports = false)
    (unavailable : s.tenant.store.unavailable.contains id.collection = true)
    (definitions : u.definitions = Registry.others id s.definitions)
    (documents : ∀ name, name ≠ Store.reports → u.tenant.store.documents name = s.tenant.store.documents name) :
    FailedCall s (.purge reportId) (.store "drop report rows" (.unavailable id.collection)) u

/-- A call that is kept or succeeds, and fails, is harmless. -/
theorem failedCall_of_quietly {a : ServiceAction α} {call : Call} (hcall : call.perform = quietly a) {s u : Service}
    {e : ReportError} (hwhole : ¬ call.GoesHalfway s) (h : call.perform.run s = (.error e, u))
    (hcases : (∃ e u, a.run s = (.error e, u) ∧ Kept s u) ∨ ∃ answer u, a.run s = (.ok answer, u)) :
    FailedCall s call e u := by
  rw [hcall, run_quietly] at h
  rcases hcases with ⟨e', u', hrun, hu⟩ | ⟨answer, u', hrun⟩
  · rw [hrun] at h
    obtain ⟨-, rfl⟩ := Prod.mk.inj h
    exact .harmless hwhole hu.documents
  · rw [hrun] at h
    exact absurd (Prod.mk.inj h).1 nofun

/-- **A purge that fails** is refused and harmless, or goes halfway. -/
theorem failedCall_purge {reportId : String} {s u : Service} {e : ReportError}
    (h : (Call.purge reportId).perform.run s = (.error e, u)) : FailedCall s (.purge reportId) e u := by
  rw [Call.perform, run_quietly] at h
  cases hparse : ReportId.parse reportId with
  | error e' =>
    rw [run_purge_of_error hparse] at h
    obtain ⟨-, rfl⟩ := Prod.mk.inj h
    refine .harmless ?_ fun _ => rfl
    rintro ⟨hid, -, -⟩
    exact absurd (hparse.symm.trans hid) nofun
  | ok id =>
    have hending := ending_purge hparse s
    generalize (Service.purge reportId).run s = ended at h hending
    cases hending with
    | refused why htenant hqueue =>
      obtain ⟨-, rfl⟩ := Prod.mk.inj h
      have hsame := Tenant.AgreeOn.of_readable htenant .univ
      refine .harmless ?_ fun name => hsame.documents name (Set.mem_univ _)
      rintro ⟨-, havailable, -⟩
      exact absurd (why.symm.trans havailable) nofun
    | halfway available why left =>
      obtain ⟨he, rfl⟩ := Prod.mk.inj h
      obtain rfl := Except.error.inj he
      exact .halfPurged id hparse available why left.definitions fun name hname => left.documents_of_ne hname
    | purged => exact absurd (Prod.mk.inj h).1 nofun

/-- **A failed call leaves all documents as they were**, unless it is a purge whose rows cannot be reached. -/
theorem documents_of_failed_call {s u : Service} {call : Call} {e : ReportError}
    (h : call.perform.run s = (.error e, u)) : FailedCall s call e u := by
  cases call with
  | create draft writer =>
    refine failedCall_of_quietly rfl nofun h ((create_cases draft writer s).imp_right ?_)
    rintro ⟨-, answer, v, hrun, -⟩
    exact ⟨answer, v, hrun⟩
  | modify reportId patch writer =>
    refine failedCall_of_quietly rfl nofun h ((modify_cases reportId patch writer s).imp_right ?_)
    rintro ⟨-, -, answer, v, hrun, -⟩
    exact ⟨answer, v, hrun⟩
  | delete reportId writer =>
    rcases delete_cases reportId writer s with ⟨e', v, hrun, hv⟩ | ⟨-, -, v, hrun, -⟩
    · obtain ⟨-, rfl⟩ := Prod.mk.inj (hrun.symm.trans h)
      exact .harmless nofun hv.documents
    · exact absurd (Prod.mk.inj (hrun.symm.trans h)).1 nofun
  | purge reportId =>
    exact failedCall_purge h
  | generate reportId =>
    refine failedCall_of_quietly rfl nofun h ((generate_cases reportId s).imp_right ?_)
    rintro ⟨-, -, answer, v, hrun, -⟩
    exact ⟨answer, v, hrun⟩
  | materialize reportId =>
    refine failedCall_of_quietly rfl nofun h ((materialize_cases reportId s).imp_right ?_)
    rintro ⟨id, stored, v, hfound, hv, hrun⟩
    exact ⟨_, _, hrun⟩
  | ask question =>
    have hkept := kept_put question s
    replace h : question.put.run s = (.error e, u) := h
    rw [h] at hkept
    exact .harmless nofun hkept.documents

end Service

/-! ### A locked guest book -/

/-- The guest book, whose rows cannot be reached. -/
def lockedBook : Service :=
  { guestBook with tenant := { guestBook.tenant with
      store := guestBook.tenant.store.setUnavailable guestsReport.reportId.collection true } }

/-- What purging the guests of the locked book fails with. -/
theorem lockedBook_purge : ((Service.Call.purge "guests").perform.run lockedBook).1
    = .error (.store "drop report rows" (.unavailable guestsReport.reportId.collection)) := rfl

/-- **Purging the locked book fails halfway**: its rows stay, its report does not. -/
theorem lockedBook_failedCall : ∃ e u, (Service.Call.purge "guests").perform.run lockedBook = (.error e, u)
    ∧ Service.FailedCall lockedBook (.purge "guests") e u :=
  ⟨_, _, Prod.ext lockedBook_purge rfl, Service.documents_of_failed_call (Prod.ext lockedBook_purge rfl)⟩

/-- **Not every failed call leaves the documents as they were.** -/
theorem lockedBook_forgets : ∃ e u, (Service.Call.purge "guests").perform.run lockedBook = (.error e, u)
    ∧ u.tenant.store.documents Store.reports ≠ lockedBook.tenant.store.documents Store.reports := by
  refine ⟨_, _, Prod.ext lockedBook_purge rfl, fun hsame => ?_⟩
  have hlength := congrArg List.length hsame
  revert hlength
  decide +kernel

end Rollup
