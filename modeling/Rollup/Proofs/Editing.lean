import Rollup.Proofs.Definitions

/-!
# What the registry writes

Saving, editing and removing a definition each write one collection, all at once, or nothing. As far as can be read,
the tenant is then the one before with other documents in the place of all definitions (`Tenant.replaced`), whatever
became of the indexes. Each operation has one lemma here that says everything it can do.
-/

namespace Rollup

open TenantAction (Reads answer)

namespace Store

variable {name : String} {s : Store}

/-- What can be read where the documents of a collection were changed. -/
theorem readable_changed_self {f : List Json → List Json} (hf : f [] = []) (s : Store) :
    (s.changed name fun c => { c with documents := f c.documents }).readable
      = (s.replaced name (f (s.documents name))).readable := by
  refine Prod.ext (unavailable_changed _ _ _) (funext fun other => ?_)
  show (s.changed name _).documents other = (s.replaced name _).documents other
  by_cases h : other = name
  · subst h
    rw [documents_changed_self hf, documents_replaced_self]
  · rw [documents_changed_of_ne h, documents_replaced_of_ne h]

/-- What storing a document by the value at a path leaves. -/
theorem run_upsert_of_available (h : s.unavailable.contains name = false) {path : String} {document key : Json}
    (hkey : Document.get? path document = some key) : (upsert name path document).run s
      = (.ok (), s.replaced name (replaceOrAdd path key document (s.documents name))) := by
  unfold upsert
  rw [run_of_available h, hkey]
  rfl

/-- What deleting documents leaves. -/
theorem run_delete_of_available (h : s.unavailable.contains name = false) (filter : Predicate) :
    (delete name filter).run s = (.ok ((s.documents name).filter filter.holds).length, s.changed name fun c =>
      { c with documents := c.documents.filter fun d => !filter.holds d }) := by
  unfold delete
  rw [run_of_available h]
  exact run_changeExisting_pure _ _ _ s

/-- What dropping a collection leaves. -/
theorem run_drop_of_available (h : s.unavailable.contains name = false) : (drop name).run s
    = (.ok (s.hasCollection name), { s with collections := Keyed.erase name s.collections }) := by
  unfold drop
  rw [run_of_available h]
  rfl

/-- What can be read where a collection was dropped. -/
theorem readable_dropped (name : String) (s : Store) :
    ({ s with collections := Keyed.erase name s.collections } : Store).readable = (s.replaced name []).readable := by
  refine Prod.ext rfl (funext fun other => ?_)
  by_cases h : other = name
  · subst h
    rw [readable, readable]
    dsimp only
    rw [documents_replaced_self]
    unfold documents collection
    rw [Keyed.get?_erase_self]
    rfl
  · rw [readable, readable]
    dsimp only
    rw [documents_replaced_of_ne h]
    unfold documents collection
    rw [Keyed.get?_erase_of_ne h]

/-- Where no document has the same value at a path, a document is added at the end. -/
theorem replaceOrAdd_of_none {path : String} {key document : Json} {documents : List Json}
    (h : ∀ d ∈ documents, (Document.get? path d).any key.same = false) :
    replaceOrAdd path key document documents = documents ++ [document] := by
  induction documents with
  | nil => rfl
  | cons d rest ih =>
    unfold replaceOrAdd
    rw [h d List.mem_cons_self, if_neg Bool.false_ne_true, ih fun other hother => h other (List.mem_cons_of_mem _ hother)]
    rfl

end Store

namespace Tenant

/-- Putting the same documents in place changes nothing that can be read. -/
theorem readable_replaced_self (name : String) (t : Tenant) :
    (t.replaced name (t.store.documents name)).readable = t.readable := by
  refine Prod.ext rfl (Prod.ext rfl (Prod.ext rfl (Prod.ext rfl (funext fun other => ?_))))
  show (t.store.replaced name _).documents other = t.store.documents other
  by_cases h : other = name
  · subst h
    rw [Store.documents_replaced_self]
  · rw [Store.documents_replaced_of_ne h]

/-- A tenant whose store was changed, as far as can be read. -/
theorem readable_withStore {t : Tenant} {store store' : Store} (h : store.readable = store'.readable) :
    ({ t with store } : Tenant).readable = ({ t with store := store' } : Tenant).readable :=
  congrArg (fun readable => (t.config, t.clock, t.today, readable)) h

end Tenant

namespace Registry

variable {t : Tenant}

/-- The definitions of a tenant. -/
def documents (t : Tenant) : List Json := t.store.documents Store.reports

/-- The tenant with other definitions. -/
def put (documents : List Json) (t : Tenant) : Tenant := t.replaced Store.reports documents

/-- A document of a report is one that an update or a removal of this report meets. -/
theorem holds_of_same {id : ReportId} {document : Json}
    (h : (Document.get? idPath document).any (Json.string id.text).same = true) :
    (isReport id).holds document = true := by
  show Comparison.holdsField .eq (.text id.text) (Document.get? idPath document) = true
  cases hget : Document.get? idPath document with
  | none => rw [hget] at h; exact absurd h nofun
  | some j =>
    rw [hget] at h
    cases j with
    | string text =>
      obtain rfl : id.text = text := eq_of_beq h
      show (some (compare id.text id.text) == some Ordering.eq) = true
      rw [Std.compare_self]
      rfl
    | _ => exact absurd h nofun

/-- The id of a definition stands in what is stored of it. -/
theorem get?_idPath_toJson (d : ReportDefinition) : Document.get? idPath d.toJson = some d.reportId.toJson := by
  unfold Document.get?
  rw [Document.segments_of_isName (by decide : Document.IsName idPath)]
  show (Keyed.get? idPath d.toMembers).bind _ = _
  rw [get?_idPath_of_decode? (ReportDefinition.readsBack d)]
  rfl

/-- What saving a definition leaves. -/
theorem run_save_of_available (h : t.store.unavailable.contains Store.reports = false) (d : ReportDefinition) :
    (save d).run t
      = (.ok (), put (Store.replaceOrAdd idPath d.reportId.toJson d.toJson (documents t)) t) := by
  unfold save
  rw [TenantAction.run_onStore, Store.run_upsert_of_available h (get?_idPath_toJson d)]
  rfl

/-- **What saving a new definition does**: it is added, or nothing happens since definitions cannot be reached. -/
theorem run_save {d : ReportDefinition} (hnone : (documents t).filter (isReport d.reportId).holds = []) :
    (save d).run t = if t.store.unavailable.contains Store.reports
      then (.error (.store "save report" (.unavailable Store.reports)), t)
      else (.ok (), put (documents t ++ [d.toJson]) t) := by
  cases h : t.store.unavailable.contains Store.reports with
  | true =>
    unfold save Store.upsert
    rw [TenantAction.run_onStore, Store.run_of_unavailable h]
    rfl
  | false =>
    -- the document that would be replaced is one that would have been found
    have hadded : Store.replaceOrAdd idPath d.reportId.toJson d.toJson (documents t) = documents t ++ [d.toJson] := by
      refine Store.replaceOrAdd_of_none fun document hmem => Bool.eq_false_iff.2 fun hsame => ?_
      have hfound : document ∈ (documents t).filter (isReport d.reportId).holds :=
        List.mem_filter.2 ⟨hmem, holds_of_same hsame⟩
      exact List.not_mem_nil (hnone ▸ hfound)
    rw [run_save_of_available h, if_neg Bool.false_ne_true, hadded]

/-- A definition that was edited, where it is the one of a report. -/
def rewritten (d : ReportDefinition) (document : Json) : Json :=
  if (isReport d.reportId).holds document then Store.setFields (edited d) document else document

/-- **What editing a definition does**: it is written into all documents of the report, of which there are some, or
nothing happens. -/
theorem update_cases (d : ReportDefinition) (t : Tenant) :
    (∃ e t', (update d).run t = (.error e, t') ∧ t'.readable = t.readable)
      ∨ ∃ t', (update d).run t = (.ok (), t') ∧ t.store.unavailable.contains Store.reports = false
        ∧ t'.readable = (put ((documents t).map (rewritten d)) t).readable := by
  unfold update
  dsimp only
  rw [run_bind, TenantAction.run_onStore]
  cases h : t.store.unavailable.contains Store.reports with
  | true =>
    unfold Store.update
    rw [Store.run_of_unavailable h]
    exact .inl ⟨_, t, rfl, rfl⟩
  | false =>
    have hwritten : ∀ t' : Tenant, t' = { t with store := t.store.changed Store.reports fun c =>
        { c with documents := c.documents.map (rewritten d) } } →
        t'.readable = (put ((documents t).map (rewritten d)) t).readable := by
      rintro t' rfl
      exact Tenant.readable_withStore (Store.readable_changed_self (f := List.map (rewritten d)) rfl t.store)
    rw [Store.run_update_of_available h]
    cases hmatching : (documents t).filter (isReport d.reportId).holds with
    | nil =>
      -- the update met no document, so that it wrote the documents that were there
      have hsame : (documents t).map (rewritten d) = documents t := by
        refine (List.map_congr_left fun document hmem => ?_).trans (List.map_id _)
        exact if_neg (List.filter_eq_nil_iff.1 hmatching document hmem)
      refine .inl ⟨missing d.reportId, _, ?_, (hwritten _ rfl).trans ?_⟩
      · show (if ((documents t).filter (isReport d.reportId).holds).length = 0 then throw _ else pure ()
          : TenantAction Unit).run _ = _
        rw [hmatching]
        rfl
      · rw [hsame]
        exact Tenant.readable_replaced_self _ t
    | cons document rest =>
      refine .inr ⟨_, ?_, rfl, hwritten _ rfl⟩
      show (if ((documents t).filter (isReport d.reportId).holds).length = 0 then throw _ else pure ()
        : TenantAction Unit).run _ = _
      rw [hmatching]
      rfl

/-- The documents that are of other reports. -/
def others (id : ReportId) (documents : List Json) : List Json :=
  documents.filter fun document => !(isReport id).holds document

/-- **What removing a definition does**: all documents of the report are gone, or nothing happens since definitions
cannot be reached. -/
theorem remove_cases (id : ReportId) (t : Tenant) :
    (t.store.unavailable.contains Store.reports = true
      ∧ (remove id).run t = (.error (.store "remove report" (.unavailable Store.reports)), t))
    ∨ ∃ existed t', (remove id).run t = (.ok existed, t') ∧ t.store.unavailable.contains Store.reports = false
        ∧ t'.readable = (put (others id (documents t)) t).readable := by
  unfold remove
  rw [run_bind, TenantAction.run_onStore]
  cases h : t.store.unavailable.contains Store.reports with
  | true =>
    unfold Store.delete
    rw [Store.run_of_unavailable h]
    exact .inl ⟨rfl, rfl⟩
  | false =>
    rw [Store.run_delete_of_available h]
    exact .inr ⟨_, _, rfl, rfl, Tenant.readable_withStore
      (Store.readable_changed_self (f := others id) rfl t.store)⟩

/-- Editing a definition counts no run. -/
theorem counts_update (d : ReportDefinition) : Keeps Tenant.runs (update d) :=
  (TenantAction.counts_onStore _ _).bind fun _ => .ite (.throw _ _) (.pure _ _)

/-- Neither does removing one. -/
theorem counts_remove (id : ReportId) : Keeps Tenant.runs (remove id) :=
  (TenantAction.counts_onStore _ _).bind fun _ => .pure _ _

/-- Nor does noting a status. -/
theorem counts_recordStatus (id : ReportId) (status : MaterializationStatus) :
    Keeps Tenant.runs (recordStatus id status) :=
  (TenantAction.counts_onStore _ _).bind fun _ => .pure _ _

/-! ## What becomes of the definitions -/

/-- **Documents that decode**, each to its definition. -/
def Decodes (documents : List Json) (definitions : List ReportDefinition) : Prop :=
  List.Forall₂ (fun document d => ReportDefinition.decode? document = some d) documents definitions

namespace Decodes

variable {documents : List Json} {definitions : List ReportDefinition} (h : Decodes documents definitions)
include h

/-- What is done to documents one by one is done to their definitions. -/
theorem map {f : Json → Json} {g : ReportDefinition → ReportDefinition}
    (hfg : ∀ {document d}, ReportDefinition.decode? document = some d →
      ReportDefinition.decode? (f document) = some (g d)) :
    Decodes (documents.map f) (definitions.map g) := by
  unfold Decodes
  rw [List.forall₂_map_left_iff, List.forall₂_map_right_iff]
  exact List.Forall₂.imp (fun _ _ => hfg) h

/-- A definition that is added decodes as well. -/
theorem append_toJson (d : ReportDefinition) : Decodes (documents ++ [d.toJson]) (definitions ++ [d]) :=
  List.rel_append h (.cons (ReportDefinition.readsBack d) .nil)

/-- Where no document is of a report, no definition is. -/
theorem ne_of_filter_eq_nil {id : ReportId} (hnone : documents.filter (isReport id).holds = []) :
    ∀ d ∈ definitions, d.reportId ≠ id := by
  induction h with
  | nil => exact fun d hd => absurd hd List.not_mem_nil
  | @cons document d rest ds hd _ ih =>
    rw [List.filter_cons] at hnone
    split at hnone
    · exact absurd hnone nofun
    · next hother =>
      intro d' hd' hid
      rcases List.mem_cons.1 hd' with rfl | hmem
      · exact hother ((holds_isReport_iff hd).2 hid)
      · exact ih hnone d' hmem hid

/-- The documents of other reports are those of their definitions. -/
theorem others (id : ReportId) :
    Decodes (Registry.others id documents) (definitions.filter fun d => d.reportId ≠ id) := by
  induction h with
  | nil => exact .nil
  | @cons document d rest ds hd _ ih =>
    unfold Registry.others at ih ⊢
    rw [List.filter_cons, List.filter_cons]
    by_cases hid : d.reportId = id
    · rw [(holds_isReport_iff hd).2 hid]
      simpa [hid] using ih
    · have hother : (isReport id).holds document = false := Bool.eq_false_iff.2 fun hholds =>
        hid ((holds_isReport_iff hd).1 hholds)
      rw [hother, Bool.not_false, if_pos rfl, if_pos (decide_eq_true hid)]
      exact .cons hd ih

end Decodes

/-- A definition with a status noted in it, where it is the one of a report. -/
def noted (id : ReportId) (status : MaterializationStatus) (d : ReportDefinition) : ReportDefinition :=
  if d.reportId = id then { d with materialization := status } else d

/-- A definition with an edit of it in its place, which keeps its status. -/
def exchanged (edit d : ReportDefinition) : ReportDefinition :=
  if d.reportId = edit.reportId then { edit with materialization := d.materialization } else d

/-- Noting a status does not change the id. -/
@[simp] theorem reportId_noted (id : ReportId) (status : MaterializationStatus) (d : ReportDefinition) :
    (noted id status d).reportId = d.reportId := by
  unfold noted
  split <;> rfl

/-- An edit does not change the id. -/
@[simp] theorem reportId_exchanged (edit d : ReportDefinition) : (exchanged edit d).reportId = d.reportId := by
  unfold exchanged
  split
  · next h => exact h.symm
  · rfl

/-- An edit does not change the status. -/
@[simp] theorem materialization_exchanged (edit d : ReportDefinition) :
    (exchanged edit d).materialization = d.materialization := by
  unfold exchanged
  split <;> rfl

/-- **A document in which a status was noted** decodes to the definition with this status. -/
theorem decode?_stamped {document : Json} {d : ReportDefinition} (h : ReportDefinition.decode? document = some d)
    (id : ReportId) (status : MaterializationStatus) :
    ReportDefinition.decode? (stamped id status document) = some (noted id status d) := by
  unfold stamped noted
  by_cases hid : d.reportId = id
  · rw [if_pos ((holds_isReport_iff h).2 hid), if_pos hid, ReportDefinition.decode?_set h,
      MaterializationStatus.readsBack]
    rfl
  · rw [if_neg (mt (holds_isReport_iff h).1 hid), if_neg hid, h]

/-- **A document that was edited** decodes to the edit. -/
theorem decode?_rewritten {document : Json} {d : ReportDefinition} (h : ReportDefinition.decode? document = some d)
    (edit : ReportDefinition) : ReportDefinition.decode? (rewritten edit document) = some (exchanged edit d) := by
  unfold rewritten exchanged
  by_cases hid : d.reportId = edit.reportId
  · rw [if_pos ((holds_isReport_iff h).2 hid), if_pos hid, decode?_setFields_edited h hid.symm]
  · rw [if_neg (mt (holds_isReport_iff h).1 hid), if_neg hid, h]

end Registry

end Rollup
