import Rollup.Proofs.Registers
import Rollup.Proofs.Sorting
import Rollup.Proofs.WholeNumbers

/-!
# Listing reports

The registry is written through four operations: a definition is saved, edited or removed, or a status is noted in
it. Whatever they wrote, the documents are then those of definitions with different ids, and each holds what its
definition says (`Registry.Kept`).

So a listing and a lookup agree. A report is listed exactly if it is found by its id, although the one asks whether
there is a text under `deleted_at` and the other decodes it, and no report is listed twice. The listing is in the
order of the doubles that the display orders convert to, and then in that of the ids. That is the order of the numbers
themselves unless two of them convert to one double, which only numbers beyond `2 ^ 53` do.

Main results: `Registry.kept_of_changes` for the documents that can be there, and `Registry.list_agrees`.
-/

namespace Rollup

open TenantAction (answer)

namespace Registry

/-! ### What can be stored -/

/-- **A document holds what its definition says.** -/
def IsFull (document : Json) : Prop :=
  ∀ d, ReportDefinition.decode? document = some d → ∃ m, document = .object m ∧ Holds m d.authored

/-- What is stored of a definition is full. -/
theorem isFull_toJson (d : ReportDefinition) : IsFull d.toJson := by
  intro d' hd'
  obtain rfl : d = d' := Option.some.inj ((ReportDefinition.readsBack d).symm.trans hd')
  exact ⟨d.toMembers, rfl, fun _ _ hmem =>
    d.sorted_toMembers.holds _ _ (ReportDefinition.mem_toMembers_iff.2 (List.mem_append_left _ hmem))⟩

/-- An edit keeps a document full. -/
theorem IsFull.rewritten {document : Json} {d : ReportDefinition} (hfull : IsFull document)
    (h : ReportDefinition.decode? document = some d) (edit : ReportDefinition) : IsFull (rewritten edit document) := by
  unfold Registry.rewritten
  split
  · next hmet =>
    have hid := (holds_isReport_iff h).1 hmet
    intro d' hd'
    rw [decode?_setFields_edited h hid.symm] at hd'
    obtain rfl := Option.some.inj hd'
    obtain ⟨m, rfl, -⟩ := hfull d h
    exact ⟨_, setFields_edited edit m, holds_edited h hid.symm⟩
  · exact hfull

/-- A noted status keeps it full. -/
theorem IsFull.stamped {document : Json} {d : ReportDefinition} (hfull : IsFull document)
    (h : ReportDefinition.decode? document = some d) (id : ReportId) (status : MaterializationStatus) :
    IsFull (stamped id status document) := by
  unfold Registry.stamped
  split
  · intro d' hd'
    rw [ReportDefinition.decode?_set h, MaterializationStatus.readsBack] at hd'
    obtain rfl := Option.some.inj hd'
    obtain ⟨m, rfl, hholds⟩ := hfull d h
    refine ⟨Keyed.insert statusPath status.toJson m, Document.set_of_isName (by decide) _ _, fun key value hmem => ?_⟩
    rw [Keyed.get?_insert_of_ne (ReportDefinition.ne_statusPath_of_mem_authored hmem)]
    exact hholds key value hmem
  · exact hfull

/-- **The documents of definitions** with different ids. -/
structure Kept (documents : List Json) (definitions : List ReportDefinition) : Prop where
  /-- Each document is that of a definition. -/
  decodes : Decodes documents definitions
  /-- It holds what this definition says. -/
  full : ∀ document ∈ documents, IsFull document
  /-- No id is used twice. -/
  ids : (definitions.map ReportDefinition.reportId).Nodup

/-- Definitions over which, or beside which, another one is saved. -/
def saved (d : ReportDefinition) : List ReportDefinition → List ReportDefinition
  | [] => [d]
  | e :: rest => if e.reportId = d.reportId then d :: rest else e :: saved d rest

/-- The ids are those that were there and the saved one. -/
theorem map_reportId_saved (d : ReportDefinition) (definitions : List ReportDefinition) :
    (saved d definitions).map ReportDefinition.reportId
      = if d.reportId ∈ definitions.map ReportDefinition.reportId then definitions.map ReportDefinition.reportId
        else definitions.map ReportDefinition.reportId ++ [d.reportId] := by
  induction definitions with
  | nil => rfl
  | cons e rest ih =>
    unfold saved
    by_cases hid : e.reportId = d.reportId
    · rw [if_pos hid, List.map_cons, List.map_cons, if_pos (by rw [hid]; exact List.mem_cons_self), hid]
    · rw [if_neg hid, List.map_cons, List.map_cons, ih]
      by_cases hmem : d.reportId ∈ rest.map ReportDefinition.reportId
      · rw [if_pos hmem, if_pos (List.mem_cons_of_mem _ hmem)]
      · rw [if_neg hmem, if_neg fun hcons => hmem ((List.mem_cons.1 hcons).resolve_left (Ne.symm hid))]
        rfl

/-- The id of a definition stands in its document. -/
theorem get?_idPath {document : Json} {d : ReportDefinition} (h : ReportDefinition.decode? document = some d) :
    Document.get? idPath document = some d.reportId.toJson := by
  cases document with
  | object m => exact (Document.get?_of_isName (by decide) _).trans (get?_idPath_of_decode? h)
  | _ => exact absurd h nofun

namespace Decodes

variable {documents : List Json} {definitions : List ReportDefinition} (h : Decodes documents definitions)
include h

/-- A document that is saved is that of the definition that is saved. -/
theorem replaceOrAdd (d : ReportDefinition) :
    Decodes (Store.replaceOrAdd idPath d.reportId.toJson d.toJson documents) (saved d definitions) := by
  induction h with
  | nil => exact .cons (ReportDefinition.readsBack d) .nil
  | @cons document e rest es he hrest ih =>
    have hsame : (Document.get? idPath document).any d.reportId.toJson.same = true ↔ e.reportId = d.reportId := by
      rw [same_iff, get?_idPath he, Option.some_inj]
      exact ⟨fun htext => ReportId.eq_of_text (Json.string.inj htext), congrArg ReportId.toJson⟩
    unfold Store.replaceOrAdd saved
    by_cases hid : e.reportId = d.reportId
    · rw [if_pos (hsame.2 hid), if_pos hid]
      exact .cons (ReportDefinition.readsBack d) hrest
    · rw [if_neg (mt hsame.1 hid), if_neg hid]
      exact .cons he ih

/-- Each document is that of a definition. -/
theorem exists_definition {document : Json} (hmem : document ∈ documents) :
    ∃ d, ReportDefinition.decode? document = some d := by
  induction h with
  | nil => exact absurd hmem List.not_mem_nil
  | @cons document d rest ds hd _ ih =>
    rcases List.mem_cons.1 hmem with rfl | hmem
    · exact ⟨d, hd⟩
    · exact ih hmem

/-- The definitions are what is read of the documents. -/
theorem eq_filterMap : definitions = documents.filterMap ReportDefinition.decode? := by
  induction h with
  | nil => rfl
  | cons hd _ ih => rw [List.filterMap_cons_some hd, ← ih]

end Decodes

/-! ### What is written -/

/-- A document among which one was stored is this one or was there before. -/
theorem mem_replaceOrAdd {path : String} {key document : Json} {documents : List Json} {other : Json}
    (h : other ∈ Store.replaceOrAdd path key document documents) : other = document ∨ other ∈ documents := by
  induction documents with
  | nil => exact .inl (List.mem_singleton.1 h)
  | cons first rest ih =>
    unfold Store.replaceOrAdd at h
    split at h
    · exact (List.mem_cons.1 h).imp_right (List.mem_cons_of_mem _)
    · rcases List.mem_cons.1 h with rfl | hmem
      · exact .inr List.mem_cons_self
      · exact (ih hmem).imp_right (List.mem_cons_of_mem _)

/-- **A write into the registry.** -/
inductive Change where
  /-- A definition is saved. -/
  | save (d : ReportDefinition)
  /-- A definition is edited. -/
  | update (d : ReportDefinition)
  /-- A definition is removed. -/
  | remove (id : ReportId)
  /-- A status is noted. -/
  | recordStatus (id : ReportId) (status : MaterializationStatus)

namespace Change

/-- What is done to write. -/
def perform : Change → TenantAction Unit
  | save d => Registry.save d
  | update d => Registry.update d
  | remove id => do
    let _ ← Registry.remove id
  | recordStatus id status => Registry.recordStatus id status

/-- What becomes of the documents. -/
def onDocuments (documents : List Json) : Change → List Json
  | save d => Store.replaceOrAdd idPath d.reportId.toJson d.toJson documents
  | update d => documents.map (rewritten d)
  | remove id => others id documents
  | recordStatus id status => documents.map (stamped id status)

/-- What becomes of the definitions. -/
def onDefinitions (definitions : List ReportDefinition) : Change → List ReportDefinition
  | save d => saved d definitions
  | update d => definitions.map (exchanged d)
  | remove id => definitions.filter fun d => d.reportId ≠ id
  | recordStatus id status => definitions.map (noted id status)

variable {t : Tenant}

/-- **What a write leaves**, where the definitions can be reached. -/
theorem documents_perform (h : t.store.unavailable.contains Store.reports = false) (w : Change) :
    documents (w.perform.run t).2 = w.onDocuments (documents t)
      ∧ (w.perform.run t).2.store.unavailable = t.store.unavailable := by
  cases w with
  | save d =>
    rw [perform, run_save_of_available h]
    exact ⟨Store.documents_replaced_self _ _, rfl⟩
  | update d =>
    rw [perform, run_update h]
    exact ⟨documents_mapped _ _, unavailable_mapped _ _⟩
  | remove id =>
    obtain ⟨hunavailable, -⟩ | ⟨existed, t', hrun, -, hreadable⟩ := remove_cases id t
    · exact absurd (h.symm.trans hunavailable) Bool.false_ne_true
    · have hleft : (perform (.remove id)).run t = (.ok (), t') := by
        rw [perform, run_bind, hrun]
        rfl
      have hstore : t'.store.readable = (put (others id (documents t)) t).store.readable :=
        congrArg (fun readable => readable.2.2.2) hreadable
      rw [hleft]
      exact ⟨(congrFun (congrArg Prod.snd hstore) Store.reports).trans (Store.documents_replaced_self _ _),
        congrArg Prod.fst hstore⟩
  | recordStatus id status =>
    rw [perform, run_note h]
    exact ⟨documents_mapped _ _, unavailable_mapped _ _⟩

end Change

/-- **What one write makes of kept definitions** is kept. -/
theorem Kept.onDocuments {documents : List Json} {definitions : List ReportDefinition}
    (h : Kept documents definitions) (w : Change) : Kept (w.onDocuments documents) (w.onDefinitions definitions) := by
  cases w with
  | save d =>
    refine ⟨h.decodes.replaceOrAdd d, fun document hmem => ?_, ?_⟩
    · rcases mem_replaceOrAdd hmem with rfl | hmem
      · exact isFull_toJson d
      · exact h.full document hmem
    · rw [Change.onDefinitions, map_reportId_saved]
      split
      · exact h.ids
      · next hnew => exact List.nodup_append.2 ⟨h.ids, List.nodup_singleton _, fun id hid other hother =>
          fun hsame => hnew (List.mem_singleton.1 hother ▸ hsame ▸ hid)⟩
  | update d =>
    refine ⟨h.decodes.map (g := exchanged d) fun hd => decode?_rewritten hd d, fun document hmem => ?_, ?_⟩
    · obtain ⟨other, hother, rfl⟩ := List.mem_map.1 hmem
      obtain ⟨e, he⟩ := h.decodes.exists_definition hother
      exact (h.full other hother).rewritten he d
    · rw [Change.onDefinitions, List.map_map, show ReportDefinition.reportId ∘ exchanged d = ReportDefinition.reportId from
        funext (reportId_exchanged d)]
      exact h.ids
  | remove id =>
    refine ⟨h.decodes.others id, fun document hmem => h.full document (List.mem_filter.1 hmem).1, ?_⟩
    exact (List.filter_sublist.map _).nodup h.ids
  | recordStatus id status =>
    refine ⟨h.decodes.map (g := noted id status) fun hd => decode?_stamped hd id status, fun document hmem => ?_, ?_⟩
    · obtain ⟨other, hother, rfl⟩ := List.mem_map.1 hmem
      obtain ⟨e, he⟩ := h.decodes.exists_definition hother
      exact (h.full other hother).stamped he id status
    · rw [Change.onDefinitions, List.map_map, show ReportDefinition.reportId ∘ noted id status = ReportDefinition.reportId from
        funext (reportId_noted id status)]
      exact h.ids

/-- **The tenant after writes** into the registry, some of which may have failed. -/
def afterwards (t : Tenant) (changes : List Change) : Tenant :=
  changes.foldl (fun t w => (w.perform.run t).2) t

/-- **Whatever is written, definitions with different ids are kept.** -/
theorem kept_of_changes {t : Tenant} {definitions : List ReportDefinition} (hkept : Kept (documents t) definitions)
    (h : t.store.unavailable.contains Store.reports = false) (changes : List Change) :
    Kept (documents (afterwards t changes)) (changes.foldl Change.onDefinitions definitions)
      ∧ (afterwards t changes).store.unavailable = t.store.unavailable := by
  induction changes generalizing t definitions with
  | nil => exact ⟨hkept, rfl⟩
  | cons w rest ih =>
    obtain ⟨hdocuments, hunavailable⟩ := Change.documents_perform h w
    obtain ⟨hafter, hleft⟩ := ih (hdocuments ▸ hkept.onDocuments w) (hunavailable ▸ h)
    exact ⟨hafter, hleft.trans hunavailable⟩

/-! ### What a listing and a lookup read -/

variable {t : Tenant} {documents : List Json} {definitions : List ReportDefinition}

/-- A name is read in a document as the definition has it. -/
theorem get?_of_isFull {document : Json} {d : ReportDefinition} (hfull : IsFull document)
    (h : ReportDefinition.decode? document = some d) {name : String} (hname : Document.IsName name) {value : Json}
    (hmem : (name, value) ∈ d.authored) : Document.get? name document = some value := by
  obtain ⟨m, rfl, hholds⟩ := hfull d h
  exact (Document.get?_of_isName hname _).trans (hholds name value hmem)

/-- The time of a deletion is no empty text. -/
theorem isFilled_deletedAt (time : Option Instant) :
    Predicate.isFilled (some ((time.map Instant.toJson).getD .null)) = time.isSome := by
  cases time with
  | none => rfl
  | some time =>
    have hread : ∀ text, Instant.decode? text = none → time.recorded ≠ text := by
      rintro _ hnone rfl
      exact absurd (hnone.symm.trans time.decode?_recorded) nofun
    rw [Option.map_some, Option.getD_some, Instant.toJson, Predicate.isFilled, decide_eq_true (hread "" (by decide)),
      decide_eq_true (hread "[]" (by decide))]
    rfl

/-- **A definition of an app**, perhaps of one datastore, that is not deleted. -/
def IsListed (appId : String) (datastoreId : Option String) (d : ReportDefinition) : Prop :=
  d.appId = appId ∧ d.isDeleted = false ∧ ∀ id, datastoreId = some id → d.datastoreId = id

/-- **Which documents are listed** is told by the definitions in them. -/
theorem holds_listed_iff {document : Json} {d : ReportDefinition} (hfull : IsFull document)
    (h : ReportDefinition.decode? document = some d) (appId : String) (datastoreId : Option String) :
    (listed appId datastoreId).holds document = true ↔ IsListed appId datastoreId d := by
  have happ : Document.get? "app_id" document = some (.string d.appId) :=
    get?_of_isFull hfull h (by decide) (by simp [ReportDefinition.authored, ReportContent.toMembers])
  have hdatastore : Document.get? "datastore_id" document = some (.string d.datastoreId) :=
    get?_of_isFull hfull h (by decide) (by simp [ReportDefinition.authored, ReportContent.toMembers])
  have hdeleted : Document.get? "deleted_at" document = some ((d.deletedAt.map Instant.toJson).getD .null) :=
    get?_of_isFull hfull h (by decide) (by simp [ReportDefinition.authored])
  have hfilled : (Predicate.filled "deleted_at" false).holds document = !d.isDeleted := by
    show (Predicate.isFilled (Document.get? "deleted_at" document) == false) = _
    rw [hdeleted, isFilled_deletedAt, beq_false]
    rfl
  unfold listed
  rw [Predicate.holds_allOf]
  cases datastoreId with
  | none => simp [Predicate.holds_compare_text happ, hfilled, IsListed]
  | some id => simp [Predicate.holds_compare_text happ, Predicate.holds_compare_text hdatastore, hfilled, IsListed]

/-- The order of two things by their ids. -/
def orderIds (d e : ReportDefinition) : Ordering := compare d.reportId.text e.reportId.text

/-- **The order in which definitions are shown**: that of the doubles of their display orders, then that of their
ids. -/
def shownOrder (d e : ReportDefinition) : Ordering :=
  (compare (Number.ofSigned d.displayOrder).value (Number.ofSigned e.displayOrder).value).then (orderIds d e)

/-- **The order of the display orders** as whole numbers, then that of the ids. -/
def wholeOrder (d e : ReportDefinition) : Ordering :=
  (compare d.displayOrder.toInt e.displayOrder.toInt).then (orderIds d e)

/-- What comes first when definitions are shown. -/
theorem shownOrder_eq_lt_iff {d e : ReportDefinition} : shownOrder d e = .lt ↔
    (Number.ofSigned d.displayOrder).value < (Number.ofSigned e.displayOrder).value
      ∨ (Number.ofSigned d.displayOrder).value = (Number.ofSigned e.displayOrder).value
        ∧ d.reportId.text < e.reportId.text := by
  rw [shownOrder, Ordering.then_eq_lt, compare_lt_iff_lt, compare_eq_iff_eq, orderIds, compare_lt_iff_lt]

/-- What comes first by the whole numbers. -/
theorem wholeOrder_eq_lt_iff {d e : ReportDefinition} : wholeOrder d e = .lt ↔
    d.displayOrder.toInt < e.displayOrder.toInt
      ∨ d.displayOrder.toInt = e.displayOrder.toInt ∧ d.reportId.text < e.reportId.text := by
  rw [wholeOrder, Ordering.then_eq_lt, compare_lt_iff_lt, compare_eq_iff_eq, orderIds, compare_lt_iff_lt]

/-- Of two definitions one comes first at most. -/
theorem shownOrder_asymm {d e : ReportDefinition} (h : shownOrder d e = .lt) : shownOrder e d ≠ .lt := by
  intro h'
  rw [shownOrder_eq_lt_iff] at h h'
  rcases h with hlt | ⟨hsame, hids⟩ <;> rcases h' with hlt' | ⟨hsame', hids'⟩
  · exact lt_asymm hlt hlt'
  · exact hlt.ne hsame'.symm
  · exact hlt'.ne hsame.symm
  · exact lt_asymm hids hids'

/-- **Documents are compared as their definitions.** -/
theorem order_of_isFull {document other : Json} {d e : ReportDefinition} (hfull : IsFull document)
    (hd : ReportDefinition.decode? document = some d) (hfull' : IsFull other)
    (he : ReportDefinition.decode? other = some e) :
    Document.order [.ascending "display_order", .ascending idPath] document other = shownOrder d e := by
  have hnumber : ∀ {document : Json} {d : ReportDefinition}, IsFull document →
      ReportDefinition.decode? document = some d →
      Document.get? "display_order" document = some (.number (.ofSigned d.displayOrder)) := fun hfull h =>
    get?_of_isFull hfull h (by decide) (by simp [ReportDefinition.authored, ReportContent.toMembers, Json.ofSigned])
  show (Json.order? (Document.get? "display_order" document) (Document.get? "display_order" other)).then
    ((Json.order? (Document.get? idPath document) (Document.get? idPath other)).then .eq) = _
  rw [hnumber hfull hd, hnumber hfull' he, get?_idPath hd, get?_idPath he, Ordering.then_eq]
  show ((Number.ofSigned d.displayOrder).order (Number.ofSigned e.displayOrder)).then (orderIds d e) = _
  rw [Number.order_eq_compare, shownOrder]

/-- What is found is loaded if it is not deleted. -/
theorem bind_active_iff {id : ReportId} {found : Except ReportError (Option ReportDefinition)} {d : ReportDefinition} :
    found.bind (active id) = .ok d ↔ found = .ok (some d) ∧ d.isDeleted = false := by
  obtain e | _ | d' := found
  · exact ⟨nofun, fun h => absurd h.1 nofun⟩
  · exact ⟨nofun, fun h => absurd h.1 nofun⟩
  · show (if d'.isDeleted = true then Except.error (missing id) else .ok d') = .ok d ↔ _
    rw [Except.ok.injEq, Option.some_inj]
    split
    · next hdeleted => exact ⟨nofun, fun ⟨hsame, hkept⟩ => absurd (hsame ▸ hdeleted) (Bool.eq_false_iff.1 hkept)⟩
    · next hkept =>
      rw [Except.ok.injEq]
      exact ⟨fun hsame => ⟨hsame, hsame ▸ Bool.eq_false_iff.2 hkept⟩, And.left⟩

/-- **A definition is loaded** if it is kept and not deleted. -/
theorem answer_load_iff (hkept : Kept (Registry.documents t) definitions)
    (havailable : t.store.unavailable.contains Store.reports = false) {d : ReportDefinition} :
    (load d.reportId).answer t = .ok d ↔ d ∈ definitions ∧ d.isDeleted = false := by
  have hload : (load d.reportId).answer t
      = (firstOf d.reportId (Registry.documents t)).bind (active d.reportId) := by
    unfold load
    rw [TenantAction.answer_bind (reads_find (Set.mem_univ _) _) (fun _ => .ofExcept .univ _ _), answer_find havailable]
    refine congrArg (Except.bind _) (funext fun found => ?_)
    cases active d.reportId found <;> rfl
  have hdefinitions := hkept.decodes.eq_filterMap
  rw [hload, bind_active_iff, firstOf_eq_ok_some_iff]
  constructor
  · rintro ⟨⟨document, hfind, hdocument⟩, hdeleted⟩
    refine ⟨?_, hdeleted⟩
    rw [hdefinitions]
    exact List.mem_filterMap.2 ⟨document, List.mem_of_find?_eq_some hfind, hdocument⟩
  · rintro ⟨hmem, hdeleted⟩
    -- the first document that is met by the id is that of the definition, since no id is used twice
    obtain ⟨document, hdocument, hd⟩ := List.mem_filterMap.1 (hdefinitions ▸ hmem)
    have hmet : (isReport d.reportId).holds document = true := (holds_isReport_iff hd).2 rfl
    obtain ⟨first, hfind⟩ := Option.isSome_iff_exists.1
      (List.find?_isSome (p := (isReport d.reportId).holds) |>.2 ⟨document, hdocument, hmet⟩)
    obtain ⟨d', hd'⟩ := hkept.decodes.exists_definition (List.mem_of_find?_eq_some hfind)
    have hid : d'.reportId = d.reportId :=
      (holds_isReport_iff hd').1 (List.find?_some (p := (isReport d.reportId).holds) hfind)
    have hmem' : d' ∈ definitions := by
      rw [hdefinitions]
      exact List.mem_filterMap.2 ⟨first, List.mem_of_find?_eq_some hfind, hd'⟩
    obtain rfl : d' = d := List.inj_on_of_nodup_map hkept.ids hmem' hmem hid
    exact ⟨⟨first, hfind, hd'⟩, hdeleted⟩

/-- Documents that all decode are decoded. -/
theorem mapM_decode (h : ∀ document ∈ documents, (ReportDefinition.decode? document).isSome) :
    documents.mapM decode = (pure (documents.filterMap ReportDefinition.decode?) : TenantAction _) := by
  induction documents with
  | nil => rfl
  | cons document rest ih =>
    obtain ⟨hfirst, hrest⟩ := List.forall_mem_cons.1 h
    obtain ⟨d, hd⟩ := Option.isSome_iff_exists.1 hfirst
    have hdecode : decode document = pure d := by
      unfold decode
      rw [hd]
    rw [List.mapM_cons, hdecode, pure_bind, ih hrest, pure_bind, List.filterMap_cons_some hd]

/-- **What a listing answers**: the definitions of the documents that match, as these are sorted. -/
theorem answer_list (hkept : Kept (Registry.documents t) definitions)
    (havailable : t.store.unavailable.contains Store.reports = false) (appId : String) (datastoreId : Option String) :
    (list appId datastoreId).answer t = .ok ((Document.sort [.ascending "display_order", .ascending idPath]
      ((Registry.documents t).filter (listed appId datastoreId).holds)).filterMap ReportDefinition.decode?) := by
  have hfind : (TenantAction.onStore "list reports" (Store.find Store.reports (listed appId datastoreId)
      { sort := [.ascending "display_order", .ascending idPath] })).answer t
      = .ok (Document.sort [.ascending "display_order", .ascending idPath]
        ((Registry.documents t).filter (listed appId datastoreId).holds)) := by
    rw [TenantAction.answer_find, TenantAction.found, if_neg (Bool.eq_false_iff.1 havailable)]
    rfl
  have hall : ∀ document ∈ Document.sort [.ascending "display_order", .ascending idPath]
      ((Registry.documents t).filter (listed appId datastoreId).holds), (ReportDefinition.decode? document).isSome := by
    intro document hmem
    have hmem := (Document.stablySorted_sort _ _).perm.mem_iff.1 hmem
    exact Option.isSome_iff_exists.2 (hkept.decodes.exists_definition (List.mem_filter.1 hmem).1)
  unfold TenantAction.answer at hfind ⊢
  unfold list
  rw [run_bind]
  generalize (TenantAction.onStore "list reports" _).run t = ran at hfind ⊢
  obtain ⟨result, t'⟩ := ran
  obtain rfl : result = _ := hfind
  show (((Document.sort _ _).mapM decode).run t').1 = _
  rw [mapM_decode hall]
  rfl

/-! ### The order of a listing -/

variable {shown : List ReportDefinition}

/-- Definitions with different ids are told apart by them. -/
theorem orderIds_eq_iff {d e : ReportDefinition} : orderIds d e = .eq ↔ d.reportId = e.reportId := by
  unfold orderIds
  rw [Std.compare_eq_iff_eq]
  exact ⟨ReportId.eq_of_text, congrArg ReportId.text⟩

/-- **The definitions that are listed**, each once, in the order in which they are shown. -/
structure Lists (appId : String) (datastoreId : Option String) (definitions shown : List ReportDefinition) : Prop where
  /-- They are those of the app that are not deleted. -/
  mem_iff : ∀ d, d ∈ shown ↔ d ∈ definitions ∧ IsListed appId datastoreId d
  /-- Each is listed once. -/
  ids : (shown.map ReportDefinition.reportId).Nodup
  /-- They are in their order. -/
  ordered : shown.Pairwise fun d e => shownOrder d e = .lt

/-- **A listing lists definitions** wherever they are kept and can be reached. -/
theorem exists_lists (hkept : Kept (Registry.documents t) definitions)
    (havailable : t.store.unavailable.contains Store.reports = false) (appId : String) (datastoreId : Option String) :
    ∃ shown, (list appId datastoreId).answer t = .ok shown ∧ Lists appId datastoreId definitions shown := by
  have hdefinitions := hkept.decodes.eq_filterMap
  have hsorted := Document.stablySorted_sort [.ascending "display_order", .ascending idPath]
    ((Registry.documents t).filter (listed appId datastoreId).holds)
  have hmem : ∀ {document}, document ∈ Document.sort [.ascending "display_order", .ascending idPath]
      ((Registry.documents t).filter (listed appId datastoreId).holds)
      ↔ document ∈ Registry.documents t ∧ (listed appId datastoreId).holds document = true := fun {_} =>
    hsorted.perm.mem_iff.trans List.mem_filter
  have hids : ((Document.sort [.ascending "display_order", .ascending idPath]
      ((Registry.documents t).filter (listed appId datastoreId).holds)).filterMap ReportDefinition.decode?).map
        ReportDefinition.reportId |>.Nodup := by
    rw [((hsorted.perm.filterMap ReportDefinition.decode?).map ReportDefinition.reportId).nodup_iff]
    exact ((List.filter_sublist.filterMap _).map _).nodup (hdefinitions ▸ hkept.ids)
  refine ⟨_, answer_list hkept havailable appId datastoreId, fun d => ?_, hids, ?_⟩
  · rw [hdefinitions, List.mem_filterMap, List.mem_filterMap]
    constructor
    · rintro ⟨document, hdocument, hd⟩
      obtain ⟨hthere, hholds⟩ := hmem.1 hdocument
      exact ⟨⟨document, hthere, hd⟩, (holds_listed_iff (hkept.full document hthere) hd _ _).1 hholds⟩
    · rintro ⟨⟨document, hthere, hd⟩, hlisted⟩
      exact ⟨document, hmem.2 ⟨hthere, (holds_listed_iff (hkept.full document hthere) hd _ _).2 hlisted⟩, hd⟩
  · have hordered : (List.filterMap ReportDefinition.decode? (Document.sort [.ascending "display_order", .ascending idPath]
        ((Registry.documents t).filter (listed appId datastoreId).holds))).Pairwise fun d e => (shownOrder d e).isLE := by
      refine List.pairwise_filterMap.2 (hsorted.pairwise.imp_of_mem fun {document other} hdocument hother hle => ?_)
      intro d hd e he
      rwa [order_of_isFull (hkept.full _ (hmem.1 hdocument).1) hd (hkept.full _ (hmem.1 hother).1) he] at hle
    -- no two of them have one id, so that none is equal to another
    refine (hordered.and (List.pairwise_map.1 hids)).imp fun {d e} h => ?_
    obtain ⟨hle, hne⟩ := h
    cases horder : shownOrder d e with
    | lt => rfl
    | eq => exact absurd (orderIds_eq_iff.1 (Ordering.then_eq_eq.1 horder).2) hne
    | gt => exact absurd (horder ▸ hle) nofun

/-- **The listing is in the order of the display orders**, and of the ids where these are equal. -/
def IsWholeSorted (shown : List ReportDefinition) : Prop := shown.Pairwise fun d e => wholeOrder d e = .lt

/-- **Definitions whose display orders convert to one double** are told apart by their ids in the same way. -/
def IsTold (shown : List ReportDefinition) : Prop :=
  ∀ d ∈ shown, ∀ e ∈ shown, d.displayOrder.toInt < e.displayOrder.toInt →
    (Number.ofSigned d.displayOrder).value = (Number.ofSigned e.displayOrder).value → d.reportId.text < e.reportId.text

/-- The doubles are in the order of the numbers, as far as they tell them apart. -/
theorem value_displayOrder_mono {d e : ReportDefinition} (h : d.displayOrder.toInt ≤ e.displayOrder.toInt) :
    (Number.ofSigned d.displayOrder).value ≤ (Number.ofSigned e.displayOrder).value := Number.value_int_mono h

/-- **When a listing is in the order of the display orders.** -/
theorem isWholeSorted_iff (hordered : shown.Pairwise fun d e => shownOrder d e = .lt) :
    IsWholeSorted shown ↔ IsTold shown := by
  constructor
  · intro hsorted d hd e he hlt hsame
    have hsymm : Std.Symm fun a b => (shownOrder a b = .lt ∧ wholeOrder a b = .lt)
        ∨ shownOrder b a = .lt ∧ wholeOrder b a = .lt := ⟨fun _ _ => Or.symm⟩
    have heither := ((hordered.and hsorted).imp (S := fun a b => (shownOrder a b = .lt ∧ wholeOrder a b = .lt)
        ∨ shownOrder b a = .lt ∧ wholeOrder b a = .lt) .inl).forall hd he (by rintro rfl; exact lt_irrefl _ hlt)
    obtain ⟨hfirst, -⟩ | ⟨-, hwrong⟩ := heither
    · exact (shownOrder_eq_lt_iff.1 hfirst).elim (fun hless => absurd hsame hless.ne) And.right
    · exact (wholeOrder_eq_lt_iff.1 hwrong).elim (fun hless => absurd hlt (lt_asymm hless)) fun heq => absurd heq.1 hlt.ne'
  · intro htold
    refine hordered.imp_of_mem fun {d e} hd he horder => wholeOrder_eq_lt_iff.2 ?_
    rcases lt_trichotomy d.displayOrder.toInt e.displayOrder.toInt with hlt | heq | hgt
    · exact .inl hlt
    · refine .inr ⟨heq, ?_⟩
      rcases shownOrder_eq_lt_iff.1 horder with hlt | ⟨-, hids⟩
      · exact absurd hlt (not_lt.2 (value_displayOrder_mono heq.ge))
      · exact hids
    · -- the larger number comes first only if the doubles are equal, and then the ids decide otherwise
      rcases shownOrder_eq_lt_iff.1 horder with hlt | ⟨hsame, hids⟩
      · exact absurd hlt (not_lt.2 (value_displayOrder_mono hgt.le))
      · exact absurd (htold e he d hd hgt hsame.symm) (lt_asymm hids)

/-- Display orders up to `2 ^ 53` convert to different doubles. -/
theorem isTold_of_abs_le (h : ∀ d ∈ shown, |d.displayOrder.toInt| ≤ 2 ^ 53) : IsTold shown := by
  intro d hd e he hlt hsame
  have hvalue : ∀ d ∈ shown, (Number.ofSigned d.displayOrder).value = d.displayOrder.toInt := fun d hd =>
    Number.value_int_of_abs_le (h d hd)
  rw [hvalue d hd, hvalue e he, Int.cast_inj] at hsame
  exact absurd hsame hlt.ne

/-- Nothing is kept of no documents. -/
theorem kept_nil : Kept [] [] := ⟨.nil, nofun, List.nodup_nil⟩

/-- **Listing and loading agree**, whatever was written into the registry. A listing shows exactly the definitions
that are loaded by their ids and are of the app, and of the datastore if one is named, each of them once. They are in
the order of the doubles of their display orders, and then of their ids; so they are in the order of the display
orders exactly if those that convert to one double have ids in the same order, and always if the display orders
are at most `2 ^ 53`. -/
theorem list_agrees {t₀ : Tenant} (hempty : Registry.documents t₀ = [])
    (havailable : t₀.store.unavailable.contains Store.reports = false) (changes : List Change) (appId : String)
    (datastoreId : Option String) :
    ∃ shown, (list appId datastoreId).answer (afterwards t₀ changes) = .ok shown
      ∧ (∀ d, d ∈ shown ↔ (load d.reportId).answer (afterwards t₀ changes) = .ok d ∧ d.appId = appId
        ∧ ∀ id, datastoreId = some id → d.datastoreId = id)
      ∧ (shown.map ReportDefinition.reportId).Nodup
      ∧ (shown.Pairwise fun d e => shownOrder d e = .lt)
      ∧ (IsWholeSorted shown ↔ IsTold shown)
      ∧ ((∀ d ∈ shown, |d.displayOrder.toInt| ≤ 2 ^ 53) → IsWholeSorted shown) := by
  obtain ⟨hkept, hunavailable⟩ := kept_of_changes (hempty ▸ kept_nil) havailable changes
  have hafter : (afterwards t₀ changes).store.unavailable.contains Store.reports = false := hunavailable ▸ havailable
  obtain ⟨shown, hanswer, hlists⟩ := exists_lists hkept hafter appId datastoreId
  have hiff := isWholeSorted_iff hlists.ordered
  refine ⟨shown, hanswer, fun d => ?_, hlists.ids, hlists.ordered, hiff, fun hsmall => hiff.2 (isTold_of_abs_le hsmall)⟩
  rw [hlists.mem_iff, answer_load_iff hkept hafter]
  exact ⟨fun ⟨hmem, happ, hdeleted, hdatastore⟩ => ⟨⟨hmem, hdeleted⟩, happ, hdatastore⟩,
    fun ⟨⟨hmem, hdeleted⟩, happ, hdatastore⟩ => ⟨hmem, happ, hdeleted, hdatastore⟩⟩

/-! ### Two reports of one double -/

/-- The stays in a house, shown at `2 ^ 53`. -/
def staysShown : ReportDefinition where
  appId := "house"
  datastoreId := "stays"
  displayOrder := 9007199254740992
  mode := .select [.dynamic "guest" .user]
  reportId := ⟨"stays", by decide⟩

/-- The lodgers of a house, to be shown behind them. -/
def lodgersShown : ReportDefinition :=
  { staysShown with displayOrder := 9007199254740993, reportId := ⟨"lodgers", by decide⟩ }

/-- Another report of them, shown before both until it is deleted. -/
def retiredShown : ReportDefinition :=
  { staysShown with displayOrder := -1, reportId := ⟨"retired", by decide⟩ }

/-- The three are saved, and the last one is deleted. -/
def houseChanges : List Change :=
  [.save lodgersShown, .save staysShown, .save retiredShown, .update { retiredShown with deletedAt := some .epoch }]

/-- What is kept after these changes. -/
theorem kept_house : Kept (Registry.documents (afterwards emptyTenant houseChanges))
    [lodgersShown, staysShown, { retiredShown with deletedAt := some .epoch }] :=
  (kept_of_changes (t := emptyTenant) kept_nil rfl houseChanges).1

/-- The definitions can be reached after these changes. -/
theorem available_house : (afterwards emptyTenant houseChanges).store.unavailable.contains Store.reports = false := by
  rw [(kept_of_changes (t := emptyTenant) kept_nil rfl houseChanges).2]
  rfl

/-- **Both reports are listed once, and the deleted one is not.** -/
theorem list_house : ∃ shown, (list "house" (some "stays")).answer (afterwards emptyTenant houseChanges) = .ok shown
    ∧ staysShown ∈ shown ∧ lodgersShown ∈ shown ∧ (∀ d ∈ shown, d.deletedAt = none)
    ∧ (shown.map ReportDefinition.reportId).Nodup := by
  have hempty : Registry.documents emptyTenant = [] := rfl
  obtain ⟨shown, hanswer, hmem, hids, -⟩ := list_agrees hempty rfl houseChanges "house" (some "stays")
  have hload : ∀ d, (load d.reportId).answer (afterwards emptyTenant houseChanges) = .ok d ↔ _ := fun _ =>
    answer_load_iff kept_house available_house
  refine ⟨shown, hanswer, (hmem _).2 ⟨(hload _).2 ⟨?_, rfl⟩, rfl, ?_⟩, (hmem _).2 ⟨(hload _).2 ⟨?_, rfl⟩, rfl, ?_⟩,
    fun d hd => ?_, hids⟩
  · exact List.mem_cons_of_mem _ List.mem_cons_self
  · exact fun _ => Option.some.inj
  · exact List.mem_cons_self
  · exact fun _ => Option.some.inj
  · exact Option.not_isSome_iff_eq_none.1 (Bool.eq_false_iff.1 ((hload d).1 ((hmem d).1 hd).1).2)

/-- **The report of the larger number is listed first**, since both numbers convert to one double. -/
theorem list_house_backwards :
    (list "house" none).answer (afterwards emptyTenant houseChanges) = .ok [lodgersShown, staysShown]
      ∧ staysShown.displayOrder.toInt < lodgersShown.displayOrder.toInt := by
  obtain ⟨shown, hanswer, hlists⟩ := exists_lists kept_house available_house "house" none
  have hmem : ∀ d, d ∈ shown ↔ d ∈ [lodgersShown, staysShown] := by
    intro d
    rw [hlists.mem_iff]
    simp only [List.mem_cons, List.not_mem_nil, or_false]
    constructor
    · rintro ⟨rfl | rfl | rfl, -, hdeleted, -⟩
      · exact .inl rfl
      · exact .inr rfl
      · exact absurd hdeleted (by decide)
    · rintro (rfl | rfl)
      · exact ⟨.inl rfl, rfl, rfl, nofun⟩
      · exact ⟨.inr (.inl rfl), rfl, rfl, nofun⟩
  have hpair : [lodgersShown, staysShown].Pairwise fun d e => shownOrder d e = .lt :=
    List.pairwise_pair.2 (shownOrder_eq_lt_iff.2 (.inr ⟨Number.value_succ, by decide⟩))
  have hshown : shown = [lodgersShown, staysShown] :=
    List.Perm.eq_of_pairwise (fun d e _ _ h h' => absurd h' (shownOrder_asymm h)) hlists.ordered hpair
      ((List.perm_ext_iff_of_nodup (List.Nodup.of_map _ hlists.ids) (by decide)).2 hmem)
  exact ⟨hshown ▸ hanswer, by decide⟩

end Registry

end Rollup
