import Rollup.Proofs.Editing

/-!
# A stored definition as two registers

What is stored of a report is two registers in one document: what its authors wrote, and the status of its
materialization. Saving a definition writes both, editing it the one, and noting a status the other. Whatever is
written in whatever order, a definition that is found holds what was written last into each (`Registry.writtenTo`),
also where the document still holds members of a mode that the definition no longer has.

Documents are found by their id where it stands in a list as well, but a definition is saved over a document that has
the very id. So there is one thing that can be in the way: a document that is met by the id without having it, before
all that have it. It hides the definition, which then is never found (`Registry.find_of_writes_iff`).
-/

namespace Rollup

open TenantAction (answer)

namespace Document

variable {path other : String}

/-- A name is written into the members. -/
theorem set_of_isName (h : IsName path) (value j : Json) :
    set path value j = .object (Keyed.insert path value j.members) := by
  unfold set
  rw [segments_of_isName h]
  rfl

/-- Writing one name does not change the reading of another. -/
theorem get?_set_of_ne (hpath : IsName path) (hother : IsName other) (h : path ≠ other) (value j : Json) :
    get? path (set other value j) = get? path j := by
  unfold get? set
  rw [segments_of_isName hpath, segments_of_isName hother]
  exact getAt?_setAt_of_part (part_of_ne h [] []) _ _

/-- **Writes of different names** may change places. -/
theorem set_comm (hpath : IsName path) (hother : IsName other) (h : path ≠ other) (value value' j : Json) :
    set path value (set other value' j) = set other value' (set path value j) := by
  rw [set_of_isName hother, set_of_isName hpath, set_of_isName hpath, set_of_isName hother]
  exact congrArg Json.object (Keyed.insert_comm h value value' j.members)

end Document

namespace Store

variable {path : String}

/-- Writing other fields does not change the reading of a field. -/
theorem get?_setFields (hpath : Document.IsName path) {written : List (String × Json)}
    (h : ∀ pair ∈ written, Document.IsName pair.1 ∧ pair.1 ≠ path) (j : Json) :
    Document.get? path (setFields written j) = Document.get? path j := by
  induction written generalizing j with
  | nil => rfl
  | cons pair rest ih =>
    obtain ⟨hname, hne⟩ := h pair List.mem_cons_self
    exact (ih (fun other hother => h other (List.mem_cons_of_mem _ hother)) _).trans
      (Document.get?_set_of_ne hpath hname hne.symm _ _)

/-- A field may be written before others or after them. -/
theorem set_setFields (hpath : Document.IsName path) {written : List (String × Json)}
    (h : ∀ pair ∈ written, Document.IsName pair.1 ∧ pair.1 ≠ path) (value j : Json) :
    Document.set path value (setFields written j) = setFields written (Document.set path value j) := by
  induction written generalizing j with
  | nil => rfl
  | cons pair rest ih =>
    obtain ⟨hname, hne⟩ := h pair List.mem_cons_self
    refine (ih (fun other hother => h other (List.mem_cons_of_mem _ hother)) _).trans ?_
    exact congrArg (setFields rest) (Document.set_comm hpath hname hne.symm value pair.2 j)

/-- Changes of one collection are one change. -/
theorem changed_changed (name : String) (f g : Collection → Collection) (s : Store) :
    (s.changed name f).changed name g = s.changed name fun c => g (f c) := by
  by_cases h : s.hasCollection name
  · have hfirst : s.changed name f = s.withCollection name (f (s.collection name)) := if_pos h
    have hthere : (s.withCollection name (f (s.collection name))).hasCollection name = true := by
      unfold hasCollection withCollection Keyed.contains
      rw [Keyed.get?_insert_self]
      rfl
    rw [hfirst]
    unfold changed
    rw [if_pos hthere, if_pos h, collection_withCollection_self]
    unfold withCollection
    rw [Keyed.insert_insert]
  · have hsame : ∀ f, s.changed name f = s := fun f => if_neg h
    rw [hsame, hsame, hsame]

end Store

namespace Registry

variable {t : Tenant}

/-- The tenant with something done to each of the definitions. -/
def mapped (f : Json → Json) (t : Tenant) : Tenant :=
  { t with store := t.store.changed Store.reports fun c => { c with documents := c.documents.map f } }

/-- It was done to each of them. -/
theorem documents_mapped (f : Json → Json) (t : Tenant) : documents (mapped f t) = (documents t).map f :=
  Store.documents_changed_map f t.store

/-- It makes no collection unavailable. -/
theorem unavailable_mapped (f : Json → Json) (t : Tenant) :
    (mapped f t).store.unavailable = t.store.unavailable := Store.unavailable_changed _ _ _

/-- What is done one after the other is done at once. -/
theorem mapped_mapped (f g : Json → Json) (t : Tenant) : mapped g (mapped f t) = mapped (g ∘ f) t := by
  have hstore := Store.changed_changed Store.reports
    (fun c => { c with documents := c.documents.map f }) (fun c => { c with documents := c.documents.map g }) t.store
  simp only [List.map_map] at hstore
  exact congrArg (fun store => ({ t with store } : Tenant)) hstore

/-- What editing a definition leaves. -/
theorem run_update (h : t.store.unavailable.contains Store.reports = false) (d : ReportDefinition) :
    (update d).run t = (if ((documents t).filter (isReport d.reportId).holds).length = 0
      then .error (missing d.reportId) else .ok (), mapped (rewritten d) t) := by
  unfold update
  dsimp only
  rw [run_bind, TenantAction.run_onStore, Store.run_update_of_available h]
  show (if ((documents t).filter (isReport d.reportId).holds).length = 0 then throw _ else pure ()
    : TenantAction Unit).run (mapped (rewritten d) t) = _
  split <;> rfl

/-- What noting a status leaves. -/
theorem run_note (h : t.store.unavailable.contains Store.reports = false) (id : ReportId)
    (status : MaterializationStatus) :
    (recordStatus id status).run t = (.ok (), mapped (stamped id status) t) := by
  unfold recordStatus
  rw [run_bind, TenantAction.run_onStore, Store.run_update_of_available h]
  rfl

/-! ### Edits and statuses -/

/-- An edit writes plain names, and neither the id nor the status. -/
theorem isName_of_mem_edited {d : ReportDefinition} {pair : String × Json} (h : pair ∈ edited d) :
    Document.IsName pair.1 ∧ pair.1 ≠ idPath ∧ pair.1 ≠ statusPath := by
  obtain ⟨hmem, hne⟩ := mem_edited_iff.1 h
  exact ⟨ReportDefinition.isName_of_mem_memberNames _ _
    (d.names_members ▸ List.mem_map_of_mem (ReportDefinition.mem_toMembers_iff.1 hmem)), hne⟩

/-- An edit does not change which report a definition is of. -/
theorem holds_rewritten (d : ReportDefinition) (id : ReportId) (document : Json) :
    (isReport id).holds (rewritten d document) = (isReport id).holds document := by
  unfold rewritten
  split
  · show Comparison.holdsField _ _ (Document.get? idPath _) = Comparison.holdsField _ _ _
    rw [Store.get?_setFields (by decide) fun pair hpair =>
      ⟨(isName_of_mem_edited hpair).1, (isName_of_mem_edited hpair).2.1⟩]
  · rfl

/-- **An edit and a status are written side by side**, into whatever document. -/
theorem stamped_rewritten (d : ReportDefinition) (id : ReportId) (status : MaterializationStatus) (document : Json) :
    stamped id status (rewritten d document) = rewritten d (stamped id status document) := by
  have hstamped : stamped id status (rewritten d document) = if (isReport id).holds document
      then Document.set statusPath status.toJson (rewritten d document) else rewritten d document := by
    rw [stamped, holds_rewritten]
  have hrewritten : rewritten d (stamped id status document) = if (isReport d.reportId).holds document
      then Store.setFields (edited d) (stamped id status document) else stamped id status document := by
    rw [rewritten, holds_stamped]
  have hcomm : Document.set statusPath status.toJson (Store.setFields (edited d) document)
      = Store.setFields (edited d) (Document.set statusPath status.toJson document) :=
    Store.set_setFields (by decide) (fun pair hpair =>
      ⟨(isName_of_mem_edited hpair).1, (isName_of_mem_edited hpair).2.2⟩) _ _
  rw [hstamped, hrewritten]
  unfold rewritten stamped
  by_cases hid : (isReport id).holds document
  · by_cases hd : (isReport d.reportId).holds document
    · rw [if_pos hid, if_pos hd, if_pos hd, if_pos hid, hcomm]
    · rw [if_pos hid, if_neg hd, if_neg hd, if_pos hid]
  · by_cases hd : (isReport d.reportId).holds document
    · rw [if_neg hid, if_pos hd, if_pos hd, if_neg hid]
    · rw [if_neg hid, if_neg hd, if_neg hd, if_neg hid]

/-- **Two actions that may change places**: each answers as if the other had not been there, and whichever comes
first, they leave the same. -/
structure Interchange {α β : Type} (a : TenantAction α) (b : TenantAction β) (t : Tenant) : Prop where
  /-- The first one answers the same after the second. -/
  first : (a.run (b.run t).2).1 = (a.run t).1
  /-- The second one answers the same after the first. -/
  second : (b.run (a.run t).2).1 = (b.run t).1
  /-- They leave the same. -/
  left : (b.run (a.run t).2).2 = (a.run (b.run t).2).2

/-- **Editing a definition and noting a status may change places**, be they of one report or of two. -/
theorem interchange_update_recordStatus (d : ReportDefinition) (id : ReportId) (status : MaterializationStatus)
    (t : Tenant) : Interchange (update d) (recordStatus id status) t := by
  cases h : t.store.unavailable.contains Store.reports with
  | true =>
    have hupdate : ((update d).run t).2 = t := by
      unfold update Store.update
      dsimp only
      rw [run_bind, TenantAction.run_onStore, Store.run_of_unavailable h]
      rfl
    have hnote := run_recordStatus_of_unavailable id status h
    exact ⟨by rw [hnote], by rw [hupdate], by rw [hupdate, hnote, hupdate]⟩
  | false =>
    have hupdated : (mapped (rewritten d) t).store.unavailable.contains Store.reports = false := by
      rw [unavailable_mapped, h]
    have hnoted : (mapped (stamped id status) t).store.unavailable.contains Store.reports = false := by
      rw [unavailable_mapped, h]
    have hsame : (isReport d.reportId).holds ∘ stamped id status = (isReport d.reportId).holds :=
      funext (holds_stamped id d.reportId status)
    refine ⟨?_, ?_, ?_⟩
    · rw [run_note h, run_update hnoted, run_update h, documents_mapped, List.filter_map, hsame, List.length_map]
    · rw [run_update h, run_note hupdated, run_note h]
    · rw [run_update h, run_note hupdated, run_note h, run_update hnoted, mapped_mapped, mapped_mapped]
      exact congrArg (fun f => mapped f t) (funext (stamped_rewritten d id status))

/-! ### The document of a report -/

/-- **The first document that is met by an id has it.** -/
def FirstIsOwn (id : ReportId) (documents : List Json) : Prop :=
  ∀ document, documents.find? (isReport id).holds = some document →
    Document.get? idPath document = some id.toJson

/-- A document has an id where it has the same text. -/
theorem same_iff {id : ReportId} {document : Json} :
    (Document.get? idPath document).any id.toJson.same = true ↔ Document.get? idPath document = some id.toJson := by
  constructor
  · intro h
    obtain ⟨j, hj, hsame⟩ := (Option.any_eq_true _ _).1 h
    cases j with
    | string text =>
      obtain rfl : id.text = text := eq_of_beq hsame
      exact hj
    | _ => exact absurd hsame nofun
  · intro h
    rw [h]
    exact beq_self_eq_true id.text

/-- A document that has an id is met by it. -/
theorem holds_of_get? {id : ReportId} {document : Json} (h : Document.get? idPath document = some id.toJson) :
    (isReport id).holds document = true := holds_of_same (same_iff.2 h)

variable {id : ReportId} {documents : List Json} {document : Json}

/-- **A document that was stored by its id is the first** that is met by it, where the first one had the id. -/
theorem find?_replaceOrAdd (hown : FirstIsOwn id documents) (h : Document.get? idPath document = some id.toJson) :
    (Store.replaceOrAdd idPath id.toJson document documents).find? (isReport id).holds = some document := by
  induction documents with
  | nil => exact List.find?_cons_of_pos (p := (isReport id).holds) (holds_of_get? h)
  | cons first rest ih =>
    unfold Store.replaceOrAdd
    by_cases hfirst : Document.get? idPath first = some id.toJson
    · rw [if_pos (same_iff.2 hfirst)]
      exact List.find?_cons_of_pos (p := (isReport id).holds) (holds_of_get? h)
    · have hmiss : ¬ (isReport id).holds first = true := fun hmet =>
        hfirst (hown first (List.find?_cons_of_pos (p := (isReport id).holds) hmet))
      rw [if_neg (mt same_iff.1 hfirst), List.find?_cons_of_neg (p := (isReport id).holds) hmiss]
      exact ih fun other hother => hown other ((List.find?_cons_of_neg (p := (isReport id).holds) hmiss).trans hother)

/-- A document that is met by the id without having it stays where it is. -/
theorem find?_replaceOrAdd_of_stray {stray : Json} (hfind : documents.find? (isReport id).holds = some stray)
    (hstray : Document.get? idPath stray ≠ some id.toJson) :
    (Store.replaceOrAdd idPath id.toJson document documents).find? (isReport id).holds = some stray := by
  induction documents with
  | nil => exact absurd hfind nofun
  | cons first rest ih =>
    unfold Store.replaceOrAdd
    by_cases hmet : (isReport id).holds first = true
    · obtain rfl : first = stray := Option.some.inj ((List.find?_cons_of_pos (p := (isReport id).holds) hmet).symm.trans hfind)
      rw [if_neg (mt same_iff.1 hstray)]
      exact List.find?_cons_of_pos (p := (isReport id).holds) hmet
    · have hfirst : Document.get? idPath first ≠ some id.toJson := fun hget => hmet (holds_of_get? hget)
      rw [if_neg (mt same_iff.1 hfirst), List.find?_cons_of_neg (p := (isReport id).holds) hmet]
      exact ih ((List.find?_cons_of_neg (p := (isReport id).holds) hmet).symm.trans hfind)

/-- **The definition that is found** is that of the first document. -/
theorem firstOf_eq_ok_some_iff {d : ReportDefinition} : firstOf id documents = .ok (some d)
    ↔ ∃ document, documents.find? (isReport id).holds = some document
      ∧ ReportDefinition.decode? document = some d := by
  unfold firstOf
  rw [← List.head?_filter]
  cases documents.filter (isReport id).holds with
  | nil => exact ⟨nofun, fun ⟨_, hhead, _⟩ => absurd hhead nofun⟩
  | cons document rest =>
    dsimp only [List.head?_cons]
    constructor
    · intro h
      split at h
      · next d' hd =>
        obtain rfl := Option.some.inj (Except.ok.inj h)
        exact ⟨document, rfl, hd⟩
      · exact absurd h nofun
    · rintro ⟨_, hsome, hd⟩
      obtain rfl := Option.some.inj hsome
      rw [hd]

/-- A definition that is found has the id. -/
theorem firstIsOwn_of_firstOf {d : ReportDefinition} (h : firstOf id documents = .ok (some d)) :
    FirstIsOwn id documents := by
  obtain ⟨document, hfind, hd⟩ := firstOf_eq_ok_some_iff.1 h
  intro other hother
  obtain rfl := Option.some.inj (hfind.symm.trans hother)
  have hid : d.reportId = id := (holds_isReport_iff hd).1 (List.find?_some (p := (isReport id).holds) hfind)
  cases document with
  | object members =>
    unfold Document.get?
    rw [Document.segments_of_isName (by decide : Document.IsName idPath)]
    show (Keyed.get? idPath members).bind _ = _
    rw [get?_idPath_of_decode? hd, hid]
    rfl
  | _ => exact absurd hd nofun

/-- **Something done to documents that keeps their ids** is done to the definition that is found. -/
theorem firstOf_map {f : Json → Json} {d d' : ReportDefinition} (h : firstOf id documents = .ok (some d))
    (hids : ∀ document, (isReport id).holds (f document) = (isReport id).holds document)
    (hdecode : ∀ document, ReportDefinition.decode? document = some d →
      ReportDefinition.decode? (f document) = some d') :
    firstOf id (documents.map f) = .ok (some d') := by
  obtain ⟨document, hfind, hd⟩ := firstOf_eq_ok_some_iff.1 h
  refine firstOf_eq_ok_some_iff.2 ⟨f document, ?_, hdecode document hd⟩
  have hsame : (isReport id).holds ∘ f = (isReport id).holds := funext hids
  rw [List.find?_map, hsame, hfind]
  rfl

/-! ### Writing into the registers -/

/-- **A write into what is stored of a report.** -/
inductive Write (id : ReportId) where
  /-- A definition of the report is stored. -/
  | save (d : ReportDefinition) (about : d.reportId = id)
  /-- The definition of the report is edited. -/
  | update (d : ReportDefinition) (about : d.reportId = id)
  /-- A status is noted in it. -/
  | recordStatus (status : MaterializationStatus)

namespace Write

/-- What is done to write. -/
def perform : Write id → TenantAction Unit
  | save d _ => Registry.save d
  | update d _ => Registry.update d
  | recordStatus status => Registry.recordStatus id status

/-- The definition that is written, but for its status. -/
def authored? : Write id → Option ReportDefinition
  | save d _ | update d _ => some d
  | recordStatus _ => none

/-- The status that is written. -/
def status? : Write id → Option MaterializationStatus
  | save d _ => some d.materialization
  | update _ _ => none
  | recordStatus status => some status

/-- What a write makes of a definition. -/
def apply (d : ReportDefinition) : Write id → ReportDefinition
  | save edit _ => edit
  | update edit _ => { edit with materialization := d.materialization }
  | recordStatus status => { d with materialization := status }

end Write

/-- Writes that follow each other, the next one only when the one before succeeded. -/
def performAll : List (Write id) → TenantAction Unit
  | [] => pure ()
  | w :: rest => do
    w.perform
    performAll rest

/-- **A definition into which was written**: it is the one that was last saved or edited, with the status that was
last saved or noted. -/
def writtenTo (d : ReportDefinition) (writes : List (Write id)) : ReportDefinition :=
  { (writes.filterMap Write.authored?).getLastD d with
    materialization := (writes.filterMap Write.status?).getLastD d.materialization }

/-- **What is written first** is what the other writes go into. -/
theorem writtenTo_cons (d : ReportDefinition) (w : Write id) (rest : List (Write id)) :
    writtenTo d (w :: rest) = writtenTo (w.apply d) rest := by
  unfold writtenTo
  cases w with
  | save edit about =>
    simp only [List.filterMap_cons, Write.authored?, Write.status?, List.getLastD_cons, Write.apply]
  | update edit about =>
    simp only [List.filterMap_cons, Write.authored?, Write.status?, List.getLastD_cons, Write.apply]
    cases rest.filterMap Write.authored? <;> rfl
  | recordStatus status =>
    simp only [List.filterMap_cons, Write.authored?, Write.status?, List.getLastD_cons, Write.apply]
    cases rest.filterMap Write.authored? <;> rfl

/-- What saving leaves, where the first document that is met by the id has it. -/
theorem save_of_firstIsOwn (havailable : t.store.unavailable.contains Store.reports = false) (d : ReportDefinition)
    (hown : FirstIsOwn d.reportId (Registry.documents t)) :
    ∃ t', (save d).run t = (.ok (), t') ∧ t'.store.unavailable = t.store.unavailable
      ∧ firstOf d.reportId (Registry.documents t') = .ok (some d) := by
  refine ⟨_, run_save_of_available havailable d, rfl, firstOf_eq_ok_some_iff.2 ⟨d.toJson, ?_, d.readsBack⟩⟩
  have hput : ∀ stored, Registry.documents (put stored t) = stored := fun stored =>
    Store.documents_replaced_self stored t.store
  rw [hput]
  exact find?_replaceOrAdd hown (get?_idPath_toJson d)

/-- **One write** into a report that is found succeeds, and the report is found with what was written. -/
theorem perform_of_firstOf (havailable : t.store.unavailable.contains Store.reports = false) {d : ReportDefinition}
    (h : firstOf id (Registry.documents t) = .ok (some d)) (w : Write id) :
    ∃ t', w.perform.run t = (.ok (), t') ∧ t'.store.unavailable = t.store.unavailable
      ∧ firstOf id (Registry.documents t') = .ok (some (w.apply d)) := by
  obtain ⟨document, hfind, hd⟩ := firstOf_eq_ok_some_iff.1 h
  have hmet : (isReport id).holds document = true := List.find?_some (p := (isReport id).holds) hfind
  have hid : d.reportId = id := (holds_isReport_iff hd).1 hmet
  cases w with
  | save edit about =>
    have hown : FirstIsOwn edit.reportId (Registry.documents t) := about ▸ firstIsOwn_of_firstOf h
    obtain ⟨t', hrun, hunavailable, hfirst⟩ := save_of_firstIsOwn havailable edit hown
    exact ⟨t', hrun, hunavailable, about ▸ hfirst⟩
  | update edit about =>
    have hsome : ((Registry.documents t).filter (isReport edit.reportId).holds).length ≠ 0 := by
      rw [about]
      exact (List.length_pos_of_mem (List.mem_filter.2 ⟨List.mem_of_find?_eq_some hfind, hmet⟩)).ne'
    refine ⟨_, ?_, unavailable_mapped (rewritten edit) t, ?_⟩
    · show (Registry.update edit).run t = _
      rw [run_update havailable, if_neg hsome]
    · rw [documents_mapped]
      refine firstOf_map h (holds_rewritten edit id) fun other hother => ?_
      rw [decode?_rewritten hother, exchanged, if_pos (hid.trans about.symm)]
      rfl
  | recordStatus status =>
    refine ⟨_, run_note havailable id status, unavailable_mapped (stamped id status) t, ?_⟩
    rw [documents_mapped]
    refine firstOf_map h (holds_stamped id id status) fun other hother => ?_
    rw [decode?_stamped hother, noted, if_pos hid]
    rfl

/-- **A run of writes** into a report that is found succeeds, and the report is found with what was written. -/
theorem performAll_of_firstOf (havailable : t.store.unavailable.contains Store.reports = false)
    {d : ReportDefinition} (h : firstOf id (Registry.documents t) = .ok (some d)) (writes : List (Write id)) :
    ∃ t', (performAll writes).run t = (.ok (), t') ∧ t'.store.unavailable = t.store.unavailable
      ∧ firstOf id (Registry.documents t') = .ok (some (writtenTo d writes)) := by
  induction writes generalizing t d with
  | nil => exact ⟨t, rfl, rfl, h⟩
  | cons w rest ih =>
    obtain ⟨t₁, hrun₁, hunavailable₁, h₁⟩ := perform_of_firstOf havailable h w
    obtain ⟨t₂, hrun₂, hunavailable₂, h₂⟩ := ih (hunavailable₁ ▸ havailable) h₁
    refine ⟨t₂, ?_, hunavailable₂.trans hunavailable₁, writtenTo_cons d w rest ▸ h₂⟩
    show (w.perform >>= fun _ => performAll rest).run t = _
    rw [run_bind, hrun₁]
    exact hrun₂

/-- **A report behaves as two registers** on a tenant: after it was saved and then written into, it is found, with
what was last saved or edited and with the status that was last saved or noted. -/
def IsRegisters (id : ReportId) (t : Tenant) : Prop :=
  ∀ (d : ReportDefinition) (about : d.reportId = id) (writes : List (Write id)),
    ∃ t', (performAll (.save d about :: writes)).run t = (.ok (), t')
      ∧ (find id).answer t' = .ok (some (writtenTo d writes))

/-- **A stored definition behaves as two registers**, wherever the definitions can be reached and the first document
that is met by the id of the report, if there is one, has this id, and only there. An edit and a status may change
places, and every definition is read back as it was written. -/
theorem find_of_writes_iff {t : Tenant} (havailable : t.store.unavailable.contains Store.reports = false) (id : ReportId) :
    (IsRegisters id t ↔ FirstIsOwn id (Registry.documents t))
      ∧ (∀ d status, d.reportId = id → Interchange (update d) (recordStatus id status) t)
      ∧ ∀ d : ReportDefinition, ReportDefinition.decode? d.toJson = some d := by
  refine ⟨⟨fun hregisters => ?_, fun hown d about writes => ?_⟩,
    fun d status _ => interchange_update_recordStatus d id status t, ReportDefinition.readsBack⟩
  · intro document hfind
    by_contra hstray
    let d : ReportDefinition := { appId := "", datastoreId := "", mode := .select [], reportId := id }
    obtain ⟨t', hrun, hfound⟩ := hregisters d rfl []
    -- the stray document hides what is saved
    have hsaved : (performAll [Write.save d rfl]).run t
        = (.ok (), put (Store.replaceOrAdd idPath id.toJson d.toJson (Registry.documents t)) t) := by
      show (save d >>= fun _ => pure ()).run t = _
      rw [run_bind, run_save_of_available havailable d]
      rfl
    obtain rfl := (Prod.mk.inj (hrun.symm.trans hsaved)).2
    rw [answer_find (t := put _ t) havailable, put, Tenant.replaced, Store.documents_replaced_self] at hfound
    exact hstray (firstIsOwn_of_firstOf hfound document (find?_replaceOrAdd_of_stray hfind hstray))
  · subst about
    obtain ⟨t₁, hrun₁, hunavailable₁, h₁⟩ := save_of_firstIsOwn havailable d hown
    obtain ⟨t₂, hrun₂, hunavailable₂, h₂⟩ := performAll_of_firstOf (hunavailable₁ ▸ havailable) h₁ writes
    refine ⟨t₂, ?_, ?_⟩
    · show (save d >>= fun _ => performAll writes).run t = _
      rw [run_bind, hrun₁]
      exact hrun₂
    · rw [answer_find (hunavailable₂ ▸ hunavailable₁ ▸ havailable)]
      exact h₂

/-! ### Visits, grouped and listed -/

/-- The visits of a house by guest, with their number. -/
def visitsByGuest : ReportDefinition where
  appId := "house"
  datastoreId := "visits"
  mode := .group { keys := [.dynamic "guest" .user], showCount := true }
  reportId := ⟨"visits", by decide⟩

/-- The same report, which lists the visits instead. -/
def visitsListed : ReportDefinition :=
  { visitsByGuest with
    mode := .select [.dynamic "guest" .user, .dynamic "day" .date]
    materialization := .published 7 7 .epoch }

/-- A report that was edited twice, to list and to group again, with a status noted between. -/
def visitsWrites : List (Write visitsByGuest.reportId) :=
  [.update visitsListed rfl, .recordStatus (.published 1 3 .epoch), .update visitsByGuest rfl]

/-- A tenant with nothing in its store. -/
def emptyTenant : Tenant where
  store := {}
  clock := .epoch
  today := .epoch

/-- **The report groups again, and the status is the one that was noted**; that of an edit was never written. -/
theorem find_visits : ∃ t', (performAll (.save visitsByGuest rfl :: visitsWrites)).run emptyTenant = (.ok (), t')
    ∧ (find visitsByGuest.reportId).answer t'
      = .ok (some { visitsByGuest with materialization := .published 1 3 .epoch }) := by
  have hregisters := (find_of_writes_iff (t := emptyTenant) (by decide) visitsByGuest.reportId).1
  have hempty : FirstIsOwn visitsByGuest.reportId (Registry.documents emptyTenant) :=
    fun _ h => absurd h nofun
  exact hregisters.2 hempty visitsByGuest rfl visitsWrites

/-- A tenant with a document that has the id of the visits in a list. -/
def strayTenant : Tenant :=
  { emptyTenant with store := { collections := [("reports", { documents :=
      [.object [("report_id", .array [.string "visits"])]] })] } }

/-- **A stray document hides a definition**: saving it succeeds, and then it cannot be read. -/
theorem not_isRegisters_stray : strayTenant.store.unavailable.contains Store.reports = false
    ∧ (save visitsByGuest).answer strayTenant = .ok ()
    ∧ (find visitsByGuest.reportId).answer ((save visitsByGuest).run strayTenant).2
      = .error (.store "decode report" (.decode Store.reports none))
    ∧ ¬ IsRegisters visitsByGuest.reportId strayTenant := by
  have hreach : strayTenant.store.unavailable.contains Store.reports = false := rfl
  have hsaved : (save visitsByGuest).answer strayTenant = .ok () :=
    congrArg Prod.fst (run_save_of_available hreach visitsByGuest)
  have hhidden : (find visitsByGuest.reportId).answer ((save visitsByGuest).run strayTenant).2
      = .error (.store "decode report" (.decode Store.reports none)) := by
    have hleft : ((save visitsByGuest).run strayTenant).2.store.unavailable.contains Store.reports = false := by
      rw [run_save_of_available hreach]
      exact hreach
    rw [answer_find hleft, run_save_of_available hreach]
    rfl
  refine ⟨hreach, hsaved, hhidden, fun hregisters => ?_⟩
  obtain ⟨t', hrun, hfound⟩ := hregisters visitsByGuest rfl []
  have hleft : (performAll [Write.save visitsByGuest rfl]).run strayTenant
      = (.ok (), ((save visitsByGuest).run strayTenant).2) := by
    show (save visitsByGuest >>= fun _ => pure ()).run strayTenant = _
    rw [run_bind, show (save visitsByGuest).run strayTenant = (.ok (), ((save visitsByGuest).run strayTenant).2) from
      Prod.ext hsaved rfl]
    rfl
  obtain rfl := (Prod.mk.inj (hrun.symm.trans hleft)).2
  exact absurd (hfound.symm.trans hhidden) nofun

end Registry

end Rollup
