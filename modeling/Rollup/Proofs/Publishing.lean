import Rollup.Proofs.Running

/-!
# What a run that publishes leaves behind

A run of materialization that ends published found a definition, computed its rows at the instant of the
tenant, put them in the place of the rows before, and noted its status in the definition. Nothing else of
what can be read has changed (`Service.published_of_execute`).
-/

namespace Rollup

open TenantAction (Reads answer answer_bind)

/-- **A tenant whose rows of a report were published**: they are in the place of the rows before, the status is
noted in the definition, and nothing else of what can be read has changed. -/
structure Tenant.Published (id : ReportId) (rows : List Json) (status : MaterializationStatus)
    (t t' : Tenant) : Prop where
  /-- The settings are the same. -/
  config : t'.config = t.config
  /-- So is the instant that reports are computed for. -/
  clock : t'.clock = t.clock
  /-- So is the time of day. -/
  today : t'.today = t.today
  /-- So are the collections that cannot be reached. -/
  unavailable : t'.store.unavailable = t.store.unavailable
  /-- The rows can be reached. -/
  available : t.store.unavailable.contains id.collection = false
  /-- They are published. -/
  rows : t'.store.documents id.collection = rows
  /-- The status is noted. -/
  reports : t'.store.documents Store.reports
    = (t.store.documents Store.reports).map (Registry.stamped id status)
  /-- All other documents are the same. -/
  others : ∀ name, name ≠ id.collection → name ≠ Store.reports →
    t'.store.documents name = t.store.documents name

/-- The registry can be reached where a definition was found. -/
theorem Registry.available_of_find {id : ReportId} {t : Tenant} {found : Option ReportDefinition}
    (h : (find id).answer t = .ok found) : t.store.unavailable.contains Store.reports = false := by
  obtain ⟨documents, hfound, -⟩ := exists_of_answer_bind (Reads.find (Set.mem_univ _) _ _ _)
    (fun documents => @reads_found .univ documents) h
  rw [TenantAction.answer_find] at hfound
  unfold TenantAction.found at hfound
  split at hfound
  · exact absurd hfound nofun
  · next hcontains => exact Bool.eq_false_iff.2 hcontains

namespace Service

/-- **A run that ends published** found a definition, computed its rows and left them behind. -/
theorem published_of_execute {job : Job} {s s' : Service} {status : MaterializationStatus}
    (h : execute job s = (status, s')) (hpublished : status.state = .published) :
    ∃ d rows, (Registry.find job.reportId).answer s.tenant = .ok (some d) ∧ d.isDeleted = false
      ∧ (Rows.computeFor d.toReportContent s.tenant.clock).answer s.tenant = .ok (.rows rows)
      ∧ status = publishedStatus job rows s.tenant.today
      ∧ Tenant.Published job.reportId rows status s.tenant s'.tenant := by
  have hending := ending_execute job s
  have hstate : (execute job s).1.state = .published := h ▸ hpublished
  generalize execute job s = ended at h hending hstate
  cases hending with
  | superseded | skipped | failed => exact absurd hstate nofun
  | @published rows u _ hcomputed havailable hran =>
    obtain rfl : publishedStatus job rows s.tenant.today = status := congrArg Prod.fst h
    obtain rfl : (record job (publishedStatus job rows s.tenant.today) u).2 = s' := congrArg Prod.snd h
    obtain ⟨d, hfind, hdeleted, hrows⟩ := Rows.exists_definition_of_compute hcomputed
    have hleft := hran.agreeOn_record (publishedStatus job rows s.tenant.today)
    have hreplaced := Tenant.agreeOn_replaced job.reportId.collection rows s.tenant
    refine ⟨d, rows, hfind, hdeleted, hrows, rfl, {
      config := hleft.config
      clock := hleft.clock
      today := hleft.today
      unavailable := hleft.unavailable
      available := havailable
      rows := ?_
      reports := ?_
      others := fun name hrows hreports =>
        (hleft.documents name hreports).trans (hreplaced.documents name hrows) }⟩
    · exact (hleft.documents _ job.reportId.collection_ne_reports).trans
        (Store.documents_replaced_self _ _)
    · refine (hran.documents_record _).trans ?_
      rw [hreplaced.unavailable, if_neg (Bool.eq_false_iff.1 (Registry.available_of_find hfind)),
        hreplaced.documents _ job.reportId.collection_ne_reports.symm]

end Service

/-! ## The definition afterwards -/

/-- The status of a run that published is read back, as far as its time is. -/
theorem MaterializationStatus.decode?_published (generation rows : UInt64) (time : Instant) :
    decode? (published generation rows time).toJson
      = (Decode.instant time.toJson).map (published generation rows) := by
  have hmembers : Decode.members? declared (published generation rows time).toJson
      = some (published generation rows time).toJson.members := rfl
  have htime : Decode.optional "last_materialized_at" Decode.instant
      (published generation rows time).toJson.members = (Decode.instant time.toJson).map some := rfl
  have hgeneration : Decode.defaulted "generation" 0 Decode.word
      (published generation rows time).toJson.members = some generation := Decode.word_ofWord generation
  have hrows : Decode.defaulted "rows" 0 Decode.word
      (published generation rows time).toJson.members = some rows := Decode.word_ofWord rows
  have hstate : Decode.defaulted "state" .pending MaterializationState.decode?
      (published generation rows time).toJson.members = some .published := rfl
  have herror : Decode.optional "last_error" Decode.text
      (published generation rows time).toJson.members = some none := rfl
  unfold decode?
  rw [hmembers, Option.bind_eq_bind, Option.bind_some, htime, hgeneration, hrows, hstate, herror]
  cases Decode.instant time.toJson <;> rfl

namespace Decode

variable {α : Type} {key other : String} (value : Decoder α) (j : Json) (members : Keyed Json)

/-- A member that must be there is read beside another one. -/
theorem required_insert_of_ne (h : key ≠ other) :
    required key value (Keyed.insert other j members) = required key value members := by
  unfold required
  rw [Keyed.get?_insert_of_ne h]

/-- A member that has a default is read beside another one. -/
theorem defaulted_insert_of_ne (h : key ≠ other) (default : α) :
    defaulted key default value (Keyed.insert other j members)
      = defaulted key default value members := by
  unfold defaulted
  rw [Keyed.get?_insert_of_ne h]

/-- A member that has a default is read where it was put. -/
theorem defaulted_insert_self (default : α) :
    defaulted key default value (Keyed.insert key j members) = value j := by
  unfold defaulted
  rw [Keyed.get?_insert_self]

end Decode

/-- **A noted status** is read back as the status of the definition, and nothing else of it changes. -/
theorem ReportDefinition.decode?_set {document j : Json} {d : ReportDefinition}
    (h : decode? document = some d) : decode? (Document.set Registry.statusPath j document)
      = (MaterializationStatus.decode? j).map fun m => { d with materialization := m } := by
  cases document with
  | object members =>
    have hset : Document.set Registry.statusPath j (.object members)
        = .object (Keyed.insert "materialization" j members) := rfl
    rw [hset]
    unfold decode? ReportContent.ofMembers? ReportMode.ofMembers? ReportMode.ofName? Decode.listOrEmpty
      Decode.optional Decode.textOrEmpty at h ⊢
    simp only [Json.asObject?, Option.bind_eq_bind, Option.bind_some, Decode.defaulted_insert_self,
      Decode.required_insert_of_ne, Decode.defaulted_insert_of_ne, ne_eq, String.reduceEq,
      not_false_eq_true] at h ⊢
    obtain ⟨content, hcontent, h⟩ := Option.bind_eq_some_iff.1 h
    obtain ⟨id, hid, h⟩ := Option.bind_eq_some_iff.1 h
    obtain ⟨createdAt, hcreatedAt, h⟩ := Option.bind_eq_some_iff.1 h
    obtain ⟨createdBy, hcreatedBy, h⟩ := Option.bind_eq_some_iff.1 h
    obtain ⟨updatedAt, hupdatedAt, h⟩ := Option.bind_eq_some_iff.1 h
    obtain ⟨updatedBy, hupdatedBy, h⟩ := Option.bind_eq_some_iff.1 h
    obtain ⟨deletedAt, hdeletedAt, h⟩ := Option.bind_eq_some_iff.1 h
    obtain ⟨deletedBy, hdeletedBy, h⟩ := Option.bind_eq_some_iff.1 h
    obtain ⟨before, -, h⟩ := Option.bind_eq_some_iff.1 h
    obtain rfl := Option.some.inj h
    rw [hcontent, Option.bind_some, hid, Option.bind_some, hcreatedAt, Option.bind_some, hcreatedBy,
      Option.bind_some, hupdatedAt, Option.bind_some, hupdatedBy, Option.bind_some, hdeletedAt,
      Option.bind_some, hdeletedBy, Option.bind_some]
    cases MaterializationStatus.decode? j <;> rfl
  | _ => exact absurd h nofun

/-- The id and the status of a definition that was read. -/
theorem ReportDefinition.read_of_decode? {members : Keyed Json} {d : ReportDefinition}
    (h : decode? (.object members) = some d) :
    Decode.required "report_id" ReportId.decode? members = some d.reportId
      ∧ Decode.defaulted "materialization" {} MaterializationStatus.decode? members = some d.materialization := by
  obtain ⟨content, -, h⟩ := Option.bind_eq_some_iff.1 h
  obtain ⟨id, hid, h⟩ := Option.bind_eq_some_iff.1 h
  obtain ⟨createdAt, -, h⟩ := Option.bind_eq_some_iff.1 h
  obtain ⟨createdBy, -, h⟩ := Option.bind_eq_some_iff.1 h
  obtain ⟨updatedAt, -, h⟩ := Option.bind_eq_some_iff.1 h
  obtain ⟨updatedBy, -, h⟩ := Option.bind_eq_some_iff.1 h
  obtain ⟨deletedAt, -, h⟩ := Option.bind_eq_some_iff.1 h
  obtain ⟨deletedBy, -, h⟩ := Option.bind_eq_some_iff.1 h
  obtain ⟨status, hstatus, h⟩ := Option.bind_eq_some_iff.1 h
  obtain rfl := Option.some.inj h
  exact ⟨hid, hstatus⟩

namespace Registry

/-- A noted status does not change which report a definition is of. -/
theorem holds_stamped (id other : ReportId) (status : MaterializationStatus) (document : Json) :
    (isReport other).holds (stamped id status document) = (isReport other).holds document := by
  unfold stamped
  split
  · show Comparison.holdsField _ _ (Document.get? idPath _) = Comparison.holdsField _ _ _
    have hget : Document.get? idPath (Document.set statusPath status.toJson document)
        = Document.get? idPath document := by
      unfold Document.get? Document.set
      rw [Document.segments_of_isName (by decide : Document.IsName idPath),
        Document.segments_of_isName (by decide : Document.IsName statusPath)]
      exact Document.getAt?_setAt_of_part (Document.part_of_ne (by decide) [] []) _ _
    rw [hget]
  · rfl

/-- The definition found among documents. -/
def firstOf (id : ReportId) (documents : List Json) : Except ReportError (Option ReportDefinition) :=
  match documents.filter (isReport id).holds with
  | [] => .ok none
  | document :: _ => match ReportDefinition.decode? document with
    | some d => .ok (some d)
    | none => .error (.store "decode report" (.decode Store.reports none))

/-- **What looking for a definition answers.** -/
theorem answer_find {t : Tenant} (h : t.store.unavailable.contains Store.reports = false) (id : ReportId) :
    (find id).answer t = firstOf id (t.store.documents Store.reports) := by
  have hfind : (find id).answer t = _ := answer_bind (Reads.find (Set.mem_univ _) _ _ _)
    (fun documents => @reads_found .univ documents) t
  rw [hfind, TenantAction.answer_find, TenantAction.found, if_neg (Bool.eq_false_iff.1 h), bind_of_ok]
  unfold firstOf
  cases (t.store.documents Store.reports).filter (isReport id).holds with
  | nil => rfl
  | cons document rest =>
    show answer (decode document >>= fun d => pure (some d)) t = _
    unfold decode
    dsimp only
    cases ReportDefinition.decode? document <;> rfl

/-- The definition that is found was decoded from a document of its id. -/
theorem exists_document_of_firstOf {id : ReportId} {documents : List Json} {d : ReportDefinition}
    (h : firstOf id documents = .ok (some d)) : ∃ document rest,
      documents.filter (isReport id).holds = document :: rest
        ∧ ReportDefinition.decode? document = some d := by
  unfold firstOf at h
  split at h
  · cases h
  · next document rest hfilter =>
    split at h
    · next d' hd =>
      obtain rfl := Option.some.inj (Except.ok.inj h)
      exact ⟨document, rest, hfilter, hd⟩
    · cases h

/-- The definition that is found where a status was noted. -/
theorem firstOf_stamped {id : ReportId} {documents : List Json} {d : ReportDefinition}
    (h : firstOf id documents = .ok (some d)) (status : MaterializationStatus) :
    firstOf id (documents.map (stamped id status))
      = match MaterializationStatus.decode? status.toJson with
        | some m => .ok (some { d with materialization := m })
        | none => .error (.store "decode report" (.decode Store.reports none)) := by
  obtain ⟨document, rest, hfilter, hd⟩ := exists_document_of_firstOf h
  have hmem : document ∈ documents.filter (isReport id).holds := hfilter ▸ List.mem_cons_self
  have hsame : (isReport id).holds ∘ stamped id status = (isReport id).holds :=
    funext (holds_stamped id id status)
  have hstamped : (documents.map (stamped id status)).filter (isReport id).holds
      = Document.set statusPath status.toJson document :: rest.map (stamped id status) := by
    rw [List.filter_map, hsame, hfilter, List.map_cons, stamped, if_pos (List.mem_filter.1 hmem).2]
  unfold firstOf
  rw [hstamped]
  dsimp only
  rw [ReportDefinition.decode?_set hd]
  cases MaterializationStatus.decode? status.toJson <;> rfl

/-- A document that decodes holds its report id. -/
theorem get?_idPath_of_decode? {members : Keyed Json} {d : ReportDefinition}
    (h : ReportDefinition.decode? (.object members) = some d) :
    Keyed.get? idPath members = some d.reportId.toJson := by
  obtain ⟨j, hj, hdecode⟩ := Option.bind_eq_some_iff.1 (ReportDefinition.read_of_decode? h).1
  obtain ⟨text, htext, hvalid⟩ := Option.bind_eq_some_iff.1 hdecode
  obtain rfl : j = .string text := by
    cases j with
    | string s => rw [Option.some.inj htext]
    | _ => exact absurd htext nofun
  unfold ReportId.ofText? at hvalid
  split at hvalid
  · rw [← Option.some.inj hvalid]
    exact hj
  · exact absurd hvalid nofun

/-- **Which report a document is of** is told by the definition in it. -/
theorem holds_isReport_iff {document : Json} {d : ReportDefinition}
    (h : ReportDefinition.decode? document = some d) {id : ReportId} :
    (isReport id).holds document = true ↔ d.reportId = id := by
  cases document with
  | object members =>
    have hget : Document.get? idPath (.object members) = some (.string d.reportId.text) := by
      unfold Document.get?
      rw [Document.segments_of_isName (by decide : Document.IsName idPath), Document.getAt?,
        get?_idPath_of_decode? h]
      rfl
    show Comparison.holdsField .eq (.text id.text) (Document.get? idPath _) = true ↔ _
    rw [hget]
    show (some (compare d.reportId.text id.text) == some Ordering.eq) = true ↔ _
    rw [beq_iff_eq, Option.some_inj, Std.compare_eq_iff_eq]
    exact ⟨ReportId.eq_of_text, congrArg ReportId.text⟩
  | _ => exact absurd h.symm (Option.some_ne_none d)

/-- A definition is of one report only. -/
theorem holds_isReport_of_decode? {document : Json} {d : ReportDefinition}
    (h : ReportDefinition.decode? document = some d) {id other : ReportId}
    (hid : (isReport id).holds document = true) (hne : id ≠ other) :
    (isReport other).holds document = false := by
  refine Bool.eq_false_iff.2 fun hother => hne ?_
  exact ((holds_isReport_iff h).1 hid).symm.trans ((holds_isReport_iff h).1 hother)

/-- The definition that is found was decoded from a document that is of no other report. -/
theorem exists_document_of_firstOf_of_ne {id other : ReportId} {documents : List Json}
    {d : ReportDefinition} (h : firstOf id documents = .ok (some d)) (hne : id ≠ other) :
    ∃ document rest, documents.filter (isReport id).holds = document :: rest
      ∧ (isReport other).holds document = false := by
  obtain ⟨document, rest, hfilter, hdecode⟩ := exists_document_of_firstOf h
  have hid := (List.mem_filter.1 (hfilter ▸ List.mem_cons_self)).2
  exact ⟨document, rest, hfilter, holds_isReport_of_decode? hdecode hid hne⟩

/-- The definition that is found where a status was noted in that of another report. -/
theorem firstOf_stamped_of_ne {id other : ReportId} {documents : List Json} {document : Json}
    {rest : List Json} (hfilter : documents.filter (isReport id).holds = document :: rest)
    (hother : (isReport other).holds document = false) (status : MaterializationStatus) :
    firstOf id (documents.map (stamped other status)) = firstOf id documents := by
  have hsame : (isReport id).holds ∘ stamped other status = (isReport id).holds :=
    funext (holds_stamped other id status)
  have hkept : stamped other status document = document := if_neg (Bool.eq_false_iff.1 hother)
  unfold firstOf
  rw [List.filter_map, hsame, hfilter, List.map_cons, hkept]

/-- **After publishing, the same definition is found**, but for the status. -/
theorem answer_load_of_published {job : Job} {rows : List Json} {t t' : Tenant} {time : Instant}
    {d : ReportDefinition} (hfind : (find job.reportId).answer t = .ok (some d))
    (hdeleted : d.isDeleted = false)
    (h : Tenant.Published job.reportId rows (Service.publishedStatus job rows time) t t') :
    (load job.reportId).answer t' = match Decode.instant time.toJson with
      | some time => .ok { d with materialization := Service.publishedStatus job rows time }
      | none => .error (.store "decode report" (.decode Store.reports none)) := by
  have havailable := available_of_find hfind
  rw [answer_find havailable] at hfind
  unfold load
  rw [answer_bind (reads_find (Set.mem_univ _) _) (fun _ => .ofExcept .univ _ _),
    answer_find (h.unavailable ▸ havailable), h.reports, firstOf_stamped hfind,
    Service.publishedStatus, MaterializationStatus.decode?_published]
  cases Decode.instant time.toJson with
  | none => rfl
  | some time =>
    have hactive : active job.reportId
        (some { d with materialization := Service.publishedStatus job rows time })
        = .ok { d with materialization := Service.publishedStatus job rows time } :=
      if_neg (Bool.eq_false_iff.1 hdeleted)
    show answer (TenantAction.ofExcept _ (active job.reportId
      (some { d with materialization := Service.publishedStatus job rows time }))) t' = _
    rw [hactive]
    rfl

end Registry

end Rollup
