import Rollup.Proofs.Instants
import Rollup.Proofs.Keyed
import Rollup.Proofs.Publishing

/-!
# Stored definitions are read back

A definition is stored as an object, and an object is read member by member. So it does not matter what else the
object holds, and which of its members were written together: an object that holds all members of a definition is
read as this definition (`ReportDefinition.decode?_of_holds`). The status of the materialization is written by
others than the rest, and is therefore read on its own.

Below that, every record reads back what it writes (`Decode.ReadsBack`), from the instants and the words up to the
modes.
-/

namespace Rollup

namespace Decode

variable {α : Type} {decode? : Decoder α} {toJson : α → Json}

/-- **A decoder reads back** what was written. -/
def ReadsBack (decode? : Decoder α) (toJson : α → Json) : Prop := ∀ x, decode? (toJson x) = some x

/-- Lists of what is read back are read back. -/
theorem ReadsBack.list (h : ReadsBack decode? toJson) (xs : List α) :
    Decode.list decode? (.array (xs.map toJson)) = some xs := by
  show (xs.map toJson).mapM decode? = some xs
  induction xs with
  | nil => rfl
  | cons x xs ih =>
    rw [List.map_cons, List.mapM_cons, h x, ih]
    rfl

/-- A signed word is read back. -/
theorem readsBack_signed : ReadsBack signed .ofSigned := by
  intro n
  show (if n.toInt < 2 ^ 63 then some (Int64.ofInt n.toInt) else none) = some n
  rw [if_pos n.toInt_lt, Int64.ofInt_toInt]

/-- An unsigned word is read back. -/
theorem readsBack_word : ReadsBack word .ofWord := word_ofWord

/-- A text is read back. -/
theorem readsBack_text : ReadsBack text .string := fun _ => rfl

/-- A text that may be missing is read back. -/
theorem readsBack_ofString? : ReadsBack (nullable text) .ofString? := by
  intro s
  cases s <;> rfl

/-- What is not missing is read as what it is. -/
theorem nullable_of_ne_null {j : Json} (h : j ≠ .null) : nullable decode? j = (decode? j).map some := by
  cases j with
  | null => exact absurd rfl h
  | _ => rfl

/-- An instant that may be missing is read back. -/
theorem nullable_instant (time : Option Instant) :
    nullable instant ((time.map Instant.toJson).getD .null) = some time := by
  cases time with
  | none => rfl
  | some time =>
    have hne : time.toJson ≠ .null := by
      unfold Instant.toJson
      exact nofun
    rw [Option.map_some, Option.getD_some, nullable_of_ne_null hne, instant_toJson]
    rfl

/-! ### Members -/

variable {key : String} {j : Json} {m : Keyed Json}

/-- A member that must be there is read where it is. -/
theorem required_of_get? (h : Keyed.get? key m = some j) : required key decode? m = decode? j :=
  congrArg (Option.bind · decode?) h

/-- A member that has a default is read where it is. -/
theorem defaulted_of_get? (h : Keyed.get? key m = some j) (default : α) :
    defaulted key default decode? m = decode? j := by
  unfold defaulted
  rw [h]

/-- A list member is read where it is. -/
theorem ReadsBack.listOrEmpty (hback : ReadsBack decode? toJson) {xs : List α}
    (h : Keyed.get? key m = some (.array (xs.map toJson))) : Decode.listOrEmpty key decode? m = some xs :=
  (defaulted_of_get? h []).trans (hback.list xs)

/-- A text member is read where it is. -/
theorem textOrEmpty_of_get? {s : String} (h : Keyed.get? key m = some (.string s)) : textOrEmpty key m = some s :=
  defaulted_of_get? h ""

end Decode

open Decode (ReadsBack)

/-! ## Names -/

namespace MaterializationState

/-- A state is read back. -/
theorem readsBack : ReadsBack decode? toJson := by
  intro s
  cases s <;> rfl

end MaterializationState

namespace Reduction

/-- A reduction is read back. -/
theorem readsBack_nested : ReadsBack decodeNested? toJson := by
  intro r
  cases r <;> rfl

end Reduction

namespace DataType

/-- A type is read back. -/
theorem readsBack : ReadsBack decode? toJson := fun t => congrArg some (ofName_name t)

/-- A type below a flattened record is read back. -/
theorem readsBack_nested : ReadsBack decodeNested? toJson := fun t => congrArg some (ofName_name t)

end DataType

/-! ## Records -/

/-- **An object holds members** when each of them is read in it. -/
def Holds (m members : Keyed Json) : Prop := ∀ key value, (key, value) ∈ members → Keyed.get? key m = some value

/-- A sorted map holds its members. -/
theorem Keyed.Sorted.holds {m : Keyed Json} (h : Sorted m) : Holds m m := fun _ _ => (get?_eq_some_iff h).2

/-- **A status is read back.** -/
theorem MaterializationStatus.readsBack : ReadsBack decode? toJson := by
  intro s
  have hmembers : Decode.members? declared s.toJson = some s.toJson.members := rfl
  have hstate : Decode.defaulted "state" .pending MaterializationState.decode? s.toJson.members = some s.state :=
    MaterializationState.readsBack s.state
  have hgeneration : Decode.defaulted "generation" 0 Decode.word s.toJson.members = some s.generation :=
    Decode.readsBack_word s.generation
  have htime : Decode.optional "last_materialized_at" Decode.instant s.toJson.members = some s.lastMaterializedAt :=
    Decode.nullable_instant s.lastMaterializedAt
  have herror : Decode.optional "last_error" Decode.text s.toJson.members = some s.lastError :=
    Decode.readsBack_ofString? s.lastError
  have hrows : Decode.defaulted "rows" 0 Decode.word s.toJson.members = some s.rows := Decode.readsBack_word s.rows
  unfold decode?
  rw [hmembers, Option.bind_eq_bind, Option.bind_some, hstate, hgeneration, htime, herror, hrows]
  rfl

/-- **A condition is read back.** -/
theorem Condition.readsBack : ReadsBack decode? toJson := by
  intro c
  have hmembers : Decode.members? declared c.toJson = some c.toJson.members := rfl
  have htype : Decode.required "field_type" DataType.decode? c.toJson.members = some c.fieldType :=
    DataType.readsBack c.fieldType
  unfold decode?
  rw [hmembers, Option.bind_eq_bind, Option.bind_some, htype]
  rfl

namespace Key

/-- A direction that may be missing is read back. -/
theorem decodeSort?_toJson (sort : Option Direction) :
    decodeSort? ((sort.map Direction.toJson).getD .null) = some sort := by
  rcases sort with _ | _ | _ <;> rfl

/-- **Members that hold those of a key** are read as this key. -/
theorem ofMembers?_of_holds {dataType : Decode.Decoder DataType} {k : Key} {m : Keyed Json}
    (htype : dataType k.dataType.toJson = some k.dataType)
    (h : Holds m k.toMembers) : ofMembers? dataType m = some k := by
  unfold ofMembers?
  rw [Decode.defaulted_of_get? (h "is_lookup" (.bool k.isLookup) (by simp [toMembers])),
    Decode.required_of_get? (h "field_id" (.string k.fieldId) (by simp [toMembers])),
    Decode.textOrEmpty_of_get? (h "datastore_id" (.string k.datastoreId) (by simp [toMembers])),
    Decode.required_of_get? (h "data_type" k.dataType.toJson (by simp [toMembers])), htype,
    Decode.textOrEmpty_of_get? (h "option_id" (.string k.optionId) (by simp [toMembers])),
    Decode.textOrEmpty_of_get? (h "alias_name" (.string k.caption) (by simp [toMembers])),
    Decode.defaulted_of_get? (h "sort" ((k.sort.map Direction.toJson).getD .null) (by simp [toMembers])),
    decodeSort?_toJson,
    Decode.defaulted_of_get? (h "is_dynamic" (.bool k.isDynamic) (by simp [toMembers])),
    Decode.defaulted_of_get? (h "unique" (.bool k.isUnique) (by simp [toMembers])),
    Decode.defaulted_of_get? (h "order" (.ofSigned k.order) (by simp [toMembers])), Decode.readsBack_signed]
  rfl

/-- The members of a key are sorted. -/
theorem sorted_toMembers (k : Key) : Keyed.Sorted k.toMembers := by
  have hkeys : (k.toMembers.map Prod.fst).Pairwise (· < ·) := by
    show List.Pairwise (· < ·) ["alias_name", "data_type", "datastore_id", "field_id", "is_dynamic", "is_lookup",
      "option_id", "order", "sort", "unique"]
    decide
  exact List.pairwise_map.1 hkeys

/-- **A key of a report is read back.** -/
theorem readsBack_nested : ReadsBack decodeNested? toJson := by
  intro k
  have hmembers : Decode.members? declared k.toJson = some k.toMembers := rfl
  unfold decodeNested?
  rw [hmembers]
  exact ofMembers?_of_holds (DataType.readsBack_nested _) k.sorted_toMembers.holds

end Key

/-- **An aggregate key is read back.** -/
theorem AggregateKey.readsBack : ReadsBack decode? toJson := by
  intro k
  have hinsert : Keyed.insert "aggre_type" k.reduction.toJson k.key.toMembers
      = ("aggre_type", k.reduction.toJson) :: k.key.toMembers := rfl
  have hmembers : Decode.namedMembers? ("aggre_type" :: Key.declared) k.toJson
      = some (("aggre_type", k.reduction.toJson) :: k.key.toMembers) := by
    unfold toJson
    rw [hinsert]
    rfl
  have hreduction : Decode.required "aggre_type" Reduction.decodeNested?
      (("aggre_type", k.reduction.toJson) :: k.key.toMembers) = some k.reduction :=
    Reduction.readsBack_nested k.reduction
  unfold decode?
  rw [hmembers, Option.bind_eq_bind, Option.bind_some, Key.ofMembers?_of_holds (DataType.readsBack_nested _),
    hreduction]
  · rfl
  · intro key value hmem
    rw [← hinsert, Keyed.get?_insert_of_ne]
    · exact k.key.sorted_toMembers.holds _ _ hmem
    · rintro rfl
      simp [Key.toMembers] at hmem

/-- **A grouping is read back.** -/
theorem GroupSpec.readsBack : ReadsBack decode? toJson := by
  intro g
  have hmembers : Decode.members? ["group_keys", "aggre_keys", "show_count"] g.toJson = some g.toJson.members := rfl
  have hkeys : Decode.listOrEmpty "group_keys" Key.decodeNested? g.toJson.members = some g.keys :=
    Key.readsBack_nested.list g.keys
  have haggregates : Decode.listOrEmpty "aggre_keys" AggregateKey.decode? g.toJson.members = some g.aggregates :=
    AggregateKey.readsBack.list g.aggregates
  unfold decode?
  rw [hmembers, Option.bind_eq_bind, Option.bind_some, hkeys, haggregates]
  rfl

/-- A report id is read back. -/
theorem ReportId.readsBack : ReadsBack decode? toJson := by
  intro id
  show ofText? id.text = some id
  unfold ofText?
  rw [dif_pos id.valid]

/-! ## Definitions -/

/-- **Members that hold those of a mode** are read as this mode, whatever the other mode left among them. -/
theorem ReportMode.ofMembers?_of_holds {mode : ReportMode} {m : Keyed Json} (h : Holds m mode.toMembers) :
    ofMembers? m = some mode := by
  unfold ofMembers?
  cases mode with
  | group spec =>
    rw [Decode.required_of_get? (h "mode" (.string "group") (by simp [toMembers, name]))]
    show (Decode.defaulted "group_info" {} GroupSpec.decode? m).map ReportMode.group = _
    rw [Decode.defaulted_of_get? (h "group_info" spec.toJson (by simp [toMembers])), GroupSpec.readsBack]
    rfl
  | select keys =>
    rw [Decode.required_of_get? (h "mode" (.string "select") (by simp [toMembers, name]))]
    show (Decode.listOrEmpty "select_key_infos" Key.decodeNested? m).map ReportMode.select = _
    rw [Key.readsBack_nested.listOrEmpty (h "select_key_infos" (.array (keys.map Key.toJson)) (by simp [toMembers]))]
    rfl

/-- **Members that hold those of a content** are read as this content. -/
theorem ReportContent.ofMembers?_of_holds {c : ReportContent} {m : Keyed Json} (h : Holds m c.toMembers) :
    ofMembers? m = some c := by
  have hmode : Holds m c.mode.toMembers := fun _ _ hmem => h _ _ (List.mem_append_left _ hmem)
  unfold ofMembers?
  rw [Decode.textOrEmpty_of_get? (h "domain" (.string c.domain) (by simp [toMembers])),
    Decode.required_of_get? (h "app_id" (.string c.appId) (by simp [toMembers])), Decode.readsBack_text,
    Decode.required_of_get? (h "datastore_id" (.string c.datastoreId) (by simp [toMembers])), Decode.readsBack_text,
    Decode.textOrEmpty_of_get? (h "report_name" (.string c.name) (by simp [toMembers])),
    Decode.defaulted_of_get? (h "display_order" (.ofSigned c.displayOrder) (by simp [toMembers])), Decode.readsBack_signed,
    Condition.readsBack.listOrEmpty
      (h "report_conditions" (.array (c.conditions.map Condition.toJson)) (by simp [toMembers])),
    Decode.textOrEmpty_of_get? (h "condition_type" (.string c.combinator) (by simp [toMembers])),
    ReportMode.ofMembers?_of_holds hmode]
  rfl

namespace ReportDefinition

/-- The members of a definition but for the status of its materialization. -/
def authored (d : ReportDefinition) : Keyed Json :=
  d.toReportContent.toMembers ++
    [("report_id", d.reportId.toJson), ("created_at", d.createdAt.toJson),
      ("created_by", .string d.createdBy), ("updated_at", d.updatedAt.toJson),
      ("updated_by", .string d.updatedBy), ("deleted_at", (d.deletedAt.map Instant.toJson).getD .null),
      ("deleted_by", .string d.deletedBy)]

/-- **An object that holds the members of a definition** is read as this definition, with the status that it
holds. -/
theorem decode?_of_holds {d : ReportDefinition} {m : Keyed Json} (h : Holds m d.authored) :
    decode? (.object m) = (Decode.defaulted "materialization" {} MaterializationStatus.decode? m).map
      fun status => { d with materialization := status } := by
  have hcontent : Holds m d.toReportContent.toMembers := fun _ _ hmem => h _ _ (List.mem_append_left _ hmem)
  have hrest : Holds m _ := fun _ _ hmem => h _ _ (List.mem_append_right d.toReportContent.toMembers hmem)
  have hasObject : (Json.object m).asObject? = some m := rfl
  unfold decode?
  rw [hasObject, Option.bind_eq_bind, Option.bind_some, ReportContent.ofMembers?_of_holds hcontent,
    Decode.required_of_get? (hrest "report_id" d.reportId.toJson (by simp)), ReportId.readsBack,
    Decode.defaulted_of_get? (hrest "created_at" d.createdAt.toJson (by simp)), Decode.instant_toJson,
    Decode.textOrEmpty_of_get? (hrest "created_by" (.string d.createdBy) (by simp)),
    Decode.defaulted_of_get? (hrest "updated_at" d.updatedAt.toJson (by simp)), Decode.instant_toJson,
    Decode.textOrEmpty_of_get? (hrest "updated_by" (.string d.updatedBy) (by simp)), Decode.optional,
    Decode.defaulted_of_get? (hrest "deleted_at" ((d.deletedAt.map Instant.toJson).getD .null) (by simp)),
    Decode.nullable_instant,
    Decode.textOrEmpty_of_get? (hrest "deleted_by" (.string d.deletedBy) (by simp))]
  cases Decode.defaulted "materialization" {} MaterializationStatus.decode? m <;> rfl

/-! ### Storing a definition -/

/-- The names of the members of a definition, which depend on its mode. -/
def memberNames (isGroup : Bool) : List String :=
  (if isGroup then ["group_info", "mode"] else ["mode", "select_key_infos"])
    ++ ["domain", "app_id", "datastore_id", "report_name", "display_order", "report_conditions", "condition_type",
      "report_id", "created_at", "created_by", "updated_at", "updated_by", "deleted_at", "deleted_by",
      "materialization"]

/-- The members of a definition have these names. -/
theorem names_members (d : ReportDefinition) :
    (d.authored ++ [("materialization", d.materialization.toJson)]).map Prod.fst
      = memberNames d.mode.isGroup := by
  unfold authored ReportContent.toMembers
  cases d.mode <;> rfl

/-- They are different. -/
theorem nodup_memberNames : ∀ isGroup, (memberNames isGroup).Nodup := by decide

/-- None of them is a path. -/
theorem isName_of_mem_memberNames : ∀ isGroup, ∀ name ∈ memberNames isGroup, Document.IsName name := by decide

/-- **The members of a definition** are those that were authored and the status of its materialization. -/
theorem mem_toMembers_iff {d : ReportDefinition} {pair : String × Json} : pair ∈ d.toMembers
    ↔ pair ∈ d.authored ++ [("materialization", d.materialization.toJson)] := by
  have htoMembers : d.toMembers = Keyed.ofPairs (d.authored ++ [("materialization", d.materialization.toJson)]) := by
    simp [toMembers, authored]
  rw [htoMembers]
  exact Keyed.mem_ofPairs_iff (d.names_members ▸ nodup_memberNames _)

/-- The members of a definition are sorted. -/
theorem sorted_toMembers (d : ReportDefinition) : Keyed.Sorted d.toMembers := Keyed.sorted_ofPairs _

/-- **A definition is read back.** -/
theorem readsBack : ReadsBack decode? toJson := by
  intro d
  have hauthored : Holds d.toMembers d.authored := fun _ _ hmem =>
    d.sorted_toMembers.holds _ _ (mem_toMembers_iff.2 (List.mem_append_left _ hmem))
  have hstatus : Keyed.get? "materialization" d.toMembers = some d.materialization.toJson :=
    d.sorted_toMembers.holds _ _ (mem_toMembers_iff.2 (List.mem_append_right _ List.mem_cons_self))
  show decode? (.object d.toMembers) = some d
  rw [decode?_of_holds hauthored, Decode.defaulted_of_get? hstatus, MaterializationStatus.readsBack]
  rfl

/-- The status is the one member that is not authored. -/
theorem ne_statusPath_of_mem_authored {d : ReportDefinition} {pair : String × Json} (h : pair ∈ d.authored) :
    pair.1 ≠ Registry.statusPath := by
  have hnodup := d.names_members ▸ nodup_memberNames d.mode.isGroup
  rw [List.map_append, List.nodup_append] at hnodup
  exact hnodup.2.2 _ (List.mem_map_of_mem h) _ List.mem_cons_self

end ReportDefinition

/-! ### Editing a definition -/

/-- Fields with plain names are written into the members of an object. -/
theorem Store.setFields_object {written : List (String × Json)} (h : ∀ pair ∈ written, Document.IsName pair.1)
    (m : Keyed Json) : setFields written (.object m)
      = .object (written.foldl (fun m pair => Keyed.insert pair.1 pair.2 m) m) := by
  induction written generalizing m with
  | nil => rfl
  | cons pair rest ih =>
    have hset : Document.set pair.1 pair.2 (.object m) = .object (Keyed.insert pair.1 pair.2 m) := by
      unfold Document.set
      rw [Document.segments_of_isName (h pair List.mem_cons_self)]
      rfl
    show setFields rest (Document.set pair.1 pair.2 (.object m)) = _
    rw [hset, ih (fun other hother => h other (List.mem_cons_of_mem _ hother))]
    rfl

namespace Registry

/-- The members that an edit of a definition writes. -/
def edited (d : ReportDefinition) : List (String × Json) :=
  d.toMembers.filter fun (key, _) => key ≠ idPath ∧ key ≠ statusPath

/-- An edit writes all members but the id and the status. -/
theorem mem_edited_iff {d : ReportDefinition} {pair : String × Json} :
    pair ∈ edited d ↔ pair ∈ d.toMembers ∧ pair.1 ≠ idPath ∧ pair.1 ≠ statusPath := by
  unfold edited
  rw [List.mem_filter, decide_eq_true_iff]

/-- An edit keeps the id and the status. -/
theorem get?_edited {d : ReportDefinition} {key : String} (hkey : key = idPath ∨ key = statusPath) (m : Keyed Json) :
    Keyed.get? key ((edited d).foldl (fun m pair => Keyed.insert pair.1 pair.2 m) m) = Keyed.get? key m := by
  refine Keyed.get?_foldl_insert_of_not_mem (fun hmem => ?_) m
  obtain ⟨pair, hpair, rfl⟩ := List.mem_map.1 hmem
  exact hkey.elim (mem_edited_iff.1 hpair).2.1 (mem_edited_iff.1 hpair).2.2

/-- **An object into which an edit was written** holds the members of the edit. -/
theorem holds_edited {m : Keyed Json} {stored d : ReportDefinition}
    (h : ReportDefinition.decode? (.object m) = some stored) (hid : d.reportId = stored.reportId) :
    Holds ((edited d).foldl (fun m pair => Keyed.insert pair.1 pair.2 m) m) d.authored := by
  have hkeys : ((edited d).map Prod.fst).Nodup := (d.sorted_toMembers.filter _).nodup_keys
  intro key value hmem
  have hmember := ReportDefinition.mem_toMembers_iff.2 (List.mem_append_left _ hmem)
  by_cases hkey : key = idPath
  · -- the id is not written, but it is that of the stored definition
    subst hkey
    have hself : Keyed.get? idPath d.toMembers = some d.reportId.toJson :=
      d.sorted_toMembers.holds _ _
        (ReportDefinition.mem_toMembers_iff.2 (by simp [ReportDefinition.authored, idPath]))
    rw [get?_edited (.inl rfl), get?_idPath_of_decode? h, ← hid, ← hself]
    exact d.sorted_toMembers.holds _ _ hmember
  · exact Keyed.get?_foldl_insert_of_mem hkeys (mem_edited_iff.2
      ⟨hmember, hkey, ReportDefinition.ne_statusPath_of_mem_authored hmem⟩) m

/-- What an edit writes into an object. -/
theorem setFields_edited (d : ReportDefinition) (m : Keyed Json) : Store.setFields (edited d) (.object m)
    = .object ((edited d).foldl (fun m pair => Keyed.insert pair.1 pair.2 m) m) :=
  Store.setFields_object (fun _ hpair => ReportDefinition.isName_of_mem_memberNames _ _
    (d.names_members ▸ List.mem_map_of_mem (ReportDefinition.mem_toMembers_iff.1 (mem_edited_iff.1 hpair).1))) m

/-- **An edited definition is read back** with the status that it had. -/
theorem decode?_setFields_edited {document : Json} {stored d : ReportDefinition}
    (h : ReportDefinition.decode? document = some stored) (hid : d.reportId = stored.reportId) :
    ReportDefinition.decode? (Store.setFields (edited d) document)
      = some { d with materialization := stored.materialization } := by
  cases document with
  | object m =>
    obtain ⟨-, hstatus⟩ := ReportDefinition.read_of_decode? h
    have hsame : Decode.defaulted "materialization" {} MaterializationStatus.decode?
        ((edited d).foldl (fun m pair => Keyed.insert pair.1 pair.2 m) m) = some stored.materialization := by
      rw [← hstatus]
      unfold Decode.defaulted
      rw [show "materialization" = statusPath from rfl, get?_edited (.inr rfl)]
    rw [setFields_edited, ReportDefinition.decode?_of_holds (holds_edited h hid), hsame]
    rfl
  | _ => exact absurd h nofun

end Registry

end Rollup
