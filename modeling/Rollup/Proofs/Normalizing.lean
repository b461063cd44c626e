import Rollup.Item
import Rollup.Proofs.Definitions
import Rollup.Proofs.StoredInstants

/-!
# Normalized items are normalized again

An item is brought to its stored form when it comes in (`Item.normalize?`), and whatever is stored was written by
`Value.payload`. So the forms that are written should be among those that are read, and mean the same there. For all
types but one they do: a number is written as a number, a list as a list, and a number that is not finite is
written as the empty cell that it is read as. A date is the exception. It may come in with a year before 0 or
after 9999, and its stored form has then a sign that `Instant.parse?` does not take. Such an item is accepted, but
what it is stored as is no item any more.

Main results: `Value.decode?_toJson` says what is read of a cell that was written, `Item.decode?_toJson` what is read
of an item, and `Item.normalize?_again` what the second normalization gives for everything that the first one
accepted.
-/

namespace Rollup

/-! ### Reading one member of a list of pairs -/

namespace Keyed

variable {α : Type} {key : String}

/-- What is read of two lists of pairs is read of the first one that has it. -/
theorem get?_append (m n : Keyed α) : get? key (m ++ n) = (get? key m).or (get? key n) := by
  induction m with
  | nil => rfl
  | cons first rest ih =>
    rw [List.cons_append, get?, get?]
    split
    · rfl
    · exact ih

/-- **A map of pairs with different keys** is read as these pairs. -/
theorem get?_ofPairs {pairs : List (String × α)} (hkeys : (pairs.map Prod.fst).Nodup) :
    get? key (ofPairs pairs) = get? key pairs := by
  cases hget : get? key pairs with
  | some value => exact get?_foldl_insert_of_mem hkeys (mem_of_get? hget) []
  | none =>
    refine get?_foldl_insert_of_not_mem (fun hmem => ?_) []
    have hcontains : contains key pairs = true := contains_iff_mem_keys.2 hmem
    rw [contains, hget] at hcontains
    exact Bool.false_ne_true hcontains

/-- A sorted map is the map of its pairs. -/
theorem ofPairs_of_sorted {m : Keyed α} (h : Sorted m) : ofPairs m = m :=
  ext_of_sorted (sorted_ofPairs m) h fun _ => get?_ofPairs h.nodup_keys

end Keyed

namespace Decode

/-- In a sorted map no member is repeated. -/
theorem isRepeated_eq_false {m : Keyed Json} (h : Keyed.Sorted m) (key : String) : isRepeated m key = false := by
  have hone : (m.filter fun pair => pair.1 == key).length ≤ 1 := by
    have hcount : ((m.map Prod.fst).filter (· == key)).length ≤ 1 := by
      rw [← List.count_eq_length_filter]
      exact List.nodup_iff_count_le_one.1 h.nodup_keys key
    rwa [List.filter_map, List.length_map] at hcount
  exact decide_eq_false (by omega)

/-- **The members of an object** are all read as named ones. -/
theorem members?_object {m : Keyed Json} (h : Keyed.Sorted m) (declared : List String) :
    members? declared (.object m) = some m := by
  have hany : declared.any (isRepeated m) = false :=
    List.any_eq_false.2 fun key _ => by rw [isRepeated_eq_false h]; exact Bool.false_ne_true
  show (if declared.any (isRepeated m) = true then none else some m) = some m
  rw [hany]
  rfl

/-- A map that is read is sorted. -/
theorem sorted_of_map {α : Type} {value : Decoder α} {j : Json} {m : Keyed α} (h : map value j = some m) :
    Keyed.Sorted m := by
  cases j with
  | object members =>
    obtain ⟨pairs, -, rfl⟩ := Option.map_eq_some_iff.1 h
    exact Keyed.sorted_ofPairs pairs
  | _ => exact absurd h nofun

/-- **A member that may be missing** is read back, whether it was written or not. -/
theorem ReadsBack.optional {α : Type} {decode? : Decoder α} {toJson : α → Json} (hback : ReadsBack decode? toJson)
    (hvalue : ∀ x, toJson x ≠ .null) {key : String} {m : Keyed Json} {value : Option α}
    (h : Keyed.get? key m = value.map toJson) : Decode.optional key decode? m = some value := by
  unfold Decode.optional
  cases value with
  | none =>
    unfold defaulted
    rw [h]
    rfl
  | some x =>
    rw [defaulted_of_get? h, nullable_of_ne_null (hvalue x), hback x]
    rfl

end Decode

open Decode (ReadsBack)

/-! ### Cells -/

/-- A file reference is read back. -/
theorem FileRef.readsBack : ReadsBack decode? toJson := fun _ => rfl

namespace Value

/-- **What is stored can be read**: a date shows a year of four digits. -/
def IsRestorable : Value → Prop
  | .date t => t.HasPlainYear
  | _ => True

instance : DecidablePred IsRestorable
  | .date t => inferInstanceAs (Decidable t.HasPlainYear)
  | .text _ | .textarea _ | .number _ | .autonum _ | .time _ | .switch _ | .options _ | .user _ | .file _ | .lookup _
  | .empty _ => isTrue trivial

/-- **What the stored form tells** of a value: of a date the milliseconds, of a number that is not finite nothing. -/
def restored : Value → Value
  | .date t => .date t.truncated
  | .number n => if n.isFinite = true then .number n else .empty .number
  | v => v

/-- What is told of a number. -/
theorem restored_number (n : Float) :
    (number n).restored = if n.isFinite = true then .number n else .empty .number := rfl

/-- It is of the same type. -/
@[simp] theorem dataType_restored (v : Value) : v.restored.dataType = v.dataType := by
  cases v with
  | number n =>
    rw [restored_number]
    split <;> rfl
  | _ => rfl

/-- **It has the same payload.** -/
@[simp] theorem payload_restored (v : Value) : v.restored.payload = v.payload := by
  cases v with
  | date t => exact congrArg Json.string t.stored_truncated
  | number n =>
    rw [restored_number]
    split
    · rfl
    · next hfinite =>
      show Json.null = .ofFloat n
      rw [Json.ofFloat, dif_neg hfinite]
  | _ => rfl

/-- It is stored alike. -/
@[simp] theorem toJson_restored (v : Value) : v.restored.toJson = v.toJson := by
  unfold toJson
  rw [dataType_restored, payload_restored]

/-- Nothing more is lost when it is stored again. -/
@[simp] theorem restored_restored (v : Value) : v.restored.restored = v.restored := by
  cases v with
  | date t => exact congrArg Value.date t.truncated_truncated
  | number n =>
    rw [restored_number]
    split
    · next hfinite => rw [restored_number, if_pos hfinite]
    · rfl
  | _ => rfl

/-- A payload that is there is a value of the type or nothing. -/
theorem toOption_ofRaw {raw : Json} (h : raw.isNull = false) (dataType : DataType) :
    (ofRaw dataType raw).toOption = ofPayload? raw dataType := by
  unfold ofRaw
  rw [h, if_neg Bool.false_ne_true]
  split
  · cases ofPayload? raw dataType <;> rfl
  · next hunsupported => cases dataType <;> first | rfl | exact absurd rfl hunsupported

/-- **What is read of a payload that was written**, by the types of payloads. -/
theorem ofRaw_payload (v : Value) :
    (ofRaw v.dataType v.payload).toOption = if v.IsRestorable then some v.restored else none := by
  cases v with
  | date t =>
    have hread : ofPayload? (.string t.stored) .date = (Instant.parse? t.stored).map .date := rfl
    show (ofRaw .date (.string t.stored)).toOption = if t.HasPlainYear then some (.date t.truncated) else none
    rw [toOption_ofRaw rfl, hread, Instant.parse?_stored]
    split <;> rfl
  | number n =>
    show (ofRaw .number (.ofFloat n)).toOption = if True then some (number n).restored else none
    rw [if_pos trivial, restored_number, Json.ofFloat]
    split <;> rfl
  | user ids =>
    have hstring : ReadsBack textOf? .string := fun _ => rfl
    have hids : Decode.list textOf? (.array (ids.map .string)) = some ids := hstring.list ids
    have hread : ofPayload? (.ofStrings ids) .user = some (.user ids) := congrArg (Option.map Value.user) hids
    exact ((toOption_ofRaw rfl _).trans hread).trans (if_pos trivial).symm
  | file files =>
    have hread : ofPayload? (.array (files.map FileRef.toJson)) .file = some (.file files) :=
      congrArg (Option.map Value.file) (FileRef.readsBack.list files)
    exact ((toOption_ofRaw rfl _).trans hread).trans (if_pos trivial).symm
  | empty dataType => exact (if_pos trivial).symm
  | _ => exact (toOption_ofRaw rfl _).trans (if_pos trivial).symm

/-- **What is read of a cell that was written.** -/
theorem decode?_toJson (v : Value) : decode? v.toJson = if v.IsRestorable then some v.restored else none := by
  have hmembers : Decode.members? ["data_type", "value"] v.toJson = some v.toJson.members := rfl
  have htype : Decode.required "data_type" DataType.decode? v.toJson.members = some v.dataType :=
    DataType.readsBack v.dataType
  have hraw : Decode.defaulted "value" .null some v.toJson.members = some v.payload := rfl
  rw [← ofRaw_payload]
  unfold decode?
  rw [hmembers, Option.bind_eq_bind, Option.bind_some, htype, Option.bind_eq_bind, Option.bind_some, hraw]
  rfl

end Value

/-! ### Items -/

namespace Item

/-- **All cells can be read** as they are stored. -/
def IsRestorable (item : Item) : Prop := ∀ cell ∈ item.cells, cell.2.IsRestorable

instance (item : Item) : Decidable item.IsRestorable :=
  inferInstanceAs (Decidable (∀ cell ∈ item.cells, cell.2.IsRestorable))

/-- What the stored form tells of an item. -/
def restored (item : Item) : Item :=
  { item with cells := item.cells.map fun (key, v) => (key, v.restored) }

/-- **It is stored alike.** -/
@[simp] theorem toJson_restored (item : Item) : item.restored.toJson = item.toJson := by
  have hcells : item.restored.cells.map (fun (key, v) => (key, v.toJson))
      = item.cells.map fun (key, v) => (key, v.toJson) := by
    show (item.cells.map fun (key, v) => (key, v.restored)).map (fun (key, v) => (key, v.toJson)) = _
    rw [List.map_map]
    exact List.map_congr_left fun cell _ => congrArg (Prod.mk cell.1) cell.2.toJson_restored
  unfold toJson
  rw [hcells]
  rfl

/-- The members of an item as they are written. -/
def written (item : Item) : List (String × Json) :=
  [("item_id", .string item.itemId), ("app_id", .string item.appId),
    ("datastore_id", .string item.datastoreId), ("owners", .ofStrings item.owners),
    ("items", .object (item.cells.map fun (key, v) => (key, v.toJson))),
    ("created_at", item.createdAt.toJson), ("created_by", .string item.createdBy),
    ("updated_at", item.updatedAt.toJson), ("updated_by", .string item.updatedBy)]
  ++ present "check_type" (item.checkType.map .string)
  ++ present "check_status" (item.checkStatus.map .string)
  ++ present "checked_at" (item.checkedAt.map Instant.toJson)
  ++ present "checked_by" (item.checkedBy.map .string)
  ++ present "label_time" (item.labelTime.map Instant.toJson)
  ++ present "status" (item.status.map .string)

/-- A member that may be missing is read where it is written. -/
theorem get?_present (key other : String) (value : Option Json) :
    Keyed.get? key (present other value) = if other = key then value else none := by
  cases value with
  | none => exact (ite_self none).symm
  | some j => rfl

/-- It has one name at most. -/
theorem names_present (key : String) (value : Option Json) : ((present key value).map Prod.fst).Sublist [key] := by
  cases value with
  | none => exact List.nil_sublist _
  | some j => exact List.Sublist.refl _

/-- **No member of an item is written twice.** -/
theorem nodup_written (item : Item) : (item.written.map Prod.fst).Nodup := by
  have hsublist : (item.written.map Prod.fst).Sublist
      (["item_id", "app_id", "datastore_id", "owners", "items", "created_at", "created_by", "updated_at", "updated_by"]
        ++ ["check_type"] ++ ["check_status"] ++ ["checked_at"] ++ ["checked_by"] ++ ["label_time"] ++ ["status"]) := by
    unfold written
    simp only [List.map_append]
    exact (((((((List.Sublist.refl _).append (names_present _ _)).append (names_present _ _)).append
      (names_present _ _)).append (names_present _ _)).append (names_present _ _)).append (names_present _ _))
  exact hsublist.nodup (by decide)

/-- An item is written with these members. -/
theorem toJson_eq (item : Item) : item.toJson = .ofMembers item.written := rfl

/-- Members are read where they are written. -/
theorem get?_members_toJson (item : Item) (key : String) :
    Keyed.get? key item.toJson.members = Keyed.get? key item.written := by
  rw [toJson_eq]
  exact Keyed.get?_ofPairs item.nodup_written

/-- What is read of cells that were written. -/
theorem mapM_decode?_toJson (cells : Keyed Value) :
    (cells.map fun (key, v) => (key, v.toJson)).mapM (fun pair => (Value.decode? pair.2).map fun v => (pair.1, v))
      = if ∀ cell ∈ cells, cell.2.IsRestorable then some (cells.map fun (key, v) => (key, v.restored)) else none := by
  induction cells with
  | nil => rfl
  | cons cell rest ih =>
    obtain ⟨key, v⟩ := cell
    rw [List.map_cons, List.mapM_cons, ih, Value.decode?_toJson]
    simp only [List.forall_mem_cons]
    by_cases hv : v.IsRestorable
    · by_cases hrest : ∀ cell ∈ rest, cell.2.IsRestorable
      · rw [if_pos hv, if_pos hrest, if_pos ⟨hv, hrest⟩]
        rfl
      · rw [if_pos hv, if_neg hrest, if_neg (not_and_of_not_right _ hrest)]
        rfl
    · rw [if_neg hv, if_neg (not_and_of_not_left _ hv)]
      rfl

/-- The cells of an item as they are read again. -/
theorem map_decode?_toJson {item : Item} (h : Keyed.Sorted item.cells) :
    Decode.map Value.decode? (.object (item.cells.map fun (key, v) => (key, v.toJson)))
      = if item.IsRestorable then some item.restored.cells else none := by
  have hsorted : Keyed.Sorted item.restored.cells := List.pairwise_map.2 h
  refine (congrArg (Option.map Keyed.ofPairs) (mapM_decode?_toJson item.cells)).trans ?_
  show (if item.IsRestorable then some item.restored.cells else none).map Keyed.ofPairs = _
  split
  · exact congrArg some (Keyed.ofPairs_of_sorted hsorted)
  · rfl

/-- The members that may be missing are read where they are written. -/
theorem get?_written (item : Item) :
    Keyed.get? "check_type" item.written = item.checkType.map .string
      ∧ Keyed.get? "check_status" item.written = item.checkStatus.map .string
      ∧ Keyed.get? "checked_at" item.written = item.checkedAt.map Instant.toJson
      ∧ Keyed.get? "checked_by" item.written = item.checkedBy.map .string
      ∧ Keyed.get? "label_time" item.written = item.labelTime.map Instant.toJson
      ∧ Keyed.get? "status" item.written = item.status.map .string := by
  simp [written, Keyed.get?_append, get?_present, Keyed.get?]

/-- **What is read of an item that was written.** -/
theorem decode?_toJson {item : Item} (h : Keyed.Sorted item.cells) :
    decode? item.toJson = if item.IsRestorable then some item.restored else none := by
  have hmembers : Decode.members? declared item.toJson = some item.toJson.members :=
    Decode.members?_object (Keyed.sorted_ofPairs _) _
  have hget : ∀ {key : String} {value : Option Json}, Keyed.get? key item.written = value →
      Keyed.get? key item.toJson.members = value := fun hread => (item.get?_members_toJson _).trans hread
  have hid : Keyed.get? "item_id" item.toJson.members = some (.string item.itemId) := hget rfl
  have happ : Keyed.get? "app_id" item.toJson.members = some (.string item.appId) := hget rfl
  have hdatastore : Keyed.get? "datastore_id" item.toJson.members = some (.string item.datastoreId) := hget rfl
  have howners : Keyed.get? "owners" item.toJson.members = some (.ofStrings item.owners) := hget rfl
  have hcells : Keyed.get? "items" item.toJson.members
      = some (.object (item.cells.map fun (key, v) => (key, v.toJson))) := hget rfl
  have hcreatedAt : Keyed.get? "created_at" item.toJson.members = some item.createdAt.toJson := hget rfl
  have hcreatedBy : Keyed.get? "created_by" item.toJson.members = some (.string item.createdBy) := hget rfl
  have hupdatedAt : Keyed.get? "updated_at" item.toJson.members = some item.updatedAt.toJson := hget rfl
  have hupdatedBy : Keyed.get? "updated_by" item.toJson.members = some (.string item.updatedBy) := hget rfl
  obtain ⟨hcheckType, hcheckStatus, hcheckedAt, hcheckedBy, hlabelTime, hstatus⟩ := item.get?_written
  have htexts : ReadsBack Decode.text .string := Decode.readsBack_text
  have htimes : ReadsBack Decode.instant Instant.toJson := Decode.instant_toJson
  have htext : ∀ s : String, Json.string s ≠ .null := fun _ => nofun
  have htime : ∀ t : Instant, t.toJson ≠ .null := fun t => htext t.recorded
  unfold decode?
  rw [hmembers, Option.bind_eq_bind, Option.bind_some, Decode.required_of_get? hid, htexts,
    Decode.required_of_get? happ, htexts, Decode.required_of_get? hdatastore, htexts, htexts.listOrEmpty howners,
    Decode.defaulted_of_get? hcells, map_decode?_toJson h, htexts.optional htext (hget hcheckType),
    htexts.optional htext (hget hcheckStatus), Decode.defaulted_of_get? hcreatedAt, htimes,
    Decode.textOrEmpty_of_get? hcreatedBy, Decode.defaulted_of_get? hupdatedAt, htimes,
    Decode.textOrEmpty_of_get? hupdatedBy, htimes.optional htime (hget hcheckedAt),
    htexts.optional htext (hget hcheckedBy), htimes.optional htime (hget hlabelTime),
    htexts.optional htext (hget hstatus)]
  by_cases hall : item.IsRestorable
  · rw [if_pos hall, if_pos hall]
    rfl
  · rw [if_neg hall, if_neg hall]
    rfl

/-- The cells of an item that was read are sorted. -/
theorem sorted_of_decode? {raw : Json} {item : Item} (h : decode? raw = some item) : Keyed.Sorted item.cells := by
  unfold decode? at h
  -- the members and four of them are read before the cells, and ten more after them
  iterate 5 obtain ⟨_, -, h⟩ := Option.bind_eq_some_iff.1 h
  obtain ⟨cells, hcells, h⟩ := Option.bind_eq_some_iff.1 h
  iterate 10 obtain ⟨_, -, h⟩ := Option.bind_eq_some_iff.1 h
  obtain rfl := Option.some.inj h
  show Keyed.Sorted cells
  unfold Decode.defaulted at hcells
  split at hcells
  · exact Decode.sorted_of_map hcells
  · exact Option.some.inj hcells ▸ Keyed.sorted_nil

/-- **What the second normalization gives.** Whatever is accepted is stored as an item with the same cells, and each
cell is read back if its stored form can be read: a date shows the milliseconds, a number that is not finite shows
nothing, and all other values are what they were. Then the item is stored again as it is stored. An item with
a date beyond the years 0 to 9999 is accepted as well, but what it is stored as is no item. -/
theorem normalize?_again {raw stored : Json} (h : normalize? raw = some stored) :
    ∃ item, decode? raw = some item ∧ stored = item.toJson
      ∧ (∀ cell ∈ item.cells,
        Value.decode? cell.2.toJson = (if cell.2.IsRestorable then some cell.2.restored else none)
          ∧ cell.2.restored.toJson = cell.2.toJson)
      ∧ decode? stored = (if item.IsRestorable then some item.restored else none)
      ∧ normalize? stored = if item.IsRestorable then some stored else none := by
  obtain ⟨item, hitem, rfl⟩ := Option.map_eq_some_iff.1 h
  have hread := decode?_toJson (sorted_of_decode? hitem)
  refine ⟨item, hitem, rfl, fun cell _ => ⟨cell.2.decode?_toJson, cell.2.toJson_restored⟩, hread, ?_⟩
  unfold normalize?
  rw [hread]
  split
  · exact congrArg some item.toJson_restored
  · rfl

/-- A raw item with one date. -/
def dueOn (due : String) : Json :=
  .object [("app_id", .string "crm"), ("datastore_id", .string "tasks"), ("item_id", .string "i1"),
    ("items", .object [("due", .object [("data_type", .string "date"), ("value", .string due)])])]

/-- When a stored item is due. -/
def due? (stored : Json) : Option String :=
  (((stored.member? "items").bind (Json.member? "due")).bind (Json.member? "value")).bind Json.asString?

/-- **A date with an offset** is stored in UTC by its milliseconds, and stays what it is. -/
theorem normalize?_again_offset : ∃ stored, normalize? (dueOn "2024-02-29T23:30:00.123456-01:00") = some stored
    ∧ due? stored = some "2024-03-01T00:30:00.123Z" ∧ normalize? stored = some stored := by
  obtain ⟨stored, hstored⟩ := Option.isSome_iff_exists.1
    (by decide +kernel : (normalize? (dueOn "2024-02-29T23:30:00.123456-01:00")).isSome = true)
  have hdue : (normalize? (dueOn "2024-02-29T23:30:00.123456-01:00")).bind due? = some "2024-03-01T00:30:00.123Z" := by
    decide +kernel
  have hplain : (decode? (dueOn "2024-02-29T23:30:00.123456-01:00")).all (fun item => item.IsRestorable) = true := by
    decide +kernel
  obtain ⟨item, hitem, -, -, -, hagain⟩ := normalize?_again hstored
  rw [hstored] at hdue
  rw [hitem] at hplain
  exact ⟨stored, hstored, hdue, hagain.trans (if_pos (of_decide_eq_true hplain))⟩

/-- **The first day of the year 10000** is accepted, and what it is stored as is refused. -/
theorem normalize?_far_year : ∃ stored, normalize? (dueOn "+10000-01-01") = some stored
    ∧ due? stored = some "+10000-01-01T00:00:00.000Z" ∧ normalize? stored = none := by
  obtain ⟨stored, hstored⟩ := Option.isSome_iff_exists.1
    (by decide +kernel : (normalize? (dueOn "+10000-01-01")).isSome = true)
  have hdue : (normalize? (dueOn "+10000-01-01")).bind due? = some "+10000-01-01T00:00:00.000Z" := by decide +kernel
  have hagain : ((normalize? (dueOn "+10000-01-01")).bind normalize?).isNone = true := by decide +kernel
  rw [hstored] at hdue hagain
  exact ⟨stored, hstored, hdue, Option.isNone_iff_eq_none.1 hagain⟩

end Item

end Rollup
