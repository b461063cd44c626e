import Rollup.Proofs.Columns
import Rollup.Proofs.Computing
import Rollup.Proofs.Matching
import Rollup.Proofs.Partition
import Rollup.Proofs.Projecting
import Rollup.Proofs.TupleKey

/-!
# Documents out of sight

A document whose access groups are listed, and among which there is none of the caller's, is **hidden** from
the caller. Hidden documents stay among themselves on the way from the source records to the rows: joining
and projecting keep the access groups of every record, no group has both hidden and visible members, and the
row of a hidden record or group is hidden. So what a caller sees of the computed rows is what is computed of
the records that the caller sees (`Computation.filter_shape`).
-/

namespace Rollup

namespace Document

/-- Whether a listed access group is none of some others. -/
def isOther (groups : List String) : Json → Bool
  | .string owner => !groups.contains owner
  | _ => false

/-- **Whether a document is hidden** from some access groups: it lists its own, and none of them is among
those. -/
def isHidden (groups : List String) (document : Json) : Bool :=
  match get? Stage.ownersPath document with
  | some (.array items) => items.all (isOther groups)
  | _ => false

/-- The documents that are not hidden. -/
def visible (groups : List String) (documents : List Json) : List Json :=
  documents.filter fun d => !isHidden groups d

variable {groups : List String} {d e : Json}

/-- Access groups that are none of some others are texts. -/
theorem exists_of_all_isOther {items : List Json} (h : items.all (isOther groups) = true) :
    ∃ owners : List String, items = owners.map .string ∧ ∀ owner ∈ owners, owner ∉ groups := by
  induction items with
  | nil => exact ⟨[], rfl, fun _ h => absurd h List.not_mem_nil⟩
  | cons item rest ih =>
    rw [List.all_cons, Bool.and_eq_true] at h
    obtain ⟨owners, rfl, hnone⟩ := ih h.2
    cases item with
    | string owner =>
      refine ⟨owner :: owners, rfl, fun other hother => ?_⟩
      rcases List.mem_cons.1 hother with rfl | hother
      · simpa [isOther] using h.1
      · exact hnone other hother
    | _ => exact absurd h.1 Bool.false_ne_true

/-- Hidden documents list access groups that are none of the caller's. -/
theorem isHidden_iff : isHidden groups d = true ↔
    ∃ owners, get? Stage.ownersPath d = some (.ofStrings owners) ∧ ∀ owner ∈ owners, owner ∉ groups := by
  unfold isHidden
  constructor
  · intro h
    split at h
    · next items hitems =>
      obtain ⟨owners, rfl, hnone⟩ := exists_of_all_isOther h
      exact ⟨owners, hitems, hnone⟩
    · exact absurd h Bool.false_ne_true
  · rintro ⟨owners, howners, hnone⟩
    rw [howners]
    show (owners.map Json.string).all (isOther groups) = true
    rw [List.all_map, List.all_eq_true]
    exact fun owner howner => by simpa [isOther] using hnone owner howner

/-- Documents with the same access groups are hidden from the same callers. -/
theorem isHidden_congr (h : get? Stage.ownersPath d = get? Stage.ownersPath e) :
    isHidden groups d = isHidden groups e := by
  unfold isHidden
  rw [h]

/-- **Documents whose access groups agree** are hidden from the same callers. -/
theorem isHidden_eq_of_canonical
    (h : canonical (get? Stage.ownersPath d) = canonical (get? Stage.ownersPath e)) :
    isHidden groups d = isHidden groups e := by
  have hsame : ∀ {d e : Json}, canonical (get? Stage.ownersPath d) = canonical (get? Stage.ownersPath e) →
      isHidden groups d = true → isHidden groups e = true := by
    intro d e h hhidden
    obtain ⟨owners, howners, hnone⟩ := isHidden_iff.1 hhidden
    rw [howners] at h
    have hlist := canonicalValue_eq_ofStrings.1 (h.symm.trans (canonicalValue_eq_ofStrings.2 rfl))
    refine isHidden_iff.2 ⟨owners, ?_, hnone⟩
    cases he : get? Stage.ownersPath e with
    | none =>
      rw [he] at hlist
      exact absurd hlist nofun
    | some value =>
      rw [he] at hlist
      exact congrArg some hlist
  exact Bool.eq_iff_iff.2 ⟨hsame h, hsame h.symm⟩

/-- **A hidden document belongs to none of the groups.** -/
theorem not_among_of_isHidden (h : isHidden groups d = true) :
    (Predicate.among Stage.ownersPath groups).holds d = false := by
  obtain ⟨owners, howners, hnone⟩ := isHidden_iff.1 h
  rw [Predicate.holds, howners]
  show (owners.map Json.string).any (Predicate.isAmong groups) = false
  rw [List.any_map, List.any_eq_false]
  exact fun owner howner => by simpa [Predicate.isAmong] using hnone owner howner

end Document

open Document (isHidden visible isHidden_congr isHidden_eq_of_canonical)

variable {groups : List String}

/-! ## Records -/

/-- The access groups are not below `relations`. -/
theorem segments_ownersPath : Document.segments Stage.ownersPath = ["owners"] :=
  Document.segments_of_isName (by decide : Document.IsName "owners")

/-- Joining keeps the access groups. -/
theorem Join.isHidden_attach (j : Join) (record related : Json) :
    isHidden groups (j.attach record related) = isHidden groups record :=
  isHidden_congr (j.get?_attach segments_ownersPath (by decide) record related)

/-- Projecting keeps the access groups. -/
theorem Projection.isHidden_apply {p : Projection} {source kept : Json}
    (hcolumns : Stage.ownersPath ∈ p.columns) (h : p.apply source = .ok kept) :
    isHidden groups source = isHidden groups kept := by
  refine isHidden_congr ?_
  rw [Document.get?_of_isName (by decide : Document.IsName Stage.ownersPath),
    Document.get?_of_isName (by decide : Document.IsName Stage.ownersPath),
    member?_of_mem_columns h hcolumns (by decide) (by decide)]

namespace Computation

/-- What is visible of what is joined is joined of what is visible. -/
theorem visible_joined (w : Computation) (t : Tenant) (items : List Json) :
    visible groups (w.joined t items) = w.joined t (visible groups items) := by
  have hjoined : ∀ items, visible groups (Stage.joinedWith t w.joins items)
      = Stage.joinedWith t w.joins (visible groups items) := fun items =>
    (Stage.joinedWith_filter (fun j _ record related => by rw [j.isHidden_attach]) t items).symm
  unfold joined
  split
  · rw [← hjoined]
    exact List.filter_comm _ _ _
  · rw [hjoined]
    exact congrArg _ (List.filter_comm _ _ _)

/-- **What is visible of the records** is what the projection keeps of the visible items. -/
theorem visible_records {w : Computation} {t : Tenant} {items records : List Json}
    (hcolumns : Stage.ownersPath ∈ w.projection.columns)
    (h : w.projection.run (w.joined t items) = .ok records) :
    w.projection.run (w.joined t (visible groups items)) = .ok (visible groups records) := by
  rw [← visible_joined]
  exact Projection.run_filter
    (fun source _ kept hkept => by rw [Projection.isHidden_apply hcolumns hkept]) h

end Computation

/-! ## Rows -/

/-- What stands below another name is not with the access groups. -/
theorem part_owners_of_below (name rest : String) (hname : Document.IsName name) (hne : name ≠ "owners") :
    Document.Part ["owners"] (Document.segments (name ++ "." ++ rest)) := by
  rw [Document.segments_append, Document.segments_of_isName hname]
  exact Document.part_of_ne hne.symm _ _

namespace Grouping

/-- The columns behind those of the keys and access groups are not with the access groups. -/
theorem part_owners_of_mem {g : Grouping} {members : List Json} {c : Document.Column}
    (hc : c ∈ g.aggregates.flatMap (aggregateColumns members)
      ++ [.ofPath Stage.countPath (if g.showCount then some (.ofCount members.length) else none),
        .ofPath Stage.updateTimePath (some (.string g.updateTime.stored))]) :
    Document.Part ["owners"] c.place := by
  rcases List.mem_append.1 hc with hc | hc
  · obtain ⟨a, -, hc⟩ := List.mem_flatMap.1 hc
    rcases List.mem_pair.1 hc with rfl | rfl
    · exact part_owners_of_below "items" a.fieldId (by decide) (by decide)
    · exact part_owners_of_below "partials" a.fieldId (by decide) (by decide)
  · rcases List.mem_pair.1 hc with rfl | rfl
    · exact Document.part_of_ne (by decide) [] []
    · exact Document.part_of_ne (by decide) [] []

/-- **The row of a group has the access groups of its first record.** -/
theorem get?_owners_row (g : Grouping) {members : List Json} {owners : Json}
    (h : Document.get? Stage.ownersPath (members.headD .null) = some owners) :
    Document.get? Stage.ownersPath (g.row members) = some owners := by
  have hself := Document.getAt?_setAt_self (Document.segments Stage.ownersPath) owners
    (Document.fill (g.keys.map (Stage.keyColumn (members.headD .null))) (.object []))
  rw [row_eq_fill, columns, h, Document.fill_append (g.keys.map _ ++ [_]),
    Document.fill_append (g.keys.map _) [_]]
  unfold Document.get?
  rw [segments_ownersPath] at hself ⊢
  rw [Document.getAt?_fill_of_part fun c hc => part_owners_of_mem hc]
  exact hself

/-- The row of a hidden group is hidden. -/
theorem isHidden_row (g : Grouping) {members : List Json}
    (h : isHidden groups (members.headD .null) = true) : isHidden groups (g.row members) = true := by
  obtain ⟨owners, howners, -⟩ := Document.isHidden_iff.1 h
  rw [← h]
  exact isHidden_congr ((g.get?_owners_row howners).trans howners.symm)

/-- Records of one group are hidden from the same callers. -/
theorem isHidden_eq_of_keyOf_eq {g : Grouping} {d e : Json} (h : g.keyOf d = g.keyOf e) :
    isHidden groups d = isHidden groups e :=
  isHidden_eq_of_canonical (Document.tupleKey_concat_eq_iff.1 h).2

/-- **Of the rows of groups**, those that are chosen without the hidden ones come from the visible records. -/
theorem filter_run (g : Grouping) {f : Json → Bool} (hf : ∀ row, isHidden groups row = true → f row = false)
    (records : List Json) : (g.run records).filter f = (g.run (visible groups records)).filter f := by
  unfold run visible
  rw [Stage.partitionBy_filter g.keyOf fun d _ e _ h => by rw [isHidden_eq_of_keyOf_eq h]]
  rw [List.filter_map, List.filter_map, List.filter_filter]
  refine congrArg _ (List.filter_congr fun group _ => ?_)
  obtain ⟨k, members⟩ := group
  cases hhidden : isHidden groups (members.headD .null) with
  | true => simp [hf _ (g.isHidden_row hhidden)]
  | false => simp

end Grouping

namespace Selection

/-- Whether writing a key cannot change listed access groups: it writes elsewhere, or what the record has there
anyway. -/
def KeepsOwners (key : OutputKey) : Prop :=
  Document.Part ["owners"] (Document.segments key.target) ∨ key.wrap = none ∧ key.source = key.target

/-- The keys of reports cannot change listed access groups. -/
theorem keepsOwners_outputKey (k : Key) : KeepsOwners (Materialization.outputKey k) := by
  unfold Materialization.outputKey
  split
  · next h =>
    have hlookup : k.isLookup = true := by
      unfold Key.relation? at h
      split at h
      · assumption
      · exact absurd h Bool.false_ne_true
    have hitem : k.outputPath = "items" ++ "." ++ k.fieldId := by
      unfold Key.outputPath Key.isItem
      rw [hlookup]
      rfl
    refine Or.inl ?_
    show Document.Part ["owners"] (Document.segments k.outputPath)
    rw [hitem]
    exact part_owners_of_below "items" k.fieldId (by decide) (by decide)
  · exact Or.inr ⟨rfl, rfl⟩

/-- Writing a key leaves listed access groups as they are. -/
theorem get?_owners_write {key : OutputKey} (hkey : KeepsOwners key) {source row : Json}
    {owners : List String} (hsource : Document.get? Stage.ownersPath source = some (.ofStrings owners))
    (hrow : Document.get? Stage.ownersPath row = some (.ofStrings owners)) :
    Document.get? Stage.ownersPath ((Stage.keyColumn source key).write row)
      = some (.ofStrings owners) := by
  have hpart : Document.Part ["owners"] (Document.segments key.target) →
      Document.get? Stage.ownersPath ((Stage.keyColumn source key).write row)
        = some (.ofStrings owners) := by
    intro hpart
    rw [← hrow]
    unfold Document.get?
    rw [segments_ownersPath]
    exact Document.Column.getAt?_write_of_part hpart row
  rcases hkey with hkey | ⟨hwrap, hsame⟩
  · exact hpart hkey
  · obtain ⟨name, rest, htarget⟩ := List.exists_cons_of_ne_nil (Document.segments_ne_nil key.target)
    by_cases hname : name = "owners"
    · subst hname
      have hvalue : (Stage.keyColumn source key).value = Document.getAt? rest (.ofStrings owners) := by
        unfold Document.get? at hsource
        rw [segments_ownersPath] at hsource
        unfold Stage.keyColumn Document.Column.ofPath Document.get?
        rw [hwrap, hsame, htarget, ← List.singleton_append, Document.getAt?_append, hsource]
        rfl
      unfold Document.Column.write
      rw [hvalue]
      cases rest with
      | nil =>
        -- the record's own access groups are written over the same ones
        unfold Document.get?
        rw [segments_ownersPath, ← htarget]
        exact Document.getAt?_setAt_self _ _ _
      | cons next rest =>
        -- nothing stands below a list
        exact hrow
    · exact hpart (htarget ▸ Document.part_of_ne (Ne.symm hname) _ _)

/-- Writing keys leaves listed access groups as they are. -/
theorem get?_owners_fill {keys : List OutputKey} (hkeys : ∀ key ∈ keys, KeepsOwners key)
    {source row : Json} {owners : List String}
    (hsource : Document.get? Stage.ownersPath source = some (.ofStrings owners))
    (hrow : Document.get? Stage.ownersPath row = some (.ofStrings owners)) :
    Document.get? Stage.ownersPath (Document.fill (keys.map (Stage.keyColumn source)) row)
      = some (.ofStrings owners) := by
  induction keys generalizing row with
  | nil => exact hrow
  | cons key rest ih =>
    exact ih (fun other hother => hkeys other (List.mem_cons_of_mem _ hother))
      (get?_owners_write (hkeys key List.mem_cons_self) hsource hrow)

/-- The row of a hidden record is hidden. -/
theorem isHidden_row {s : Selection} (hkeys : ∀ key ∈ s.keys, KeepsOwners key) {source : Json}
    (h : isHidden groups source = true) : isHidden groups (s.row source) = true := by
  obtain ⟨owners, howners, -⟩ := Document.isHidden_iff.1 h
  rw [← h]
  refine isHidden_congr (Eq.trans ?_ howners.symm)
  unfold row
  rw [Stage.writeKeys_eq_fill]
  refine get?_owners_fill hkeys howners ?_
  rw [Document.get?_of_isName (by decide)] at howners ⊢
  refine (Keyed.get?_insert_of_ne (by decide) _ _).trans ?_
  rw [Projection.get?_copyMembers, if_pos (by decide)]
  exact howners

/-- **Of the rows of records**, those that are chosen without the hidden ones come from the visible records. -/
theorem filter_run {s : Selection} (hkeys : ∀ key ∈ s.keys, KeepsOwners key) {f : Json → Bool}
    (hf : ∀ row, isHidden groups row = true → f row = false) (records : List Json) :
    (s.run records).filter f = (s.run (visible groups records)).filter f := by
  unfold run visible
  rw [List.filter_map, List.filter_map, List.filter_filter]
  refine congrArg _ (List.filter_congr fun source _ => ?_)
  cases hhidden : isHidden groups source with
  | true => simp [hf _ (isHidden_row hkeys hhidden)]
  | false => simp

end Selection

/-- **What a caller sees of the rows** is what is computed of the records that the caller sees. -/
theorem Materialization.filter_shape (time : Instant) (mode : ReportMode) {f : Json → Bool}
    (hf : ∀ row, isHidden groups row = true → f row = false) (records : List Json) :
    (shape time mode records).filter f = (shape time mode (visible groups records)).filter f := by
  cases mode with
  | group spec => exact (grouping spec time).filter_run hf records
  | select keys =>
    refine Selection.filter_run (fun key hkey => ?_) hf records
    obtain ⟨k, -, rfl⟩ := List.mem_map.1 hkey
    exact Selection.keepsOwners_outputKey k

end Rollup
