import Rollup.Proofs.Computing
import Rollup.Proofs.Partition
import Rollup.Proofs.TupleKey

/-!
# Joining is a nested loop

Related documents are arranged by the canonical texts of their key values, and every record is looked up in the
arrangement by its own. What comes out is what going through all related documents for each record would give
(`Stage.answer_join_eq_nestedLoop`): one copy of the record for each related document that matches, in the order
of these, and the record itself where none does.

Whether a document matches is said without texts. **Agreeing** values (`Json.agrees`) are equal once their
numbers are read as doubles, and a document matches a record when their key values are all there, none is `null`,
and they agree one by one. The texts tell the same since compact texts determine their values.
-/

namespace Rollup

open Document (canonicalValue)

namespace Join

/-- **Whether a related document matches a record**: all key values are there, none of them is `null`, and they
agree one by one. -/
def isMatch (j : Join) (record related : Json) : Bool :=
  j.keys.all fun key =>
    match Document.get? key.own record, Document.get? key.foreign related with
    | some v, some w => !v.isNull && !w.isNull && v.agrees w
    | _, _ => false

/-- **The nested loop**: a record makes one copy for each related document that matches, and stays as it is where
none does. -/
def nestedLoop (j : Join) (related records : List Json) : List Json :=
  records.flatMap fun record =>
    match related.filter (j.isMatch record) with
    | [] => [record]
    | found => found.map (j.attach record)

/-- **A copy of a record with the items of a related document**, differing from the record at one path only. -/
structure IsCopy (j : Join) (record related copy : Json) : Prop where
  /-- The items, `null` if there are none, stand below the id of the relation. -/
  items : Document.get? ("relations." ++ j.relationId) copy = some ((related.member? "items").getD .null)
  /-- Everything else is as in the record. -/
  others : ∀ path, Document.Independent path ("relations." ++ j.relationId) →
    Document.get? path copy = Document.get? path record

/-- The values at some paths, unless one is missing or `null`. -/
def presentAt? (paths : List String) (document : Json) : Option (List Json) :=
  paths.mapM fun path => (Document.get? path document).filter fun v => !v.isNull

/-- One more path has one more value. -/
theorem presentAt?_cons_eq_some {path : String} {paths : List String} {document : Json} {values : List Json} :
    presentAt? (path :: paths) document = some values ↔ ∃ v rest, Document.get? path document = some v
      ∧ v.isNull = false ∧ presentAt? paths document = some rest ∧ values = v :: rest := by
  unfold presentAt?
  rw [List.mapM_cons]
  simp only [Option.bind_eq_bind, Option.bind_eq_some_iff, Option.filter_eq_some_iff, Option.pure_def,
    Option.some.injEq, Bool.not_eq_true']
  constructor
  · rintro ⟨v, ⟨hv, hnull⟩, rest, hrest, rfl⟩
    exact ⟨v, rest, hv, hnull, hrest, rfl⟩
  · rintro ⟨v, rest, hv, hnull, hrest, rfl⟩
    exact ⟨v, ⟨hv, hnull⟩, rest, hrest, rfl⟩

/-- **A related document matches** exactly if the key values are there on both sides and canonically the same. -/
theorem isMatch_iff {j : Join} {record related : Json} : j.isMatch record related = true ↔
    ∃ values others, presentAt? (j.keys.map JoinKey.own) record = some values
      ∧ presentAt? (j.keys.map JoinKey.foreign) related = some others
      ∧ others.map canonicalValue = values.map canonicalValue := by
  unfold isMatch
  induction j.keys with
  | nil => exact ⟨fun _ => ⟨[], [], rfl, rfl, rfl⟩, fun _ => rfl⟩
  | cons key rest ih =>
    rw [List.all_cons, Bool.and_eq_true, ih]
    simp only [List.map_cons, presentAt?_cons_eq_some]
    constructor
    · rintro ⟨hkey, values, others, hvalues, hothers, hsame⟩
      split at hkey
      · next v w hv hw =>
        simp only [Bool.and_eq_true, Bool.not_eq_true', Json.agrees_iff] at hkey
        refine ⟨_, _, ⟨v, values, hv, hkey.1.1, hvalues, rfl⟩, ⟨w, others, hw, hkey.1.2, hothers, rfl⟩, ?_⟩
        rw [List.map_cons, List.map_cons, hsame, hkey.2]
      · exact absurd hkey Bool.false_ne_true
    · rintro ⟨_, _, ⟨v, values, hv, hvnull, hvalues, rfl⟩, ⟨w, others, hw, hwnull, hothers, rfl⟩, hsame⟩
      rw [List.map_cons, List.map_cons, List.cons.injEq] at hsame
      refine ⟨?_, values, others, hvalues, hothers, hsame.2⟩
      rw [hv, hw]
      simp only [Bool.and_eq_true, Bool.not_eq_true', Json.agrees_iff]
      exact ⟨⟨hvnull, hwnull⟩, hsame.1.symm⟩

/-- The text of a tuple of values that are there. -/
theorem keyOf?_eq_some {paths : List String} {document : Json} {k : String} :
    keyOf? paths document = some k
      ↔ ∃ values, presentAt? paths document = some values ∧ Document.tupleKey (values.map some) = k := by
  unfold keyOf?
  rw [Option.map_eq_some_iff]
  rfl

/-- **Texts tell which documents match.** -/
theorem isMatch_iff_keyOf? {j : Join} {record related : Json} : j.isMatch record related = true ↔
    ∃ k, keyOf? (j.keys.map JoinKey.own) record = some k
      ∧ keyOf? (j.keys.map JoinKey.foreign) related = some k := by
  have hsame : ∀ values others : List Json, Document.tupleKey (others.map some) = Document.tupleKey (values.map some)
      ↔ others.map canonicalValue = values.map canonicalValue := by
    intro values others
    rw [Document.tupleKey_eq_iff, List.map_map, List.map_map]
    rfl
  rw [isMatch_iff]
  constructor
  · rintro ⟨values, others, hvalues, hothers, hcanonical⟩
    exact ⟨_, keyOf?_eq_some.2 ⟨values, hvalues, rfl⟩,
      keyOf?_eq_some.2 ⟨others, hothers, (hsame values others).2 hcanonical⟩⟩
  · rintro ⟨k, hown, hforeign⟩
    obtain ⟨values, hvalues, rfl⟩ := keyOf?_eq_some.1 hown
    obtain ⟨others, hothers, htext⟩ := keyOf?_eq_some.1 hforeign
    exact ⟨values, others, hvalues, hothers, (hsame values others).1 htext⟩

/-! ## The arrangement -/

/-- The text under which a related document is arranged. -/
def foreignKey (j : Join) (related : Json) : String :=
  (keyOf? (j.keys.map JoinKey.foreign) related).getD ""

/-- Those related documents are arranged whose key values are all there. -/
theorem index_eq_partitionBy (j : Join) (related : List Json) : j.index related
    = Stage.partitionBy j.foreignKey
      (related.filter fun d => (keyOf? (j.keys.map JoinKey.foreign) d).isSome) := by
  unfold index
  induction related with
  | nil => rfl
  | cons d rest ih =>
    rw [List.foldr_cons, ih]
    cases hkey : keyOf? (j.keys.map JoinKey.foreign) d with
    | none => rw [List.filter_cons_of_neg (by simp [hkey])]
    | some k =>
      have htext : j.foreignKey d = k := by
        unfold foreignKey
        rw [hkey, Option.getD_some]
      rw [List.filter_cons_of_pos (by simp [hkey]), ← htext]
      rfl

/-- **Under the text of a record stand the related documents that match it**, and nothing where none does. -/
theorem getD_index {j : Join} {record : Json} {k : String}
    (hk : keyOf? (j.keys.map JoinKey.own) record = some k) (related : List Json) :
    (Keyed.get? k (j.index related)).getD [] = related.filter (j.isMatch record) := by
  rw [index_eq_partitionBy, Stage.getD_partitionBy, Stage.sharing, List.filter_filter]
  refine List.filter_congr fun d _ => ?_
  rw [Bool.eq_iff_iff, isMatch_iff_keyOf?, hk, Bool.and_eq_true, decide_eq_true_eq]
  unfold foreignKey
  cases hd : keyOf? (j.keys.map JoinKey.foreign) d with
  | none => simp
  | some l => simp [eq_comm]

/-- **A record makes the same copies** in the nested loop. -/
theorem expand_index (j : Join) (related : List Json) (record : Json) :
    j.expand (j.index related) record = match related.filter (j.isMatch record) with
      | [] => [record]
      | found => found.map (j.attach record) := by
  unfold expand
  cases hk : keyOf? (j.keys.map JoinKey.own) record with
  | none =>
    have hnone : related.filter (j.isMatch record) = [] := by
      refine List.filter_eq_nil_iff.2 fun d _ hmatch => ?_
      obtain ⟨k, hown, -⟩ := isMatch_iff_keyOf?.1 hmatch
      rw [hk] at hown
      exact Option.some_ne_none k hown.symm
    rw [hnone]
    rfl
  | some k =>
    rw [← getD_index hk related, Option.bind_some]
    cases hget : Keyed.get? k (j.index related) with
    | none => rfl
    | some found =>
      have hne : found ≠ [] := by
        rw [index_eq_partitionBy] at hget
        exact Stage.ne_nil_of_mem_partitionBy _ (Keyed.mem_of_get? hget)
      obtain ⟨d, rest, rfl⟩ := List.exists_cons_of_ne_nil hne
      rfl

/-- **The arrangement does what the nested loop does.** -/
theorem run_eq_nestedLoop (j : Join) (related records : List Json) :
    j.run related records = j.nestedLoop related records :=
  List.flatMap_congr fun record _ => j.expand_index related record

/-- A match is put below the id of the relation, and nothing else changes. -/
theorem isCopy_attach (j : Join) (record related : Json) : j.IsCopy record related (j.attach record related) where
  items := Document.getAt?_setAt_self _ _ _
  others _ hpath := Document.getAt?_setAt_of_part (Document.part_iff.2 hpath) _ _

end Join

/-- **Joining is a nested loop** over what the tenant holds, unless that cannot be reached: every record makes one
copy for each related document that matches, in the order of these, and stays as it is where none does. -/
theorem Stage.answer_join_eq_nestedLoop (j : Join) (records : List Json) (t : Tenant) :
    ((Stage.join j).run records).answer t = (if t.store.unavailable.contains j.collection then
        .error (.store "load related records" (.unavailable j.collection))
      else .ok (j.nestedLoop (t.store.documents j.collection) records))
    ∧ (∀ related, j.run related records = j.nestedLoop related records)
    ∧ ∀ record related, j.IsCopy record related (j.attach record related) :=
  ⟨j.run_eq_nestedLoop _ records ▸ answer_run_join j records t, fun related => j.run_eq_nestedLoop related records,
    j.isCopy_attach⟩

end Rollup
