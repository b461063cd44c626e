import Rollup.Proofs.Merging

/-!
# Splitting records over access groups

The same records may be given to access groups in many ways, and a caller who sees all of them should get the
same report each time. This module says when that is so. The values of keys and aggregates are read beside
the access groups, so records that differ in these only are merged like each other
(`GroupSpec.MergesOf.of_map`), and `GroupSpec.Plain.alike_iff_consistent` turns `GroupSpec.Plain.mergesOf`
into an equivalence: a split that tears a row apart exists as soon as the records are not consistent.
-/

namespace Rollup

open Materialization (grouping outputKey aggregation)
open Presentation (regrouping)

namespace Stage

/-- A record that is given to access groups. -/
def withOwners (groups : List String) (record : Json) : Json :=
  Document.set ownersPath (.ofStrings groups) record

/-- **A split of records over access groups**: each record is given to the groups at its place. -/
def splitOver (owners : List (List String)) (records : List Json) : List Json :=
  (owners.zip records).map fun (groups, record) => withOwners groups record

/-- A record that is given to access groups has them. -/
theorem get?_withOwners_self (groups : List String) (record : Json) :
    Document.get? ownersPath (withOwners groups record) = some (.ofStrings groups) :=
  Document.getAt?_setAt_self _ _ _

/-- A record that is given to access groups reads the same everywhere else. -/
theorem get?_withOwners_of_part {path : String}
    (h : Document.Part (Document.segments path) ["owners"]) (groups : List String) (record : Json) :
    Document.get? path (withOwners groups record) = Document.get? path record := by
  refine Document.getAt?_setAt_of_part ?_ _ _
  rw [show Document.segments ownersPath = ["owners"] from Document.segments_of_isName (by decide)]
  exact h

end Stage

namespace Key

/-- A path below a name parts from the access groups, where the name is another one. -/
theorem part_owners {name : String} (hname : Document.IsName name) (hne : name ≠ "owners")
    (rest : String) : Document.Part (Document.segments (name ++ "." ++ rest)) ["owners"] := by
  rw [Document.segments_append, Document.segments_of_isName hname]
  exact Or.inl hne

/-- The value of a key is read beside the access groups. -/
theorem part_sourcePath_owners {k : Key} (hname : Document.IsName k.fieldId)
    (hne : k.fieldId ≠ "owners") : Document.Part (Document.segments k.sourcePath) ["owners"] := by
  unfold sourcePath
  split
  · rename_i relation field _
    have hpath : "relations." ++ relation ++ "." ++ field ++ ".value"
        = "relations" ++ "." ++ (relation ++ "." ++ field ++ ".value") := by
      simp only [← String.append_assoc]
      rfl
    rw [hpath]
    exact part_owners (by decide) (by decide) _
  · split
    · have hpath : "items." ++ k.fieldId ++ ".value" = "items" ++ "." ++ (k.fieldId ++ ".value") := by
        rw [← String.append_assoc]
        rfl
      rw [hpath]
      exact part_owners (by decide) (by decide) _
    · rw [Document.segments_of_isName hname]
      exact Or.inl hne

/-- What is written of a key is read beside the access groups. -/
theorem part_source_owners {k : Key} (hname : Document.IsName k.fieldId)
    (hne : k.fieldId ≠ "owners") :
    Document.Part (Document.segments (outputKey k).source) ["owners"] := by
  unfold outputKey
  split
  · exact part_sourcePath_owners hname hne
  · exact part_outputPath (fun _ => hname) (by decide) (fun _ => hne) []

end Key

namespace GroupSpec

variable {spec : GroupSpec} {time : Instant}

/-- **Records that agree on everything that the grouping reads of them**, access groups left out. -/
structure Agree (spec : GroupSpec) (d e : Json) : Prop where
  /-- The values of keys. -/
  source : ∀ k ∈ spec.keys,
    Document.get? (outputKey k).source d = Document.get? (outputKey k).source e
  /-- The values of related fields. -/
  related : ∀ k ∈ spec.keys, Document.get? k.sourcePath d = Document.get? k.sourcePath e
  /-- The numbers of aggregates. -/
  aggregate : ∀ a ∈ spec.aggregates,
    Document.get? a.key.sourcePath d = Document.get? a.key.sourcePath e

/-- Records that agree have the same key values. -/
theorem Agree.tuple_eq {d e : Json} (h : spec.Agree d e) : spec.tuple d = spec.tuple e :=
  tuple_eq_iff.2 fun k hk => congrArg Document.canonical (h.source k hk)

/-- A record that is given to access groups agrees with what it was before. -/
theorem Plain.agree_withOwners (h : spec.Plain) (groups : List String) (record : Json) :
    spec.Agree (Stage.withOwners groups record) record where
  source _ hk := Stage.get?_withOwners_of_part (Key.part_source_owners (h.isName _ (key_mem hk))
    (h.ne_reserved (key_mem hk) (by decide))) groups record
  related _ hk := Stage.get?_withOwners_of_part (Key.part_sourcePath_owners
    (h.isName _ (key_mem hk)) (h.ne_reserved (key_mem hk) (by decide))) groups record
  aggregate _ ha := Stage.get?_withOwners_of_part (Key.part_sourcePath_owners
    (h.isName _ (aggregate_mem ha)) (h.ne_reserved (aggregate_mem ha) (by decide)))
    groups record

section Agreeing

variable {α : Type} {f g : α → Json} (hagree : ∀ x, spec.Agree (f x) (g x)) (xs : List α)
include hagree

/-- Records that agree are in the same tuples. -/
theorem sharing_map (t : String) :
    Stage.sharing spec.tuple t (xs.map f)
        = (xs.filter fun x => decide (spec.tuple (g x) = t)).map f ∧
      Stage.sharing spec.tuple t (xs.map g)
        = (xs.filter fun x => decide (spec.tuple (g x) = t)).map g := by
  unfold Stage.sharing
  rw [List.filter_map, List.filter_map]
  refine ⟨congrArg (List.map f) (List.filter_congr fun x _ => ?_), rfl⟩
  rw [Function.comp_apply, (hagree x).tuple_eq]

/-- **Rows that merge some records also merge records that agree with them.** -/
theorem MergesOf.of_map {rows : List Json} (h : spec.MergesOf (xs.map f) rows) :
    spec.MergesOf (xs.map g) rows where
  nodup := h.nodup
  mem_iff t := by
    rw [h.mem_iff, List.map_map, List.map_map]
    refine iff_of_eq (congrArg (t ∈ ·) (List.map_congr_left fun x _ => ?_))
    exact (hagree x).tuple_eq
  count row hrow := by
    rw [h.count row hrow, (sharing_map hagree xs _).1, (sharing_map hagree xs _).2, List.length_map,
      List.length_map]
  best row hrow a ha hr := by
    obtain ⟨m, hbest, hvalue⟩ := h.best row hrow a ha hr
    refine ⟨m, ?_, hvalue⟩
    rw [(sharing_map hagree xs _).1, Grouping.numbers, List.filterMap_map] at hbest
    rw [(sharing_map hagree xs _).2, Grouping.numbers, List.filterMap_map]
    refine hbest.congr fun x => iff_of_eq (congrArg (x ∈ ·) (List.filterMap_congr fun y _ => ?_))
    exact congrArg (Option.bind · Json.asFloat?) ((hagree y).aggregate a ha)

/-- Records that agree with consistent ones are consistent. -/
theorem Consistent.of_map (h : spec.Consistent (xs.map g)) : spec.Consistent (xs.map f) := by
  intro d hd e he htuple k hk hrelated
  obtain ⟨x, hx, rfl⟩ := List.mem_map.1 hd
  obtain ⟨y, hy, rfl⟩ := List.mem_map.1 he
  rw [(hagree x).related k hk, (hagree y).related k hk]
  rw [(hagree x).tuple_eq, (hagree y).tuple_eq] at htuple
  exact h _ (List.mem_map_of_mem hx) _ (List.mem_map_of_mem hy) htuple k hk hrelated

end Agreeing

/-! ## Reports that are alike -/

/-- **Reports of some records that are alike**: each has one row for each tuple of key values, and rows of
one tuple show the same number of records and the same largest and smallest numbers. -/
structure Alike (spec : GroupSpec) (records rows others : List Json) : Prop where
  /-- There are as many rows. -/
  length_eq : rows.length = others.length
  /-- One report has one row for each tuple. -/
  left : spec.OnePerTuple records rows
  /-- And so has the other. -/
  right : spec.OnePerTuple records others
  /-- Rows of one tuple show the same number of records. -/
  count : ∀ row ∈ rows, ∀ other ∈ others, spec.shownTuple row = spec.shownTuple other →
    Document.get? Stage.countPath row = Document.get? Stage.countPath other
  /-- And the same largest and smallest numbers. -/
  same : ∀ row ∈ rows, ∀ other ∈ others, spec.shownTuple row = spec.shownTuple other →
    ∀ a ∈ spec.aggregates, a.reduction.Chooses → ∃ v w,
      Document.get? (Stage.valuePath a.key.fieldId) row = some v ∧
      Document.get? (Stage.valuePath a.key.fieldId) other = some w ∧ v.same w = true

/-- **Rows that merge the same records are alike.** -/
theorem MergesOf.alike {records rows others : List Json} (h : spec.MergesOf records rows)
    (h' : spec.MergesOf records others) : spec.Alike records rows others where
  length_eq := by
    have hperm := (List.perm_ext_iff_of_nodup h.nodup h'.nodup).2 fun t =>
      (h.mem_iff t).trans (h'.mem_iff t).symm
    rw [← List.length_map spec.shownTuple, hperm.length_eq, List.length_map]
  left := h.toOnePerTuple
  right := h'.toOnePerTuple
  count row hrow other hother htuple := by
    rw [h.count row hrow, h'.count other hother, htuple]
  same row hrow other hother htuple a ha hr := by
    obtain ⟨m, hm, hv⟩ := h.best row hrow a ha hr
    obtain ⟨n, hn, hw⟩ := h'.best other hother a ha hr
    rw [htuple] at hm
    exact ⟨_, _, hv, hw, hm.same (fun x hx => isFinite_of_mem_filterMap hx) hn⟩

/-- **Consistent records are merged alike, however they are split.** -/
theorem Plain.mergesOf_splitOver (h : spec.Plain) {records : List Json}
    (hconsistent : spec.Consistent records) {owners : List (List String)}
    (hlength : owners.length = records.length) :
    spec.MergesOf records (spec.merged time (Stage.splitOver owners records)) := by
  have hagree : ∀ x : List String × Json, spec.Agree (Stage.withOwners x.1 x.2) x.2 :=
    fun x => h.agree_withOwners x.1 x.2
  have hrecords : (owners.zip records).map Prod.snd = records := List.map_snd_zip hlength.ge
  have hmerges := @Plain.mergesOf spec time h _
    (Consistent.of_map hagree (owners.zip records) (by rw [hrecords]; exact hconsistent))
  have hown := hmerges.of_map hagree (owners.zip records)
  rw [hrecords] at hown
  exact hown

/-- The access groups that tell apart the records that have a value from those that lack it. -/
def tellingGroups (k : Key) (record : Json) : List String :=
  if (Document.get? k.sourcePath record).isSome then ["a"] else ["b"]

/-- The access groups tell the records apart. -/
theorem isSome_iff_of_tellingGroups {k : Key} {d e : Json}
    (h : tellingGroups k d = tellingGroups k e) :
    (Document.get? k.sourcePath d).isSome ↔ (Document.get? k.sourcePath e).isSome := by
  unfold tellingGroups at h
  cases hd : (Document.get? k.sourcePath d).isSome <;>
    cases he : (Document.get? k.sourcePath e).isSome <;> simp [hd, he] at h ⊢

/-- **Records whose merged rows have one row for each tuple under every split are consistent.** -/
theorem Plain.consistent_of_onePerTuple (h : spec.Plain) {records : List Json}
    (hone : ∀ owners : List (List String), owners.length = records.length →
      spec.OnePerTuple records (spec.merged time (Stage.splitOver owners records))) :
    spec.Consistent records := by
  intro d hd e he htuple k hk hrelated
  have hsplit : Stage.splitOver (records.map (tellingGroups k)) records
      = records.map fun r => Stage.withOwners (tellingGroups k r) r := by
    unfold Stage.splitOver
    rw [← List.map_prod_right_eq_zip, List.map_map]
    rfl
  have hnodup := (hone (records.map (tellingGroups k)) (List.length_map _)).nodup
  rw [hsplit, merged, Regroup.run, List.map_map] at hnodup
  -- each of the two records is in a group of rows whose first record lacks the value exactly if it does
  have hgroup : ∀ r ∈ records, ∃ group ∈ Stage.partitionBy (regrouping spec).keyOf
      ((grouping spec time).run (records.map fun r => Stage.withOwners (tellingGroups k r) r)),
      spec.shownTuple ((regrouping spec).row group.2) = spec.tuple r ∧
      ∃ members : List Json, (regrouping spec).keyOf ((grouping spec time).row members) = group.1 ∧
        ((Document.get? k.sourcePath (members.headD .null)).isSome
          ↔ (Document.get? k.sourcePath r).isSome) := by
    intro r hr
    obtain ⟨group, hmem, hshown, members, hhead, hkey, hrow⟩ := @Plain.exists_group spec time h _ _
      (List.mem_map_of_mem (f := fun r => Stage.withOwners (tellingGroups k r) r) hr)
    refine ⟨group, hmem, hshown.trans (h.agree_withOwners _ r).tuple_eq, members, hrow, ?_⟩
    obtain ⟨x, -, hx⟩ := List.mem_map.1 hhead
    have howners := (keyOf_grouping_eq_iff.1 hkey).2
    rw [← hx, Stage.get?_withOwners_self, Stage.get?_withOwners_self,
      Document.canonical_ofStrings_inj] at howners
    rw [← hx, (h.agree_withOwners _ x).related k hk]
    exact isSome_iff_of_tellingGroups howners
  obtain ⟨group, hmem, hshown, members, hrow, hpresence⟩ := hgroup d hd
  obtain ⟨group', hmem', hshown', members', hrow', hpresence'⟩ := hgroup e he
  have hgroups : group = group' := List.inj_on_of_nodup_map hnodup hmem hmem'
    (hshown.trans (htuple.trans hshown'.symm))
  have hsame := (h.keyOf_regrouping_eq_iff.1 (hrow.trans (hgroups ▸ hrow'.symm))).2 k hk hrelated
  exact hpresence.symm.trans (hsame.trans hpresence')

/-- **Reports do not depend on how records are split over access groups exactly if the records are
consistent.** -/
theorem Plain.alike_iff_consistent (h : spec.Plain) (records : List Json) :
    (∀ owners others : List (List String), owners.length = records.length →
        others.length = records.length →
        spec.Alike records (spec.merged time (Stage.splitOver owners records))
          (spec.merged time (Stage.splitOver others records)))
      ↔ spec.Consistent records := by
  constructor
  · intro hall
    exact h.consistent_of_onePerTuple fun owners hlength => (hall owners owners hlength hlength).left
  · intro hconsistent owners others hlength hlength'
    exact (h.mergesOf_splitOver hconsistent hlength).alike
      (h.mergesOf_splitOver hconsistent hlength')

/-! ## Orders by the name of their customer -/

instance (spec : GroupSpec) (records : List Json) : Decidable (spec.Consistent records) :=
  inferInstanceAs (Decidable (∀ d ∈ records, ∀ e ∈ records, spec.tuple d = spec.tuple e →
    ∀ k ∈ spec.keys, k.isRelated = true →
      ((Document.get? k.sourcePath d).isSome ↔ (Document.get? k.sourcePath e).isSome)))

/-- Orders grouped by the name of their customer, which is kept in a related datastore. -/
def byCustomer : GroupSpec where
  keys := [.related "r1" "name" .text]
  aggregates := [⟨.dynamic "amount" .number, .max⟩]
  showCount := true

/-- An order of an amount, joined with what is known of the customer. -/
def order (itemId : String) (amount : Int64) (customer : Keyed Json) : Json :=
  .object [("item_id", .string itemId),
    ("items", .object [("amount", Stage.openCell .number (some (.ofSigned amount)))]),
    ("relations", .object customer)]

/-- A customer with a name, or with `null` in its place. -/
def customer (name : Json) : Keyed Json :=
  [("r1", .object [("name", Stage.openCell .text (some name))])]

/-- The fields of the grouping can be told apart. -/
theorem plain_byCustomer : byCustomer.Plain where
  isName := by decide
  nodup := by decide
  unreserved := by decide

/-- Orders of customers whose name is `null` are shown alike under two splits. -/
theorem alike_byCustomer : byCustomer.Plain ∧
    byCustomer.Alike [order "o1" 5 (customer .null), order "o2" 7 (customer .null)]
      (byCustomer.merged .epoch (Stage.splitOver [["g1"], ["g2"]]
        [order "o1" 5 (customer .null), order "o2" 7 (customer .null)]))
      (byCustomer.merged .epoch (Stage.splitOver [["g1"], ["g1"]]
        [order "o1" 5 (customer .null), order "o2" 7 (customer .null)])) :=
  ⟨plain_byCustomer, (plain_byCustomer.alike_iff_consistent _).2 (by decide +kernel) _ _ rfl rfl⟩

/-- **An order without a customer and one whose customer has the name `null`** make two rows of one tuple when
they are given to different access groups, and one row otherwise. -/
theorem not_alike_byCustomer : (ReportMode.group byCustomer).fault? = none ∧ byCustomer.Plain ∧
    ¬ byCustomer.Alike [order "o1" 5 (customer .null), order "o2" 7 []]
      (byCustomer.merged .epoch (Stage.splitOver [["g1"], ["g2"]]
        [order "o1" 5 (customer .null), order "o2" 7 []]))
      (byCustomer.merged .epoch (Stage.splitOver [["g1"], ["g1"]]
        [order "o1" 5 (customer .null), order "o2" 7 []])) :=
  ⟨by decide, plain_byCustomer, fun h => absurd h.length_eq (by decide +kernel)⟩

end GroupSpec

end Rollup
