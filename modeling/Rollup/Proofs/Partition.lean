import Rollup.Proofs.Keyed
import Rollup.Stage.Basic

/-!
# What arranging by a key gives

Grouping, merging and joining all arrange documents by a text. Whatever the text, the arrangement is the
map that has, under each text that occurs, exactly the documents with this text, in the order in which they
were given (`Stage.mem_partitionBy`). So it is known by what it holds, and arranging commutes with leaving
out whole groups.
-/

namespace Rollup

namespace Stage

variable (key : Json → String)

/-- The documents with one text. -/
def sharing (k : String) (documents : List Json) : List Json :=
  documents.filter fun d => decide (key d = k)

/-- An arrangement is in the order of the texts. -/
theorem sorted_partitionBy (documents : List Json) : Keyed.Sorted (partitionBy key documents) := by
  induction documents with
  | nil => exact Keyed.sorted_nil
  | cons d rest ih => exact ih.insert _ _

/-- **Under a text stand the documents that have it.** -/
theorem getD_partitionBy (k : String) (documents : List Json) :
    (Keyed.get? k (partitionBy key documents)).getD [] = sharing key k documents := by
  induction documents with
  | nil => rfl
  | cons d rest ih =>
    show (Keyed.get? k (Keyed.insert (key d)
      (d :: (Keyed.get? (key d) (partitionBy key rest)).getD []) (partitionBy key rest))).getD [] = _
    by_cases h : key d = k
    · subst h
      rw [Keyed.get?_insert_self, Option.getD_some, ih]
      exact (List.filter_cons_of_pos (by simp)).symm
    · rw [Keyed.get?_insert_of_ne (Ne.symm h), ih]
      exact (List.filter_cons_of_neg (by simpa using h)).symm

/-- No group is empty. -/
theorem ne_nil_of_mem_partitionBy {documents : List Json} {group : String × List Json}
    (h : group ∈ partitionBy key documents) : group.2 ≠ [] := by
  induction documents with
  | nil => simp [partitionBy] at h
  | cons d rest ih =>
    rcases Keyed.mem_insert h with rfl | h
    · exact List.cons_ne_nil _ _
    · exact ih h

/-- **The groups of an arrangement**: the documents that share a text, for each text that occurs. -/
theorem mem_partitionBy {documents : List Json} {group : String × List Json} :
    group ∈ partitionBy key documents
      ↔ group.2 = sharing key group.1 documents ∧ group.2 ≠ [] := by
  obtain ⟨k, members⟩ := group
  rw [← getD_partitionBy]
  constructor
  · intro h
    have hget := (Keyed.get?_eq_some_iff (sorted_partitionBy key documents)).2 h
    exact ⟨by rw [hget]; rfl, ne_nil_of_mem_partitionBy key h⟩
  · rintro ⟨hmembers, hne⟩
    refine Keyed.mem_of_get? ?_
    show Keyed.get? k (partitionBy key documents) = some members
    cases hget : Keyed.get? k (partitionBy key documents) with
    | some stored => rw [show members = stored by rw [hget] at hmembers; exact hmembers]
    | none => exact absurd (by rw [hget] at hmembers; exact hmembers) hne

/-- Members of a group are documents with its text. -/
theorem mem_sharing {k : String} {documents : List Json} {d : Json} :
    d ∈ sharing key k documents ↔ d ∈ documents ∧ key d = k := by
  rw [sharing, List.mem_filter, decide_eq_true_eq]

/-- Every document is in the group of its text. -/
theorem sharing_mem_partitionBy {documents : List Json} {d : Json} (h : d ∈ documents) :
    (key d, sharing key (key d) documents) ∈ partitionBy key documents :=
  (mem_partitionBy key).2 ⟨rfl, List.ne_nil_of_mem ((mem_sharing key).2 ⟨h, rfl⟩)⟩

/-- The first document of a group is one of the documents and has its text. -/
theorem head_of_mem_partitionBy {documents : List Json} {group : String × List Json}
    (h : group ∈ partitionBy key documents) :
    group.2.headD .null ∈ documents ∧ key (group.2.headD .null) = group.1 := by
  obtain ⟨hmembers, hne⟩ := (mem_partitionBy key).1 h
  obtain ⟨d, rest, hcons⟩ := List.exists_cons_of_ne_nil hne
  have hd : d ∈ sharing key group.1 documents := hmembers ▸ hcons ▸ List.mem_cons_self
  rw [hcons]
  exact (mem_sharing key).1 hd

/-- Putting a document first in the group of its key adds it to what there is. -/
theorem perm_insert {groups : Keyed (List Json)} (hgroups : Keyed.Sorted groups) (k : String)
    (d : Json) :
    ((Keyed.insert k (d :: (Keyed.get? k groups).getD []) groups).flatMap Prod.snd).Perm
      (d :: groups.flatMap Prod.snd) := by
  induction groups with
  | nil => exact List.Perm.refl _
  | cons first rest ih =>
    obtain ⟨l, members⟩ := first
    have hrest := List.pairwise_cons.1 hgroups
    by_cases heq : k = l
    · subst heq
      rw [Keyed.insert, if_pos rfl, Keyed.get?, if_pos rfl]
      exact List.Perm.refl _
    · by_cases hlt : k < l
      · have hnone : Keyed.get? k ((l, members) :: rest) = none := by
          refine Keyed.get?_eq_none_of_lt fun pair hpair => ?_
          rcases List.mem_cons.1 hpair with rfl | hpair
          · exact hlt
          · exact lt_trans hlt (hrest.1 pair hpair)
        rw [Keyed.insert, if_neg heq, if_pos hlt, hnone]
        exact List.Perm.refl _
      · rw [Keyed.insert, if_neg heq, if_neg hlt, Keyed.get?, if_neg (Ne.symm heq),
          List.flatMap_cons, List.flatMap_cons]
        exact ((ih hrest.2).append_left members).trans List.perm_middle

/-- **Arranging neither loses nor adds documents.** -/
theorem perm_partitionBy (documents : List Json) :
    ((partitionBy key documents).flatMap Prod.snd).Perm documents := by
  induction documents with
  | nil => exact List.Perm.refl _
  | cons d rest ih =>
    exact (perm_insert (sorted_partitionBy key rest) (key d) d).trans (ih.cons d)

/-- **One row for each group** of some documents, each of which shows the text of its group. -/
structure RowPerGroup (key shown : Json → String) (tells : List Json → Json → Prop)
    (documents rows : List Json) : Prop where
  /-- Rows are in the order of the texts that they show, and none is shown twice. -/
  increasing : (rows.map shown).Pairwise (· < ·)
  /-- The texts that are shown are those of the documents. -/
  mem_iff : ∀ k, k ∈ rows.map shown ↔ k ∈ documents.map key
  /-- Every document belongs to one row. -/
  perm : (rows.flatMap fun row => sharing key (shown row) documents).Perm documents
  /-- A row tells something of the documents that belong to it. -/
  tells : ∀ row ∈ rows, tells (sharing key (shown row) documents) row

/-- **Rows that are made group by group**, each showing the text of its group and telling something of it. -/
theorem RowPerGroup.of_partitionBy {shown : Json → String} {tells : List Json → Json → Prop}
    {row : List Json → Json} {documents : List Json}
    (hshown : ∀ group ∈ partitionBy key documents, shown (row group.2) = group.1)
    (htells : ∀ group ∈ partitionBy key documents, tells group.2 (row group.2)) :
    RowPerGroup key shown tells documents ((partitionBy key documents).map fun group => row group.2) := by
  have hmembers : ∀ group ∈ partitionBy key documents,
      sharing key (shown (row group.2)) documents = group.2 := by
    intro group hgroup
    rw [hshown group hgroup]
    exact ((mem_partitionBy key).1 hgroup).1.symm
  have htexts : ((partitionBy key documents).map fun group => row group.2).map shown
      = (partitionBy key documents).map Prod.fst := by
    rw [List.map_map]
    exact List.map_congr_left hshown
  refine ⟨?_, fun k => ?_, ?_, fun made hmade => ?_⟩
  · rw [htexts]
    exact List.pairwise_map.2 (sorted_partitionBy key documents)
  · rw [htexts]
    constructor
    · intro hk
      obtain ⟨group, hgroup, rfl⟩ := List.mem_map.1 hk
      obtain ⟨hd, hkey⟩ := head_of_mem_partitionBy key hgroup
      exact List.mem_map.2 ⟨_, hd, hkey⟩
    · intro hk
      obtain ⟨d, hd, rfl⟩ := List.mem_map.1 hk
      exact List.mem_map.2 ⟨_, sharing_mem_partitionBy key hd, rfl⟩
  · rw [List.flatMap_map, List.flatMap_congr hmembers]
    exact perm_partitionBy key documents
  · obtain ⟨group, hgroup, rfl⟩ := List.mem_map.1 hmade
    rw [hmembers group hgroup]
    exact htells group hgroup

/-- **Arranging changed documents** is arranging them by what they become, and changing them in their groups. -/
theorem partitionBy_map (f : Json → Json) (documents : List Json) :
    partitionBy key (documents.map f)
      = (partitionBy (fun d => key (f d)) documents).map fun group => (group.1, group.2.map f) := by
  have hsharing : ∀ k, sharing key k (documents.map f) = (sharing (fun d => key (f d)) k documents).map f :=
    fun k => List.filter_map
  have hsorted : Keyed.Sorted ((partitionBy (fun d => key (f d)) documents).map fun group => (group.1, group.2.map f)) :=
    List.pairwise_map.2 (sorted_partitionBy _ documents)
  refine Keyed.ext_of_sorted (sorted_partitionBy key _) hsorted fun k => Option.ext fun members => ?_
  rw [Keyed.get?_eq_some_iff (sorted_partitionBy key _), Keyed.get?_eq_some_iff hsorted, mem_partitionBy, hsharing,
    List.mem_map]
  constructor
  · rintro ⟨hmembers, hne⟩
    have hpart : sharing (fun d => key (f d)) k documents ≠ [] := by
      intro hnil
      rw [hnil] at hmembers
      exact hne hmembers
    exact ⟨(k, _), (mem_partitionBy _).2 ⟨rfl, hpart⟩, congrArg (Prod.mk k) hmembers.symm⟩
  · rintro ⟨group, hgroup, hsame⟩
    obtain ⟨rfl, rfl⟩ := Prod.mk.inj hsame
    obtain ⟨hmembers, hne⟩ := (mem_partitionBy _).1 hgroup
    exact ⟨congrArg (List.map f) hmembers, fun hnil => hne (List.map_eq_nil_iff.1 hnil)⟩

/-- A choice that is the same for all documents of a group is that of the first one. -/
theorem eq_head_of_mem_partitionBy {p : Json → Bool} {documents : List Json}
    (hp : ∀ d ∈ documents, ∀ e ∈ documents, key d = key e → p d = p e) {group : String × List Json}
    (hg : group ∈ partitionBy key documents) : ∀ d ∈ group.2, p d = p (group.2.headD .null) := by
  intro d hd
  obtain ⟨hhead, hkey⟩ := head_of_mem_partitionBy key hg
  rw [((mem_partitionBy key).1 hg).1, mem_sharing] at hd
  exact hp d hd.1 _ hhead (hd.2.trans hkey.symm)

/-- The groups of what is left are the groups of which the first document is. -/
theorem mem_partitionBy_filter {p : Json → Bool} {documents : List Json}
    (hp : ∀ d ∈ documents, ∀ e ∈ documents, key d = key e → p d = p e) {group : String × List Json} :
    group ∈ partitionBy key (documents.filter p)
      ↔ group ∈ partitionBy key documents ∧ p (group.2.headD .null) = true := by
  obtain ⟨k, members⟩ := group
  have hsub : sharing key k (documents.filter p) = (sharing key k documents).filter p := List.filter_comm _ _ _
  rw [mem_partitionBy, hsub]
  constructor
  · rintro ⟨hmembers, hne⟩
    have hfull : (k, sharing key k documents) ∈ partitionBy key documents := by
      refine (mem_partitionBy key).2 ⟨rfl, fun hnil => hne ?_⟩
      rw [hmembers, show sharing key k documents = [] from hnil, List.filter_nil]
    have hwhole := eq_head_of_mem_partitionBy key hp hfull
    obtain ⟨d, hd⟩ := List.exists_mem_of_ne_nil _ hne
    rw [hmembers, List.mem_filter] at hd
    have hhead : p ((sharing key k documents).headD .null) = true := (hwhole d hd.1).symm.trans hd.2
    have hall : (sharing key k documents).filter p = sharing key k documents :=
      List.filter_eq_self.2 fun e he => (hwhole e he).trans hhead
    show (k, members) ∈ _ ∧ p (members.headD .null) = true
    rw [show members = sharing key k documents from hmembers.trans hall]
    exact ⟨hfull, hhead⟩
  · rintro ⟨hmem, hhead⟩
    obtain ⟨hmembers, hne⟩ := (mem_partitionBy key).1 hmem
    refine ⟨?_, hne⟩
    rw [← hmembers]
    exact (List.filter_eq_self.2 fun d hd => (eq_head_of_mem_partitionBy key hp hmem d hd).trans hhead).symm

/-- **Leaving out whole groups**: arranging what is left is leaving out of the arrangement, when the
choice is the same for all documents of a group. -/
theorem partitionBy_filter {p : Json → Bool} {documents : List Json}
    (hp : ∀ d ∈ documents, ∀ e ∈ documents, key d = key e → p d = p e) :
    partitionBy key (documents.filter p)
      = (partitionBy key documents).filter fun group => p (group.2.headD .null) := by
  have hsorted := (sorted_partitionBy key documents).filter fun group => p (group.2.headD .null)
  refine Keyed.ext_of_sorted (sorted_partitionBy key _) hsorted fun k => Option.ext fun members => ?_
  rw [Keyed.get?_eq_some_iff (sorted_partitionBy key _), Keyed.get?_eq_some_iff hsorted, List.mem_filter]
  exact mem_partitionBy_filter key hp

end Stage

end Rollup
