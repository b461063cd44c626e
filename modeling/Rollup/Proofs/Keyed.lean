import Mathlib.Data.String.Basic
import Rollup.Keyed

/-!
# Maps in key order

`Keyed.get?` reads the first pair of a key, so a list of pairs may hold more than it shows. The maps that
the library builds do not: their keys increase strictly, and then what can be read of a map is all there
is to it (`Keyed.ext_of_sorted`). Statements about maps built in different orders are proved by reading
both.
-/

namespace Rollup

namespace Keyed

variable {α β : Type}

/-- **The keys increase strictly.** -/
def Sorted (m : Keyed α) : Prop := m.Pairwise fun a b => a.1 < b.1

/-- The empty map is sorted. -/
theorem sorted_nil : Sorted ([] : Keyed α) := List.Pairwise.nil

/-- A key that is stored after insertion is the inserted one or was there before. -/
theorem mem_insert {key : String} {value : α} {m : Keyed α} {pair : String × α}
    (h : pair ∈ insert key value m) : pair = (key, value) ∨ pair ∈ m := by
  induction m with
  | nil => exact Or.inl (List.mem_singleton.1 h)
  | cons first rest ih =>
    obtain ⟨k, v⟩ := first
    simp only [insert] at h
    split at h
    · rcases List.mem_cons.1 h with h | h
      · exact Or.inl h
      · exact Or.inr (List.mem_cons_of_mem _ h)
    · split at h
      · rcases List.mem_cons.1 h with h | h
        · exact Or.inl h
        · exact Or.inr h
      · rcases List.mem_cons.1 h with h | h
        · exact Or.inr (h ▸ List.mem_cons_self)
        · exact (ih h).imp_right (List.mem_cons_of_mem _)

/-- **Insertion keeps the order.** -/
theorem Sorted.insert {m : Keyed α} (h : Sorted m) (key : String) (value : α) :
    Sorted (Keyed.insert key value m) := by
  induction m with
  | nil => exact List.pairwise_singleton _ _
  | cons first rest ih =>
    obtain ⟨k, v⟩ := first
    have hrest := List.pairwise_cons.1 h
    simp only [Keyed.insert]
    split
    · rename_i heq
      exact List.pairwise_cons.2 ⟨fun p hp => heq ▸ hrest.1 p hp, hrest.2⟩
    · split
      · rename_i hlt
        refine List.pairwise_cons.2 ⟨fun p hp => ?_, h⟩
        rcases List.mem_cons.1 hp with rfl | hp
        · exact hlt
        · exact lt_trans hlt (hrest.1 p hp)
      · rename_i hne hlt
        refine List.pairwise_cons.2 ⟨fun p hp => ?_, ih hrest.2⟩
        rcases mem_insert hp with rfl | hp
        · exact lt_of_le_of_ne (not_lt.1 hlt) (Ne.symm hne)
        · exact hrest.1 p hp

/-- Dropping pairs keeps the order. -/
theorem Sorted.filter {m : Keyed α} (h : Sorted m) (p : String × α → Bool) :
    Sorted (m.filter p) := List.Pairwise.filter p h

/-- A map built of pairs is sorted. -/
theorem sorted_ofPairs (pairs : List (String × α)) : Sorted (ofPairs pairs) := by
  suffices h : ∀ m : Keyed α, Sorted m →
      Sorted (pairs.foldl (fun m pair => insert pair.1 pair.2 m) m) from h [] sorted_nil
  induction pairs with
  | nil => exact fun m h => h
  | cons pair rest ih => exact fun m h => ih _ (h.insert _ _)

/-- What is read is stored. -/
theorem mem_of_get? {key : String} {value : α} {m : Keyed α} (h : get? key m = some value) :
    (key, value) ∈ m := by
  induction m with
  | nil => simp [get?] at h
  | cons first rest ih =>
    obtain ⟨k, v⟩ := first
    by_cases hk : k = key
    · rw [get?, if_pos hk, Option.some.injEq] at h
      rw [hk, h]
      exact List.mem_cons_self
    · rw [get?, if_neg hk] at h
      exact List.mem_cons_of_mem _ (ih h)

/-- Nothing is read of a key below all others. -/
theorem get?_eq_none_of_lt {key : String} {m : Keyed α} (h : ∀ pair ∈ m, key < pair.1) :
    get? key m = none := by
  cases hg : get? key m with
  | none => rfl
  | some v => exact absurd (h _ (mem_of_get? hg)) (lt_irrefl key)

/-- **In a sorted map all that is stored is read.** -/
theorem get?_eq_some_iff {m : Keyed α} (hm : Sorted m) {key : String} {value : α} :
    get? key m = some value ↔ (key, value) ∈ m := by
  refine ⟨mem_of_get?, fun h => ?_⟩
  induction m with
  | nil => simp at h
  | cons first rest ih =>
    obtain ⟨k, v⟩ := first
    have hrest := List.pairwise_cons.1 hm
    rcases List.mem_cons.1 h with h | h
    · rw [Prod.mk.injEq] at h
      rw [get?, if_pos h.1.symm, h.2]
    · rw [get?, if_neg (ne_of_lt (hrest.1 _ h)), ih hrest.2 h]

/-- **Sorted maps that read alike are the same.** -/
theorem ext_of_sorted {m n : Keyed α} (hm : Sorted m) (hn : Sorted n)
    (h : ∀ key, get? key m = get? key n) : m = n := by
  have asymm : ∀ a b : String × α, a ∈ m → b ∈ n → a.1 < b.1 → b.1 < a.1 → a = b :=
    fun a b _ _ hab hba => absurd (lt_trans hab hba) (lt_irrefl _)
  have nodup : ∀ {l : Keyed α}, Sorted l → l.Nodup := fun hl =>
    hl.imp fun hab he => absurd (he ▸ hab) (lt_irrefl _)
  refine List.Perm.eq_of_pairwise asymm hm hn ?_
  refine (List.perm_ext_iff_of_nodup (nodup hm) (nodup hn)).2 fun pair => ?_
  rw [← get?_eq_some_iff hm, ← get?_eq_some_iff hn, h]

/-- The keys of a sorted map are distinct. -/
theorem Sorted.nodup_keys {m : Keyed α} (h : Sorted m) : (m.map Prod.fst).Nodup :=
  List.pairwise_map.2 (h.imp fun hab => ne_of_lt hab)

/-! ### Writing one pair -/

/-- **A new pair is one more pair**, wherever it is put. -/
theorem insert_perm {key : String} {m : Keyed α} (h : get? key m = none) (value : α) :
    (insert key value m).Perm ((key, value) :: m) := by
  induction m with
  | nil => exact .refl _
  | cons first rest ih =>
    obtain ⟨k, v⟩ := first
    by_cases hk : k = key
    · simp [get?, hk] at h
    · rw [get?, if_neg hk] at h
      rw [insert, if_neg (Ne.symm hk)]
      split
      · exact .refl _
      · exact ((ih h).cons _).trans (.swap _ _ _)

/-- Writing what is there already changes nothing. -/
theorem insert_of_get? {key : String} {value : α} {m : Keyed α} (hm : Sorted m) (h : get? key m = some value) :
    insert key value m = m := by
  refine ext_of_sorted (hm.insert _ _) hm fun other => ?_
  by_cases hother : other = key
  · rw [hother, get?_insert_self, h]
  · exact get?_insert_of_ne hother _ _

/-- A change is not seen where it is not looked for. -/
theorem map_modify {f : α → β} {change : α → α} (hf : ∀ v, f (change v) = f v) (key : String) (m : Keyed α) :
    (modify key change m).map (fun p => (p.1, f p.2)) = m.map fun p => (p.1, f p.2) := by
  induction m with
  | nil => rfl
  | cons first rest ih =>
    obtain ⟨k, v⟩ := first
    rw [modify]
    split
    · simp [hf]
    · rw [List.map_cons, List.map_cons, ih]

/-- Something is stored under the keys of a map, and under no other key. -/
theorem contains_iff_mem_keys {key : String} {m : Keyed α} : contains key m = true ↔ key ∈ keys m := by
  induction m with
  | nil => simp [contains, get?, keys]
  | cons first rest ih =>
    obtain ⟨k, v⟩ := first
    by_cases hk : k = key
    · simp [contains, get?, keys, hk]
    · have hcons : contains key ((k, v) :: rest) = contains key rest := by rw [contains, get?, if_neg hk, contains]
      rw [hcons, ih]
      simp [keys, Ne.symm hk]

/-- Writes of two keys may change places, the lower key being one of them. -/
theorem insert_comm_of_lt {key other : String} (h : key < other) (value value' : α) (m : Keyed α) :
    insert key value (insert other value' m) = insert other value' (insert key value m) := by
  have hne := ne_of_lt h
  induction m with
  | nil => simp [insert, hne, hne.symm, h, lt_asymm h]
  | cons first rest ih =>
    obtain ⟨k, v⟩ := first
    rcases lt_trichotomy key k with hlt | rfl | hgt
    · -- the lower key stands before all others, wherever the higher one is put
      rcases lt_trichotomy other k with hlt' | rfl | hgt'
      · simp [insert, hne, hne.symm, h, lt_asymm h, ne_of_lt hlt, hlt, ne_of_lt hlt', hlt']
      · simp [insert, hne, hne.symm, h, lt_asymm h]
      · simp [insert, hne.symm, lt_asymm h, ne_of_lt hlt, hlt, ne_of_gt hgt', lt_asymm hgt']
    · simp [insert, hne.symm, lt_asymm h]
    · have hgt' := lt_trans hgt h
      simp [insert, ne_of_gt hgt, lt_asymm hgt, ne_of_gt hgt', lt_asymm hgt', ih]

/-- **Writes of different keys** may change places. -/
theorem insert_comm {key other : String} (h : key ≠ other) (value value' : α) (m : Keyed α) :
    insert key value (insert other value' m) = insert other value' (insert key value m) := by
  rcases lt_or_gt_of_ne h with hlt | hgt
  · exact insert_comm_of_lt hlt value value' m
  · exact (insert_comm_of_lt hgt value' value m).symm

/-! ### Writing many pairs -/

/-- A pair of a map over which others were written is one of them or was there before. -/
theorem mem_foldl_insert {pairs : List (String × α)} {m : Keyed α} {pair : String × α}
    (h : pair ∈ pairs.foldl (fun m pair => insert pair.1 pair.2 m) m) : pair ∈ pairs ∨ pair ∈ m := by
  induction pairs generalizing m with
  | nil => exact .inr h
  | cons first rest ih =>
    rcases ih h with hrest | hm
    · exact .inl (List.mem_cons_of_mem _ hrest)
    · rcases mem_insert hm with rfl | hm
      · exact .inl List.mem_cons_self
      · exact .inr hm

/-- Writing other keys does not change the reading of a key. -/
theorem get?_foldl_insert_of_not_mem {key : String} {pairs : List (String × α)}
    (h : key ∉ pairs.map Prod.fst) (m : Keyed α) :
    get? key (pairs.foldl (fun m pair => insert pair.1 pair.2 m) m) = get? key m := by
  induction pairs generalizing m with
  | nil => rfl
  | cons first rest ih =>
    obtain ⟨hfirst, hrest⟩ := not_or.1 (mt List.mem_cons.2 h)
    exact (ih hrest _).trans (get?_insert_of_ne hfirst _ _)

/-- **Of pairs with different keys each is read** where they were written. -/
theorem get?_foldl_insert_of_mem {pairs : List (String × α)} (hkeys : (pairs.map Prod.fst).Nodup)
    {key : String} {value : α} (h : (key, value) ∈ pairs) (m : Keyed α) :
    get? key (pairs.foldl (fun m pair => insert pair.1 pair.2 m) m) = some value := by
  induction pairs generalizing m with
  | nil => exact absurd h List.not_mem_nil
  | cons first rest ih =>
    obtain ⟨hfirst, hrest⟩ := List.nodup_cons.1 hkeys
    rcases List.mem_cons.1 h with rfl | hmem
    · exact (get?_foldl_insert_of_not_mem hfirst _).trans (get?_insert_self _ _ _)
    · exact ih hrest hmem _

/-- **Of the pairs with one key the last one is read.** -/
theorem get?_ofPairs_append_cons (earlier : List (String × α)) {later : List (String × α)} {key : String} (value : α)
    (h : key ∉ later.map Prod.fst) : get? key (ofPairs (earlier ++ (key, value) :: later)) = some value := by
  unfold ofPairs
  rw [List.foldl_append, List.foldl_cons, get?_foldl_insert_of_not_mem h, get?_insert_self]

/-- Pairs with different keys are the pairs of the map that is built of them. -/
theorem mem_ofPairs_iff {pairs : List (String × α)} (hkeys : (pairs.map Prod.fst).Nodup)
    {pair : String × α} : pair ∈ ofPairs pairs ↔ pair ∈ pairs :=
  ⟨fun h => (mem_foldl_insert h).resolve_right List.not_mem_nil,
    fun h => mem_of_get? (get?_foldl_insert_of_mem hkeys h [])⟩

/-- **A map shows all pairs that it is built of** exactly if no key is used twice. -/
theorem ofPairs_perm_iff {pairs : List (String × α)} :
    (ofPairs pairs).Perm pairs ↔ (pairs.map Prod.fst).Nodup := by
  constructor
  · intro h
    exact (h.map Prod.fst).nodup_iff.1 (sorted_ofPairs pairs).nodup_keys
  · intro hkeys
    have hnodup : ∀ {l : List (String × α)}, (l.map Prod.fst).Nodup → l.Nodup := fun h =>
      List.Pairwise.of_map Prod.fst (fun _ _ hne he => hne (congrArg Prod.fst he)) h
    exact (List.perm_ext_iff_of_nodup (hnodup (sorted_ofPairs pairs).nodup_keys) (hnodup hkeys)).2
      fun pair => mem_ofPairs_iff hkeys

end Keyed

end Rollup
