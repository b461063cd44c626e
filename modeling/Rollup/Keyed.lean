/-!
# Lists kept in key order

Documents, label tables and the store itself are maps from texts to something, and every answer
shows them in the order of their keys. A map is the list of its pairs in that order: `insert` puts a
new pair where it belongs and overwrites an old one, `erase` drops it, `get?` reads it.

The laws at the end hold for every list of pairs, ordered or not: reading what was just written gives
it back, and writing or erasing one key leaves the readings of all others alone.
-/

namespace Rollup

/-- **A map with text keys**, as its pairs in key order. -/
abbrev Keyed (α : Type) : Type := List (String × α)

namespace Keyed

variable {α : Type}

/-- What is stored under a key. -/
def get? (key : String) : Keyed α → Option α
  | [] => none
  | (k, v) :: rest => if k = key then some v else get? key rest

/-- Stores a value under a key, over what was there. -/
def insert (key : String) (value : α) : Keyed α → Keyed α
  | [] => [(key, value)]
  | (k, v) :: rest =>
    if key = k then (key, value) :: rest
    else if key < k then (key, value) :: (k, v) :: rest
    else (k, v) :: insert key value rest

/-- Changes what is stored under a key; nothing happens where nothing is stored. -/
def modify (key : String) (change : α → α) : Keyed α → Keyed α
  | [] => []
  | (k, v) :: rest => if k = key then (k, change v) :: rest else (k, v) :: modify key change rest

/-- Drops a key. -/
def erase (key : String) (m : Keyed α) : Keyed α :=
  m.filter fun pair => decide (pair.1 ≠ key)

/-- Whether something is stored under a key. -/
def contains (key : String) (m : Keyed α) : Bool :=
  (get? key m).isSome

/-- The keys in order. -/
def keys (m : Keyed α) : List String :=
  m.map Prod.fst

/-- **The map of a list of pairs**, a later pair winning over an earlier one with the same key. -/
def ofPairs (pairs : List (String × α)) : Keyed α :=
  pairs.foldl (fun m pair => insert pair.1 pair.2 m) []

/-- Reading the key just written gives what was written. -/
@[simp] theorem get?_insert_self (key : String) (value : α) (m : Keyed α) :
    get? key (insert key value m) = some value := by
  induction m with
  | nil => simp [insert, get?]
  | cons pair rest ih =>
    obtain ⟨k, v⟩ := pair
    simp only [insert]
    split
    · simp [get?]
    · split
      · simp [get?]
      · rename_i h _
        simp [get?, Ne.symm h, ih]

/-- Writing one key does not change the reading of another. -/
theorem get?_insert_of_ne {key other : String} (h : other ≠ key) (value : α) (m : Keyed α) :
    get? other (insert key value m) = get? other m := by
  induction m with
  | nil => simp [insert, get?, Ne.symm h]
  | cons pair rest ih =>
    obtain ⟨k, v⟩ := pair
    simp only [insert]
    split
    · rename_i hk
      subst hk
      simp [get?, Ne.symm h]
    · split
      · simp [get?, Ne.symm h]
      · simp [get?, ih]

/-- Of two writes of one key the second remains. -/
@[simp] theorem insert_insert (key : String) (v w : α) (m : Keyed α) :
    insert key w (insert key v m) = insert key w m := by
  induction m with
  | nil => simp [insert]
  | cons pair rest ih =>
    obtain ⟨k, u⟩ := pair
    by_cases hk : key = k
    · simp [insert, hk]
    · by_cases hlt : key < k
      · simp [insert, hk, hlt]
      · simp [insert, hk, hlt, ih]

/-- After a change the key has the changed value. -/
@[simp] theorem get?_modify_self (key : String) (change : α → α) (m : Keyed α) :
    get? key (modify key change m) = (get? key m).map change := by
  induction m with
  | nil => rfl
  | cons pair rest ih =>
    obtain ⟨k, v⟩ := pair
    by_cases h : k = key <;> simp [modify, get?, h, ih]

/-- Changing one key does not change the reading of another. -/
theorem get?_modify_of_ne {key other : String} (h : other ≠ key) (change : α → α) (m : Keyed α) :
    get? other (modify key change m) = get? other m := by
  induction m with
  | nil => rfl
  | cons pair rest ih =>
    obtain ⟨k, v⟩ := pair
    by_cases hk : k = key
    · subst hk
      simp [modify, get?, Ne.symm h]
    · simp [modify, hk, get?, ih]

/-- Putting what is stored under a key there again changes nothing. -/
theorem modify_of_get?_eq_some {key : String} {value : α} {m : Keyed α} (h : get? key m = some value) :
    modify key (fun _ => value) m = m := by
  induction m with
  | nil => rfl
  | cons pair rest ih =>
    obtain ⟨k, v⟩ := pair
    by_cases hk : k = key
    · simpa [get?, modify, hk] using h.symm
    · simpa [modify, hk] using ih (by simpa [get?, hk] using h)

/-- Nothing is left under an erased key. -/
@[simp] theorem get?_erase_self (key : String) (m : Keyed α) : get? key (erase key m) = none := by
  induction m with
  | nil => rfl
  | cons pair rest ih =>
    obtain ⟨k, v⟩ := pair
    by_cases h : k = key
    · simpa [erase, h] using ih
    · simpa [erase, h, get?] using ih

/-- Erasing one key does not change the reading of another. -/
theorem get?_erase_of_ne {key other : String} (h : other ≠ key) (m : Keyed α) :
    get? other (erase key m) = get? other m := by
  induction m with
  | nil => rfl
  | cons pair rest ih =>
    obtain ⟨k, v⟩ := pair
    by_cases hk : k = key
    · subst hk
      simpa [erase, get?, Ne.symm h] using ih
    · have : erase key ((k, v) :: rest) = (k, v) :: erase key rest :=
        List.filter_cons_of_pos (by simpa using hk)
      rw [this]
      simp only [get?, ih]

/-- Erasing a key that is not there changes nothing. -/
theorem erase_of_get?_eq_none {key : String} {m : Keyed α} (h : get? key m = none) :
    erase key m = m := by
  induction m with
  | nil => rfl
  | cons pair rest ih =>
    obtain ⟨k, v⟩ := pair
    by_cases hk : k = key
    · simp [get?, hk] at h
    · have : erase key ((k, v) :: rest) = (k, v) :: erase key rest :=
        List.filter_cons_of_pos (by simpa using hk)
      rw [this, ih (by simpa [get?, hk] using h)]

end Keyed

end Rollup
