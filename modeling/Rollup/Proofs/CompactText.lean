import Rollup.Json.Reader
import Rollup.Proofs.Numeral

/-!
# Compact text determines the value

No value is written as the beginning of another one, as long as something follows that cannot continue a
number: a comma, a closing bracket or brace, or nothing. Inside a list or an object one of these always
follows, so a text is taken apart in one way only, from left to right, and two values with the same compact
text are the same (`Json.compact_injective`).

Texts in quotes need nothing to follow them: what is written of a text is what the reader of JSON texts reads
back (`Json.readQuoted?_flatMap_escaped`).
-/

namespace Rollup

namespace Json

/-! ## Texts in quotes -/

/-- The escape of a control character is read back. -/
theorem hexNumber?_escape : ∀ n < 32,
    Text.hexNumber? ['0', '0', hexDigit (n / 16), hexDigit (n % 16)] = some n := by
  decide

/-- **What is written of a character is read as this character.** -/
theorem readQuoted?_escaped_append (fuel : ℕ) (read : List Char) (c : Char) (rest : List Char) :
    readQuoted? (fuel + 1) read (escaped c ++ rest) = readQuoted? fuel (c :: read) rest := by
  unfold escaped
  split_ifs with hquote hback hline hreturn htab hbell hfeed hcontrol
  · rw [hquote]
    rfl
  · rw [hback]
    rfl
  · rw [hline]
    rfl
  · rw [hreturn]
    rfl
  · rw [htab]
    rfl
  · rw [← Char.ofNat_toNat c, hbell]
    rfl
  · rw [← Char.ofNat_toNat c, hfeed]
    rfl
  · have hunit : readEscape? ('u' :: '0' :: '0' :: hexDigit (c.toNat / 16) :: hexDigit (c.toNat % 16)
        :: rest) = some (c, rest) := by
      show readEscapedUnit? ('0' :: '0' :: _) = _
      unfold readEscapedUnit? readUnit?
      simp only [hexNumber?_escape c.toNat hcontrol, Option.map_some, Option.bind_eq_bind,
        Option.bind_some]
      rw [if_neg (by omega), if_neg (by omega), Char.ofNat_toNat]
      rfl
    show readQuoted? (fuel + 1) read ('\\' :: 'u' :: '0' :: '0' :: hexDigit (c.toNat / 16)
      :: hexDigit (c.toNat % 16) :: rest) = _
    rw [readQuoted?, if_neg (by decide), if_pos rfl, hunit]
  · show (if c = '"' then _ else if c = '\\' then _ else if c.toNat < 32 then none
      else readQuoted? fuel (c :: read) rest) = _
    rw [if_neg hquote, if_neg hback, if_neg hcontrol]

/-- **What is written of a text is read as this text.** -/
theorem readQuoted?_flatMap_escaped (cs : List Char) {fuel : ℕ} (hfuel : cs.length < fuel)
    (read rest : List Char) :
    readQuoted? fuel read (cs.flatMap escaped ++ '"' :: rest)
      = some (String.ofList (read.reverse ++ cs), rest) := by
  induction cs generalizing fuel read with
  | nil =>
    obtain ⟨fuel, rfl⟩ := Nat.exists_eq_add_of_lt hfuel
    rw [List.append_nil]
    rfl
  | cons c cs ih =>
    obtain ⟨fuel, rfl⟩ : ∃ k, fuel = k + 1 := ⟨fuel - 1, by simp only [List.length_cons] at hfuel; omega⟩
    rw [List.flatMap_cons, List.append_assoc, readQuoted?_escaped_append,
      ih (by simp only [List.length_cons] at hfuel; omega), List.reverse_cons, List.append_assoc,
      List.singleton_append]

/-- **Texts in quotes end by themselves.** -/
theorem quoted_append_inj {s t : String} {u v : List Char} (h : quoted s ++ u = quoted t ++ v) :
    s = t ∧ u = v := by
  have split : ∀ (s : String) (u : List Char),
      quoted s ++ u = '"' :: (s.toList.flatMap escaped ++ '"' :: u) := by
    intro s u
    simp [quoted]
  rw [split, split, List.cons.injEq] at h
  have hs := @readQuoted?_flatMap_escaped s.toList (s.toList.length + t.toList.length + 1) (by omega) [] u
  have ht := @readQuoted?_flatMap_escaped t.toList (s.toList.length + t.toList.length + 1) (by omega) [] v
  rw [h.2, ht, Option.some.injEq, Prod.mk.injEq] at hs
  simpa using And.intro hs.1.symm hs.2.symm

/-! ## Where values end -/

/-- **What may follow a value**: nothing, or what cannot continue a number. -/
def Ends (rest : List Char) : Prop :=
  ∀ c ∈ rest.head?, isNumeralChar c = false

/-- Nothing follows the last value. -/
theorem ends_nil : Ends [] := nofun

/-- The items behind the first one start with a comma or the closing bracket. -/
theorem ends_itemChars (items : List Json) (rest : List Char) : Ends (itemChars items ++ rest) := by
  cases items <;> rintro _ ⟨⟩ <;> decide

/-- The members behind the first one start with a comma or the closing brace. -/
theorem ends_memberChars (members : List (String × Json)) (rest : List Char) :
    Ends (memberChars members ++ rest) := by
  cases members <;> rintro _ ⟨⟩ <;> decide

/-- The rank of the values that a character starts; closing characters start none. -/
def startOf (c : Char) : ℕ :=
  if isNumeralChar c then 2 else if c = 'n' then 0 else if c = 't' ∨ c = 'f' then 1
  else if c = '"' then 3 else if c = '[' then 4 else if c = '\x7b' then 5 else 6

/-- A number ends where its characters do. -/
theorem text_append_inj {m n : Number} {u v : List Char} (hu : Ends u) (hv : Ends v)
    (h : m.text.toList ++ u = n.text.toList ++ v) : m = n ∧ u = v := by
  have span : ∀ (n : Number) {u : List Char}, Ends u →
      (n.text.toList ++ u).takeWhile isNumeralChar = n.text.toList := by
    intro n u hu
    rw [List.takeWhile_append_of_pos]
    · cases u with
      | nil => simp
      | cons c u => simp [hu c rfl]
    · intro c hc
      rw [Number.toList_text] at hc
      exact Numeral.isNumeralChar_of_mem n.wellFormed_numeral hc
  have htext : m.text.toList = n.text.toList := by
    rw [← span m hu, h, span n hv]
  rw [htext, List.append_cancel_left_eq] at h
  exact ⟨Number.text_injective (String.toList_inj.1 htext), h⟩

/-- **The first character tells the kind of value.** -/
theorem exists_chars_eq (j : Json) : ∃ c rest, j.chars = c :: rest ∧ startOf c = j.rank := by
  cases j with
  | null => exact ⟨_, _, rfl, rfl⟩
  | bool b => cases b <;> exact ⟨_, _, rfl, rfl⟩
  | number n =>
    have hne : n.text.toList ≠ [] := by
      rw [Number.toList_text]
      intro h
      simp only [Numeral.chars, List.append_eq_nil_iff] at h
      exact n.wellFormed_numeral.whole_ne_nil h.1.1.2
    obtain ⟨c, rest, hc⟩ := List.exists_cons_of_ne_nil hne
    refine ⟨c, rest, hc, if_pos (Numeral.isNumeralChar_of_mem n.wellFormed_numeral ?_)⟩
    rw [← Number.toList_text, hc]
    exact List.mem_cons_self
  | string s => exact ⟨_, _, rfl, rfl⟩
  | array items => cases items <;> exact ⟨_, _, rfl, rfl⟩
  | object members =>
    cases members with
    | nil => exact ⟨_, _, rfl, rfl⟩
    | cons pair rest => exact ⟨_, _, rfl, rfl⟩

/-- Values that start the same text are of one kind. -/
theorem rank_eq_of_append {a b : Json} {u v : List Char} (h : a.chars ++ u = b.chars ++ v) :
    a.rank = b.rank := by
  obtain ⟨c, r, hc, hrank⟩ := exists_chars_eq a
  obtain ⟨d, s, hd, hrank'⟩ := exists_chars_eq b
  rw [hc, hd, List.cons_append, List.cons_append, List.cons.injEq] at h
  rw [← hrank, ← hrank', h.1]

/-- No value starts with a closing bracket. -/
theorem chars_append_ne (j : Json) (u v : List Char) : j.chars ++ u ≠ ']' :: v := by
  obtain ⟨c, r, hc, hrank⟩ := exists_chars_eq j
  intro h
  rw [hc, List.cons_append, List.cons.injEq] at h
  rw [h.1, show startOf ']' = 6 by decide] at hrank
  cases j <;> cases hrank

/-! ## Taking texts apart -/

mutual

/-- **A value is read off the front of a text in one way.** -/
theorem chars_append_inj : ∀ (a b : Json) {u v : List Char}, Ends u → Ends v →
    a.chars ++ u = b.chars ++ v → a = b ∧ u = v
  | a, b, u, v, hu, hv, h => by
    have hrank := rank_eq_of_append h
    cases a with
    | null =>
      cases b with
      | null => exact ⟨rfl, by simpa [chars] using h⟩
      | _ => cases hrank
    | bool x =>
      cases b with
      | bool y =>
        cases x <;> cases y <;> simp [chars] at h ⊢
        · exact h
        · exact h
      | _ => cases hrank
    | number m =>
      cases b with
      | number n =>
        obtain ⟨hmn, huv⟩ := text_append_inj hu hv h
        exact ⟨congrArg _ hmn, huv⟩
      | _ => cases hrank
    | string s =>
      cases b with
      | string t =>
        obtain ⟨hst, huv⟩ := quoted_append_inj h
        exact ⟨congrArg _ hst, huv⟩
      | _ => cases hrank
    | array items =>
      cases b with
      | array others =>
        cases items with
        | nil =>
          cases others with
          | nil => exact ⟨rfl, List.append_cancel_left h⟩
          | cons b bs =>
            have h : ']' :: u = b.chars ++ (itemChars bs ++ v) := by simpa [chars] using h
            exact (chars_append_ne b _ _ h.symm).elim
        | cons a as =>
          cases others with
          | nil =>
            have h : a.chars ++ (itemChars as ++ u) = ']' :: v := by simpa [chars] using h
            exact (chars_append_ne a _ _ h).elim
          | cons b bs =>
            have h : a.chars ++ (itemChars as ++ u) = b.chars ++ (itemChars bs ++ v) := by
              simpa [chars] using h
            obtain ⟨hab, hrest⟩ := chars_append_inj a b (ends_itemChars as u) (ends_itemChars bs v) h
            obtain ⟨hitems, huv⟩ := itemChars_append_inj as bs hrest
            exact ⟨by rw [hab, hitems], huv⟩
      | _ => cases hrank
    | object members =>
      cases b with
      | object others =>
        cases members with
        | nil =>
          cases others with
          | nil => exact ⟨rfl, List.append_cancel_left h⟩
          | cons pair bs => simp [chars, quoted] at h
        | cons pair as =>
          obtain ⟨k, a⟩ := pair
          cases others with
          | nil => simp [chars, quoted] at h
          | cons pair bs =>
            obtain ⟨l, b⟩ := pair
            have h : quoted k ++ ':' :: (a.chars ++ (memberChars as ++ u))
                = quoted l ++ ':' :: (b.chars ++ (memberChars bs ++ v)) := by
              simpa [chars] using h
            obtain ⟨hkl, hrest⟩ := quoted_append_inj h
            obtain ⟨hab, hrest⟩ := chars_append_inj a b (ends_memberChars as u)
              (ends_memberChars bs v) (List.cons.inj hrest).2
            obtain ⟨hmembers, huv⟩ := memberChars_append_inj as bs hrest
            exact ⟨by rw [hkl, hab, hmembers], huv⟩
      | _ => cases hrank

/-- Items are read up to the closing bracket in one way. -/
theorem itemChars_append_inj : ∀ (as bs : List Json) {u v : List Char},
    itemChars as ++ u = itemChars bs ++ v → as = bs ∧ u = v
  | [], [], _, _, h => ⟨rfl, List.append_cancel_left h⟩
  | [], _ :: _, _, _, h => by simp [itemChars] at h
  | _ :: _, [], _, _, h => by simp [itemChars] at h
  | a :: as, b :: bs, u, v, h => by
    have h : a.chars ++ (itemChars as ++ u) = b.chars ++ (itemChars bs ++ v) := by
      simpa [itemChars] using h
    obtain ⟨hab, hrest⟩ := chars_append_inj a b (ends_itemChars as u) (ends_itemChars bs v) h
    obtain ⟨hitems, huv⟩ := itemChars_append_inj as bs hrest
    exact ⟨by rw [hab, hitems], huv⟩

/-- Members are read up to the closing brace in one way. -/
theorem memberChars_append_inj : ∀ (as bs : List (String × Json)) {u v : List Char},
    memberChars as ++ u = memberChars bs ++ v → as = bs ∧ u = v
  | [], [], _, _, h => ⟨rfl, List.append_cancel_left h⟩
  | [], _ :: _, _, _, h => by simp [memberChars] at h
  | _ :: _, [], _, _, h => by simp [memberChars] at h
  | (k, a) :: as, (l, b) :: bs, u, v, h => by
    have h : quoted k ++ ':' :: (a.chars ++ (memberChars as ++ u))
        = quoted l ++ ':' :: (b.chars ++ (memberChars bs ++ v)) := by
      simpa [memberChars] using h
    obtain ⟨hkl, hrest⟩ := quoted_append_inj h
    obtain ⟨hab, hrest⟩ := chars_append_inj a b (ends_memberChars as u)
      (ends_memberChars bs v) (List.cons.inj hrest).2
    obtain ⟨hmembers, huv⟩ := memberChars_append_inj as bs hrest
    exact ⟨by rw [hkl, hab, hmembers], huv⟩

end

/-- **Values with the same compact text are the same.** -/
theorem compact_injective {a b : Json} (h : a.compact = b.compact) : a = b := by
  have hchars : a.chars = b.chars := String.ofList_injective h
  exact (chars_append_inj a b ends_nil ends_nil (by rw [hchars])).1

end Json

end Rollup
