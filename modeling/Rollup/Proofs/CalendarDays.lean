import Mathlib.Data.Prod.Lex
import Rollup.Condition.Compile
import Rollup.Proofs.Computing
import Rollup.Proofs.Instants
import Rollup.Proofs.Matching

/-!
# Conditions on dates compare calendar days

A condition on a date is compiled to comparisons with instants, the bounds of a half-open interval: that of a day for a
typed date and for `now`, that of a month for the processing period. What it means is said of the calendar instead: the
day of the field is compared with a day, by year, month and day, or with a month, by year and month
(`DateTest.Holds`).

Both orders are the same where three steps are taken. Days are numbered in the order of the calendar
(`Date.dayNumber_le_iff`), whatever the lengths of months and years between them. An instant comes before a midnight
exactly when its day has a smaller number, a leap second included (`Instant.order_lt_iff`). And the intervals begin and
end with the days they should: an interval holds all instants of one day, or of one month (`DateInterval.IsAll`), and
comparing with it is comparing with the day or the month (`DateInterval.holds_predicate?`), for every operator.
-/

namespace Rollup

namespace Date

/-! ## The order of dates -/

/-- **A date as the calendar orders it**: by year, then by month, then by day. -/
def calendar (d : Date) : ℤ ×ₗ ℕ ×ₗ ℕ := toLex (d.year, toLex (d.month, d.day))

/-- The month of a date as the calendar orders it. -/
def monthOfYear (d : Date) : ℤ ×ₗ ℕ := toLex (d.year, d.month)

/-- Which of two dates comes first. -/
theorem calendar_lt_iff {a b : Date} : a.calendar < b.calendar
    ↔ a.year < b.year ∨ a.year = b.year ∧ (a.month < b.month ∨ a.month = b.month ∧ a.day < b.day) := by
  simp only [calendar, Prod.Lex.toLex_lt_toLex]

/-- Months begin one after the other. -/
theorem daysBeforeMonth_le (year : ℤ) {first last : ℕ} (hfirst : 1 ≤ first) (h : first ≤ last) :
    daysBeforeMonth year first ≤ daysBeforeMonth year last := by
  induction last, h using Nat.le_induction with
  | base => exact le_rfl
  | succ month hmonth ih =>
    rw [daysBeforeMonth_succ year (hfirst.trans hmonth)]
    omega

/-- A date has a month. -/
theorem IsValid.one_le_month {d : Date} (h : d.IsValid) : 1 ≤ d.month := by
  by_contra hzero
  obtain ⟨-, -, hpos, hle⟩ := h
  have hnone : daysInMonth d.year 0 = 0 := rfl
  rw [show d.month = 0 by omega, hnone] at hle
  omega

/-- A day comes before the next month. -/
theorem IsValid.le_daysBeforeMonth {d : Date} (h : d.IsValid) :
    daysBeforeMonth d.year d.month + d.day ≤ daysBeforeMonth d.year (d.month + 1) := by
  rw [daysBeforeMonth_succ d.year h.one_le_month]
  exact Nat.add_le_add_left h.2.2.2 _

/-- And it comes before the next year. -/
theorem IsValid.le_daysInYear {d : Date} (h : d.IsValid) :
    daysBeforeMonth d.year d.month + d.day ≤ daysInYear d.year := by
  rw [← daysBeforeMonth_thirteen]
  exact h.le_daysBeforeMonth.trans (daysBeforeMonth_le _ (by omega) (Nat.succ_le_succ h.month_le))

/-- **An earlier date has a smaller number.** -/
theorem dayNumber_lt {a b : Date} (ha : a.IsValid) (hb : b.IsValid) (h : a.calendar < b.calendar) :
    a.dayNumber < b.dayNumber := by
  have hday := hb.2.2.1
  unfold dayNumber
  rcases calendar_lt_iff.1 h with hyear | ⟨hyear, hmonth | ⟨hmonth, hdays⟩⟩
  · have hnext := daysBeforeYear_le (Int.add_one_le_iff.2 hyear)
    have hlast := ha.le_daysInYear
    rw [daysBeforeYear_succ] at hnext
    omega
  · have hnext : daysBeforeMonth b.year (a.month + 1) ≤ daysBeforeMonth b.year b.month :=
      daysBeforeMonth_le b.year (Nat.succ_pos _) hmonth
    have hlast := ha.le_daysBeforeMonth
    rw [hyear] at hlast ⊢
    omega
  · rw [hyear, hmonth]
    omega

/-- **Days are numbered in the order of the calendar.** -/
theorem dayNumber_le_iff {a b : Date} (ha : a.IsValid) (hb : b.IsValid) :
    a.dayNumber ≤ b.dayNumber ↔ a.calendar ≤ b.calendar := by
  constructor
  · intro h
    by_contra hlt
    exact absurd (dayNumber_lt hb ha (not_le.1 hlt)) (not_lt.2 h)
  · intro h
    rcases h.lt_or_eq with hlt | heq
    · exact (dayNumber_lt ha hb hlt).le
    · obtain rfl : a = b := by
        cases a
        cases b
        simpa [calendar, Prod.ext_iff] using heq
      exact le_rfl

/-- The first of a month comes before all days of the month and of later ones. -/
theorem first_le_iff {year : ℤ} {month : ℕ} {d : Date} (hd : d.IsValid) :
    (⟨year, month, 1⟩ : Date).calendar ≤ d.calendar ↔ toLex (year, month) ≤ d.monthOfYear := by
  have hday := hd.2.2.1
  simp only [calendar, monthOfYear, Prod.Lex.toLex_le_toLex]
  omega

/-- A date of three numbers that exists has them, and exists. -/
theorem eq_of_ofParts? {year : ℤ} {month day : ℕ} {d : Date} (h : ofParts? year month day = some d) :
    d = ⟨year, month, day⟩ ∧ d.IsValid := by
  unfold ofParts? at h
  dsimp only at h
  split_ifs at h with hvalid
  obtain rfl := Option.some.inj h
  exact ⟨rfl, hvalid⟩

end Date

/-! ## Midnights -/

namespace Instant

/-- The day on which an instant falls, in divisions of whole numbers. -/
theorem dayNumber_eq (t : Instant) : t.dayNumber = t.seconds / 86400 := Int.fdiv_eq_ediv_of_nonneg _ (by decide)

/-- The date on which an instant falls has the number of its day. -/
theorem dayNumber_date (t : Instant) : t.date.dayNumber = t.dayNumber := Date.dayNumber_ofDayNumber _

/-- **The midnight with which a day begins.** -/
def IsMidnight (s : Instant) (day : ℤ) : Prop := s.seconds = 86400 * day ∧ s.nanos = 0

/-- The instant of a number of days is a midnight. -/
theorem isMidnight_of_ofParts? {s : Instant} {day : ℤ} (h : ofParts? (86400 * day) 0 = some s) : s.IsMidnight day := by
  unfold ofParts? at h
  split_ifs at h
  obtain rfl := Option.some.inj h
  exact ⟨rfl, rfl⟩

variable {s t : Instant} {day : ℤ} (h : s.IsMidnight day)
include h

/-- **What comes before a midnight is on an earlier day**, and a leap second still is. -/
theorem order_lt_iff : t.order s = .lt ↔ t.dayNumber < day := by
  rw [order, h.1, h.2, dayNumber_eq, Ordering.then_eq_lt, compare_lt_iff_lt, compare_eq_iff_eq, compare_lt_iff_lt]
  omega

/-- The comparison with a midnight from which on an instant matches. -/
theorem holds_ge_iff : Comparison.ge.holds (some (t.order s)) = true ↔ day ≤ t.dayNumber := by
  rw [← not_lt, ← order_lt_iff h]
  cases t.order s <;> decide

/-- The comparison with a midnight before which an instant matches. -/
theorem holds_lt_iff : Comparison.lt.holds (some (t.order s)) = true ↔ t.dayNumber < day := by
  rw [← order_lt_iff h]
  cases t.order s <;> decide

end Instant

/-! ## Intervals -/

/-- **What an operator asks** of two things that are ordered; of dates, some operators ask nothing. -/
def Operator.Asks {α : Type} [LinearOrder α] (op : Operator) (x y : α) : Prop :=
  match op with
  | .eq => x = y
  | .ne => x ≠ y
  | .gt => y < x
  | .ge => y ≤ x
  | .lt => x < y
  | .le => x ≤ y
  | .like | .among | .range => False

section Fields

variable {document : Json} {path text : String} {s t : Instant} {c : Comparison}

/-- Comparing a text that spells an instant is comparing the instant. -/
theorem holds_compare_instant (hfield : Document.get? path document = some (.string text))
    (ht : Instant.parse? text = some t) :
    (Predicate.compare path c (.instant s)).holds document = c.holds (some (t.order s)) := by
  rw [Predicate.holds, hfield]
  show c.holds ((Instant.parse? text).map fun t => t.order s) = _
  rw [ht]
  rfl

/-- **What spells no instant is neither before nor behind one**, lists apart. -/
theorem holds_compare_of_unreadable {field : Json} (hfield : Document.get? path document = some field)
    (hlist : ∀ items, field ≠ .array items) (hunreadable : ∀ text, field = .string text → Instant.parse? text = none)
    (hc : c = .ge ∨ c = .lt) (s : Instant) : (Predicate.compare path c (.instant s)).holds document = false := by
  rw [Predicate.holds, hfield]
  cases field with
  | array items => exact absurd rfl (hlist items)
  | string text =>
    show c.holds ((Instant.parse? text).map fun t => t.order s) = false
    rw [hunreadable text rfl]
    rcases hc with rfl | rfl <;> rfl
  | _ => rcases hc with rfl | rfl <;> rfl

end Fields

namespace DateInterval

variable {α : Type} [LinearOrder α]

/-- **An interval of all instants whose dates have some value in common**, such as their month. -/
structure IsAll (i : DateInterval) (value : Date → α) (common : α) : Prop where
  /-- From the start on the value is the common one or a later one. -/
  start : ∀ t : Instant, Comparison.ge.holds (some (t.order i.start)) = true ↔ common ≤ value t.date
  /-- Before the end it is the common one or an earlier one. -/
  stop : ∀ t : Instant, Comparison.lt.holds (some (t.order i.stop)) = true ↔ value t.date ≤ common

variable {i : DateInterval} {value : Date → α} {common : α}

/-- An instant is before another, or from it on. -/
theorem holds_lt_eq_not (o : Ordering) : Comparison.lt.holds (some o) = !Comparison.ge.holds (some o) := by
  cases o <;> rfl

/-- Before the start the value is an earlier one. -/
theorem IsAll.before (h : i.IsAll value common) (t : Instant) :
    Comparison.lt.holds (some (t.order i.start)) = true ↔ value t.date < common := by
  rw [holds_lt_eq_not, Bool.not_eq_true', Bool.eq_false_iff, Ne, h.start, not_le]

/-- From the end on it is a later one. -/
theorem IsAll.behind (h : i.IsAll value common) (t : Instant) :
    Comparison.ge.holds (some (t.order i.stop)) = true ↔ common < value t.date := by
  rw [← not_le, ← h.stop, holds_lt_eq_not, Bool.not_eq_true', Bool.not_eq_false]

variable {document : Json} {path text : String} {t : Instant} {op : Operator} {p : Predicate}

/-- **Comparing with an interval is comparing with what its instants have in common.** -/
theorem holds_predicate? (h : i.IsAll value common) (hp : i.predicate? path op = some p)
    (hfield : Document.get? path document = some (.string text)) (ht : Instant.parse? text = some t) :
    p.holds document = true ↔ op.Asks (value t.date) common := by
  have hat : ∀ (c : Comparison) (s : Instant), (Predicate.compare path c (.instant s)).holds document
      = c.holds (some (t.order s)) := fun _ _ => holds_compare_instant hfield ht
  cases op with
  | eq =>
    obtain rfl := Option.some.inj hp
    simp only [Predicate.holds_allOf, List.all_cons, List.all_nil, hat, Bool.and_true, Bool.and_eq_true, h.start,
      h.stop, Operator.Asks]
    exact ⟨fun hboth => le_antisymm hboth.2 hboth.1, fun heq => ⟨heq.ge, heq.le⟩⟩
  | ne =>
    obtain rfl := Option.some.inj hp
    simp only [Predicate.holds_anyOf, List.any_cons, List.any_nil, List.isEmpty_cons, hat, Bool.or_false, Bool.false_or,
      Bool.or_eq_true, h.before, h.behind, Operator.Asks]
    exact lt_or_lt_iff_ne
  | gt =>
    obtain rfl := Option.some.inj hp
    rw [hat]
    exact h.behind t
  | ge =>
    obtain rfl := Option.some.inj hp
    rw [hat]
    exact h.start t
  | lt =>
    obtain rfl := Option.some.inj hp
    rw [hat]
    exact h.before t
  | le =>
    obtain rfl := Option.some.inj hp
    rw [hat]
    exact h.stop t
  | like => exact absurd hp nofun
  | among => exact absurd hp nofun
  | range => exact absurd hp nofun

/-- Dates are compared by all operators of ordered types but ranges. -/
theorem exists_predicate? (i : DateInterval) (path : String) (hop : op ∈ Condition.orderedOperators)
    (hne : op ≠ .range) : ∃ p, i.predicate? path op = some p := by
  cases op with
  | like => exact absurd hop (by decide)
  | among => exact absurd hop (by decide)
  | range => exact absurd rfl hne
  | _ => exact ⟨_, rfl⟩

/-- What is neither before nor behind an instant does not compare with an interval. -/
theorem holds_predicate?_eq_false (hp : i.predicate? path op = some p)
    (hmissed : ∀ c s, c = .ge ∨ c = .lt → (Predicate.compare path c (.instant s)).holds document = false) :
    p.holds document = false := by
  have hge := fun s => hmissed .ge s (.inl rfl)
  have hlt := fun s => hmissed .lt s (.inr rfl)
  cases op with
  | like => exact absurd hp nofun
  | among => exact absurd hp nofun
  | range => exact absurd hp nofun
  | _ =>
    obtain rfl := Option.some.inj hp
    simp [Predicate.holds_allOf, Predicate.holds_anyOf, hge, hlt]

/-! ### Days and months -/

/-- **The interval of a day** is all instants of its date. -/
theorem isAll_of_ofDay? {day : ℤ} (h : ofDay? day = some i) {d : Date} (hd : d.IsValid) (hday : d.dayNumber = day) :
    i.IsAll Date.calendar d.calendar := by
  unfold ofDay? at h
  obtain ⟨start, hstart, h⟩ := Option.bind_eq_some_iff.1 h
  obtain ⟨stop, hstop, h⟩ := Option.bind_eq_some_iff.1 h
  obtain rfl := Option.some.inj h
  have hstart := Instant.isMidnight_of_ofParts? hstart
  have hstop := Instant.isMidnight_of_ofParts? hstop
  refine ⟨fun t => ?_, fun t => ?_⟩
  · rw [Instant.holds_ge_iff hstart, ← hday, ← t.dayNumber_date, Date.dayNumber_le_iff hd t.isValid_date]
  · rw [Instant.holds_lt_iff hstop, Int.lt_add_one_iff, ← hday, ← t.dayNumber_date,
      Date.dayNumber_le_iff t.isValid_date hd]

/-- The day on which an instant falls is all instants of its date. -/
theorem isAll_of_ofInstant? {s : Instant} (h : ofInstant? s = some i) :
    i.IsAll Date.calendar s.date.calendar :=
  isAll_of_ofDay? h s.isValid_date s.dayNumber_date

/-- The year and the month that a text such as `2024-05` tells, blanks around it being ignored. -/
def monthOf? (text : String) : Option (ℤ × ℕ) := do
  let (year, month) ← Text.splitFirst? '-' (Text.trim text)
  let year ← Text.parseInt? year
  let month ← if month.startsWith "-" then none else Text.parseInt? month
  return (year, month.toNat)

/-- The first of the month after that of a date. -/
def nextMonth? (first : Date) : Option Date :=
  if first.month < 12 then Date.ofParts? first.year (first.month + 1) 1 else Date.ofParts? (first.year + 1) 1 1

/-- The interval of a month begins with the first of the month and ends with that of the next. -/
theorem ofMonth?_eq (text : String) : ofMonth? text = (monthOf? text).bind fun month =>
    (Date.ofParts? month.1 month.2 1).bind fun first => (nextMonth? first).bind fun next =>
      (Instant.ofDate? first).bind fun start => (Instant.ofDate? next).bind fun stop => some ⟨start, stop⟩ := by
  unfold ofMonth? monthOf? nextMonth?
  cases Text.splitFirst? '-' (Text.trim text) with
  | none => rfl
  | some parts =>
    obtain ⟨year, month⟩ := parts
    dsimp only [Option.bind_eq_bind, Option.bind_some]
    cases Text.parseInt? year with
    | none => rfl
    | some y =>
      dsimp only [Option.bind_some]
      split_ifs
      · rfl
      · cases Text.parseInt? month with
        | none => rfl
        | some m =>
          dsimp only [Option.bind_some]
          refine congrArg _ (funext fun first => ?_)
          split_ifs <;> rfl

/-- The first of the next month comes before all days of later months. -/
theorem next_le_iff {first next d : Date} (hfirst : first.IsValid) (hd : d.IsValid)
    (h : nextMonth? first = some next) : next.calendar ≤ d.calendar ↔ first.monthOfYear < d.monthOfYear := by
  have hfirstMonth := hfirst.month_le
  have hmonth := hd.one_le_month
  have hlast := hd.month_le
  unfold nextMonth? at h
  split_ifs at h
  all_goals
    obtain ⟨rfl, -⟩ := Date.eq_of_ofParts? h
    rw [Date.first_le_iff hd]
    simp only [Date.monthOfYear, Prod.Lex.toLex_le_toLex, Prod.Lex.toLex_lt_toLex]
    omega

/-- **The interval of a month** is all instants of the month. -/
theorem isAll_of_ofMonth? {text : String} (h : ofMonth? text = some i) :
    ∃ month, monthOf? text = some month ∧ i.IsAll Date.monthOfYear (toLex month) := by
  rw [ofMonth?_eq] at h
  obtain ⟨month, hmonth, h⟩ := Option.bind_eq_some_iff.1 h
  obtain ⟨first, hfirst, h⟩ := Option.bind_eq_some_iff.1 h
  obtain ⟨next, hnext, h⟩ := Option.bind_eq_some_iff.1 h
  obtain ⟨start, hstart, h⟩ := Option.bind_eq_some_iff.1 h
  obtain ⟨stop, hstop, h⟩ := Option.bind_eq_some_iff.1 h
  obtain rfl := Option.some.inj h
  have hstart := Instant.isMidnight_of_ofParts? hstart
  have hstop := Instant.isMidnight_of_ofParts? hstop
  obtain ⟨hparts, hvalid⟩ := Date.eq_of_ofParts? hfirst
  have hvalid' : next.IsValid := by
    unfold nextMonth? at hnext
    split_ifs at hnext <;> exact (Date.eq_of_ofParts? hnext).2
  refine ⟨month, hmonth, ⟨fun t => ?_, fun t => ?_⟩⟩
  · rw [Instant.holds_ge_iff hstart, ← t.dayNumber_date, Date.dayNumber_le_iff hvalid t.isValid_date, hparts,
      Date.first_le_iff t.isValid_date]
  · rw [Instant.holds_lt_iff hstop, ← t.dayNumber_date, ← not_le, Date.dayNumber_le_iff hvalid' t.isValid_date,
      next_le_iff hvalid t.isValid_date hnext, not_lt, hparts]
    rfl

end DateInterval

/-! ### Processing periods -/

namespace Text

/-- Nothing is trimmed where nothing is blank. -/
theorem trim_of_forall {s : String} (h : ∀ c ∈ s.toList, isBlank c = false) : trim s = s := by
  have hstart : ∀ cs : List Char, (∀ c ∈ cs, isBlank c = false) → trimStart cs = cs := by
    intro cs hcs
    cases cs with
    | nil => rfl
    | cons c rest => rw [trimStart, List.dropWhile_cons, hcs c List.mem_cons_self]; rfl
  have hend : trimEnd s.toList = s.toList := by
    have hreverse := hstart s.toList.reverse fun c hc => h c (List.mem_reverse.1 hc)
    rw [trimStart] at hreverse
    rw [trimEnd, hreverse, List.reverse_reverse]
  rw [trim, hstart _ h, hend, String.ofList_toList]

/-- A text is cut at the first separator. -/
theorem splitFirst?_of_toList {s : String} {separator : Char} {front back : List Char}
    (hs : s.toList = front ++ separator :: back) (hfront : ∀ c ∈ front, c ≠ separator) :
    splitFirst? separator s = some (String.ofList front, String.ofList back) := by
  have hall : ∀ c ∈ front, decide (c ≠ separator) = true := fun c hc => decide_eq_true (hfront c hc)
  unfold splitFirst?
  dsimp only
  rw [hs, List.dropWhile_append_of_pos hall, List.takeWhile_append_of_pos hall]
  simp

/-- Digits spell a whole number. -/
theorem parseInt?_of_spells {s : String} {n : ℕ} (h : Calendar.Spells s.toList n) : parseInt? s = some (n : ℤ) := by
  have hnat : ∀ (cs : List Char) (m : ℕ), cs.foldl (fun n c => 10 * n + ((c.toNat - '0'.toNat : ℕ) : ℤ)) (m : ℤ)
      = (cs.foldl (fun n c => 10 * n + (c.toNat - '0'.toNat)) m : ℕ) := by
    intro cs
    induction cs with
    | nil => exact fun _ => rfl
    | cons c rest ih =>
      intro m
      rw [List.foldl_cons, List.foldl_cons, ← ih]
      push_cast
      rfl
  have hall : s.toList.all Char.isDigit = true := List.all_eq_true.2 h.isDigit
  have hunsigned : ∀ {c r}, s.toList = c :: r → c.isDigit = false → False := fun hs hc => by
    have hdigit := h.isDigit _ (hs ▸ List.mem_cons_self)
    rw [hc] at hdigit
    exact absurd hdigit nofun
  have hnone : (s.toList.isEmpty || !s.toList.all Char.isDigit) = false := by
    simp [hall, h.nonempty]
  unfold parseInt?
  split
  next negative digits hsign =>
    obtain ⟨rfl, rfl⟩ : negative = false ∧ digits = s.toList := by
      split at hsign
      · next hs => exact (hunsigned hs rfl).elim
      · next hs => exact (hunsigned hs rfl).elim
      · simpa [eq_comm] using hsign
    rw [hnone, ← h.natOf]
    exact congrArg some (hnat s.toList 0)

end Text

namespace DateInterval

/-- **A processing period** as it is written: the year with four digits and the month with two. -/
def period (year month : ℕ) : String := padded 4 year ++ "-" ++ padded 2 month

/-- The month of a processing period is read. -/
theorem monthOf?_period (year month : ℕ) : monthOf? (period year month) = some ((year : ℤ), month) := by
  have hyear := Calendar.spells_padded 4 year
  have hmonth := Calendar.spells_padded 2 month
  have hchars : (period year month).toList = (padded 4 year).toList ++ '-' :: (padded 2 month).toList := by
    simp [period]
  have htrim : Text.trim (period year month) = period year month := by
    refine Text.trim_of_forall fun c hc => ?_
    rw [hchars] at hc
    rcases List.mem_append.1 hc with hc | hc
    · exact Text.isBlank_of_isDigit (hyear.isDigit c hc)
    · rcases List.mem_cons.1 hc with rfl | hc
      · rfl
      · exact Text.isBlank_of_isDigit (hmonth.isDigit c hc)
  have hdash : ∀ c : Char, c.isDigit = true → c ≠ '-' := by
    rintro c hc rfl
    exact absurd hc (by decide)
  have hstart : (padded 2 month).startsWith "-" = false := by
    refine Bool.eq_false_iff.2 fun h => ?_
    have hfirst : ['-'] <+: (padded 2 month).toList := by simpa using h
    exact hdash '-' (hmonth.isDigit '-' (hfirst.subset List.mem_cons_self)) rfl
  unfold monthOf?
  rw [htrim, Text.splitFirst?_of_toList hchars fun c hc => hdash c (hyear.isDigit c hc)]
  simp only [Option.bind_eq_bind, Option.bind_some, String.ofList_toList, Text.parseInt?_of_spells hyear,
    Text.parseInt?_of_spells hmonth, hstart]
  rfl

/-- Every month of a year has days. -/
theorem one_le_daysInMonth (year : ℤ) {month : ℕ} (hfirst : 1 ≤ month) (hlast : month ≤ 12) :
    1 ≤ Date.daysInMonth year month := by
  unfold Date.daysInMonth
  split <;> grind

/-- The first of a month of a year of four digits, or of the year behind them, exists and has its midnight. -/
theorem exists_firstOfMonth {year : ℤ} {month : ℕ} (hlow : 0 ≤ year) (hhigh : year ≤ 10000) (hfirst : 1 ≤ month)
    (hlast : month ≤ 12) : ∃ d s, Date.ofParts? year month 1 = some d ∧ Instant.ofDate? d = some s := by
  have hvalid : Date.IsValid ⟨year, month, 1⟩ := by
    refine ⟨?_, ?_, le_rfl, one_le_daysInMonth year hfirst hlast⟩
    · dsimp only
      omega
    · dsimp only
      omega
  have hinYear : Date.daysBeforeMonth year month + 1 ≤ Date.daysInYear year := hvalid.le_daysInYear
  have hlength : Date.daysInYear year ≤ 366 := by
    unfold Date.daysInYear
    split <;> omega
  have hday : Date.dayNumber ⟨year, month, 1⟩
      = Date.daysBeforeYear year + Date.daysBeforeMonth year month + (1 : ℕ) - 1 - 719162 := rfl
  have hyear := Date.daysBeforeYear_eq year
  have hseconds : -8334601228800 ≤ 86400 * Date.dayNumber ⟨year, month, 1⟩
      ∧ 86400 * Date.dayNumber ⟨year, month, 1⟩ ≤ 8210266876799 := by omega
  have hstart : Instant.ofDate? ⟨year, month, 1⟩ = some ⟨_, 0, hseconds, by decide, fun h => absurd h (by decide)⟩ :=
    (dif_pos hseconds).trans (dif_pos ⟨by decide, fun h => absurd h (by decide)⟩)
  exact ⟨_, _, if_pos hvalid, hstart⟩

/-- **Every period of four digits and a month has its interval.** -/
theorem exists_ofMonth?_period {year month : ℕ} (hyear : year < 10000) (hfirst : 1 ≤ month) (hlast : month ≤ 12) :
    ∃ i, ofMonth? (period year month) = some i := by
  obtain ⟨first, start, hparts, hstart⟩ : ∃ d s, Date.ofParts? year month 1 = some d ∧ Instant.ofDate? d = some s :=
    exists_firstOfMonth (by omega) (by omega) hfirst hlast
  obtain ⟨next, stop, hnext, hstop⟩ : ∃ next stop, nextMonth? first = some next ∧ Instant.ofDate? next = some stop := by
    rw [(Date.eq_of_ofParts? hparts).1]
    unfold nextMonth?
    dsimp only
    split_ifs with hmonth
    · exact exists_firstOfMonth (by omega) (by omega) (Nat.succ_pos month) hmonth
    · exact exists_firstOfMonth (by omega) (by omega) le_rfl (by decide)
  rw [ofMonth?_eq, monthOf?_period, Option.bind_some, hparts, Option.bind_some, hnext, Option.bind_some, hstart,
    Option.bind_some, hstop]
  exact ⟨_, rfl⟩

end DateInterval

/-! ## Conditions -/

/-- **What a condition on a date asks of the day of an instant.** -/
inductive DateTest where
  /-- To compare with a day. -/
  | day (op : Operator) (date : Date)
  /-- To compare by year and month. -/
  | month (op : Operator) (year : ℤ) (month : ℕ)
  /-- To lie between two days, the second one left out. -/
  | days (low high : Date)
  deriving DecidableEq

/-- Whether a day is what is asked for. -/
def DateTest.Holds (d : Date) : DateTest → Prop
  | .day op date => op.Asks d.calendar date.calendar
  | .month op y m => op.Asks d.monthOfYear (toLex (y, m))
  | .days low high => low.calendar ≤ d.calendar ∧ d.calendar < high.calendar

namespace Condition

/-- **The day that a date operand means**: today for `now`, the first day of the year 1 for an empty one, and otherwise
the day that is typed. -/
def dayMeant? (now : Instant) (text : String) : Option Date :=
  if text = "now" then some now.date
  else if text = "" then some ⟨1, 1, 1⟩
  else (Instant.parse? text).map Instant.date

/-- **What a condition on a date asks for**: to compare with the day that is meant or, for `handleMonth`, with the month
of the processing period, or to lie between the days of a range. -/
def dateTest? (ctx : CompileContext) (c : Condition) : Option DateTest :=
  match c.operatorAmong ctx.strictness orderedOperators with
  | .error _ => none
  | .ok .range => do
    let (low, high) ← c.rangeBounds?
    return .days (← Instant.parse? low).date (← Instant.parse? high).date
  | .ok op =>
    let text := Text.trim c.searchValue
    if text = "handleMonth" then
      (ctx.period.bind DateInterval.monthOf?).map fun (year, month) => .month op year month
    else (dayMeant? ctx.now text).map (.day op)

variable {ctx : CompileContext} {c : Condition} {path : String} {op : Operator} {p : Predicate}

/-- Conditions on dates are compiled alike, be they on static columns or on dynamic fields. -/
theorem compile_eq_compileDate (hdate : c.fieldType = .date ∨ c.fieldType = .datetime) :
    c.compile ctx = c.compileDate ctx (c.path ctx.target) := by
  unfold compile compileDynamic compileStatic
  rcases hdate with h | h <;> rw [h] <;> dsimp only <;> split <;> rfl

/-- A condition with a range. -/
theorem compileDate_of_range (hop : c.operatorAmong ctx.strictness orderedOperators = .ok .range) :
    c.compileDate ctx path = do
      let (low, high) ← c.sensible c.rangeBounds?
      let low ← c.sensible (typedDay? low)
      let high ← c.sensible (typedDay? high)
      return some (between path (.instant low.start) (.instant high.start)) := by
  unfold compileDate
  rw [hop]
  rfl

/-- A condition with another operator. -/
theorem compileDate_of_ne_range (hop : c.operatorAmong ctx.strictness orderedOperators = .ok op) (hne : op ≠ .range) :
    c.compileDate ctx path = if Text.trim c.searchValue = "handleMonth" then
      .ok ((ctx.period.bind DateInterval.ofMonth?).bind fun month => month.predicate? path op)
    else (c.sensible (dayOf? ctx.now (Text.trim c.searchValue))).bind fun day => .ok (day.predicate? path op) := by
  unfold compileDate
  rw [hop]
  dsimp only [bind, Except.bind]
  split
  · exact absurd rfl hne
  · split <;> rfl

/-- What a condition asks for that has another operator than a range. -/
theorem dateTest?_of_ne_range (hop : c.operatorAmong ctx.strictness orderedOperators = .ok op) (hne : op ≠ .range) :
    c.dateTest? ctx = if Text.trim c.searchValue = "handleMonth" then
      (ctx.period.bind DateInterval.monthOf?).map fun month => .month op month.1 month.2
    else (dayMeant? ctx.now (Text.trim c.searchValue)).map (.day op) := by
  unfold dateTest?
  rw [hop]
  cases op with
  | range => exact absurd rfl hne
  | _ => rfl

/-- The operator that a condition is taken to have is one of those allowed, or equality. -/
theorem mem_of_operatorAmong (hop : c.operatorAmong ctx.strictness orderedOperators = .ok op) :
    op ∈ orderedOperators := by
  unfold operatorAmong at hop
  split at hop
  · next h =>
    obtain rfl := Except.ok.inj hop
    exact List.contains_iff_mem.1 (Option.filter_eq_some_iff.1 h).2
  · obtain rfl := Except.ok.inj hop
    decide
  · exact absurd hop nofun

/-- What is sensible is there. -/
theorem eq_some_of_sensible {α : Type} {value : Option α} {a : α} (h : c.sensible value = .ok a) : value = some a := by
  cases value with
  | none => exact absurd h nofun
  | some b => exact congrArg some (Except.ok.inj h)

end Condition

/-- **A predicate that tests the day of a field.** -/
structure DateTest.DecidedBy (test : DateTest) (path : String) (p : Predicate) : Prop where
  /-- A text that spells an instant matches if the day of the instant is what is asked for. -/
  readable : ∀ document text t, Document.get? path document = some (.string text) → Instant.parse? text = some t →
    (p.holds document = true ↔ test.Holds t.date)
  /-- Other texts do not match, and neither does any other value but a list. -/
  unreadable : ∀ document field, Document.get? path document = some field → (∀ items, field ≠ .array items) →
    (∀ text, field = .string text → Instant.parse? text = none) → p.holds document = false

namespace DateInterval

variable {i : DateInterval} {path : String} {op : Operator} {p : Predicate}

/-- The interval of a day tests the day. -/
theorem decidedBy_day {d : Date} (h : i.IsAll Date.calendar d.calendar) (hp : i.predicate? path op = some p) :
    (DateTest.day op d).DecidedBy path p where
  readable _ _ _ hfield ht := holds_predicate? h hp hfield ht
  unreadable _ _ hfield hlist hunreadable :=
    holds_predicate?_eq_false hp fun _ s hc => holds_compare_of_unreadable hfield hlist hunreadable hc s

/-- The interval of a month tests the month. -/
theorem decidedBy_month {month : ℤ × ℕ} (h : i.IsAll Date.monthOfYear (toLex month))
    (hp : i.predicate? path op = some p) : (DateTest.month op month.1 month.2).DecidedBy path p where
  readable _ _ _ hfield ht := holds_predicate? h hp hfield ht
  unreadable _ _ hfield hlist hunreadable :=
    holds_predicate?_eq_false hp fun _ s hc => holds_compare_of_unreadable hfield hlist hunreadable hc s

/-- The range between the days of two intervals tests for days between them. -/
theorem decidedBy_between {low high : DateInterval} {a b : Date} (hlow : low.IsAll Date.calendar a.calendar)
    (hhigh : high.IsAll Date.calendar b.calendar) :
    (DateTest.days a b).DecidedBy path (Condition.between path (.instant low.start) (.instant high.start)) where
  readable document text t hfield ht := by
    have hat : ∀ (c : Comparison) (s : Instant), (Predicate.compare path c (.instant s)).holds document
        = c.holds (some (t.order s)) := fun _ _ => holds_compare_instant hfield ht
    simp only [Condition.between, Predicate.holds_allOf, List.all_cons, List.all_nil, hat, Bool.and_true,
      Bool.and_eq_true, hlow.start, hhigh.before, DateTest.Holds]
  unreadable document field hfield hlist hunreadable := by
    have hmissed := fun s => holds_compare_of_unreadable hfield hlist hunreadable (.inl rfl) s
    simp [Condition.between, Predicate.holds_allOf, hmissed]

end DateInterval

namespace Condition

variable {ctx : CompileContext} {c : Condition} {p : Predicate}

/-- The interval of a date operand is all instants of the day that is meant. -/
theorem exists_dayMeant {now : Instant} {text : String} {day : DateInterval} (h : dayOf? now text = some day) :
    ∃ d, dayMeant? now text = some d ∧ day.IsAll Date.calendar d.calendar := by
  unfold dayOf? at h
  unfold dayMeant?
  split_ifs at h ⊢
  · exact ⟨_, rfl, DateInterval.isAll_of_ofInstant? h⟩
  · exact ⟨_, rfl, DateInterval.isAll_of_ofDay? h (by decide) rfl⟩
  · obtain ⟨t, ht, hday⟩ := Option.bind_eq_some_iff.1 h
    rw [ht]
    exact ⟨_, rfl, DateInterval.isAll_of_ofInstant? hday⟩

/-- So is that of a bound of a range. -/
theorem exists_typedDay {text : String} {day : DateInterval} (h : typedDay? text = some day) :
    ∃ t, Instant.parse? text = some t ∧ day.IsAll Date.calendar t.date.calendar := by
  obtain ⟨t, ht, hday⟩ := Option.bind_eq_some_iff.1 h
  exact ⟨t, ht, DateInterval.isAll_of_ofInstant? hday⟩

/-- A range tests for the days between its bounds. -/
theorem decidedBy_of_range {path : String} (hop : c.operatorAmong ctx.strictness orderedOperators = .ok .range)
    (hcompile : c.compileDate ctx path = .ok (some p)) :
    ∃ test, c.dateTest? ctx = some test ∧ test.DecidedBy path p := by
  rw [compileDate_of_range hop] at hcompile
  obtain ⟨⟨lowText, highText⟩, hbounds, hcompile⟩ := exists_of_bind_eq_ok hcompile
  obtain ⟨low, hlow, hcompile⟩ := exists_of_bind_eq_ok hcompile
  obtain ⟨high, hhigh, hcompile⟩ := exists_of_bind_eq_ok hcompile
  obtain rfl := Option.some.inj (Except.ok.inj hcompile)
  obtain ⟨s, hs, hlow⟩ := exists_typedDay (eq_some_of_sensible hlow)
  obtain ⟨t, ht, hhigh⟩ := exists_typedDay (eq_some_of_sensible hhigh)
  refine ⟨.days s.date t.date, ?_, DateInterval.decidedBy_between hlow hhigh⟩
  unfold dateTest?
  rw [hop]
  dsimp only
  rw [eq_some_of_sensible hbounds, Option.bind_eq_bind, Option.bind_some]
  dsimp only
  rw [hs, ht]
  rfl

/-- Another operator tests the day that is meant, or the month of the processing period. -/
theorem decidedBy_of_ne_range {path : String} {op : Operator}
    (hop : c.operatorAmong ctx.strictness orderedOperators = .ok op) (hne : op ≠ .range)
    (hcompile : c.compileDate ctx path = .ok (some p)) :
    ∃ test, c.dateTest? ctx = some test ∧ test.DecidedBy path p := by
  rw [compileDate_of_ne_range hop hne] at hcompile
  rw [dateTest?_of_ne_range hop hne]
  split_ifs at hcompile ⊢
  · obtain ⟨month, hmonth, hp⟩ := Option.bind_eq_some_iff.1 (Except.ok.inj hcompile)
    obtain ⟨period, hperiod, hmonth⟩ := Option.bind_eq_some_iff.1 hmonth
    obtain ⟨value, hvalue, hall⟩ := DateInterval.isAll_of_ofMonth? hmonth
    rw [hperiod, Option.bind_some, hvalue]
    exact ⟨_, rfl, DateInterval.decidedBy_month hall hp⟩
  · obtain ⟨day, hday, hp⟩ := exists_of_bind_eq_ok hcompile
    obtain ⟨d, hd, hall⟩ := exists_dayMeant (eq_some_of_sensible hday)
    rw [hd]
    exact ⟨_, rfl, DateInterval.decidedBy_day hall (Except.ok.inj hp)⟩

/-- **A condition on a date says nothing** only for a processing period that is no month. -/
theorem period_of_compileDate_eq_none {path : String} (hcompile : c.compileDate ctx path = .ok none) :
    Text.trim c.searchValue = "handleMonth" ∧ ctx.period.bind DateInterval.ofMonth? = none := by
  cases hop : c.operatorAmong ctx.strictness orderedOperators with
  | error e =>
    unfold compileDate at hcompile
    rw [hop] at hcompile
    exact absurd hcompile nofun
  | ok op =>
    by_cases hrange : op = .range
    · rw [compileDate_of_range (hrange ▸ hop)] at hcompile
      obtain ⟨bounds, -, hcompile⟩ := exists_of_bind_eq_ok hcompile
      obtain ⟨low, -, hcompile⟩ := exists_of_bind_eq_ok hcompile
      obtain ⟨high, -, hcompile⟩ := exists_of_bind_eq_ok hcompile
      exact absurd hcompile nofun
    · have hpredicate : ∀ i : DateInterval, i.predicate? path op ≠ none := fun i hnone => by
        obtain ⟨p, hp⟩ := i.exists_predicate? path (mem_of_operatorAmong hop) hrange
        exact absurd (hnone.symm.trans hp) nofun
      rw [compileDate_of_ne_range hop hrange] at hcompile
      split_ifs at hcompile with hvalue
      · refine ⟨hvalue, ?_⟩
        cases hmonth : ctx.period.bind DateInterval.ofMonth? with
        | none => rfl
        | some i =>
          rw [hmonth] at hcompile
          exact absurd (Except.ok.inj hcompile) (hpredicate i)
      · obtain ⟨day, -, hday⟩ := exists_of_bind_eq_ok hcompile
        exact absurd (Except.ok.inj hday) (hpredicate day)

/-- **Conditions on dates compare calendar days.** Whatever condition on a date compiles to a predicate asks for
something, and the predicate matches a text that spells an instant exactly when the day of the instant is what is asked
for. What spells no instant does not match. A condition compiles to nothing for a processing period that is no month
only; one of a year of four digits and a month always compiles to a predicate. -/
theorem decidedBy_dateTest (hdate : c.fieldType = .date ∨ c.fieldType = .datetime) :
    (∀ p, c.compile ctx = .ok (some p) → ∃ test, c.dateTest? ctx = some test ∧ test.DecidedBy (c.path ctx.target) p)
      ∧ (c.compile ctx = .ok none →
        Text.trim c.searchValue = "handleMonth" ∧ ctx.period.bind DateInterval.ofMonth? = none)
      ∧ ∀ op (year month : ℕ), c.operatorAmong ctx.strictness orderedOperators = .ok op → op ≠ .range →
        Text.trim c.searchValue = "handleMonth" → year < 10000 → 1 ≤ month → month ≤ 12 →
        ctx.period = some (DateInterval.period year month) →
        c.dateTest? ctx = some (.month op year month) ∧ ∃ p, c.compile ctx = .ok (some p) := by
  rw [compile_eq_compileDate hdate]
  refine ⟨fun p hcompile => ?_, period_of_compileDate_eq_none,
    fun op year month hop hne hvalue hyear hfirst hlast hperiod => ?_⟩
  · cases hop : c.operatorAmong ctx.strictness orderedOperators with
    | error e =>
      unfold compileDate at hcompile
      rw [hop] at hcompile
      exact absurd hcompile nofun
    | ok op =>
      by_cases hrange : op = .range
      · exact decidedBy_of_range (hrange ▸ hop) hcompile
      · exact decidedBy_of_ne_range hop hrange hcompile
  · obtain ⟨i, hi⟩ := DateInterval.exists_ofMonth?_period hyear hfirst hlast
    rw [dateTest?_of_ne_range hop hne, compileDate_of_ne_range hop hne, if_pos hvalue, if_pos hvalue, hperiod,
      Option.bind_some, Option.bind_some, DateInterval.monthOf?_period, hi]
    obtain ⟨p, hp⟩ := i.exists_predicate? (c.path ctx.target) (mem_of_operatorAmong hop) hne
    exact ⟨rfl, p, congrArg Except.ok hp⟩

/-- The condition that something is due by the end of the month of the processing period. -/
def dueByPeriod : Condition :=
  { fieldId := "due", fieldType := .datetime, searchValue := "handleMonth", operatorText := "<=", isDynamic := true }

/-- The processing of December. -/
def december : CompileContext := { target := .rows, now := .epoch, period := some "2023-12" }

/-- A row that is due. -/
def rowDue (text : String) : Json := .object [("items", .object [("due", .object [("value", .string text)])])]

/-- **December ends with the year**, behind its leap second. -/
theorem decidedBy_dateTest_december : ∃ p, dueByPeriod.compile december = .ok (some p)
    ∧ p.holds (rowDue "2023-12-31T23:59:60Z") = true ∧ p.holds (rowDue "2024-01-01") = false
    ∧ p.holds (rowDue "tomorrow") = false := by
  obtain ⟨hdecided, -, hperiod⟩ := @decidedBy_dateTest december dueByPeriod (.inr rfl)
  obtain ⟨htest, p, hp⟩ := hperiod .le 2023 12 (by decide) (by decide) (by decide) (by decide) (by decide) (by decide)
    (by decide)
  obtain ⟨test, htest', hdecides⟩ := hdecided p hp
  obtain rfl := Option.some.inj (htest.symm.trans htest')
  have hfield : ∀ text, Document.get? (dueByPeriod.path december.target) (rowDue text) = some (.string text) := by
    intro text
    rfl
  have hleap : (Instant.parse? "2023-12-31T23:59:60Z").map Instant.date = some ⟨2023, 12, 31⟩ := by decide +kernel
  have hnext : (Instant.parse? "2024-01-01").map Instant.date = some ⟨2024, 1, 1⟩ := by decide +kernel
  obtain ⟨s, hs, hsdate⟩ := Option.map_eq_some_iff.1 hleap
  obtain ⟨t, ht, htdate⟩ := Option.map_eq_some_iff.1 hnext
  refine ⟨p, hp, (hdecides.readable _ _ s (hfield _) hs).2 ?_, Bool.eq_false_iff.2 fun hholds => ?_,
    hdecides.unreadable _ _ (hfield _) nofun fun text htext => ?_⟩
  · rw [hsdate]
    exact le_rfl
  · have hmonth := (hdecides.readable _ _ t (hfield _) ht).1 hholds
    rw [htdate] at hmonth
    exact absurd hmonth (by simp [DateTest.Holds, Operator.Asks, Date.monthOfYear, Prod.Lex.toLex_le_toLex])
  · obtain rfl := Json.string.inj htext
    decide +kernel

end Condition

end Rollup
