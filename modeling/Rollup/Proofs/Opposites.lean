import Rollup.Proofs.CalendarDays
import Rollup.Proofs.Compiling

/-!
# Equality and its opposite

A field type that has the operator `<>` also has `=`, and of every document one would say that it fulfils exactly one of
two conditions which differ in nothing but that. Comparing element by element keeps to this: whatever a field holds, and
be it missing, it equals an operand or differs from it (`Comparison.holdsField_ne`).

Two kinds of conditions are not compiled to such comparisons, and there it depends on what the field holds
(`Condition.opposites_iff_divides`). A condition on a date compares with the two ends of an interval, and what is
neither before nor behind an instant fulfils no condition: a field without a date is not on the day, nor on another one.
A condition on a static column takes equality for that of the whole list with the listed values, but difference for that
of each item with the search text.
-/

namespace Rollup

/-- **To differ is not to equal**, whatever the field holds and whatever it is compared with. -/
theorem Comparison.holdsField_ne (operand : Operand) (field : Option Json) :
    ne.holdsField operand field = !eq.holdsField operand field := by
  cases field with
  | none => rfl
  | some j =>
    cases j with
    | null => rfl
    | array items =>
      cases operand with
      | list values => rfl
      | _ => rfl
    | _ => rfl

/-! ## Fields compared with instants -/

/-- The instant that a value spells. -/
def Json.instant? : Json → Option Instant
  | .string s => Instant.parse? s
  | _ => none

/-- **The instants that a field spells**, itself or, if it is a list, with its items. -/
def Json.instants : Option Json → List Instant
  | some (.array items) => items.filterMap Json.instant?
  | some j => j.instant?.toList
  | none => []

/-- **A field is compared with an instant by the instants that it spells.** -/
theorem Comparison.holdsField_instant {c : Comparison} (hc : c = .ge ∨ c = .lt) (s : Instant) (field : Option Json) :
    c.holdsField (.instant s) field = (Json.instants field).any fun t => c.holds (some (t.order s)) := by
  have horder : ∀ j : Json, Operand.order? j (.instant s) = j.instant?.map fun t => t.order s := by
    intro j
    cases j <;> rfl
  have hvalue : ∀ j : Json,
      c.holds (Operand.order? j (.instant s)) = j.instant?.any fun t => c.holds (some (t.order s)) := by
    intro j
    rw [horder]
    cases j.instant? with
    | none => rcases hc with rfl | rfl <;> rfl
    | some t => rfl
  have hsingle : ∀ (t? : Option Instant) (test : Instant → Bool), t?.toList.any test = t?.any test := by
    intro t? test
    cases t? <;> simp
  cases field with
  | none => rcases hc with rfl | rfl <;> rfl
  | some j =>
    cases j with
    | null => rcases hc with rfl | rfl <;> rfl
    | array items =>
      have hitems : c.holdsField (.instant s) (some (.array items))
          = items.any fun item => c.holds (Operand.order? item (.instant s)) := by
        rcases hc with rfl | rfl <;> rfl
      rw [hitems]
      show _ = (items.filterMap Json.instant?).any _
      rw [List.any_filterMap]
      exact congrArg items.any (funext hvalue)
    | _ => exact (hvalue _).trans (hsingle _ _).symm

/-- **To lie on one side**: things lie within two bounds and not outside, or outside and not within, exactly if there
are some and they all are below, the same or above. -/
theorem within_ne_outside_iff {α : Type} [LinearOrder α] (values : List α) (x : α) :
    ¬ (((∃ v ∈ values, x ≤ v) ∧ ∃ v ∈ values, v ≤ x) ↔ ((∃ v ∈ values, v < x) ∨ ∃ v ∈ values, x < v))
      ↔ values ≠ [] ∧ ((∀ v ∈ values, v < x) ∨ (∀ v ∈ values, v = x) ∨ ∀ v ∈ values, x < v) := by
  constructor
  · intro hsides
    by_contra hmixed
    refine hsides ?_
    rcases eq_or_ne values [] with rfl | hne
    · simp
    · simp only [hne, ne_eq, not_false_eq_true, true_and, not_or, not_forall, not_lt] at hmixed
      obtain ⟨⟨low, hlow, hfromLow⟩, ⟨other, hother, hdiffers⟩, ⟨high, hhigh, hfromHigh⟩⟩ := hmixed
      refine iff_of_true ⟨⟨low, hlow, hfromLow⟩, high, hhigh, hfromHigh⟩ ?_
      rcases lt_or_gt_of_ne hdiffers with hlt | hgt
      · exact .inl ⟨other, hother, hlt⟩
      · exact .inr ⟨other, hother, hgt⟩
  · rintro ⟨hne, hside⟩ hsame
    obtain ⟨v, hv⟩ := List.exists_mem_of_ne_nil values hne
    rcases hside with hbelow | hequal | habove
    · obtain ⟨⟨w, hw, hle⟩, -⟩ := hsame.2 (.inl ⟨v, hv, hbelow v hv⟩)
      exact absurd (hbelow w hw) (not_lt.2 hle)
    · rcases hsame.1 ⟨⟨v, hv, (hequal v hv).ge⟩, v, hv, (hequal v hv).le⟩ with ⟨w, hw, hlt⟩ | ⟨w, hw, hlt⟩
      · exact absurd (hequal w hw) hlt.ne
      · exact absurd (hequal w hw) hlt.ne'
    · obtain ⟨-, w, hw, hle⟩ := hsame.2 (.inr ⟨v, hv, habove v hv⟩)
      exact absurd (habove w hw) (not_lt.2 hle)

/-- Every operator has its own spelling. -/
theorem Operator.ofText?_text (op : Operator) : ofText? op.text = some op := by
  cases op <;> decide

/-! ## Equations -/

/-- **What a condition equates a field with.** -/
inductive Equation where
  /-- With a value: that of the field or of an item of it. -/
  | value (operand : Operand)
  /-- With a list of texts, the field being compared as a whole; to differ from a text is to differ in each item. -/
  | listed (values : List String) (text : String)
  /-- With the instants of an interval. -/
  | within (interval : DateInterval)

/-- What an equation says of the field at a path with `=`, and with `<>`. -/
def Equation.predicate? (path : String) (op : Operator) : Equation → Option Predicate
  | .value operand => some (.compare path (Condition.comparisonOf op) operand)
  | .listed values text =>
    some (if op = .ne then .compare path .ne (.text text) else .compare path .eq (.list values))
  | .within interval => interval.predicate? path op

namespace Condition

variable {ctx : CompileContext} {c : Condition} {op : Operator} {ops : List Operator}

/-- The condition with another operator. -/
def withOperator (c : Condition) (text : String) : Condition := { c with operatorText := text }

/-- **What a condition equates its field with**, if it makes sense and says something. -/
def equation (ctx : CompileContext) (c : Condition) : Except CompileError (Option Equation) :=
  match c.fieldType with
  | .number =>
    (c.sensible ((parseFloat? (Text.trim c.searchValue)).map .number)).map fun operand => some (.value operand)
  | .time => .ok (some (.value (.text (Text.trim c.searchValue))))
  | .date | .datetime =>
    if Text.trim c.searchValue = "handleMonth" then .ok ((ctx.period.bind DateInterval.ofMonth?).map .within)
    else (c.sensible (dayOf? ctx.now (Text.trim c.searchValue))).map fun day => some (.within day)
  | _ => .ok (some (if c.isDynamic then .value (.text c.searchValue) else .listed c.listedValues c.searchValue))

/-- A condition on an ordered type with an operator other than a range. -/
theorem compileOrdered_of_ne_range {strictness : Strictness} {path : String} {operand? : String → Option Operand}
    (hop : c.operatorAmong strictness orderedOperators = .ok op) (hne : op ≠ .range) :
    c.compileOrdered strictness path operand?
      = (c.sensible (operand? (Text.trim c.searchValue))).map (Predicate.compare path (comparisonOf op)) := by
  unfold compileOrdered
  rw [hop]
  dsimp only [bind, Except.bind]
  split
  · exact absurd rfl hne
  · cases c.sensible (operand? (Text.trim c.searchValue)) <;> rfl

/-- A condition on a date equates its field with an interval. -/
theorem equation_of_date (hdate : c.fieldType = .date ∨ c.fieldType = .datetime) :
    c.equation ctx = if Text.trim c.searchValue = "handleMonth" then
      .ok ((ctx.period.bind DateInterval.ofMonth?).map .within)
    else (c.sensible (dayOf? ctx.now (Text.trim c.searchValue))).map fun day => some (.within day) := by
  unfold equation
  rcases hdate with h | h <;> rw [h]

/-- With an operator other than a range it says its equation. -/
theorem compileDate_eq_equation {path : String} (hdate : c.fieldType = .date ∨ c.fieldType = .datetime)
    (hop : c.operatorAmong ctx.strictness orderedOperators = .ok op) (hne : op ≠ .range) :
    c.compileDate ctx path = (c.equation ctx).map fun e => e.bind (Equation.predicate? path op) := by
  rw [compileDate_of_ne_range hop hne, equation_of_date hdate]
  split_ifs
  · cases ctx.period.bind DateInterval.ofMonth? <;> rfl
  · cases c.sensible (dayOf? ctx.now (Text.trim c.searchValue)) <;> rfl

/-- **With `=` and with `<>` a condition on a dynamic field says its equation.** -/
theorem compileDynamic_eq_equation {path : String} (hdynamic : c.isDynamic = true)
    (hdate : ¬ (c.fieldType = .date ∨ c.fieldType = .datetime)) (hops : dynamicOperators? c.fieldType = some ops)
    (hne : .ne ∈ ops) (hop : c.operator? = some op) (heq : op = .eq ∨ op = .ne) :
    c.compileDynamic ctx path = (c.equation ctx).map fun e => e.bind (Equation.predicate? path op) := by
  have hasks : ∀ ops : List Operator, .eq ∈ ops → .ne ∈ ops → c.operatorAmong ctx.strictness ops = .ok op :=
    fun ops heqMem hneMem => operatorAmong_of_mem hop (by rcases heq with rfl | rfl <;> assumption) _
  have hrange : op ≠ .range := by rcases heq with rfl | rfl <;> decide
  unfold compileDynamic equation
  revert hdate hops
  cases c.fieldType with
  | text | textarea | autonum | lookup =>
    intro _ _
    unfold compileText
    rw [hasks _ (by decide) (by decide), hdynamic]
    rcases heq with rfl | rfl <;> rfl
  | options | user =>
    intro _ _
    unfold compileMembership
    rw [hasks _ (by decide) (by decide), hdynamic]
    rcases heq with rfl | rfl <;> rfl
  | number =>
    intro _ _
    dsimp only
    rw [compileOrdered_of_ne_range (hasks _ (by decide) (by decide)) hrange]
    cases c.sensible ((parseFloat? (Text.trim c.searchValue)).map Operand.number) <;> rfl
  | time =>
    intro _ _
    dsimp only
    rw [compileOrdered_of_ne_range (hasks _ (by decide) (by decide)) hrange]
    rfl
  | date => exact fun hdate => absurd (.inl rfl) hdate
  | datetime => exact fun hdate => absurd (.inr rfl) hdate
  | switch =>
    rintro - ⟨⟩
    exact absurd hne (by decide)
  | file | function | type | check | unknown => exact fun _ => nofun

/-- **So it does on a static column.** -/
theorem compileStatic_eq_equation {path : String} (hdynamic : c.isDynamic = false)
    (hdate : ¬ (c.fieldType = .date ∨ c.fieldType = .datetime)) (hops : staticOperators? c.fieldType = some ops)
    (hne : .ne ∈ ops) (hop : c.operator? = some op) (heq : op = .eq ∨ op = .ne) :
    c.compileStatic ctx path = (c.equation ctx).map fun e => e.bind (Equation.predicate? path op) := by
  unfold compileStatic equation
  revert hdate hops
  cases c.fieldType with
  | options | type | user =>
    intro _ _
    unfold compileMembership
    rw [operatorAmong_of_mem hop (by rcases heq with rfl | rfl <;> decide), hdynamic]
    rcases heq with rfl | rfl <;> rfl
  | date => exact fun hdate => absurd (.inl rfl) hdate
  | datetime => exact fun hdate => absurd (.inr rfl) hdate
  | check =>
    rintro - ⟨⟩
    exact absurd hne (by decide)
  | _ => exact fun _ => nofun

/-- **With `=` and with `<>` a condition says its equation.** -/
theorem compile_eq_equation (hops : c.operators? = some ops) (hne : .ne ∈ ops) (hop : c.operator? = some op)
    (heq : op = .eq ∨ op = .ne) :
    c.compile ctx = (c.equation ctx).map fun e => e.bind (Equation.predicate? (c.path ctx.target) op) := by
  -- dates are compiled alike, on dynamic fields and on static columns
  by_cases hdate : c.fieldType = .date ∨ c.fieldType = .datetime
  · have hordered : c.operatorAmong ctx.strictness orderedOperators = .ok op :=
      operatorAmong_of_mem hop (by rcases heq with rfl | rfl <;> decide) _
    rw [compile_eq_compileDate hdate, compileDate_eq_equation hdate hordered (by rcases heq with rfl | rfl <;> decide)]
  · unfold operators? at hops
    unfold compile
    dsimp only
    split_ifs at hops ⊢ with hdynamic
    · exact compileDynamic_eq_equation hdynamic hdate hops hne hop heq
    · exact compileStatic_eq_equation (Bool.eq_false_iff.2 hdynamic) hdate hops hne hop heq

/-- An equation that makes sense can be said with either operator. -/
theorem exists_predicate? (e : Equation) (path : String) :
    ∃ p q, e.predicate? path .eq = some p ∧ e.predicate? path .ne = some q := by
  cases e <;> exact ⟨_, _, rfl, rfl⟩

end Condition

/-! ## Fields that are divided -/

namespace Json

/-- **That a field is the listed values**: a list of just these texts or, if it is a single one, this text. -/
def IsListed (values : List String) (field : Option Json) : Prop :=
  field = some (.ofStrings values) ∨ ∃ value, values = [value] ∧ field = some (.string value)

/-- **That a field has a text**: it is this text, or a list with it. -/
def HasText (text : String) (field : Option Json) : Prop :=
  field = some (.string text) ∨ ∃ items, field = some (.array items) ∧ .string text ∈ items

end Json

namespace Comparison

open Json (IsListed HasText)

/-- Texts compare as equal exactly if they are. -/
theorem order?_text_iff {j : Json} {text : String} : Operand.order? j (.text text) = some .eq ↔ j = .string text := by
  cases j <;> simp [Operand.order?]

/-- A field equals a text if it has it. -/
theorem holdsField_text_iff {text : String} {field : Option Json} :
    eq.holdsField (.text text) field = true ↔ HasText text field := by
  unfold HasText
  cases field with
  | none => simp [holdsField]
  | some j =>
    cases j with
    | null => simp [holdsField]
    | array items => simp [holdsField, holdsValue, holds, order?_text_iff]
    | _ => simp [holdsField, holdsValue, holds, order?_text_iff]

/-- Values are some texts exactly if they are texts and these are the same. -/
theorem map_asString?_iff {items : List Json} {values : List String} :
    items.map Json.asString? = values.map some ↔ items = values.map .string := by
  induction items generalizing values with
  | nil => cases values <;> simp
  | cons item rest ih =>
    cases values with
    | nil => simp
    | cons value values =>
      have hitem : item.asString? = some value ↔ item = .string value := by
        cases item <;> simp [Json.asString?]
      rw [List.map_cons, List.map_cons, List.map_cons, List.cons.injEq, List.cons.injEq, hitem, ih]

/-- Anything but a list compares as equal with a list of one text only, and if it is that text. -/
theorem order?_list_iff {j : Json} (hj : ∀ items, j ≠ .array items) {values : List String} :
    Operand.order? j (.list values) = some .eq ↔ ∃ value, values = [value] ∧ j = .string value := by
  cases j with
  | array items => exact absurd rfl (hj items)
  | string s =>
    match values with
    | [] => simp [Operand.order?]
    | [value] => simp [Operand.order?]
    | _ :: _ :: _ => simp [Operand.order?]
  | _ => simp [Operand.order?]

/-- **A field equals a list if it is what the list lists.** -/
theorem holdsField_list_iff {values : List String} {field : Option Json} :
    eq.holdsField (.list values) field = true ↔ IsListed values field := by
  unfold IsListed Json.ofStrings
  cases field with
  | none => simp [holdsField]
  | some j =>
    cases j with
    | null => simp [holdsField]
    | array items => simp [holdsField, holdsValue, Operand.order?, map_asString?_iff]
    | _ => simp [holdsField, holdsValue, holds, order?_list_iff]

end Comparison

/-! ### Days -/

namespace DateInterval

variable {α : Type} [LinearOrder α] {i : DateInterval} {value : Date → α} {common : α} {path : String}
  {document : Json} {p q : Predicate}

/-- **A field is divided by an interval** exactly if it spells instants and all of them lie on the same side. -/
theorem divides_iff (h : i.IsAll value common) (hp : i.predicate? path .eq = some p)
    (hq : i.predicate? path .ne = some q) : p.holds document ≠ q.holds document
      ↔ Json.instants (Document.get? path document) ≠ [] ∧ ∃ op ∈ [Operator.lt, .eq, .gt],
        ∀ t ∈ Json.instants (Document.get? path document), op.Asks (value t.date) common := by
  obtain rfl := Option.some.inj hp
  obtain rfl := Option.some.inj hq
  generalize hinstants : Json.instants (Document.get? path document) = instants
  have hge : ∀ s, (Predicate.compare path .ge (.instant s)).holds document
      = instants.any fun t => Comparison.ge.holds (some (t.order s)) := by
    intro s
    rw [← hinstants]
    exact Comparison.holdsField_instant (.inl rfl) s _
  have hlt : ∀ s, (Predicate.compare path .lt (.instant s)).holds document
      = instants.any fun t => Comparison.lt.holds (some (t.order s)) := by
    intro s
    rw [← hinstants]
    exact Comparison.holdsField_instant (.inr rfl) s _
  -- both bounds are compared by what the instants of the interval have in common, so this is about that order alone
  have hsides := within_ne_outside_iff (instants.map fun t => value t.date) common
  simp only [List.mem_map, exists_exists_and_eq_and, forall_exists_index, and_imp, forall_apply_eq_imp_iff₂, ne_eq,
    List.map_eq_nil_iff] at hsides
  rw [Ne, Bool.eq_iff_iff, Predicate.holds_allOf, Predicate.holds_anyOf]
  simp only [List.all_cons, List.all_nil, List.any_cons, List.any_nil, List.isEmpty_cons, Bool.and_true, Bool.or_false,
    Bool.false_or, Bool.and_eq_true, Bool.or_eq_true, hge, hlt, List.any_eq_true, h.start, h.stop, h.before, h.behind]
  rw [hsides]
  simp [Operator.Asks]

end DateInterval

/-! ## Conditions -/

namespace Condition

variable {ctx : CompileContext} {c : Condition} {ops : List Operator} {e n : String} {document : Json} {p q : Predicate}

/-- **That a field lies on one side of the day or the month of a condition**: it spells instants, and the days of all of
them are before it, or all on it, or all behind it. -/
def LiesAside (ctx : CompileContext) (c : Condition) (field : Option Json) : Prop :=
  Json.instants field ≠ [] ∧ ∃ op ∈ [Operator.lt, .eq, .gt], ∃ test, (c.withOperator op.text).dateTest? ctx = some test
    ∧ ∀ t ∈ Json.instants field, test.Holds t.date

/-- **That a condition divides a field**, fulfilled either with `=` or with `<>`: one on a date, that it lies on one
side; one on a static column, that it has the search text exactly if it is the listed values. -/
def Divides (ctx : CompileContext) (c : Condition) (field : Option Json) : Prop :=
  if c.fieldType = .date ∨ c.fieldType = .datetime then c.LiesAside ctx field
  else c.isDynamic = true ∨ (Json.IsListed c.listedValues field ↔ Json.HasText c.searchValue field)

/-- The operator of a condition that is no range is the one that its text spells. -/
theorem operator?_withOperator (hrange : c.conditionType ≠ rangeType) (text : String) :
    (c.withOperator text).operator? = Operator.ofText? text :=
  if_neg hrange

/-- Another operator is asked for among the same ones, of the same field, and does not change the equation. -/
theorem operators?_withOperator (text : String) : (c.withOperator text).operators? = c.operators? := rfl

theorem path_withOperator (target : CompileTarget) (text : String) :
    (c.withOperator text).path target = c.path target := rfl

theorem sensible_withOperator {α : Type} (text : String) (value : Option α) :
    (c.withOperator text).sensible value = c.sensible value := by
  cases value <;> rfl

theorem equation_withOperator (text : String) : (c.withOperator text).equation ctx = c.equation ctx := by
  unfold equation
  simp only [sensible_withOperator]
  rfl

/-- A condition divides a field by what the instants of its interval have in common. -/
theorem liesAside_of_isAll {α : Type} [LinearOrder α] {i : DateInterval} {value : Date → α} {common : α} {path : String}
    (h : i.IsAll value common) (hp : i.predicate? path .eq = some p) (hq : i.predicate? path .ne = some q)
    (htests : ∀ op ∈ [Operator.lt, .eq, .gt], ∃ test, (c.withOperator op.text).dateTest? ctx = some test
      ∧ ∀ d, test.Holds d ↔ op.Asks (value d) common) :
    p.holds document ≠ q.holds document ↔ c.LiesAside ctx (Document.get? path document) := by
  rw [DateInterval.divides_iff h hp hq]
  refine and_congr_right fun _ => exists_congr fun op => and_congr_right fun hop => ?_
  -- the test of each operator is known, so that some test is passed says that this one is
  obtain ⟨test, htest, hholds⟩ := htests op hop
  simp only [htest, Option.some.injEq, exists_eq_left', hholds]

/-- **A condition on a date divides the fields that lie on one side.** -/
theorem holds_ne_iff_liesAside {i : DateInterval} {path : String} (hrange : c.conditionType ≠ rangeType)
    (hdate : c.fieldType = .date ∨ c.fieldType = .datetime) (he : c.equation ctx = .ok (some (.within i)))
    (hp : i.predicate? path .eq = some p) (hq : i.predicate? path .ne = some q) :
    p.holds document ≠ q.holds document ↔ c.LiesAside ctx (Document.get? path document) := by
  have htests : ∀ op ∈ [Operator.lt, .eq, .gt], (c.withOperator op.text).dateTest? ctx
      = if Text.trim c.searchValue = "handleMonth" then
        (ctx.period.bind DateInterval.monthOf?).map fun month => .month op month.1 month.2
      else (dayMeant? ctx.now (Text.trim c.searchValue)).map (.day op) := by
    intro op hop
    obtain ⟨hmem, hne⟩ : op ∈ orderedOperators ∧ op ≠ .range := by revert op; decide
    have hspelt : (c.withOperator op.text).operator? = some op :=
      (operator?_withOperator hrange _).trans op.ofText?_text
    exact dateTest?_of_ne_range (operatorAmong_of_mem hspelt hmem _) hne
  rw [equation_of_date hdate] at he
  split_ifs at he with hvalue
  · obtain ⟨interval, hmonth, hi⟩ := Option.map_eq_some_iff.1 (Except.ok.inj he)
    obtain rfl := Equation.within.inj hi
    obtain ⟨period, hperiod, hmonth⟩ := Option.bind_eq_some_iff.1 hmonth
    obtain ⟨month, hvalueOf, hall⟩ := DateInterval.isAll_of_ofMonth? hmonth
    refine liesAside_of_isAll hall hp hq fun op hop => ⟨.month op month.1 month.2, ?_, fun _ => Iff.rfl⟩
    rw [htests op hop, if_pos hvalue, hperiod, Option.bind_some, hvalueOf]
    rfl
  · obtain ⟨day, hday, he⟩ := exists_of_map_eq_ok he
    obtain rfl := Equation.within.inj (Option.some.inj he)
    obtain ⟨d, hd, hall⟩ := exists_dayMeant (eq_some_of_sensible hday)
    refine liesAside_of_isAll hall hp hq fun op hop => ⟨.day op d, ?_, fun _ => Iff.rfl⟩
    rw [htests op hop, if_neg hvalue, hd]
    rfl

/-- An equation of a date is with an interval. -/
theorem exists_within {x : Equation} (hdate : c.fieldType = .date ∨ c.fieldType = .datetime)
    (hx : c.equation ctx = .ok (some x)) : ∃ i, x = .within i := by
  rw [equation_of_date hdate] at hx
  split_ifs at hx
  · obtain ⟨i, -, rfl⟩ := Option.map_eq_some_iff.1 (Except.ok.inj hx)
    exact ⟨i, rfl⟩
  · obtain ⟨day, -, hx⟩ := exists_of_map_eq_ok hx
    exact ⟨day, (Option.some.inj hx).symm⟩

/-- Any other is with a value or, on a static column, with a list. -/
theorem exists_value_or_eq_listed {x : Equation} (hdate : ¬ (c.fieldType = .date ∨ c.fieldType = .datetime))
    (hops : c.operators? = some ops) (hx : c.equation ctx = .ok (some x)) :
    c.isDynamic = true ∧ (∃ operand, x = .value operand)
      ∨ c.isDynamic = false ∧ x = .listed c.listedValues c.searchValue := by
  unfold operators? at hops
  unfold equation at hx
  revert hdate hops hx
  cases hdynamic : c.isDynamic with
  | true =>
    refine fun hdate hops hx => .inl ⟨rfl, ?_⟩
    rw [if_pos rfl] at hops
    revert hdate hops hx
    cases c.fieldType with
    | number =>
      intro _ _ hx
      obtain ⟨operand, -, hx⟩ := exists_of_map_eq_ok hx
      exact ⟨operand, (Option.some.inj hx).symm⟩
    | date => exact fun hdate => absurd (.inl rfl) hdate
    | datetime => exact fun hdate => absurd (.inr rfl) hdate
    | _ => exact fun _ _ hx => ⟨_, (Option.some.inj (Except.ok.inj hx)).symm⟩
  | false =>
    refine fun hdate hops hx => .inr ⟨rfl, ?_⟩
    rw [if_neg Bool.false_ne_true] at hops
    revert hdate hops hx
    cases c.fieldType with
    | options | type | user | check => exact fun _ _ hx => (Option.some.inj (Except.ok.inj hx)).symm
    | date => exact fun hdate => absurd (.inl rfl) hdate
    | datetime => exact fun hdate => absurd (.inr rfl) hdate
    | _ => exact fun _ => nofun

/-- A missing or `null` field compares as different only. -/
theorem holds_compare_of_missing {path : String} (hfield : Document.get? path document = none
    ∨ Document.get? path document = some .null) (comparison : Comparison) (operand : Operand) :
    (Predicate.compare path comparison operand).holds document = (comparison == .ne) := by
  rw [Predicate.holds]
  rcases hfield with h | h <;> rw [h] <;> rfl

/-- **What an equation says of a missing field**: with `=` it never holds, with `<>` it does but for an interval. -/
theorem holds_of_missing {x : Equation} {path : String} (hp : x.predicate? path .eq = some p)
    (hq : x.predicate? path .ne = some q) (hfield : Document.get? path document = none
      ∨ Document.get? path document = some .null) :
    p.holds document = false ∧ (q.holds document = true ↔ ∀ i, x ≠ .within i) := by
  have hcompare := fun comparison operand => holds_compare_of_missing hfield comparison operand
  cases x with
  | value operand =>
    obtain rfl := Option.some.inj hp
    obtain rfl := Option.some.inj hq
    simp [hcompare, comparisonOf]
  | listed values text =>
    obtain rfl := Option.some.inj hp
    obtain rfl := Option.some.inj hq
    simp [hcompare]
  | within i =>
    obtain rfl := Option.some.inj hp
    obtain rfl := Option.some.inj hq
    simp [hcompare, Predicate.holds_allOf, Predicate.holds_anyOf]

/-- **What an equation says divides a field** exactly if the condition does. -/
theorem holds_ne_iff_divides {x : Equation} {path : String} (hrange : c.conditionType ≠ rangeType)
    (hops : c.operators? = some ops) (hx : c.equation ctx = .ok (some x)) (hp : x.predicate? path .eq = some p)
    (hq : x.predicate? path .ne = some q) :
    p.holds document ≠ q.holds document ↔ c.Divides ctx (Document.get? path document) := by
  unfold Divides
  split_ifs with hdate
  · obtain ⟨i, rfl⟩ := exists_within hdate hx
    exact holds_ne_iff_liesAside hrange hdate hx hp hq
  · rcases exists_value_or_eq_listed hdate hops hx with ⟨hdynamic, operand, rfl⟩ | ⟨hstatic, rfl⟩
    · obtain rfl := Option.some.inj hp
      obtain rfl := Option.some.inj hq
      refine iff_of_true ?_ (.inl hdynamic)
      show Comparison.eq.holdsField _ _ ≠ Comparison.ne.holdsField _ _
      rw [Comparison.holdsField_ne]
      exact (Bool.not_ne_self _).symm
    · obtain rfl := Option.some.inj hp
      obtain rfl := Option.some.inj hq
      show Comparison.eq.holdsField _ _ ≠ Comparison.ne.holdsField _ _ ↔ _
      rw [Comparison.holdsField_ne, hstatic, ← Comparison.holdsField_list_iff, ← Comparison.holdsField_text_iff,
        ← Bool.eq_iff_iff, Bool.ne_not]
      simp

/-- **Equality and its opposite.** If a condition that is no range and whose type supports `<>` compiles to a predicate
with `=` or with `<>`, it does with both, in whatever spelling, and a document matches exactly one of the two predicates
exactly if the condition divides its field. A missing or `null` field never equals anything; it differs from everything
but dates. -/
theorem opposites_iff_divides (hrange : c.conditionType ≠ rangeType) (hops : c.operators? = some ops) (hne : .ne ∈ ops)
    (he : Operator.ofText? e = some .eq) (hn : Operator.ofText? n = some .ne)
    (hcompiles : ∃ text ∈ [e, n], ∃ p, (c.withOperator text).compile ctx = .ok (some p)) :
    ∃ p q, (c.withOperator e).compile ctx = .ok (some p) ∧ (c.withOperator n).compile ctx = .ok (some q)
      ∧ ∀ document, (p.holds document ≠ q.holds document ↔ c.Divides ctx (Document.get? (c.path ctx.target) document))
        ∧ (Document.get? (c.path ctx.target) document = none ∨ Document.get? (c.path ctx.target) document = some .null →
          p.holds document = false
            ∧ (q.holds document = true ↔ ¬ (c.fieldType = .date ∨ c.fieldType = .datetime))) := by
  have hcompile : ∀ text op, Operator.ofText? text = some op → (op = .eq ∨ op = .ne) →
      (c.withOperator text).compile ctx
        = (c.equation ctx).map fun x => x.bind (Equation.predicate? (c.path ctx.target) op) := by
    intro text op hop heq
    have hcompiled := @compile_eq_equation ctx (c.withOperator text) _ _ ((operators?_withOperator text).trans hops) hne
      ((operator?_withOperator hrange text).trans hop) heq
    rwa [equation_withOperator, path_withOperator] at hcompiled
  obtain ⟨x, hx⟩ : ∃ x, c.equation ctx = .ok (some x) := by
    obtain ⟨text, htext, p, hp⟩ := hcompiles
    obtain ⟨op, hcompiled⟩ : ∃ op, (c.withOperator text).compile ctx
        = (c.equation ctx).map fun x => x.bind (Equation.predicate? (c.path ctx.target) op) := by
      rcases List.mem_pair.1 htext with rfl | rfl
      · exact ⟨.eq, hcompile _ .eq he (.inl rfl)⟩
      · exact ⟨.ne, hcompile _ .ne hn (.inr rfl)⟩
    rw [hcompiled] at hp
    obtain ⟨part, hpart, hp⟩ := exists_of_map_eq_ok hp
    obtain ⟨x, rfl, -⟩ := Option.bind_eq_some_iff.1 hp
    exact ⟨x, hpart⟩
  obtain ⟨p, q, hp, hq⟩ := exists_predicate? x (c.path ctx.target)
  refine ⟨p, q, ?_, ?_, fun document => ⟨holds_ne_iff_divides hrange hops hx hp hq, fun hfield => ?_⟩⟩
  · rw [hcompile e .eq he (.inl rfl), hx]
    exact congrArg Except.ok hp
  · rw [hcompile n .ne hn (.inr rfl), hx]
    exact congrArg Except.ok hq
  · obtain ⟨hpfalse, hqtrue⟩ := holds_of_missing hp hq hfield
    refine ⟨hpfalse, hqtrue.trans ⟨fun hnot hdate => ?_, fun hdate i hi => ?_⟩⟩
    · obtain ⟨i, hi⟩ := exists_within hdate hx
      exact hnot i hi
    · rcases exists_value_or_eq_listed hdate hops hx with ⟨-, operand, hvalue⟩ | ⟨-, hlisted⟩
      · exact absurd (hi.symm.trans hvalue) nofun
      · exact absurd (hi.symm.trans hlisted) nofun

/-- The condition that something is due today, or not. -/
def dueToday : Condition :=
  { fieldId := "due", fieldType := .date, searchValue := "now", isDynamic := true }

/-- **A row that is due today is divided, one without a date is not**: neither is it due today nor not. -/
theorem dueToday_divides : ∃ p q, (dueToday.withOperator "=").compile december = .ok (some p)
    ∧ (dueToday.withOperator "<>").compile december = .ok (some q)
    ∧ p.holds (rowDue "1970-01-01") ≠ q.holds (rowDue "1970-01-01")
    ∧ p.holds (.object []) = false ∧ q.holds (.object []) = false := by
  obtain ⟨p, q, hp, hq, hdivides⟩ := @opposites_iff_divides december dueToday orderedOperators "=" "<>" (by decide)
    rfl (by decide) (by decide) (by decide) ⟨"=", by decide, _, rfl⟩
  obtain ⟨hnever, honly⟩ := (hdivides (.object [])).2 (.inl rfl)
  have hday : (Instant.parse? "1970-01-01").map Instant.date = some ⟨1970, 1, 1⟩ := by decide +kernel
  obtain ⟨t, ht, hdate⟩ := Option.map_eq_some_iff.1 hday
  have hinstants : Json.instants (Document.get? (dueToday.path december.target) (rowDue "1970-01-01")) = [t] :=
    congrArg Option.toList ht
  refine ⟨p, q, hp, hq, (hdivides _).1.2 ?_, hnever, Bool.eq_false_iff.2 fun hholds => honly.1 hholds (.inl rfl)⟩
  rw [Divides, if_pos (.inl rfl), LiesAside, hinstants]
  refine ⟨List.cons_ne_nil _ _, .eq, by decide, .day .eq ⟨1970, 1, 1⟩, by decide, fun t' ht' => ?_⟩
  obtain rfl := List.mem_singleton.1 ht'
  rw [hdate]
  rfl

/-- The condition that the types of an item are two, or that no type is. -/
def twoTypes : Condition := { fieldId := "check_type", fieldType := .type, searchValue := "a,b" }

/-- **What is not divided.** A row without a date is neither due today nor not, and an item of two types has just these
and none of them. -/
theorem not_divided : (∃ p q, (dueToday.withOperator "=").compile december = .ok (some p)
      ∧ (dueToday.withOperator "<>").compile december = .ok (some q)
      ∧ p.holds (.object []) = false ∧ q.holds (.object []) = false)
    ∧ ∃ p q, (twoTypes.withOperator "=").compile december = .ok (some p)
      ∧ (twoTypes.withOperator "<>").compile december = .ok (some q)
      ∧ p.holds (.object [("check_type", .ofStrings ["a", "b"])]) = true
      ∧ q.holds (.object [("check_type", .ofStrings ["a", "b"])]) = true :=
  ⟨⟨_, _, rfl, rfl, rfl, rfl⟩, _, _, rfl, rfl, by decide +kernel, by decide +kernel⟩

end Condition

end Rollup
