import Rollup.Plan.Key
import Rollup.Proofs.Matching
import Rollup.Proofs.TupleKey

/-!
# What conditions can tell apart

A condition looks at one field. Where two documents have the field at any two paths, and no test that the
condition can make tells its values apart, the condition means the same for both
(`Condition.map_holds_compile`), and so do lists of conditions (`CompiledFilter.map_holds_ofConditions`).

Equal values cannot be told apart at all. Values that agree as parts of a group key can be told apart by `in`
only, which compares the texts of numbers (`Condition.seesAlike_of_canonical`).
-/

namespace Rollup

open Document (canonical)

namespace Condition

/-- **No test that a condition can make tells two values apart.** -/
structure SeesAlike (c : Condition) (v w : Option Json) : Prop where
  /-- Comparisons do not. -/
  compares : ∀ (comparison : Comparison) (operand : Operand),
    comparison.holdsField operand v = comparison.holdsField operand w
  /-- Looking for a part does not. -/
  contains : ∀ part : String, Predicate.fieldHasPart part v = Predicate.fieldHasPart part w
  /-- Looking for anything does not. -/
  filled : Predicate.isFilled v = Predicate.isFilled w
  /-- Looking in a list does not, if the condition does so. -/
  among : c.operator? = some .among → ∀ values : List String,
    Predicate.fieldIsAmong values v = Predicate.fieldIsAmong values w

/-- Equal values cannot be told apart. -/
theorem SeesAlike.refl (c : Condition) (v : Option Json) : c.SeesAlike v v :=
  ⟨fun _ _ => rfl, fun _ => rfl, rfl, fun _ _ => rfl⟩

/-- Only a condition that looks in a list is taken for one. -/
theorem operator?_of_operatorAmong {c : Condition} {strictness : Strictness} {allowed : List Operator}
    (h : c.operatorAmong strictness allowed = .ok .among) : c.operator? = some .among := by
  unfold operatorAmong at h
  split at h
  · next op hop =>
    obtain rfl := Except.ok.inj h
    exact (Option.filter_eq_some_iff.1 hop).1
  · exact absurd (Except.ok.inj h) (by decide)
  · exact absurd h nofun

/-- Steps that come to the same after every first step do so after it. -/
theorem map_bind_congr {ε α β β' γ : Type} {x : Except ε α} {f : α → Except ε β} {g : α → Except ε β'}
    {u : β → γ} {v : β' → γ} (h : ∀ a, (f a).map u = (g a).map v) :
    (x >>= f).map u = (x >>= g).map v := by
  cases x with
  | error e => rfl
  | ok a => exact h a

/-- Results that come to the same still do when they are there. -/
theorem map_some_congr {ε α β γ : Type} {x : Except ε α} {y : Except ε β} {u : α → γ} {v : β → γ}
    (h : x.map u = y.map v) : (some <$> x).map (Option.map u) = (some <$> y).map (Option.map v) := by
  have hsome : ∀ {α : Type} (x : Except ε α) (u : α → γ),
      (some <$> x).map (Option.map u) = (x.map u).map some := fun x u => by cases x <;> rfl
  rw [hsome, hsome, h]

section Compiling

variable {c : Condition} {path path' : String} {d d' : Json}
  (h : c.SeesAlike (Document.get? path d) (Document.get? path' d'))
include h

/-- Comparing comes to the same. -/
theorem SeesAlike.holds_compare (comparison : Comparison) (operand : Operand) :
    (Predicate.compare path comparison operand).holds d
      = (Predicate.compare path' comparison operand).holds d' := h.compares comparison operand

/-- So does a range. -/
theorem SeesAlike.holds_between (low high : Operand) :
    (between path low high).holds d = (between path' low high).holds d' := by
  unfold between
  rw [Predicate.holds_allOf, Predicate.holds_allOf]
  simp only [List.all_cons, List.all_nil, h.holds_compare]

/-- So does comparing with an interval. -/
theorem SeesAlike.map_holds_predicate? (i : DateInterval) (op : Operator) :
    (i.predicate? path op).map (Predicate.holds d) = (i.predicate? path' op).map (Predicate.holds d') := by
  cases op <;>
    simp only [DateInterval.predicate?, Option.map_some, Option.map_none, Predicate.holds_allOf,
      Predicate.holds_anyOf, List.all_cons, List.all_nil, List.any_cons, List.any_nil, h.holds_compare,
      List.isEmpty_cons]

/-- A condition on a text means the same. -/
theorem SeesAlike.map_holds_compileText (strictness : Strictness) :
    (c.compileText strictness path).map (Predicate.holds d)
      = (c.compileText strictness path').map (Predicate.holds d') := by
  refine map_bind_congr fun op => ?_
  cases op with
  | like => exact congrArg Except.ok (h.contains c.searchValue)
  | _ => exact congrArg Except.ok (h.compares _ _)

/-- A condition on a truth value means the same. -/
theorem SeesAlike.map_holds_compileSwitch (strictness : Strictness) :
    (c.compileSwitch strictness path).map (Predicate.holds d)
      = (c.compileSwitch strictness path').map (Predicate.holds d') := by
  refine map_bind_congr fun op => ?_
  dsimp only
  split
  · exact congrArg Except.ok (h.compares _ _)
  · split
    · exact congrArg Except.ok (h.compares _ _)
    · rfl

/-- A condition on an enumerated value means the same. -/
theorem SeesAlike.map_holds_compileMembership (strictness : Strictness) :
    (c.compileMembership strictness path).map (Predicate.holds d)
      = (c.compileMembership strictness path').map (Predicate.holds d') := by
  unfold compileMembership
  cases hop : c.operatorAmong strictness [.eq, .ne, .among] with
  | error e => rfl
  | ok op =>
    cases op with
    | among => exact congrArg Except.ok (h.among (operator?_of_operatorAmong hop) c.listedValues)
    | ne => exact congrArg Except.ok (h.compares _ _)
    | _ =>
      show Except.map _ (ite _ _ _) = Except.map _ (ite _ _ _)
      split
      · exact congrArg Except.ok (h.compares _ _)
      · exact congrArg Except.ok (h.compares _ _)

/-- A condition on an ordered type means the same. -/
theorem SeesAlike.map_holds_compileOrdered (strictness : Strictness)
    (operand? : String → Option Operand) :
    (c.compileOrdered strictness path operand?).map (Predicate.holds d)
      = (c.compileOrdered strictness path' operand?).map (Predicate.holds d') := by
  refine map_bind_congr fun op => ?_
  cases op with
  | range => exact map_bind_congr fun bounds => map_bind_congr fun low => map_bind_congr fun high =>
      congrArg Except.ok (h.holds_between low high)
  | _ => exact map_bind_congr fun operand => congrArg Except.ok (h.compares _ operand)

/-- A condition on a date means the same. -/
theorem SeesAlike.map_holds_compileDate (ctx : CompileContext) :
    (c.compileDate ctx path).map (Option.map (Predicate.holds d))
      = (c.compileDate ctx path').map (Option.map (Predicate.holds d')) := by
  refine map_bind_congr fun op => ?_
  have hday : ∀ op : Operator, (if Text.trim c.searchValue = "handleMonth" then
        return (ctx.period.bind DateInterval.ofMonth?).bind fun month => month.predicate? path op
      else do
        let day ← c.sensible (dayOf? ctx.now (Text.trim c.searchValue))
        return day.predicate? path op : Except CompileError (Option Predicate)).map
          (Option.map (Predicate.holds d))
      = (if Text.trim c.searchValue = "handleMonth" then
        return (ctx.period.bind DateInterval.ofMonth?).bind fun month => month.predicate? path' op
      else do
        let day ← c.sensible (dayOf? ctx.now (Text.trim c.searchValue))
        return day.predicate? path' op : Except CompileError (Option Predicate)).map
          (Option.map (Predicate.holds d')) := by
    intro op
    split
    · refine congrArg Except.ok ?_
      cases ctx.period.bind DateInterval.ofMonth? with
      | none => rfl
      | some month => exact h.map_holds_predicate? month op
    · exact map_bind_congr fun day => congrArg Except.ok (h.map_holds_predicate? day op)
  cases op with
  | range => exact map_bind_congr fun bounds => map_bind_congr fun low => map_bind_congr fun high =>
      congrArg (fun holds => Except.ok (some holds)) (h.holds_between (.instant low.start)
        (.instant high.start))
  | _ => exact hday _

/-- A condition on a dynamic field means the same. -/
theorem SeesAlike.map_holds_compileDynamic (ctx : CompileContext) :
    (c.compileDynamic ctx path).map (Option.map (Predicate.holds d))
      = (c.compileDynamic ctx path').map (Option.map (Predicate.holds d')) := by
  unfold compileDynamic
  cases c.fieldType with
  | text | textarea | autonum | lookup => exact map_some_congr (h.map_holds_compileText _)
  | switch => exact map_some_congr (h.map_holds_compileSwitch _)
  | file =>
    refine congrArg (fun holds => Except.ok (some holds)) ?_
    show (Predicate.isFilled _ == _) = (Predicate.isFilled _ == _)
    rw [h.filled]
  | options | user => exact map_some_congr (h.map_holds_compileMembership _)
  | number | time => exact map_some_congr (h.map_holds_compileOrdered _ _)
  | date | datetime => exact h.map_holds_compileDate ctx
  | function | type | check | unknown => rfl

/-- A condition on a static column means the same. -/
theorem SeesAlike.map_holds_compileStatic (ctx : CompileContext) :
    (c.compileStatic ctx path).map (Option.map (Predicate.holds d))
      = (c.compileStatic ctx path').map (Option.map (Predicate.holds d')) := by
  unfold compileStatic
  cases c.fieldType with
  | options | type | user => exact map_some_congr (h.map_holds_compileMembership _)
  | check => exact map_bind_congr fun op =>
      congrArg (fun holds => Except.ok (some holds)) (h.compares _ _)
  | date | datetime => exact h.map_holds_compileDate ctx
  | _ => rfl

end Compiling

end Condition

/-- **A condition on a key** of a report. -/
def Condition.IsOn (c : Condition) (k : Key) : Prop :=
  c.fieldId = k.fieldId ∧ c.isDynamic = k.isItem

/-- Such a condition looks where rows have the value of the key. -/
theorem Condition.IsOn.path_rows {c : Condition} {k : Key} (h : c.IsOn k) : c.path .rows = k.valuePath := by
  unfold Condition.path Key.valuePath
  rw [h.1, h.2]

/-- **Contexts that differ in nothing but what predicates are for.** -/
structure CompileContext.Like (ctx ctx' : CompileContext) : Prop where
  /-- The same instant is meant by `now`. -/
  now : ctx.now = ctx'.now
  /-- The processing period is the same. -/
  period : ctx.period = ctx'.period
  /-- Conditions that make no sense are taken the same way. -/
  strictness : ctx.strictness = ctx'.strictness

section Lists

variable {ctx ctx' : CompileContext} (hctx : ctx.Like ctx') {d d' : Json}
include hctx

/-- **A condition means the same** where the values of its field are seen alike. -/
theorem Condition.map_holds_compile {c : Condition} (h : c.SeesAlike
    (Document.get? (c.path ctx.target) d) (Document.get? (c.path ctx'.target) d')) :
    (c.compile ctx).map (Option.map (Predicate.holds d))
      = (c.compile ctx').map (Option.map (Predicate.holds d')) := by
  have hlike : ∀ path, c.compileDynamic ctx' path = c.compileDynamic ctx path
      ∧ c.compileStatic ctx' path = c.compileStatic ctx path := by
    intro path
    unfold compileDynamic compileStatic compileDate
    rw [hctx.now, hctx.period, hctx.strictness]
    exact ⟨rfl, rfl⟩
  unfold compile
  dsimp only
  rw [(hlike _).1, (hlike _).2]
  split
  · exact h.map_holds_compileDynamic ctx
  · exact h.map_holds_compileStatic ctx

omit hctx in
/-- **One more condition that means the same** leaves lists of conditions that mean the same, be it to a failure. -/
theorem Condition.map_holds_append {parts parts' : Except CompileError (List Predicate × ℕ)}
    (hparts : parts.map (Prod.map (List.map (Predicate.holds d)) id)
      = parts'.map (Prod.map (List.map (Predicate.holds d')) id)) (part part' : Option Predicate)
    (hpart : part.map (Predicate.holds d) = part'.map (Predicate.holds d')) (n : ℕ) :
    (parts.bind fun found => .ok (part.toList ++ found.1, found.2 + n)).map (Prod.map (List.map (Predicate.holds d)) id)
      = (parts'.bind fun found => .ok (part'.toList ++ found.1, found.2 + n)).map
        (Prod.map (List.map (Predicate.holds d')) id) := by
  cases parts with
  | error e =>
    cases parts' with
    | error e' => exact congrArg Except.error (Except.error.inj hparts)
    | ok found' => cases hparts
  | ok found =>
    cases parts' with
    | error e' => cases hparts
    | ok found' =>
      obtain ⟨hfound, hskipped⟩ := Prod.mk.inj (Except.ok.inj hparts)
      have hfront : part.toList.map (Predicate.holds d) = part'.toList.map (Predicate.holds d') := by
        rw [← Option.toList_map, hpart, Option.toList_map]
      refine congrArg Except.ok (Prod.ext ?_ (congrArg (· + n) hskipped))
      show (part.toList ++ found.1).map _ = (part'.toList ++ found'.1).map _
      rw [List.map_append, List.map_append, hfront, hfound]

/-- **Conditions mean the same one by one**, and as many of them make no sense. -/
theorem Condition.map_holds_compileEach {conditions : List Condition} (h : ∀ c ∈ conditions,
    c.SeesAlike (Document.get? (c.path ctx.target) d) (Document.get? (c.path ctx'.target) d')) :
    (compileEach ctx conditions).map (Prod.map (List.map (Predicate.holds d)) id)
      = (compileEach ctx' conditions).map (Prod.map (List.map (Predicate.holds d')) id) := by
  induction conditions with
  | nil => rfl
  | cons c rest ih =>
    have hfirst := map_holds_compile hctx (h c List.mem_cons_self)
    replace ih := ih fun c hc => h c (List.mem_cons_of_mem _ hc)
    unfold compileEach
    rw [← hctx.strictness]
    generalize c.compile ctx = x, c.compile ctx' = x' at hfirst ⊢
    cases x with
    | error e =>
      cases x' with
      | error e' =>
        obtain rfl := Except.error.inj hfirst
        cases ctx.strictness with
        | lenient => exact map_holds_append ih none none rfl 1
        | strict => rfl
      | ok part' => cases hfirst
    | ok part =>
      cases x' with
      | error e' => cases hfirst
      | ok part' =>
        cases ctx.strictness <;> exact map_holds_append ih part part' (Except.ok.inj hfirst) 0

/-- **Lists of conditions mean the same**, however they are combined. -/
theorem CompiledFilter.map_holds_ofConditions {conditions : List Condition} {combinator : String}
    (h : ∀ c ∈ conditions,
      c.SeesAlike (Document.get? (c.path ctx.target) d) (Document.get? (c.path ctx'.target) d')) :
    (ofConditions ctx conditions combinator).map (fun f => f.predicate.holds d)
      = (ofConditions ctx' conditions combinator).map fun f => f.predicate.holds d' := by
  have heach := Condition.map_holds_compileEach hctx h
  unfold ofConditions
  rw [hctx.strictness]
  refine Condition.map_bind_congr fun combinator => ?_
  revert heach
  generalize Condition.compileEach ctx conditions = y, Condition.compileEach ctx' conditions = y'
  intro heach
  cases y with
  | error e =>
    cases y' with
    | error e' => exact congrArg Except.error (Except.error.inj heach)
    | ok parts' => exact absurd heach nofun
  | ok parts =>
    cases y' with
    | error e' => exact absurd heach nofun
    | ok parts' =>
      have hparts := (Prod.mk.inj (Except.ok.inj heach)).1
      refine congrArg Except.ok ?_
      cases combinator with
      | all =>
        show (Predicate.allOf parts.1).holds d = (Predicate.allOf parts'.1).holds d'
        rw [Predicate.holds_allOf, Predicate.holds_allOf]
        have hall := congrArg (List.all · id) hparts
        rwa [List.all_map, List.all_map] at hall
      | any =>
        show (Predicate.anyOf parts.1).holds d = (Predicate.anyOf parts'.1).holds d'
        rw [Predicate.holds_anyOf, Predicate.holds_anyOf]
        have hempty := congrArg List.isEmpty hparts
        have hany := congrArg (List.any · id) hparts
        rw [List.isEmpty_map, List.isEmpty_map] at hempty
        rw [List.any_map, List.any_map] at hany
        rw [hempty]
        exact congrArg _ hany

end Lists

/-- **Without conditions everything matches**, where the combinator is understood. -/
theorem CompiledFilter.exists_ofConditions_nil_of_combinatorOf {ctx : CompileContext} {combinator : String}
    {c : Combinator} (h : combinatorOf ctx.strictness combinator = .ok c) :
    ∃ bare, ofConditions ctx [] combinator = .ok bare ∧ bare.predicate = .everything
      ∧ bare.touchesRelations = false := by
  unfold ofConditions
  rw [h]
  cases c <;> exact ⟨_, rfl, rfl, rfl⟩

/-- It is understood where some conditions compile. -/
theorem CompiledFilter.exists_ofConditions_nil {ctx : CompileContext} {conditions : List Condition}
    {combinator : String} {f : CompiledFilter} (h : ofConditions ctx conditions combinator = .ok f) :
    ∃ bare, ofConditions ctx [] combinator = .ok bare ∧ bare.predicate = .everything
      ∧ bare.touchesRelations = false := by
  cases hcombinator : combinatorOf ctx.strictness combinator with
  | error e =>
    unfold ofConditions at h
    rw [hcombinator] at h
    exact absurd h nofun
  | ok c => exact exists_ofConditions_nil_of_combinatorOf hcombinator

/-! ## Values of group keys -/

open Document (canonicalValue canonicalItems_eq_map canonicalValue_number)

/-- The text of a value is that of its canonical form. -/
theorem Json.asString?_canonicalValue (j : Json) : (canonicalValue j).asString? = j.asString? := by
  cases j with
  | number n => rw [canonicalValue_number]; rfl
  | _ => rfl

/-- **A value compares like its canonical form.** -/
theorem Operand.order?_canonicalValue (j : Json) (operand : Operand) :
    order? (canonicalValue j) operand = order? j operand := by
  cases j with
  | number n =>
    rw [canonicalValue_number]
    cases operand <;> rfl
  | array items =>
    show order? (.array (Document.canonicalItems items)) operand = _
    rw [canonicalItems_eq_map]
    cases operand with
    | list values =>
      show (if (items.map canonicalValue).map Json.asString? = values.map some then _ else _) = _
      rw [List.map_map, show Json.asString? ∘ canonicalValue = Json.asString? from
        funext Json.asString?_canonicalValue]
      rfl
    | _ => rfl
  | _ => rfl

namespace Comparison

/-- A value that is there compares like its canonical form, items one by one. -/
theorem holdsValue_canonicalValue (c : Comparison) (operand : Operand) (j : Json) :
    c.holdsValue operand (canonicalValue j) = c.holdsValue operand j := by
  cases j with
  | array items =>
    have hitems : canonicalValue (.array items) = .array (items.map canonicalValue) :=
      congrArg Json.array (canonicalItems_eq_map items)
    have hwhole : Operand.order? (.array (items.map canonicalValue)) operand
        = Operand.order? (.array items) operand := by
      rw [← hitems]
      exact Operand.order?_canonicalValue _ _
    rw [hitems]
    cases operand with
    | list values =>
      unfold holdsValue
      dsimp only
      rw [hwhole]
    | _ =>
      cases c <;>
        simp only [holdsValue, List.any_map, Function.comp_def, Operand.order?_canonicalValue]
  | number n =>
    have horder := Operand.order?_canonicalValue (.number n) operand
    rw [canonicalValue_number] at horder ⊢
    exact congrArg c.holds horder
  | _ => rfl

/-- **A field compares like its canonical form.** -/
theorem holdsField_canonical (c : Comparison) (operand : Operand) (v : Option Json) :
    c.holdsField operand (some (canonical v)) = c.holdsField operand v := by
  cases v with
  | none => rfl
  | some j =>
    have hvalue := holdsValue_canonicalValue c operand j
    cases j with
    | number n =>
      show c.holdsField operand (some (canonicalValue (.number n))) = c.holdsValue operand (.number n)
      rw [canonicalValue_number] at hvalue ⊢
      exact hvalue
    | array items => exact hvalue
    | null | bool | string | object => rfl

end Comparison

namespace Predicate

/-- Whether a value has a part shows in its canonical form. -/
theorem fieldHasPart_canonical (part : String) (v : Option Json) :
    fieldHasPart part (some (canonical v)) = fieldHasPart part v := by
  have hvalue : ∀ j, hasPart part (canonicalValue j) = hasPart part j := fun j => by
    cases j with
    | number n => rw [canonicalValue_number]; rfl
    | _ => rfl
  cases v with
  | none => rfl
  | some j =>
    cases j with
    | array items =>
      show (Document.canonicalItems items).any (hasPart part) = items.any (hasPart part)
      rw [canonicalItems_eq_map, List.any_map]
      exact congrArg items.any (funext hvalue)
    | number n =>
      show fieldHasPart part (some (canonicalValue (.number n))) = _
      rw [canonicalValue_number]
      rfl
    | _ => rfl

/-- Whether a field holds something shows in its canonical form. -/
theorem isFilled_canonical (v : Option Json) : isFilled (some (canonical v)) = isFilled v := by
  cases v with
  | none => rfl
  | some j =>
    cases j with
    | array items => cases items <;> rfl
    | number n =>
      show isFilled (some (canonicalValue (.number n))) = _
      rw [canonicalValue_number]
      rfl
    | _ => rfl

end Predicate

/-! ### Numbers in lists -/

/-- Whether a value is a number. -/
def Json.isNumber : Json → Bool
  | .number _ => true
  | _ => false

namespace Predicate

/-- Whether a field is a number or a list that holds one. -/
def hasNumber : Option Json → Bool
  | some (.array items) => items.any Json.isNumber
  | some j => j.isNumber
  | none => false

/-- A value that is no number is looked for like its canonical form. -/
theorem isAmong_canonicalValue {j : Json} (h : j.isNumber = false) (values : List String) :
    isAmong values (canonicalValue j) = isAmong values j := by
  cases j with
  | number n => exact absurd h.symm Bool.false_ne_true
  | _ => rfl

/-- **A field without numbers is looked for like its canonical form.** -/
theorem fieldIsAmong_canonical {v : Option Json} (h : hasNumber v = false) (values : List String) :
    fieldIsAmong values (some (canonical v)) = fieldIsAmong values v := by
  cases v with
  | none => rfl
  | some j =>
    cases j with
    | array items =>
      show (Document.canonicalItems items).any (isAmong values) = items.any (isAmong values)
      rw [canonicalItems_eq_map, List.any_map]
      have hitems : ∀ item ∈ items, item.isNumber = false :=
        fun item hitem => Bool.eq_false_iff.2 (List.any_eq_false.1 h item hitem)
      rw [Bool.eq_iff_iff, List.any_eq_true, List.any_eq_true]
      exact exists_congr fun item => and_congr_right fun hitem =>
        Bool.eq_iff_iff.1 (isAmong_canonicalValue (hitems item hitem) values)
    | number n => exact absurd h.symm Bool.false_ne_true
    | _ => rfl

end Predicate

/-- **Values that agree as parts of a group key are told apart by `in` only**, and then they hold numbers. -/
theorem Condition.seesAlike_of_canonical {c : Condition} {v w : Option Json} (h : canonical v = canonical w)
    (hc : c.operator? = some .among → Predicate.hasNumber v = false ∧ Predicate.hasNumber w = false) :
    c.SeesAlike v w where
  compares comparison operand := by
    rw [← comparison.holdsField_canonical, h, comparison.holdsField_canonical]
  contains part := by
    rw [← Predicate.fieldHasPart_canonical, h, Predicate.fieldHasPart_canonical]
  filled := by
    rw [← Predicate.isFilled_canonical, h, Predicate.isFilled_canonical]
  among hamong values := by
    obtain ⟨hv, hw⟩ := hc hamong
    rw [← Predicate.fieldIsAmong_canonical hv, h, Predicate.fieldIsAmong_canonical hw]

end Rollup
