import Mathlib.Data.Set.Basic
import Rollup.Proofs.Computing
import Rollup.Proofs.Matching

/-!
# What lists of conditions compile to

Taken alone, a condition says something, says nothing or makes no sense. Compiled leniently, a list of conditions is the
combination of what its members say alone (`CompiledFilter.means_of_lenient`): those that make no sense are counted and
left out, those that say nothing are left out, and it does not matter where in the list a condition stands or how often.
What a query adds is that the document must name one of the caller's access groups, whatever the conditions say.

Compiled strictly, a list comes to the same or is refused (`CompiledFilter.strict_restricts_lenient`). A condition asks
for its operator first, if its type has operators at all (`Condition.operators?`). Where the type supports the operator,
strictness plays no part any more (`Condition.compile_strict`); so what strict compiling refuses is an operator that
lenient compiling would take for equality, a condition that lenient compiling leaves out, or a combinator that it would
take for `or`.
-/

namespace Rollup

/-- The context with conditions that make no sense taken in some way. -/
def CompileContext.taking (ctx : CompileContext) (strictness : Strictness) : CompileContext :=
  { ctx with strictness }

namespace Condition

variable {ctx : CompileContext} {conditions : List Condition}

/-! ## Lenient compiling -/

/-- **What conditions say**: the predicates of those that, taken alone, make sense and say something. -/
def said (ctx : CompileContext) (conditions : List Condition) : Set Predicate :=
  {p | ∃ c ∈ conditions, c.compile ctx = .ok (some p)}

/-- Whether a condition, taken alone, makes no sense. -/
def isSenseless (ctx : CompileContext) (c : Condition) : Bool := !(c.compile ctx).isOk

/-- **That a document fulfils conditions** that are combined: they say nothing, or it matches all that they say or, for
any combinator but `and`, something of it. -/
def Fulfilled (ctx : CompileContext) (conditions : List Condition) (combinator : String) (document : Json) : Prop :=
  said ctx conditions = ∅
    ∨ combinator = "and" ∧ (∀ p ∈ said ctx conditions, p.holds document = true)
    ∨ combinator ≠ "and" ∧ ∃ p ∈ said ctx conditions, p.holds document = true

/-- What a condition says alone, if it says something. -/
def part? (ctx : CompileContext) (c : Condition) : Option Predicate :=
  match c.compile ctx with
  | .ok part => part
  | .error _ => none

/-- What a condition says is one of the things said. -/
theorem mem_filterMap_part?_iff {p : Predicate} :
    p ∈ conditions.filterMap (part? ctx) ↔ p ∈ said ctx conditions := by
  have hpart : ∀ c : Condition, c.part? ctx = some p ↔ c.compile ctx = .ok (some p) := by
    intro c
    unfold part?
    cases c.compile ctx with
    | error e => simp
    | ok part => simp
  simp only [List.mem_filterMap, said, Set.mem_ofPred_eq, hpart]

/-- **Compiled leniently, conditions are taken one by one**: what makes no sense is counted, and what each of the others
says is kept. -/
theorem compileEach_lenient (h : ctx.strictness = .lenient) (conditions : List Condition) :
    compileEach ctx conditions = .ok (conditions.filterMap (part? ctx), conditions.countP (isSenseless ctx)) := by
  induction conditions with
  | nil => rfl
  | cons c rest ih =>
    unfold compileEach
    rw [ih, h, List.filterMap_cons, List.countP_cons]
    unfold part? isSenseless
    cases c.compile ctx with
    | error e => rfl
    | ok part => cases part <;> rfl

end Condition

/-! ## Combining -/

/-- **That a value names one of some groups**: it is their text, or a number with that text. -/
def Json.Names (groups : List String) (j : Json) : Prop :=
  ∃ group ∈ groups, j = .string group ∨ ∃ n : Number, j = .number n ∧ n.text = group

/-- **That a document is of one of some groups**: its access groups name one, or are a list that does. -/
def Document.IsOf (groups : List String) (document : Json) : Prop :=
  ∃ owners, Document.get? ownersPath document = some owners
    ∧ (owners.Names groups ∨ ∃ items, owners = .array items ∧ ∃ item ∈ items, item.Names groups)

namespace Predicate

/-- Values that name a group are looked for. -/
theorem isAmong_iff {groups : List String} {j : Json} : isAmong groups j = true ↔ j.Names groups := by
  unfold Json.Names
  cases j with
  | string s => simp [isAmong]
  | number n => simp [isAmong, eq_comm]
  | _ => simp [isAmong]

/-- **A document is visible to the groups that it is of.** -/
theorem holds_among_ownersPath_iff {groups : List String} {document : Json} :
    (Predicate.among ownersPath groups).holds document = true ↔ Document.IsOf groups document := by
  show fieldIsAmong groups (Document.get? ownersPath document) = true ↔ _
  unfold Document.IsOf
  cases Document.get? ownersPath document with
  | none => simp [fieldIsAmong]
  | some owners =>
    cases owners with
    | array items =>
      have hlist : ¬ (Json.array items).Names groups := by simp [Json.Names]
      simp [fieldIsAmong, List.any_eq_true, isAmong_iff, hlist]
    | _ => simp [fieldIsAmong, isAmong_iff]

end Predicate

namespace CompiledFilter

open Condition (said isSenseless Fulfilled part?)

variable {ctx : CompileContext} {conditions others : List Condition} {combinator : String}

/-- **A filter that means the conditions** it is compiled from. -/
structure Means (f : CompiledFilter) (ctx : CompileContext) (conditions : List Condition) (combinator : String) :
    Prop where
  /-- It matches the documents that fulfil them. -/
  holds_iff : ∀ document, f.predicate.holds document = true ↔ Fulfilled ctx conditions combinator document
  /-- It counts those that make no sense. -/
  skipped : f.skipped = conditions.countP (isSenseless ctx)

/-- Combined predicates match as the combinator says. -/
theorem holds_combined_iff (parts : List Predicate) (combinator : String) (document : Json) :
    (match Combinator.lenient combinator with
      | .all => Predicate.allOf parts
      | .any => Predicate.anyOf parts).holds document = true
    ↔ parts = [] ∨ combinator = "and" ∧ (∀ p ∈ parts, p.holds document = true)
      ∨ combinator ≠ "and" ∧ ∃ p ∈ parts, p.holds document = true := by
  unfold Combinator.lenient
  by_cases hand : combinator = "and"
  · rw [if_pos hand]
    show (Predicate.allOf parts).holds document = true ↔ _
    rw [Predicate.holds_allOf, List.all_eq_true]
    constructor
    · exact fun hall => .inr (.inl ⟨hand, hall⟩)
    · rintro (rfl | ⟨-, hall⟩ | ⟨hne, -⟩)
      · exact fun p hp => absurd hp List.not_mem_nil
      · exact hall
      · exact absurd hand hne
  · rw [if_neg hand]
    show (Predicate.anyOf parts).holds document = true ↔ _
    rw [Predicate.holds_anyOf, Bool.or_eq_true, List.isEmpty_iff, List.any_eq_true]
    simp [hand]

/-- **Leniently compiled conditions mean what they say.** -/
theorem exists_ofConditions_means (ctx : CompileContext) (conditions : List Condition) (combinator : String) :
    ∃ f, ofConditions (ctx.taking .lenient) conditions combinator = .ok f
      ∧ f.Means (ctx.taking .lenient) conditions combinator := by
  unfold ofConditions
  rw [Condition.compileEach_lenient rfl]
  refine ⟨_, rfl, fun document => ?_, rfl⟩
  have hparts : conditions.filterMap (part? (ctx.taking .lenient)) = []
      ↔ said (ctx.taking .lenient) conditions = ∅ := by
    simp only [List.eq_nil_iff_forall_not_mem, Set.eq_empty_iff_forall_notMem, Condition.mem_filterMap_part?_iff]
  refine (holds_combined_iff _ combinator document).trans ?_
  unfold Fulfilled
  simp only [hparts, Condition.mem_filterMap_part?_iff]

/-- Where conditions stand in a list, and how often, plays no part in what they say. -/
theorem fulfilled_congr (h : ∀ c, c ∈ others ↔ c ∈ conditions) (document : Json) :
    Fulfilled ctx others combinator document ↔ Fulfilled ctx conditions combinator document := by
  have hsaid : said ctx others = said ctx conditions := by
    ext p
    simp only [said, Set.mem_ofPred_eq, h]
  unfold Fulfilled
  rw [hsaid]

/-- **A query matches what the caller may see of what fulfils its conditions.** -/
theorem exists_ofQuery_means {f : CompiledFilter} (h : ofConditions ctx conditions combinator = .ok f)
    (owners : List String) : ∃ g, ofQuery ctx conditions combinator owners = .ok g ∧ g.skipped = f.skipped
      ∧ g.touchesRelations = f.touchesRelations ∧ ∀ document, g.predicate.holds document = true
        ↔ Document.IsOf owners document ∧ f.predicate.holds document = true := by
  unfold ofQuery
  rw [h]
  refine ⟨_, rfl, rfl, rfl, fun document => ?_⟩
  dsimp only
  rw [Predicate.holds_allOf, List.all_cons, List.all_cons, List.all_nil, Bool.and_true, Bool.and_eq_true,
    Predicate.holds_among_ownersPath_iff]

/-- No document is of one of no groups. -/
theorem not_isOf_nil (document : Json) : ¬ Document.IsOf [] document := by
  simp [Document.IsOf, Json.Names]

/-- **Conditions mean the combination of what they say.** Compiled leniently, every list of conditions becomes a filter
that matches the documents that fulfil them and counts those that make no sense. Another list of the same conditions, in
whatever order and number, becomes a filter that matches the same documents, and counts as many if it is a reordering.
The filter of a query matches those of these documents that are of one of the caller's groups, so none for a caller
without groups. -/
theorem means_of_lenient (ctx : CompileContext) (conditions : List Condition) (combinator : String) :
    ∃ f, ofConditions (ctx.taking .lenient) conditions combinator = .ok f
      ∧ f.Means (ctx.taking .lenient) conditions combinator
      ∧ (∀ others, (∀ c, c ∈ others ↔ c ∈ conditions) →
        ∃ f', ofConditions (ctx.taking .lenient) others combinator = .ok f'
          ∧ (∀ document, f'.predicate.holds document = f.predicate.holds document)
          ∧ (others.Perm conditions → f'.skipped = f.skipped))
      ∧ ∀ owners, ∃ g, ofQuery (ctx.taking .lenient) conditions combinator owners = .ok g ∧ g.skipped = f.skipped
        ∧ (∀ document, g.predicate.holds document = true
          ↔ Document.IsOf owners document ∧ Fulfilled (ctx.taking .lenient) conditions combinator document)
        ∧ (owners = [] → ∀ document, g.predicate.holds document = false) := by
  obtain ⟨f, hf, hmeans⟩ := exists_ofConditions_means ctx conditions combinator
  refine ⟨f, hf, hmeans, fun others hothers => ?_, fun owners => ?_⟩
  · obtain ⟨f', hf', hmeans'⟩ := exists_ofConditions_means ctx others combinator
    refine ⟨f', hf', fun document => ?_, fun hperm => ?_⟩
    · rw [Bool.eq_iff_iff, hmeans'.holds_iff, hmeans.holds_iff, fulfilled_congr hothers]
    · rw [hmeans'.skipped, hmeans.skipped, hperm.countP_eq]
  · obtain ⟨g, hg, hskipped, -, hholds⟩ := exists_ofQuery_means hf owners
    refine ⟨g, hg, hskipped, fun document => ?_, ?_⟩
    · rw [hholds, hmeans.holds_iff]
    · rintro rfl document
      rw [Bool.eq_false_iff, Ne, hholds]
      exact fun hboth => not_isOf_nil document hboth.1

end CompiledFilter

/-! ## Strict compiling -/

namespace Condition

variable {ctx : CompileContext} {c : Condition} {conditions : List Condition}

/-- The operators that dynamic fields of a type support; none where no operator is asked for. -/
def dynamicOperators? : DataType → Option (List Operator)
  | .text | .textarea | .autonum | .lookup => some [.eq, .ne, .like]
  | .switch => some [.eq]
  | .options | .user => some [.eq, .ne, .among]
  | .number | .time | .date | .datetime => some [.eq, .ne, .gt, .ge, .lt, .le, .range]
  | .file | .function | .type | .check | .unknown => none

/-- The operators that static columns of a type support. -/
def staticOperators? : DataType → Option (List Operator)
  | .options | .type | .user => some [.eq, .ne, .among]
  | .check => some [.eq]
  | .date | .datetime => some [.eq, .ne, .gt, .ge, .lt, .le, .range]
  | _ => none

/-- **The operators that the field of a condition supports**; none where no operator is asked for. -/
def operators? (c : Condition) : Option (List Operator) :=
  if c.isDynamic then dynamicOperators? c.fieldType else staticOperators? c.fieldType

/-- **That a condition has an operator which its type does not support**, be it one that nothing spells. -/
def LacksOperator (c : Condition) : Prop :=
  ∃ ops, c.operators? = some ops ∧ ∀ op ∈ ops, c.operator? ≠ some op

/-- **That an operator is asked for first**, and that only there strictness plays a part. -/
def AsksFor {α : Type} (c : Condition) (ops : List Operator) (compiled : Strictness → Except CompileError α) : Prop :=
  ∃ rest, ∀ strictness, compiled strictness = (c.operatorAmong strictness ops).bind rest

/-- It is asked for first whatever is done with the result. -/
theorem AsksFor.map {α β : Type} {ops : List Operator} {compiled : Strictness → Except CompileError α}
    (h : c.AsksFor ops compiled) (f : α → β) : c.AsksFor ops fun strictness => f <$> compiled strictness := by
  obtain ⟨rest, hrest⟩ := h
  refine ⟨fun op => f <$> rest op, fun strictness => ?_⟩
  dsimp only
  rw [hrest]
  cases c.operatorAmong strictness ops <;> rfl

/-- A condition on a date asks for its operator first. -/
theorem compileDate_asksFor (ctx : CompileContext) (c : Condition) (path : String) :
    c.AsksFor orderedOperators fun strictness => c.compileDate (ctx.taking strictness) path := by
  unfold compileDate CompileContext.taking
  dsimp only
  exact ⟨_, fun _ => rfl⟩

/-- **Conditions on dynamic fields ask for their operator first.** -/
theorem compileDynamic_asksFor (ctx : CompileContext) (path : String) {ops : List Operator}
    (h : dynamicOperators? c.fieldType = some ops) :
    c.AsksFor ops fun strictness => c.compileDynamic (ctx.taking strictness) path := by
  unfold compileDynamic
  revert h
  cases c.fieldType with
  | text | textarea | autonum | lookup => rintro ⟨⟩; exact AsksFor.map ⟨_, fun _ => rfl⟩ some
  | switch => rintro ⟨⟩; exact AsksFor.map ⟨_, fun _ => rfl⟩ some
  | options | user => rintro ⟨⟩; exact AsksFor.map ⟨_, fun _ => rfl⟩ some
  | number | time => rintro ⟨⟩; exact AsksFor.map ⟨_, fun _ => rfl⟩ some
  | date | datetime => rintro ⟨⟩; exact compileDate_asksFor ctx c path
  | file | function | type | check | unknown => exact nofun

/-- **So do those on static columns.** -/
theorem compileStatic_asksFor (ctx : CompileContext) (path : String) {ops : List Operator}
    (h : staticOperators? c.fieldType = some ops) :
    c.AsksFor ops fun strictness => c.compileStatic (ctx.taking strictness) path := by
  unfold compileStatic
  revert h
  cases c.fieldType with
  | options | type | user => rintro ⟨⟩; exact AsksFor.map ⟨_, fun _ => rfl⟩ some
  | check => rintro ⟨⟩; exact ⟨_, fun _ => rfl⟩
  | date | datetime => rintro ⟨⟩; exact compileDate_asksFor ctx c path
  | _ => exact nofun

/-- **A condition asks for its operator first**, if its type has operators. -/
theorem exists_compile_eq (ctx : CompileContext) {ops : List Operator} (h : c.operators? = some ops) :
    ∃ rest, ∀ strictness, c.compile (ctx.taking strictness) = (c.operatorAmong strictness ops).bind rest := by
  unfold operators? at h
  unfold compile
  dsimp only
  split_ifs at h ⊢
  · exact compileDynamic_asksFor ctx (c.path ctx.target) h
  · exact compileStatic_asksFor ctx (c.path ctx.target) h

/-- **If it has none, strictness plays no part.** -/
theorem compile_taking_of_none (h : c.operators? = none) (strictness strictness' : Strictness) :
    c.compile (ctx.taking strictness) = c.compile (ctx.taking strictness') := by
  unfold operators? at h
  unfold compile
  dsimp only
  split_ifs at h ⊢
  · unfold compileDynamic
    revert h
    cases c.fieldType with
    | file | function | type | check | unknown => exact fun _ => rfl
    | _ => exact nofun
  · unfold compileStatic
    revert h
    cases c.fieldType with
    | options | type | user | check | date | datetime => exact nofun
    | _ => exact fun _ => rfl

/-- An operator that is supported is the one that is asked for. -/
theorem operatorAmong_of_mem {ops : List Operator} {op : Operator} (h : c.operator? = some op) (hop : op ∈ ops)
    (strictness : Strictness) : c.operatorAmong strictness ops = .ok op := by
  have hfilter : c.operator?.filter ops.contains = some op := by
    rw [h, Option.filter_eq_some_iff]
    exact ⟨rfl, List.contains_iff_mem.2 hop⟩
  unfold operatorAmong
  rw [hfilter]

/-- **Strictness plays no part where the operator is supported.** -/
theorem compile_strict (h : ¬ c.LacksOperator) : c.compile (ctx.taking .strict) = c.compile (ctx.taking .lenient) := by
  cases hops : c.operators? with
  | none => exact compile_taking_of_none hops _ _
  | some ops =>
    obtain ⟨op, hop, hsome⟩ : ∃ op ∈ ops, c.operator? = some op := by
      by_contra hnone
      exact h ⟨ops, hops, fun op hop hsome => hnone ⟨op, hop, hsome⟩⟩
    obtain ⟨rest, hrest⟩ := exists_compile_eq ctx hops
    rw [hrest, hrest, operatorAmong_of_mem hsome hop, operatorAmong_of_mem hsome hop]

/-- **Where it is not, strict compiling refuses the condition.** -/
theorem compile_strict_of_lacksOperator (h : c.LacksOperator) :
    c.compile (ctx.taking .strict) = .error (.unsupportedOperator c.fieldId c.fieldType c.operatorText) := by
  obtain ⟨ops, hops, hnone⟩ := h
  obtain ⟨rest, hrest⟩ := exists_compile_eq ctx hops
  have hfilter : c.operator?.filter ops.contains = none := by
    rw [Option.filter_eq_none_iff]
    exact fun op hop hmem => hnone op (List.contains_iff_mem.1 hmem) hop
  rw [hrest]
  unfold operatorAmong
  rw [hfilter]
  rfl

/-- A condition makes sense exactly where it compiles. -/
theorem isSenseless_eq_false_iff : c.isSenseless ctx = false ↔ ∃ part, c.compile ctx = .ok part := by
  unfold isSenseless
  cases c.compile ctx with
  | error e => simp [Except.isOk, Except.toBool]
  | ok part => simp [Except.isOk, Except.toBool]

/-- **Conditions compile strictly as they do leniently**, if all make sense and have operators that are supported. -/
theorem compileEach_strict (h : ∀ c ∈ conditions, ¬ c.LacksOperator ∧ c.isSenseless (ctx.taking .lenient) = false) :
    compileEach (ctx.taking .strict) conditions = compileEach (ctx.taking .lenient) conditions := by
  induction conditions with
  | nil => rfl
  | cons c rest ih =>
    obtain ⟨hop, hsense⟩ := h c List.mem_cons_self
    obtain ⟨part, hpart⟩ := isSenseless_eq_false_iff.1 hsense
    unfold compileEach
    rw [compile_strict hop, hpart, ih fun c hc => h c (List.mem_cons_of_mem _ hc)]

/-- Strict compiling refuses a condition whose operator is not supported or that makes no sense anyway. -/
theorem exists_compile_strict_eq_error (h : c.LacksOperator ∨ c.isSenseless (ctx.taking .lenient) = true) :
    ∃ e, c.compile (ctx.taking .strict) = .error e := by
  by_cases hlacks : c.LacksOperator
  · exact ⟨_, compile_strict_of_lacksOperator hlacks⟩
  · have hsenseless := h.resolve_left hlacks
    rw [compile_strict hlacks]
    cases hcompile : c.compile (ctx.taking .lenient) with
    | error e => exact ⟨e, rfl⟩
    | ok part => exact absurd hsenseless (by rw [isSenseless_eq_false_iff.2 ⟨part, hcompile⟩]; exact Bool.false_ne_true)

/-- **Otherwise they do not compile.** -/
theorem exists_compileEach_strict_eq_error
    (h : ∃ c ∈ conditions, c.LacksOperator ∨ c.isSenseless (ctx.taking .lenient) = true) :
    ∃ e, compileEach (ctx.taking .strict) conditions = .error e := by
  induction conditions with
  | nil =>
    obtain ⟨c, hc, -⟩ := h
    exact absurd hc List.not_mem_nil
  | cons c rest ih =>
    unfold compileEach
    cases hcompile : c.compile (ctx.taking .strict) with
    | error e => exact ⟨e, rfl⟩
    | ok part =>
      -- the first condition is taken, so another one is to blame
      have hrest : ∃ c ∈ rest, c.LacksOperator ∨ c.isSenseless (ctx.taking .lenient) = true := by
        obtain ⟨other, hother, hblame⟩ := h
        rcases List.mem_cons.1 hother with rfl | hother
        · obtain ⟨e, he⟩ := exists_compile_strict_eq_error hblame
          exact absurd (hcompile.symm.trans he) nofun
        · exact ⟨other, hother, hblame⟩
      obtain ⟨e, he⟩ := ih hrest
      rw [he]
      exact ⟨e, rfl⟩

end Condition

namespace CompiledFilter

open Condition (isSenseless)

variable {ctx : CompileContext} {conditions : List Condition} {combinator : String}

/-- **That strict compiling restricts lenient compiling**: what it gives is what lenient compiling gives, which has left
nothing out, and it fails exactly for a combinator that is none of the three, a condition left out and an operator that
is not supported. Lenient compiling never fails. -/
def Restricts (conditions : List Condition) (combinator : String)
    (strict lenient : Except CompileError CompiledFilter) : Prop :=
  ∃ f, lenient = .ok f ∧ (∀ g, strict = .ok g → g = f ∧ f.skipped = 0)
    ∧ ((∃ e, strict = .error e)
      ↔ combinator ∉ ["and", "or", ""] ∨ f.skipped ≠ 0 ∨ ∃ c ∈ conditions, c.LacksOperator)

/-- A combinator that is one of the three means the same to both. -/
theorem combinatorOf_strict (h : combinator ∈ ["and", "or", ""]) :
    combinatorOf .strict combinator = combinatorOf .lenient combinator := by
  simp only [List.mem_cons, List.not_mem_nil, or_false] at h
  rcases h with rfl | rfl | rfl <;> rfl

/-- Any other is refused. -/
theorem combinatorOf_strict_of_not_mem (h : combinator ∉ ["and", "or", ""]) :
    combinatorOf .strict combinator = .error (.unknownCombinator combinator) := by
  simp only [List.mem_cons, List.not_mem_nil, or_false, not_or] at h
  unfold combinatorOf Combinator.strict?
  simp [h]

/-- **What strict compiling refuses**: a combinator that it does not know, or a condition that has no operator or makes
no sense. -/
theorem exists_ofConditions_strict_eq_error (h : combinator ∉ ["and", "or", ""]
      ∨ ∃ c ∈ conditions, c.LacksOperator ∨ c.isSenseless (ctx.taking .lenient) = true) :
    ∃ e, ofConditions (ctx.taking .strict) conditions combinator = .error e := by
  unfold ofConditions
  by_cases hcombinator : combinator ∈ ["and", "or", ""]
  · obtain ⟨e, he⟩ := Condition.exists_compileEach_strict_eq_error (h.resolve_left (not_not.2 hcombinator))
    refine ⟨e, ?_⟩
    rw [show combinatorOf (ctx.taking .strict).strictness combinator = _ from combinatorOf_strict hcombinator, he]
    rfl
  · refine ⟨.unknownCombinator combinator, ?_⟩
    rw [show combinatorOf (ctx.taking .strict).strictness combinator = _ from
      combinatorOf_strict_of_not_mem hcombinator]
    rfl

/-- **What it does not refuse it compiles** as lenient compiling does. -/
theorem ofConditions_strict_eq_lenient (hcombinator : combinator ∈ ["and", "or", ""])
    (h : ∀ c ∈ conditions, ¬ c.LacksOperator ∧ c.isSenseless (ctx.taking .lenient) = false) :
    ofConditions (ctx.taking .strict) conditions combinator
      = ofConditions (ctx.taking .lenient) conditions combinator := by
  unfold ofConditions
  rw [show combinatorOf (ctx.taking .strict).strictness combinator = _ from combinatorOf_strict hcombinator,
    Condition.compileEach_strict h]
  rfl

/-- **Strict compiling of the conditions of a report** restricts lenient compiling. -/
theorem restricts_ofConditions (ctx : CompileContext) (conditions : List Condition) (combinator : String) :
    Restricts conditions combinator (ofConditions (ctx.taking .strict) conditions combinator)
      (ofConditions (ctx.taking .lenient) conditions combinator) := by
  obtain ⟨f, hf, hmeans⟩ := exists_ofConditions_means ctx conditions combinator
  have hskipped : f.skipped ≠ 0 ↔ ∃ c ∈ conditions, c.isSenseless (ctx.taking .lenient) = true := by
    rw [hmeans.skipped, ← Nat.pos_iff_ne_zero, List.countP_pos_iff]
  refine ⟨f, hf, ?_⟩
  by_cases hrefused : combinator ∉ ["and", "or", ""] ∨ f.skipped ≠ 0 ∨ ∃ c ∈ conditions, c.LacksOperator
  · have hblame : combinator ∉ ["and", "or", ""]
        ∨ ∃ c ∈ conditions, c.LacksOperator ∨ c.isSenseless (ctx.taking .lenient) = true := by
      rcases hrefused with hnot | hleft | ⟨c, hc, hlacks⟩
      · exact .inl hnot
      · obtain ⟨c, hc, hsenseless⟩ := hskipped.1 hleft
        exact .inr ⟨c, hc, .inr hsenseless⟩
      · exact .inr ⟨c, hc, .inl hlacks⟩
    obtain ⟨e, he⟩ := exists_ofConditions_strict_eq_error hblame
    exact ⟨fun g hg => absurd (he.symm.trans hg) nofun, iff_of_true ⟨e, he⟩ hrefused⟩
  · have hrefuses := hrefused
    simp only [not_or, not_not] at hrefused
    obtain ⟨hcombinator, hnone, hsupported⟩ := hrefused
    rw [ofConditions_strict_eq_lenient hcombinator fun c hc => ⟨fun hlacks => hsupported ⟨c, hc, hlacks⟩,
      Bool.eq_false_iff.2 fun hsenseless => hskipped.2 ⟨c, hc, hsenseless⟩ hnone⟩, hf]
    exact ⟨fun g hg => ⟨(Except.ok.inj hg).symm, hnone⟩, iff_of_false nofun hrefuses⟩

/-- **Strict compiling restricts lenient compiling**, for the conditions of a report and for those of a query. -/
theorem strict_restricts_lenient (ctx : CompileContext) (conditions : List Condition) (combinator : String)
    (owners : List String) :
    Restricts conditions combinator (ofConditions (ctx.taking .strict) conditions combinator)
        (ofConditions (ctx.taking .lenient) conditions combinator)
      ∧ Restricts conditions combinator (ofQuery (ctx.taking .strict) conditions combinator owners)
        (ofQuery (ctx.taking .lenient) conditions combinator owners) := by
  have hconditions := restricts_ofConditions ctx conditions combinator
  refine ⟨hconditions, ?_⟩
  obtain ⟨f, hf, hagrees, hfails⟩ := hconditions
  unfold ofQuery
  rw [hf]
  refine ⟨_, rfl, ?_⟩
  cases hstrict : ofConditions (ctx.taking .strict) conditions combinator with
  | error e =>
    rw [hstrict] at hfails
    exact ⟨nofun, iff_of_true ⟨e, rfl⟩ (hfails.1 ⟨e, rfl⟩)⟩
  | ok g =>
    obtain ⟨rfl, hnone⟩ := hagrees g hstrict
    rw [hstrict] at hfails
    refine ⟨fun g' hg' => ⟨(Except.ok.inj hg').symm, hnone⟩, iff_of_false nofun fun hrefused => ?_⟩
    exact absurd (hfails.2 hrefused) nofun

end CompiledFilter

end Rollup
