import Rollup.Formula.Eval
import Rollup.Proofs.Computing
import Rollup.Proofs.Keyed
import Rollup.Proofs.Projecting

/-!
# Formulas that are read do not go wrong

Reading a formula looks at every call in it, also at one that no evaluation would come to, and refuses those of unknown
operations and those with too few or too many operands. So in an expression that is read, every call has as many
operands as its operation takes (`Expr.readsSound_ofJson`), and what is left to go wrong when it is evaluated is in the
values of operands: one is of the wrong kind, or a divisor is zero (`Expr.Sound.safe`). No operand that is looked for is
missing.

An operation that spreads `null` gives it as soon as one operand has it, before anything is asked of the others
(`Expr.eval_call_of_null`).
-/

namespace Rollup

namespace Formula

/-! ## Parts of expressions -/

namespace Expr

/-- The expressions of which another is made. -/
def parts : Expr → List Expr
  | .literal _ => []
  | .field _ => []
  | .list items => items
  | .record members => members.map Prod.snd
  | .call _ operands => operands

/-- **That an expression stands in another**, at whatever depth, or is this. -/
inductive IsPart : Expr → Expr → Prop where
  /-- It is this expression. -/
  | self (e : Expr) : IsPart e e
  /-- It stands in one of those of which the other is made. -/
  | within {part inner e : Expr} (hinner : inner ∈ e.parts) (hpart : IsPart part inner) : IsPart part e

/-- **That a call has as many operands as its operation takes**; other expressions have none. -/
def Fits : Expr → Prop
  | .call op operands => op.takes operands.length = true
  | _ => True

/-- **A sound expression**: all calls that stand in it have as many operands as their operations take. -/
def Sound (e : Expr) : Prop := ∀ part : Expr, part.IsPart e → part.Fits

variable {e part : Expr}

/-- What stands in a part of an expression stands in it. -/
theorem IsPart.trans {inner : Expr} (h : inner.IsPart part) (hpart : part.IsPart e) : inner.IsPart e := by
  induction hpart with
  | self => exact h
  | within hinner _ ih => exact .within hinner ih

/-- The parts of a sound expression are sound. -/
theorem Sound.of_isPart (h : e.Sound) (hpart : part.IsPart e) : part.Sound :=
  fun _ hinner => h _ (hinner.trans hpart)

/-- So are the expressions of which it is made. -/
theorem Sound.of_mem (h : e.Sound) (hpart : part ∈ e.parts) : part.Sound :=
  h.of_isPart (.within hpart (.self part))

/-- **Sound expressions are made of sound ones.** -/
theorem sound_of_parts (hfits : e.Fits) (hparts : ∀ part ∈ e.parts, part.Sound) : e.Sound := by
  intro part hpart
  cases hpart with
  | self => exact hfits
  | within hinner hpart => exact hparts _ hinner part hpart

end Expr

/-! ## Reading -/

/-- Results that are all there are what they give. -/
theorem eq_map_of_allOrError {α : Type} {results : List (Except Error α)} {values : List α}
    (h : allOrError results = .ok values) : results = values.map .ok := by
  induction results generalizing values with
  | nil => rw [← Except.ok.inj h]; rfl
  | cons result rest ih =>
    cases result with
    | error e => exact absurd h nofun
    | ok a =>
      obtain ⟨others, hothers, rfl⟩ := exists_of_map_eq_ok h
      rw [ih hothers]
      rfl

/-- So are those of members. -/
theorem eq_map_of_membersOrError {α : Type} {results : List (String × Except Error α)} {members : List (String × α)}
    (h : membersOrError results = .ok members) : results = members.map fun m => (m.1, .ok m.2) := by
  induction results generalizing members with
  | nil => rw [← Except.ok.inj h]; rfl
  | cons result rest ih =>
    obtain ⟨name, result⟩ := result
    cases result with
    | error e => exact absurd h nofun
    | ok a =>
      obtain ⟨others, hothers, rfl⟩ := exists_of_map_eq_ok h
      rw [ih hothers]
      rfl

namespace Expr

/-- **That what a value reads as is sound**, if it reads as something. -/
def ReadsSound (read : Except Error Expr) : Prop := ∀ e, read = .ok e → e.Sound

/-- Calls of operands that read as sound expressions do so, the number of operands being looked at. -/
theorem readsSound_callOf {operands : List (Except Error Expr)} (h : ∀ read ∈ operands, ReadsSound read)
    (op? : Option Operation) (name : String) : ReadsSound (callOf op? name operands) := by
  intro e he
  unfold callOf at he
  cases op? with
  | none => exact absurd he nofun
  | some op =>
    dsimp only at he
    split_ifs at he with htakes
    obtain ⟨es, hes, rfl⟩ := exists_of_map_eq_ok he
    obtain rfl := eq_map_of_allOrError hes
    rw [List.length_map] at htakes
    exact sound_of_parts htakes fun part hpart => h _ (List.mem_map_of_mem hpart) part rfl

/-- Lists of what reads as sound expressions do so. -/
theorem readsSound_list {items : List (Except Error Expr)} (h : ∀ read ∈ items, ReadsSound read) :
    ReadsSound ((allOrError items).map .list) := by
  intro e he
  obtain ⟨es, hes, rfl⟩ := exists_of_map_eq_ok he
  obtain rfl := eq_map_of_allOrError hes
  exact sound_of_parts trivial fun part hpart => h _ (List.mem_map_of_mem hpart) part rfl

/-- So do objects. -/
theorem readsSound_record {members : List (String × Except Error Expr)} (h : ∀ m ∈ members, ReadsSound m.2) :
    ReadsSound ((membersOrError members).map .record) := by
  intro e he
  obtain ⟨es, hes, rfl⟩ := exists_of_map_eq_ok he
  obtain rfl := eq_map_of_membersOrError hes
  refine sound_of_parts trivial fun part hpart => ?_
  obtain ⟨m, hm, rfl⟩ := List.mem_map.1 hpart
  exact h _ (List.mem_map_of_mem hm) m.2 rfl

/-- Texts read as expressions without parts. -/
theorem readsSound_ofText (s : String) : ReadsSound (.ok (ofText s)) := by
  rintro e ⟨⟩
  unfold ofText
  split <;> exact sound_of_parts trivial nofun

/-- Values that stand for themselves do so, too. -/
theorem readsSound_literal (value : Json) : ReadsSound (.ok (.literal value)) := by
  rintro e ⟨⟩
  exact sound_of_parts trivial nofun

/-- Members that are picked are some of the members. -/
theorem mem_of_mem_pick {α : Type} {names : List String} {members : Keyed α} {a : α} (h : a ∈ pick names members) :
    ∃ name, (name, a) ∈ members := by
  obtain ⟨name, -, hname⟩ := List.mem_filterMap.1 h
  exact ⟨name, Keyed.mem_of_get? hname⟩

mutual

/-- **What is read is sound.** -/
theorem readsSound_ofJson : ∀ j, ReadsSound (ofJson j)
  | .string s => readsSound_ofText s
  | .array items => readsSound_list (readsSound_ofItems items)
  | .object [(name, operands)] => by
    unfold ofJson
    split_ifs with hdollar hliteral
    · exact readsSound_literal operands
    · have hsingle : ∀ op? name, ReadsSound (callOf op? name [ofJson operands]) :=
        readsSound_callOf (List.forall_mem_singleton.2 (readsSound_ofJson operands))
      -- operands are listed, or named, or there is a single one
      cases operands with
      | array items => exact readsSound_callOf (readsSound_ofItems items) _ _
      | object members =>
        dsimp only
        split_ifs with hnamed
        · refine readsSound_callOf (fun read hread => ?_) _ _
          obtain ⟨member, hmember⟩ := mem_of_mem_pick hread
          exact readsSound_ofMembers members _ hmember
        · exact hsingle _ _
      | _ => exact hsingle _ _
    · exact readsSound_record (List.forall_mem_singleton.2 (readsSound_ofJson operands))
  | .object [] => readsSound_record (readsSound_ofMembers [])
  | .object (m :: m' :: rest) => readsSound_record (readsSound_ofMembers (m :: m' :: rest))
  | .null => readsSound_literal _
  | .bool _ => readsSound_literal _
  | .number _ => readsSound_literal _

/-- So is each item. -/
theorem readsSound_ofItems : ∀ items, ∀ read ∈ ofItems items, ReadsSound read
  | [] => nofun
  | j :: rest => List.forall_mem_cons.2 ⟨readsSound_ofJson j, readsSound_ofItems rest⟩

/-- So is each member. -/
theorem readsSound_ofMembers : ∀ members, ∀ m ∈ ofMembers members, ReadsSound m.2
  | [] => nofun
  | (_, j) :: rest => List.forall_mem_cons.2 ⟨readsSound_ofJson j, readsSound_ofMembers rest⟩

end

end Expr

/-! ## Evaluating -/

/-- **That an error is about values**: an operand is of the wrong kind, or a divisor is zero. -/
def Error.IsOfValues (error : Error) : Prop :=
  (∃ op found, error = .typeMismatch op found) ∨ error = .divisionByZero

/-- **A safe result**: if it is an error, then one about values. -/
def Safe {α : Type} (result : Except Error α) : Prop := ∀ error, result = .error error → error.IsOfValues

section Safe

variable {α β : Type} {op : Operation} {values : List Json}

/-- What goes well is safe. -/
theorem safe_ok (a : α) : Safe (.ok a) := nofun

/-- Operands of the wrong kind are. -/
theorem safe_typeMismatch (op : Operation) (found : Json) :
    Safe (.error (.typeMismatch op found) : Except Error α) := by
  rintro _ ⟨⟩
  exact .inl ⟨op, found, rfl⟩

/-- Zero divisors are. -/
theorem safe_divisionByZero : Safe (.error .divisionByZero : Except Error α) := by
  rintro _ ⟨⟩
  exact .inr rfl

/-- Safe steps follow each other safely. -/
theorem Safe.bind {x : Except Error α} {f : α → Except Error β} (hx : Safe x) (hf : ∀ a, x = .ok a → Safe (f a)) :
    Safe (x >>= f) := by
  cases x with
  | error e => exact fun error h => hx error (congrArg Except.error (Except.error.inj h))
  | ok a => exact hf a rfl

/-- Something may be made of what is safe. -/
theorem Safe.map {x : Except Error α} (hx : Safe x) (f : α → β) : Safe (x.map f) := by
  cases x with
  | error e => exact fun error h => hx error (congrArg Except.error (Except.error.inj h))
  | ok a => exact nofun

/-- Steps for each item are safe together. -/
theorem Safe.mapM {f : α → Except Error β} {items : List α} (h : ∀ a ∈ items, Safe (f a)) : Safe (items.mapM f) := by
  induction items with
  | nil => exact safe_ok []
  | cons a rest ih =>
    obtain ⟨hfirst, hrest⟩ := List.forall_mem_cons.1 h
    rw [List.mapM_cons]
    exact hfirst.bind fun b _ => (ih hrest).bind fun bs _ => safe_ok (b :: bs)

/-! ### Operations -/

/-- Operands are converted to numbers safely. -/
theorem safe_numberOf (op : Operation) (j : Json) : Safe (numberOf op j) := by
  cases j with
  | number n => exact safe_ok _
  | _ => exact safe_typeMismatch op _

/-- **Calculations are safe** if they are for as many numbers as there are operands. -/
theorem safe_calculate {result : List Float → Except Error Float}
    (h : ∀ numbers, numbers.length = values.length → Safe (result numbers)) : Safe (calculate op values result) := by
  unfold calculate numbersOf?
  split_ifs with hnull
  · exact safe_ok _
  · have hsafe : Safe (values.mapM (numberOf op)) := .mapM fun j _ => safe_numberOf op j
    refine (hsafe.map some).bind fun numbers? hall => ?_
    obtain ⟨numbers, hnumbers, rfl⟩ := exists_of_map_eq_ok hall
    exact (h numbers (mapM_eq_ok_iff.1 hnumbers).length_eq.symm).bind fun x _ => safe_ok _

/-- Texts are put together safely. -/
theorem safe_concat (values : List Json) : Safe (concat values) := by
  unfold concat
  split_ifs
  · exact safe_ok _
  · refine (Safe.mapM fun j _ => ?_).bind fun texts _ => safe_ok _
    cases j with
    | string s => exact safe_ok s
    | _ => exact safe_typeMismatch .concat _

/-- So are values turned into texts. -/
theorem safe_textOf (j : Json) : Safe (textOf j) := by
  cases j with
  | array items => exact safe_typeMismatch .toString _
  | object members => exact safe_typeMismatch .toString _
  | _ => exact safe_ok _

/-- An operation takes the numbers of operands within its bounds. -/
theorem takes_iff {count : ℕ} :
    op.takes count = true ↔ op.arity.1 ≤ count ∧ ∀ most, op.arity.2 = some most → count ≤ most := by
  unfold Operation.takes
  rw [Bool.and_eq_true, decide_eq_true_iff, Option.all_eq_true]
  simp

/-- **Operations are safe** for as many operands as they take. -/
theorem safe_applyTo (htakes : op.takes values.length = true) (hcond : op ≠ .cond) (hifNull : op ≠ .ifNull) :
    Safe (applyTo op values) := by
  obtain ⟨hleast, hmost⟩ := takes_iff.1 htakes
  cases op with
  | add => exact safe_calculate fun _ _ => safe_ok _
  | multiply => exact safe_calculate fun _ _ => safe_ok _
  | subtract =>
    refine safe_calculate fun numbers hnumbers => ?_
    obtain ⟨a, b, rfl⟩ := List.length_eq_two.1 (hnumbers.trans (le_antisymm (hmost 2 rfl) hleast))
    exact safe_ok _
  | divide =>
    refine safe_calculate fun numbers hnumbers => ?_
    obtain ⟨a, b, rfl⟩ := List.length_eq_two.1 (hnumbers.trans (le_antisymm (hmost 2 rfl) hleast))
    dsimp only
    split_ifs
    · exact safe_divisionByZero
    · exact safe_ok _
  | abs =>
    refine safe_calculate fun numbers hnumbers => ?_
    obtain ⟨a, rfl⟩ := List.length_eq_one_iff.1 (hnumbers.trans (le_antisymm (hmost 1 rfl) hleast))
    exact safe_ok _
  | round =>
    refine safe_calculate fun numbers hnumbers => ?_
    have hcount : numbers.length = 1 ∨ numbers.length = 2 := by
      have := hmost 2 rfl
      have : 1 ≤ values.length := hleast
      omega
    rcases hcount with hone | htwo
    · obtain ⟨a, rfl⟩ := List.length_eq_one_iff.1 hone
      exact safe_ok _
    · obtain ⟨a, places, rfl⟩ := List.length_eq_two.1 htwo
      exact safe_ok _
  | concat => exact safe_concat values
  | toString =>
    obtain ⟨a, rfl⟩ := List.length_eq_one_iff.1 (le_antisymm (hmost 1 rfl) hleast)
    exact safe_textOf a
  | not =>
    obtain ⟨a, rfl⟩ := List.length_eq_one_iff.1 (le_antisymm (hmost 1 rfl) hleast)
    exact safe_ok _
  | and | or | max | min => exact safe_ok _
  | eq | ne | gt | ge | lt | le =>
    obtain ⟨a, b, rfl⟩ := List.length_eq_two.1 (le_antisymm (hmost 2 rfl) hleast)
    exact safe_ok _
  | cond => exact absurd rfl hcond
  | ifNull => exact absurd rfl hifNull

end Safe

namespace Expr

variable {document : Json} {op : Operation} {operands : List Expr} {values : List Json}

/-- All operands are evaluated, but for those of the two operations that give one of them. -/
theorem eval_call (hcond : op ≠ .cond) (hifNull : op ≠ .ifNull) (operands : List Expr) :
    eval document (.call op operands) = (evalAll document operands).bind (applyTo op) := by
  rw [eval]
  · rfl
  · exact fun _ _ _ h _ => hcond h
  · exact fun _ _ h _ => hifNull h

/-- Expressions are evaluated one by one. -/
theorem evalAll_eq_mapM (document : Json) (es : List Expr) : evalAll document es = es.mapM (eval document) := by
  induction es with
  | nil => rfl
  | cons e rest ih =>
    rw [evalAll, List.mapM_cons, ih]

/-- They have as many values. -/
theorem length_of_evalAll {es : List Expr} (h : evalAll document es = .ok values) : values.length = es.length := by
  rw [evalAll_eq_mapM] at h
  exact (mapM_eq_ok_iff.1 h).length_eq.symm

/-- Expressions that have values have them together. -/
theorem exists_evalAll {es : List Expr} (h : ∀ e ∈ es, ∃ value, eval document e = .ok value) :
    ∃ values, evalAll document es = .ok values ∧ ∀ e ∈ es, ∀ value, eval document e = .ok value → value ∈ values := by
  induction es with
  | nil => exact ⟨[], rfl, nofun⟩
  | cons e rest ih =>
    obtain ⟨⟨value, hvalue⟩, hrest⟩ := List.forall_mem_cons.1 h
    obtain ⟨others, hothers, hmem⟩ := ih hrest
    refine ⟨value :: others, ?_, List.forall_mem_cons.2 ⟨fun value' hvalue' => ?_, fun e he value' hvalue' => ?_⟩⟩
    · rw [evalAll, hvalue, hothers]
      rfl
    · rw [Except.ok.inj (hvalue'.symm.trans hvalue)]
      exact List.mem_cons_self
    · exact List.mem_cons_of_mem _ (hmem e he value' hvalue')

/-- They are evaluated safely together if each is. -/
theorem safe_evalAll {es : List Expr} (h : ∀ e ∈ es, Safe (eval document e)) : Safe (evalAll document es) := by
  rw [evalAll_eq_mapM]
  exact .mapM h

/-- So are members. -/
theorem safe_evalMembers {members : List (String × Expr)} (h : ∀ m ∈ members, Safe (eval document m.2)) :
    Safe (evalMembers document members) := by
  induction members with
  | nil => exact safe_ok _
  | cons m rest ih =>
    obtain ⟨hfirst, hrest⟩ := List.forall_mem_cons.1 h
    rw [evalMembers]
    exact hfirst.bind fun value _ => (ih hrest).bind fun others _ => safe_ok _

/-- **Calls are evaluated safely** if their operands are, and are as many as the operation takes. -/
theorem safe_call (hfits : op.takes operands.length = true) (h : ∀ operand ∈ operands, Safe (eval document operand)) :
    Safe (eval document (.call op operands)) := by
  obtain ⟨hleast, hmost⟩ := takes_iff.1 hfits
  by_cases hcond : op = .cond
  · subst hcond
    obtain ⟨condition, yes, no, rfl⟩ := List.length_eq_three.1 (le_antisymm (hmost 3 rfl) hleast)
    simp only [List.forall_mem_cons] at h
    obtain ⟨hcondition, hyes, hno, -⟩ := h
    rw [eval]
    refine hcondition.bind fun value _ => ?_
    split_ifs
    · exact hyes
    · exact hno
  by_cases hifNull : op = .ifNull
  · subst hifNull
    obtain ⟨first, other, rfl⟩ := List.length_eq_two.1 (le_antisymm (hmost 2 rfl) hleast)
    simp only [List.forall_mem_cons] at h
    obtain ⟨hfirst, hother, -⟩ := h
    rw [eval]
    refine hfirst.bind fun value _ => ?_
    split_ifs
    · exact hother
    · exact safe_ok value
  · -- every other operation is applied to values, as many as there are operands
    rw [eval_call hcond hifNull]
    refine (safe_evalAll h).bind fun values hvalues => safe_applyTo ?_ hcond hifNull
    rw [length_of_evalAll hvalues]
    exact hfits

mutual

/-- **Sound expressions are evaluated safely.** -/
theorem Sound.safe (document : Json) : ∀ {e : Expr}, e.Sound → Safe (eval document e)
  | .literal _, _ => safe_ok _
  | .field _, _ => safe_ok _
  | .list _, h => (safe_evalAll (safe_of_forall_sound document fun _ he => h.of_mem he)).map _
  | .record _, h => (safe_evalMembers (safe_of_forall_members document fun _ hm =>
      h.of_mem (List.mem_map_of_mem hm))).map _
  | .call _ _, h => safe_call (h _ (.self _)) (safe_of_forall_sound document fun _ he => h.of_mem he)

/-- So is each of a list. -/
theorem safe_of_forall_sound (document : Json) : ∀ {es : List Expr}, (∀ e ∈ es, e.Sound) →
    ∀ e ∈ es, Safe (eval document e)
  | [], _ => nofun
  | _ :: _, h => List.forall_mem_cons.2 ⟨(List.forall_mem_cons.1 h).1.safe document,
      safe_of_forall_sound document (List.forall_mem_cons.1 h).2⟩

/-- So is each member. -/
theorem safe_of_forall_members (document : Json) : ∀ {members : List (String × Expr)}, (∀ m ∈ members, m.2.Sound) →
    ∀ m ∈ members, Safe (eval document m.2)
  | [], _ => nofun
  | (_, _) :: _, h => List.forall_mem_cons.2 ⟨(List.forall_mem_cons.1 h).1.safe document,
      safe_of_forall_members document (List.forall_mem_cons.1 h).2⟩

end

end Expr

/-! ## Operands that are `null` -/

/-- **Whether an operation spreads `null`** from its operands to its result. -/
def Operation.spreadsNull : Operation → Bool
  | .add | .subtract | .multiply | .divide | .abs | .round | .concat | .toString => true
  | _ => false

section Null

variable {op : Operation} {values : List Json} (hnull : .null ∈ values)
include hnull

/-- A calculation with `null` gives it. -/
theorem calculate_of_null (result : List Float → Except Error Float) : calculate op values result = .ok .null := by
  have hany : values.any Json.isNull = true := List.any_eq_true.2 ⟨.null, hnull, rfl⟩
  unfold calculate numbersOf?
  rw [if_pos hany]
  rfl

/-- **Operations that spread `null` give it** as soon as they are given it. -/
theorem applyTo_of_null (hspreads : op.spreadsNull = true) (htakes : op.takes values.length = true) :
    applyTo op values = .ok .null := by
  cases op with
  | add | subtract | multiply | divide | abs | round => exact calculate_of_null hnull _
  | concat => exact if_pos (List.any_eq_true.2 ⟨.null, hnull, rfl⟩)
  | toString =>
    obtain ⟨hleast, hmost⟩ := takes_iff.1 htakes
    obtain ⟨a, rfl⟩ := List.length_eq_one_iff.1 (le_antisymm (hmost 1 rfl) hleast)
    rw [← List.mem_singleton.1 hnull]
    rfl
  | _ => exact absurd hspreads Bool.false_ne_true

end Null

namespace Expr

variable {document : Json}

/-- **A call that spreads `null` gives it** if all of its operands have values and one of these is `null`. -/
theorem eval_call_of_null {op : Operation} {operands : List Expr} (hspreads : op.spreadsNull = true)
    (htakes : op.takes operands.length = true)
    (hvalues : ∀ operand ∈ operands, ∃ value, eval document operand = .ok value)
    (hnull : ∃ operand ∈ operands, eval document operand = .ok .null) :
    eval document (.call op operands) = .ok .null := by
  have hne : op ≠ .cond ∧ op ≠ .ifNull := by
    constructor <;> rintro rfl <;> exact absurd hspreads Bool.false_ne_true
  obtain ⟨values, hall, hmem⟩ := exists_evalAll hvalues
  obtain ⟨operand, hoperand, hvalue⟩ := hnull
  rw [eval_call hne.1 hne.2, hall]
  refine applyTo_of_null (hmem operand hoperand _ hvalue) hspreads ?_
  rw [length_of_evalAll hall]
  exact htakes

/-- **A formula that is read does not go wrong.** In an expression that is read, every call at whatever depth has as
many operands as its operation takes. Evaluated in any document, each of its parts, the expression itself among them,
has a value or fails over values: an operand of the wrong kind or a divisor that is zero. A call of an operation that
spreads `null` gives `null` if all of its operands have values and one of these is `null`. -/
theorem safe_of_ofJson {j : Json} {e : Expr} (h : ofJson j = .ok e) {part : Expr} (hpart : part.IsPart e)
    (document : Json) : (∀ error, eval document part = .error error → error.IsOfValues)
      ∧ ∀ op operands, part = .call op operands → op.takes operands.length = true
        ∧ (op.spreadsNull = true → (∀ operand ∈ operands, ∃ value, eval document operand = .ok value) →
          (∃ operand ∈ operands, eval document operand = .ok .null) → eval document part = .ok .null) := by
  have hsound : part.Sound := (readsSound_ofJson j e h).of_isPart hpart
  refine ⟨hsound.safe document, ?_⟩
  rintro op operands rfl
  have htakes : op.takes operands.length = true := hsound _ (.self _)
  exact ⟨htakes, fun hspreads => eval_call_of_null hspreads htakes⟩

/-- The formula of what one piece costs, if there are pieces. -/
def unitPrice : Json :=
  .object [("$cond", .object [("else", .null), ("if", .string "$qty"),
    ("then", .object [("$divide", .array [.string "$price", .string "$qty"])])])]

/-- The quotient in it. -/
def quotient : Expr := .call .divide [.field "price", .field "qty"]

/-- **What a piece costs of which the price is missing** is nothing, not even where there is none. -/
theorem unitPrice_safe : ofJson unitPrice = .ok (.call .cond [.field "qty", quotient, .literal .null])
    ∧ (∀ document error, eval document quotient = .error error → error.IsOfValues)
    ∧ eval (.object [("qty", .ofWord 0)]) quotient = .ok .null := by
  have hread : ofJson unitPrice = .ok (.call .cond [.field "qty", quotient, .literal .null]) := by
    have hcond : Operation.ofName? "$cond" = some .cond := by decide
    have hdivide : Operation.ofName? "$divide" = some .divide := by decide
    simp [unitPrice, quotient, ofJson, ofItems, ofMembers, hcond, hdivide, isNamed, callOf, pick, Keyed.contains,
      Keyed.get?, allOrError, ofText, Operation.takes, Operation.arity, Except.map]
  have hpart : quotient.IsPart (.call .cond [.field "qty", quotient, .literal .null]) :=
    .within (List.mem_cons_of_mem _ List.mem_cons_self) (.self _)
  refine ⟨hread, fun document => (safe_of_ofJson hread hpart document).1, ?_⟩
  obtain ⟨-, hspreads⟩ := (safe_of_ofJson hread hpart (.object [("qty", .ofWord 0)])).2 _ _ rfl
  refine hspreads rfl (List.forall_mem_cons.2 ⟨⟨_, rfl⟩, List.forall_mem_singleton.2 ⟨_, rfl⟩⟩) ?_
  exact ⟨.field "price", List.mem_cons_self, rfl⟩

end Expr

end Formula

end Rollup
