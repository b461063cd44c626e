import Rollup.Proofs.Formulas
import Rollup.Proofs.ValueOrder

/-!
# When operands are equal

Formulas compare their operands in the order of values, and so `$eq` asks whether neither comes first. As long as no
objects are met this is to be **alike**: the same at every depth, numbers being compared as doubles
(`Json.alike_of_order`). Objects have no order of their own, and with them `$eq` sees no more than the **outlines** of
its operands, in which every object is empty (`Json.order_eq_iff_alike_outline`): two cells are equal whatever they
hold.
-/

namespace Rollup

/-- Numbers are equal in the order when their doubles are. -/
theorem Number.order_eq_iff (m n : Number) : m.order n = .eq ↔ (m.toFloat == n.toFloat) = true := by
  rw [order_eq_compare, compare_eq_iff_eq, Binary.beq_iff_value_eq m.isFinite_toFloat n.isFinite_toFloat]
  rfl

namespace Json

mutual

/-- **Whether two values are alike**: the same at every depth once numbers are compared as doubles. -/
def alike : Json → Json → Bool
  | .null, .null => true
  | .bool a, .bool b => a == b
  | .number m, .number n => m.toFloat == n.toFloat
  | .string s, .string t => s == t
  | .array as, .array bs => alikeItems as bs
  | .object ms, .object ns => alikeMembers ms ns
  | _, _ => false

/-- Whether two lists are alike item by item. -/
def alikeItems : List Json → List Json → Bool
  | [], [] => true
  | a :: as, b :: bs => alike a b && alikeItems as bs
  | _, _ => false

/-- Whether two objects have the same names, and values that are alike. -/
def alikeMembers : List (String × Json) → List (String × Json) → Bool
  | [], [] => true
  | (k, a) :: as, (l, b) :: bs => k == l && alike a b && alikeMembers as bs
  | _, _ => false

end

mutual

/-- **A value with its objects emptied.** -/
def outline : Json → Json
  | .array items => .array (outlineItems items)
  | .object _ => .object []
  | j => j

/-- The items with their objects emptied. -/
def outlineItems : List Json → List Json
  | [] => []
  | a :: rest => outline a :: outlineItems rest

end

mutual

/-- **Whether a value contains no objects**, at any depth. -/
def isObjectFree : Json → Bool
  | .array items => areObjectFree items
  | .object _ => false
  | _ => true

/-- Whether the items contain no objects. -/
def areObjectFree : List Json → Bool
  | [] => true
  | a :: rest => isObjectFree a && areObjectFree rest

end

/-- Values of two kinds are not alike. -/
theorem alike_of_rank_ne {a b : Json} (h : a.rank ≠ b.rank) : a.alike b = false := by
  cases a <;> cases b <;> first | rfl | exact absurd rfl h

/-- Emptying objects keeps the kind. -/
theorem rank_outline (a : Json) : a.outline.rank = a.rank := by
  cases a <;> rfl

/-- Values of two kinds are not equal in the order. -/
theorem order_ne_eq_of_rank_ne {a b : Json} (h : a.rank ≠ b.rank) : order a b ≠ .eq := by
  rw [order_of_rank_ne h]
  exact mt compare_eq_iff_eq.1 h

/-- **The order tells values apart by their outlines.** -/
theorem order_eq_iff_alike_outline : ∀ a b : Json, order a b = .eq ↔ a.outline.alike b.outline = true :=
  Nested.values (q := fun as bs => orderItems as bs = .eq ↔ alikeItems (outlineItems as) (outlineItems bs) = true) {
    differ := fun {a b} h => by
      rw [alike_of_rank_ne (by rwa [rank_outline, rank_outline])]
      simp [order_ne_eq_of_rank_ne h]
    null := iff_of_true rfl rfl
    bool := fun x y => by simp [order, alike, outline]
    number := fun m n => m.order_eq_iff n
    string := fun s t => by simp [order, alike, outline]
    array := fun h => h
    object := fun _ _ => iff_of_true rfl rfl
    nil := by simp [orderItems, alikeItems, outlineItems]
    nil_cons := fun b bs => by simp [orderItems, alikeItems, outlineItems]
    cons_nil := fun a as => by simp [orderItems, alikeItems, outlineItems]
    cons := fun hvalue hrest => by
      rw [orderItems, Ordering.then_eq_eq, hvalue, hrest]
      simp [alikeItems, outlineItems] }

/-- **Values that are alike are equal in the order.** -/
theorem order_of_alike : ∀ a b : Json, a.alike b = true → order a b = .eq :=
  Nested.values (q := fun as bs => alikeItems as bs = true → orderItems as bs = .eq) {
    differ := fun h halike => by simp [alike_of_rank_ne h] at halike
    null := fun _ => rfl
    bool := fun x y h => by simpa [order, alike] using h
    number := fun m n h => (m.order_eq_iff n).2 h
    string := fun s t h => by simpa [order, alike] using h
    array := fun h => h
    object := fun _ _ _ => rfl
    nil := fun _ => rfl
    nil_cons := fun b bs h => by simp [alikeItems] at h
    cons_nil := fun a as h => by simp [alikeItems] at h
    cons := fun hvalue hrest h => by
      rw [alikeItems, Bool.and_eq_true] at h
      rw [orderItems, hvalue h.1, hrest h.2]
      rfl }

/-- **Where one of two values contains no objects**, they are alike if they are equal in the order. -/
theorem alike_of_order : ∀ a b : Json, a.isObjectFree = true ∨ b.isObjectFree = true →
    order a b = .eq → a.alike b = true :=
  Nested.values (q := fun as bs => areObjectFree as = true ∨ areObjectFree bs = true →
      orderItems as bs = .eq → alikeItems as bs = true) {
    differ := fun h _ horder => absurd horder (order_ne_eq_of_rank_ne h)
    null := fun _ _ => rfl
    bool := fun x y _ h => by simpa [order, alike] using h
    number := fun m n _ h => (m.order_eq_iff n).1 h
    string := fun s t _ h => by simpa [order, alike] using h
    array := fun h => h
    object := fun _ _ h => by simp [isObjectFree] at h
    nil := fun _ _ => rfl
    nil_cons := fun b bs _ h => by simp [orderItems] at h
    cons_nil := fun a as _ h => by simp [orderItems] at h
    cons := fun hvalue hrest hfree h => by
      rw [orderItems, Ordering.then_eq_eq] at h
      simp only [areObjectFree, Bool.and_eq_true] at hfree
      rw [alikeItems, Bool.and_eq_true]
      exact ⟨hvalue (hfree.imp And.left And.left) h.1, hrest (hfree.imp And.right And.right) h.2⟩ }

/-- **Two values differ in nothing but objects**: they are not alike, and their outlines are. -/
def DifferInObjects (x y : Json) : Prop := x.alike y = false ∧ x.outline.alike y.outline = true

/-- Equality in the order is being alike, but for values that differ in nothing but objects. -/
theorem decide_order_iff (x y : Json) : decide (order x y = .eq) = x.alike y ↔ ¬ x.DifferInObjects y := by
  unfold DifferInObjects
  rw [← order_eq_iff_alike_outline]
  cases halike : x.alike y with
  | true => simp [order_of_alike x y halike]
  | false => simp

/-- Where one of two values contains no objects, there is nothing else to differ in. -/
theorem not_differInObjects {x y : Json} (h : x.isObjectFree = true ∨ y.isObjectFree = true) :
    ¬ x.DifferInObjects y := by
  rintro ⟨hnot, houtline⟩
  have halike := alike_of_order x y h ((order_eq_iff_alike_outline x y).2 houtline)
  exact absurd (hnot.symm.trans halike) Bool.false_ne_true

end Json

namespace Formula

/-- The operations that compare two operands. -/
def Operation.isComparison : Operation → Bool
  | .eq | .ne | .gt | .ge | .lt | .le => true
  | _ => false

namespace Expr

variable {document x y : Json} {a b : Expr}

/-- **A comparison asks for the order** of the values of its operands. -/
theorem eval_comparison {op : Operation} (hop : op.isComparison = true) (hx : eval document a = .ok x)
    (hy : eval document b = .ok y) :
    eval document (.call op [a, b]) = .ok (.bool (compares op (Json.order x y))) := by
  have hvalues : evalAll document [a, b] = .ok [x, y] := by
    simp only [evalAll, hx, hy]
    rfl
  have hne : op ≠ .cond ∧ op ≠ .ifNull := by
    constructor <;> rintro rfl <;> exact absurd hop Bool.false_ne_true
  rw [eval_call hne.1 hne.2, hvalues]
  cases op with
  | eq | ne | gt | ge | lt | le => rfl
  | _ => exact absurd hop Bool.false_ne_true

/-- **What comparing two operands gives.** -/
structure Compared (document : Json) (a b : Expr) (less equal greater : Bool) : Prop where
  lt : eval document (.call .lt [a, b]) = .ok (.bool less)
  eq : eval document (.call .eq [a, b]) = .ok (.bool equal)
  gt : eval document (.call .gt [a, b]) = .ok (.bool greater)
  /-- To differ is not to be equal. -/
  ne : eval document (.call .ne [a, b]) = .ok (.bool !equal)
  /-- The first operand is less than the second, equal to it or greater. -/
  exactly_one : [less, equal, greater].count true = 1

/-- **Operands are compared in one of three ways**, and are equal if the order has neither first. -/
theorem exists_compared (hx : eval document a = .ok x) (hy : eval document b = .ok y) :
    ∃ less greater, Compared document a b less (decide (Json.order x y = .eq)) greater := by
  refine ⟨compares .lt (Json.order x y), compares .gt (Json.order x y), ?_, ?_, ?_, ?_, ?_⟩
  case refine_1 => exact eval_comparison rfl hx hy
  case refine_2 =>
    rw [eval_comparison rfl hx hy]
    cases Json.order x y <;> rfl
  case refine_3 => exact eval_comparison rfl hx hy
  case refine_4 =>
    rw [eval_comparison rfl hx hy]
    cases Json.order x y <;> rfl
  case refine_5 => cases Json.order x y <;> rfl

/-- **When `$eq` decides equality.** Two operands that have values are compared in exactly one of three ways, and `$ne`
is the opposite of `$eq`. That they are equal means that their values are alike if and only if these do not differ in
nothing but objects; values of which one contains no objects never do. -/
theorem equality_iff_not_differInObjects (hx : eval document a = .ok x) (hy : eval document b = .ok y) :
    ∃ less equal greater, Compared document a b less equal greater
      ∧ (equal = x.alike y ↔ ¬ x.DifferInObjects y)
      ∧ (x.isObjectFree = true ∨ y.isObjectFree = true → ¬ x.DifferInObjects y) := by
  obtain ⟨less, greater, hcompared⟩ := exists_compared hx hy
  exact ⟨less, _, greater, hcompared, Json.decide_order_iff x y, Json.not_differInObjects⟩

/-! ### Sizes and cells -/

/-- A box with its sizes, and two cells for its price. -/
def box : Json :=
  .object [("new", Stage.numberCell (.ofFloat 12.0)), ("old", Stage.numberCell (.ofFloat 10.0)),
    ("sizes", .array [.ofSigned 3, .ofFloat 4.5])]

/-- The sizes as they should be. -/
def sizes : Json := .array [.ofFloat 3.0, .ofFloat 4.5]

/-- **The box has the sizes that it should have**, three being the same as a whole number and as a double. -/
theorem box_equality : eval box (.field "sizes") = .ok (.array [.ofSigned 3, .ofFloat 4.5])
    ∧ eval box (.call .eq [.field "sizes", .literal sizes]) = .ok (.bool true) := by
  have hfield : eval box (.field "sizes") = .ok (.array [.ofSigned 3, .ofFloat 4.5]) := rfl
  obtain ⟨less, equal, greater, hcompared, hiff, hfree⟩ := equality_iff_not_differInObjects hfield
    (show eval box (.literal sizes) = .ok sizes from rfl)
  have halike : (Json.array [.ofSigned 3, .ofFloat 4.5]).alike sizes = true := by decide +kernel
  refine ⟨hfield, hcompared.eq.trans ?_⟩
  rw [hiff.2 (hfree (.inr rfl)), halike]

/-- **Two cells with different prices are equal.** -/
theorem box_cells_equal : (Stage.numberCell (.ofFloat 10.0)).alike (Stage.numberCell (.ofFloat 12.0)) = false
    ∧ eval box (.field "old") = .ok (Stage.numberCell (.ofFloat 10.0))
    ∧ eval box (.field "new") = .ok (Stage.numberCell (.ofFloat 12.0))
    ∧ eval box (.call .eq [.field "old", .field "new"]) = .ok (.bool true) :=
  ⟨by decide +kernel, rfl, rfl, rfl⟩

end Expr

end Formula

end Rollup
