/-
Expressions of integers, names, signs, sums, differences and products, and what they stand for as
integers of any size.

* `Formula`: these expressions, and `Formula.toExpr`, their trees.
* `Formula.value`: the exact value, where names stand for integers.
* `Formula.parts`: the expression and all that are inside it.
* `Formula.Within`: names are bound to what they stand for, and the values of all parts are bounded.
* `Formula.eval_toExpr`: the evaluation is exact where the values of all parts have 64 bits.
-/
import LineRepl.Calc.Eval
import Mathlib.Data.Int.Notation
import Mathlib.Data.List.Basic

namespace LineRepl.Calc

/-- The operators of sums, differences and products. -/
inductive RingOp where
  | add
  | sub
  | mul
  deriving DecidableEq, Repr

namespace RingOp

/-- The operator among all operators. -/
def toBinaryOp : RingOp → BinaryOp
  | .add => .add
  | .sub => .sub
  | .mul => .mul

/-- What the operator does to integers of any size. -/
def apply : RingOp → ℤ → ℤ → ℤ
  | .add => (· + ·)
  | .sub => (· - ·)
  | .mul => (· * ·)

end RingOp

/-- An expression of integers. -/
inductive Formula where
  | literal (n : Int64)
  | name (x : String)
  | neg (f : Formula)
  | binary (op : RingOp) (left right : Formula)
  deriving DecidableEq, Repr

namespace Formula

/-- The tree of the expression. -/
def toExpr : Formula → Expr
  | .literal n => .int n
  | .name x => .var x
  | .neg f => .neg f.toExpr
  | .binary op left right => .binary op.toBinaryOp left.toExpr right.toExpr

/-- The exact value, where names stand for integers. -/
def value (ρ : String → Int64) : Formula → ℤ
  | .literal n => n.toInt
  | .name x => (ρ x).toInt
  | .neg f => -f.value ρ
  | .binary op left right => op.apply (left.value ρ) (right.value ρ)

/-- The expression itself and all expressions inside it. -/
def parts : Formula → List Formula
  | .literal n => [.literal n]
  | .name x => [.name x]
  | .neg f => .neg f :: f.parts
  | .binary op left right => .binary op left right :: (left.parts ++ right.parts)

lemma self_mem_parts (f : Formula) : f ∈ f.parts := by
  cases f <;> simp [parts]

/-- The parts of a part are parts. -/
lemma parts_subset {f g : Formula} (h : g ∈ f.parts) : g.parts ⊆ f.parts := by
  induction f with
  | literal | name =>
      rw [parts, List.mem_singleton] at h
      exact h ▸ List.Subset.refl _
  | neg f ih =>
      rcases List.mem_cons.mp h with rfl | hf
      · exact List.Subset.refl _
      · exact List.subset_cons_of_subset _ (ih hf)
  | binary op left right ihl ihr =>
      rcases List.mem_cons.mp h with rfl | hside
      · exact List.Subset.refl _
      · rcases List.mem_append.mp hside with hleft | hright
        · exact List.subset_cons_of_subset _ (List.subset_append_of_subset_left _ (ihl hleft))
        · exact List.subset_cons_of_subset _ (List.subset_append_of_subset_right _ (ihr hright))

lemma mem_parts_neg (f : Formula) : f ∈ (neg f).parts :=
  List.mem_cons_of_mem _ f.self_mem_parts

lemma left_mem_parts (op : RingOp) (left right : Formula) : left ∈ (binary op left right).parts :=
  List.mem_cons_of_mem _ (List.mem_append_left _ left.self_mem_parts)

lemma right_mem_parts (op : RingOp) (left right : Formula) :
    right ∈ (binary op left right).parts :=
  List.mem_cons_of_mem _ (List.mem_append_right _ right.self_mem_parts)

/-- Names are bound to the integers that they stand for, and the values of all parts have the
property. -/
structure Within (P : ℤ → Prop) (b : Bindings) (ρ : String → Int64) (f : Formula) : Prop where
  names : ∀ x, name x ∈ f.parts → b.get? x = some (.int (ρ x))
  values : ∀ g ∈ f.parts, P (g.value ρ)

namespace Within

variable {P : ℤ → Prop} {b : Bindings} {ρ : String → Int64} {f g : Formula}

lemma value (h : Within P b ρ f) : P (f.value ρ) := h.values f f.self_mem_parts

/-- What is true of all parts of a formula is true of those of its parts. -/
lemma part (h : Within P b ρ f) (hg : g ∈ f.parts) : Within P b ρ g where
  names x hx := h.names x (parts_subset hg hx)
  values g' hg' := h.values g' (parts_subset hg hg')

lemma mono {Q : ℤ → Prop} (h : Within P b ρ f) (hPQ : ∀ n, P n → Q n) : Within Q b ρ f where
  names := h.names
  values g hg := hPQ _ (h.values g hg)

end Within

/-! ### Evaluation -/

/-- The integer has 64 bits. -/
def InRange (n : ℤ) : Prop := Int64.minValue.toInt ≤ n ∧ n ≤ Int64.maxValue.toInt

lemma toInt_ofInt {n : ℤ} (h : InRange n) : (Int64.ofInt n).toInt = n := by
  obtain ⟨hlow, hhigh⟩ := h
  rw [Int64.toInt_minValue] at hlow
  rw [Int64.toInt_maxValue] at hhigh
  exact Int64.toInt_ofInt_of_le hlow (by omega)

/-- What is in the range is an integer. -/
lemma exactInt_of_inRange {n : ℤ} (h : InRange n) : exactInt n = .ok (.int (Int64.ofInt n)) :=
  if_pos h

/-- The operation on integers is exact, or overflows. -/
lemma binary_int (op : RingOp) (m n : Int64) :
    Calc.binary op.toBinaryOp (.int m) (.int n) = exactInt (op.apply m.toInt n.toInt) := by
  cases op <;> rfl

/-- Where the values of all parts have 64 bits, the evaluation is exact. -/
lemma eval_toExpr {f : Formula} {ρ : String → Int64} {b : Bindings} (store : Store)
    (h : Within InRange b ρ f) :
    f.toExpr.eval b store = .ok (.int (Int64.ofInt (f.value ρ)), store) := by
  induction f with
  | literal n => rw [toExpr, Expr.eval, value, Int64.ofInt_toInt]
  | name x =>
      rw [toExpr, Expr.eval, lookup, h.names x (self_mem_parts _), value, Int64.ofInt_toInt]
      rfl
  | neg f ih =>
      have hinner := h.part (mem_parts_neg f)
      have houter := h.value
      rw [value] at houter
      rw [toExpr, Expr.eval, ih hinner]
      simp only [negate, toInt_ofInt hinner.value, exactInt_of_inRange houter, withStore, value]
  | binary op left right ihl ihr =>
      have hleft := h.part (left_mem_parts op left right)
      have hright := h.part (right_mem_parts op left right)
      have houter := h.value
      rw [value] at houter
      rw [toExpr, Expr.eval, ihl hleft]
      simp only [ihr hright, binary_int, toInt_ofInt hleft.value, toInt_ofInt hright.value,
        exactInt_of_inRange houter, withStore, value]

end Formula

end LineRepl.Calc
