/-
Integer expressions have their exact values or none.

* `Formula.inRange_iff`: the integers of 64 bits.
* `exactInt_of_not_inRange`: a result of more bits is an overflow.
* `Formula.Named`: the names of an expression are bound to integers.
* `Formula.eval_toExpr_eq_overflow`: one part of more than 64 bits ends the whole evaluation in an
  overflow, whatever is computed around it.
* `Formula.eval_exact_or_overflow`: the evaluation is exact where all parts have 64 bits, and ends
  in an overflow where one has not.
-/
import LineRepl.Proofs.Calc.Formula
import Mathlib.Algebra.Ring.Int.Defs

namespace LineRepl.Calc

namespace Formula

/-! ### Ranges -/

/-- The range of 64 bits. -/
lemma inRange_iff {n : ℤ} : InRange n ↔ -2 ^ 63 ≤ n ∧ n < 2 ^ 63 := by
  rw [InRange, Int64.toInt_minValue, Int64.toInt_maxValue]
  omega

lemma inRange_toInt (n : Int64) : InRange n.toInt :=
  inRange_iff.mpr ⟨n.le_toInt, n.toInt_lt⟩

/-- What is outside of the range overflows. -/
lemma exactInt_of_not_inRange {n : ℤ} (h : ¬ InRange n) : exactInt n = .error .integerOverflow :=
  if_neg h

/-! ### Overflows -/

/-- The names of the expression are bound to the integers that they stand for. -/
def Named (b : Bindings) (ρ : String → Int64) (f : Formula) : Prop :=
  ∀ x, name x ∈ f.parts → b.get? x = some (.int (ρ x))

variable {b : Bindings} {ρ : String → Int64} {f g : Formula}

/-- The names of a part are names of the whole. -/
lemma Named.part (h : Named b ρ f) (hg : g ∈ f.parts) : Named b ρ g := by
  intro x hx
  exact h x (parts_subset hg hx)

/-- A part of more than 64 bits ends the evaluation in an overflow. -/
lemma eval_toExpr_eq_overflow (store : Store) (hnamed : Named b ρ f)
    (h : ∃ g ∈ f.parts, ¬ InRange (g.value ρ)) :
    f.toExpr.eval b store = .error (.fault .integerOverflow) := by
  induction f with
  | literal n =>
      obtain ⟨g, hg, hout⟩ := h
      obtain rfl := List.mem_singleton.mp hg
      exact absurd (inRange_toInt n) hout
  | name x =>
      obtain ⟨g, hg, hout⟩ := h
      obtain rfl := List.mem_singleton.mp hg
      exact absurd (inRange_toInt (ρ x)) hout
  | neg f ih =>
      have hinner := hnamed.part (mem_parts_neg f)
      rw [toExpr, Expr.eval]
      by_cases hf : ∃ g ∈ f.parts, ¬ InRange (g.value ρ)
      · simp only [ih hinner hf]
      · push Not at hf
        -- the operand is exact, so that its negation is the part that is out of range
        obtain ⟨g, hg, hout⟩ := h
        rcases List.mem_cons.mp hg with rfl | hg
        · have hwithin : Within InRange b ρ f := ⟨hinner, hf⟩
          rw [value] at hout
          simp only [eval_toExpr store hwithin, negate, toInt_ofInt hwithin.value,
            exactInt_of_not_inRange hout, withStore]
        · exact absurd (hf g hg) hout
  | binary op left right ihl ihr =>
      have hleft := hnamed.part (left_mem_parts op left right)
      have hright := hnamed.part (right_mem_parts op left right)
      rw [toExpr, Expr.eval]
      by_cases hl : ∃ g ∈ left.parts, ¬ InRange (g.value ρ)
      · simp only [ihl hleft hl]
      · push Not at hl
        have hwithinl : Within InRange b ρ left := ⟨hleft, hl⟩
        by_cases hr : ∃ g ∈ right.parts, ¬ InRange (g.value ρ)
        · simp only [eval_toExpr store hwithinl, ihr hright hr]
        · push Not at hr
          have hwithinr : Within InRange b ρ right := ⟨hright, hr⟩
          obtain ⟨g, hg, hout⟩ := h
          rcases List.mem_cons.mp hg with rfl | hg
          · rw [value] at hout
            simp only [eval_toExpr store hwithinl, eval_toExpr store hwithinr, binary_int,
              toInt_ofInt hwithinl.value, toInt_ofInt hwithinr.value,
              exactInt_of_not_inRange hout, withStore]
          · rcases List.mem_append.mp hg with hg | hg
            · exact absurd (hl g hg) hout
            · exact absurd (hr g hg) hout

/-! ### Exact or not at all -/

/-- **Integer expressions are exact or overflow**: where the exact values of all parts have 64 bits,
the expression has its exact value, and where one has more, it fails with an overflow. -/
theorem eval_exact_or_overflow {w : Workspace}
    (hnamed : ∀ x, name x ∈ f.parts → w.bindings.get? x = some (.int (ρ x))) :
    ((∀ g ∈ f.parts, -2 ^ 63 ≤ g.value ρ ∧ g.value ρ < 2 ^ 63) →
      ∃ n : Int64, n.toInt = f.value ρ ∧
        f.toExpr.eval w.bindings w.store = .ok (.int n, w.store) ∧
        (Statement.expr f.toExpr).run w = (.value (.int n), w)) ∧
    ((∃ g ∈ f.parts, ¬ (-2 ^ 63 ≤ g.value ρ ∧ g.value ρ < 2 ^ 63)) →
      f.toExpr.eval w.bindings w.store = .error (.fault .integerOverflow) ∧
      (Statement.expr f.toExpr).run w = (.error (.runtime "integer overflow"), w)) := by
  constructor
  · intro hrange
    have hwithin : Within InRange w.bindings ρ f :=
      ⟨hnamed, fun g hg => inRange_iff.mpr (hrange g hg)⟩
    have heval := eval_toExpr w.store hwithin
    refine ⟨Int64.ofInt (f.value ρ), toInt_ofInt hwithin.value, heval, ?_⟩
    simp only [Statement.run, heval]
  · intro hpart
    have hout : ∃ g ∈ f.parts, ¬ InRange (g.value ρ) := by
      simpa only [inRange_iff] using hpart
    have heval := eval_toExpr_eq_overflow w.store hnamed hout
    refine ⟨heval, ?_⟩
    simp only [Statement.run, heval]
    rfl

/-- `x` is bound to the least integer. -/
def leastWorkspace : Workspace := ⟨⟨[("x", .int Int64.minValue)]⟩, .empty⟩

/-- The least integer has no negation, though the sum around it has 64 bits; that of its successor
is exact. -/
theorem eval_neg_least :
    (Statement.expr (binary .sub (neg (name "x")) (literal 1)).toExpr).run leastWorkspace =
        (.error (.runtime "integer overflow"), leastWorkspace) ∧
      (Statement.expr (neg (binary .add (name "x") (literal 1))).toExpr).run leastWorkspace =
        (.value (.int Int64.maxValue), leastWorkspace) := by
  have hnamed (f : Formula) (hx : ∀ x, name x ∈ f.parts → x = "x") (x : String)
      (h : name x ∈ f.parts) :
      leastWorkspace.bindings.get? x = some (.int ((fun _ => Int64.minValue) x)) := by
    rw [hx x h]
    rfl
  refine ⟨?_, ?_⟩
  · refine ((eval_exact_or_overflow (hnamed _ ?_)).2 ?_).2
    · simp [parts]
    · refine ⟨neg (name "x"), by simp [parts], ?_⟩
      simp only [value]
      decide
  · obtain ⟨n, hn, -, hrun⟩ := (eval_exact_or_overflow
      (f := neg (binary .add (name "x") (literal 1))) (hnamed _ (by simp [parts]))).1
        (by simp only [parts]; decide)
    obtain rfl : n = Int64.maxValue := Int64.toInt_inj.mp (hn.trans (by decide))
    exact hrun

end Formula

end LineRepl.Calc
