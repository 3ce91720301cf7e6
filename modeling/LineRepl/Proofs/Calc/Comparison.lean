/-
The comparisons of two integers.

The four comparisons of order look at the integers themselves. Equality and its negation go through
binary64 numbers, where integers of more than 53 digits are rounded, so they answer whether both
integers are rounded to one number.

* `Answers`: the answer of a comparison of two integers.
* `ComparisonsAgree`: the six comparisons are exact and agree with one another.
* `comparisonsAgree_iff`: they do if and only if no rounding makes the two integers one.
-/
import LineRepl.Calc.Operator
import LineRepl.Proofs.Binary64.Integer
import LineRepl.Proofs.Calc.Grammar
import Mathlib.Tactic.FinCases

namespace LineRepl.Calc

open Binary64 Grammar

/-- The value of the operator on the two integers is the truth value. -/
def Answers (op : BinaryOp) (a b : Int64) (answer : Bool) : Prop :=
  binary op (.int a) (.int b) = .ok (.bool answer)

/-- The comparison of the two integers is true. -/
abbrev Holds (op : BinaryOp) (a b : Int64) : Prop := Answers op a b true

/-- The six comparisons of the two integers have answers, equality is exact, and the others agree
with it. -/
structure ComparisonsAgree (a b : Int64) : Prop where
  answered : ∀ op ∈ comparisons, ∃ answer, Answers op a b answer
  eq_iff : Holds .eq a b ↔ a = b
  ne_iff : Holds .ne a b ↔ ¬Holds .eq a b
  one_of_three :
    Holds .lt a b ∧ ¬Holds .eq a b ∧ ¬Holds .gt a b ∨
      ¬Holds .lt a b ∧ Holds .eq a b ∧ ¬Holds .gt a b ∨
      ¬Holds .lt a b ∧ ¬Holds .eq a b ∧ Holds .gt a b
  le_iff : Holds .le a b ↔ Holds .lt a b ∨ Holds .eq a b
  ge_iff : Holds .ge a b ↔ Holds .gt a b ∨ Holds .eq a b

variable {a b : Int64}

/-- A comparison holds exactly if the answer to it is yes. -/
lemma holds_iff_of_answers {op : BinaryOp} {answer : Bool} (h : Answers op a b answer) :
    Holds op a b ↔ answer = true := by
  rw [Holds, Answers, show binary op (.int a) (.int b) = _ from h]
  simp

/-! ### The answers -/

lemma answers_lt : Answers .lt a b (decide (a < b)) := rfl

lemma answers_le : Answers .le a b (decide (a ≤ b)) := rfl

lemma answers_gt : Answers .gt a b (decide (b < a)) := rfl

lemma answers_ge : Answers .ge a b (decide (b ≤ a)) := rfl

/-- Integers are compared for equality after rounding. -/
lemma looselyEqual_int :
    looselyEqual (.int a) (.int b) = decide (nearestInt a.toInt = nearestInt b.toInt) := by
  have ha := value?_ofInt_toInt a
  have hb := value?_ofInt_toInt b
  rw [Bool.eq_iff_iff, decide_eq_true_iff]
  exact (Binary64.eq_iff ha hb).trans Int.cast_inj

/-- Equality is answered for the nearest numbers of binary64. -/
lemma answers_eq : Answers .eq a b (decide (nearestInt a.toInt = nearestInt b.toInt)) :=
  congrArg (Except.ok ∘ Value.bool) looselyEqual_int

lemma answers_ne : Answers .ne a b (!decide (nearestInt a.toInt = nearestInt b.toInt)) :=
  congrArg (Except.ok ∘ Value.bool ∘ Bool.not) looselyEqual_int

/-- Every comparison of integers has an answer. -/
lemma exists_answers {op : BinaryOp} (h : op ∈ comparisons) : ∃ answer, Answers op a b answer := by
  fin_cases h
  · exact ⟨_, answers_eq⟩
  · exact ⟨_, answers_ne⟩
  · exact ⟨_, answers_lt⟩
  · exact ⟨_, answers_le⟩
  · exact ⟨_, answers_gt⟩
  · exact ⟨_, answers_ge⟩

/-! ### When the comparisons are true -/

/-- The order of integers is exact. -/
lemma holds_lt_iff : Holds .lt a b ↔ a < b := by
  rw [holds_iff_of_answers answers_lt, decide_eq_true_iff]

lemma holds_le_iff : Holds .le a b ↔ a ≤ b := by
  rw [holds_iff_of_answers answers_le, decide_eq_true_iff]

lemma holds_gt_iff : Holds .gt a b ↔ b < a := by
  rw [holds_iff_of_answers answers_gt, decide_eq_true_iff]

lemma holds_ge_iff : Holds .ge a b ↔ b ≤ a := by
  rw [holds_iff_of_answers answers_ge, decide_eq_true_iff]

/-- Their equality is that of the nearest numbers. -/
lemma holds_eq_iff : Holds .eq a b ↔ nearestInt a.toInt = nearestInt b.toInt := by
  rw [holds_iff_of_answers answers_eq, decide_eq_true_iff]

lemma holds_ne_iff : Holds .ne a b ↔ nearestInt a.toInt ≠ nearestInt b.toInt := by
  rw [holds_iff_of_answers answers_ne, Bool.not_eq_true', decide_eq_false_iff_not]

/-- Where equality is exact, the six comparisons are those of the integers. -/
lemma comparisonsAgree_of_eq_iff (h : Holds .eq a b ↔ a = b) : ComparisonsAgree a b where
  answered _ := exists_answers
  eq_iff := h
  ne_iff := by rw [holds_ne_iff, holds_eq_iff]
  one_of_three := by
    rw [holds_lt_iff, holds_gt_iff, h]
    simp only [Int64.lt_iff_toInt_lt, ← Int64.toInt_inj]
    omega
  le_iff := by
    rw [holds_le_iff, holds_lt_iff, h]
    simp only [Int64.le_iff_toInt_le, Int64.lt_iff_toInt_lt, ← Int64.toInt_inj]
    omega
  ge_iff := by
    rw [holds_ge_iff, holds_gt_iff, h]
    simp only [Int64.le_iff_toInt_le, Int64.lt_iff_toInt_lt, ← Int64.toInt_inj]
    omega

/-- **The comparisons of two integers are exact and agree** if and only if the integers are equal or
binary64 tells them apart. It does so for all integers of up to 53 digits, and the comparisons of
order are exact for all integers. -/
theorem comparisonsAgree_iff (a b : Int64) :
    (ComparisonsAgree a b ↔ (nearestInt a.toInt = nearestInt b.toInt → a = b)) ∧
      (a.toInt.natAbs ≤ 2 ^ 53 → b.toInt.natAbs ≤ 2 ^ 53 → ComparisonsAgree a b) ∧
      (Holds .lt a b ↔ a.toInt < b.toInt) ∧ (Holds .le a b ↔ a.toInt ≤ b.toInt) ∧
      (Holds .gt a b ↔ b.toInt < a.toInt) ∧ (Holds .ge a b ↔ b.toInt ≤ a.toInt) := by
  have hiff : ComparisonsAgree a b ↔ (nearestInt a.toInt = nearestInt b.toInt → a = b) := by
    constructor
    · intro h heq
      exact h.eq_iff.mp (holds_eq_iff.mpr heq)
    · intro h
      refine comparisonsAgree_of_eq_iff (holds_eq_iff.trans ⟨h, ?_⟩)
      rintro rfl
      rfl
  refine ⟨hiff, fun ha hb => hiff.mpr fun heq => ?_, ?_⟩
  · rw [nearestInt_eq_self ha, nearestInt_eq_self hb] at heq
    exact Int64.toInt_inj.mp heq
  · rw [holds_lt_iff, holds_le_iff, holds_gt_iff, holds_ge_iff]
    simp only [Int64.lt_iff_toInt_lt, Int64.le_iff_toInt_le, and_self]

/-- Two neighbours above `2 ^ 53` that binary64 does not tell apart. -/
theorem holds_eq_neighbours :
    Holds .eq 9007199254740993 9007199254740992 ∧
      (9007199254740993 : Int64) ≠ 9007199254740992 := by
  refine ⟨?_, by decide⟩
  rfl

end LineRepl.Calc
