/-
The rational number that a binary64 number stands for, and the order of binary64 numbers as the
order of these.

* `value?`: the value of a finite number.
* `compare?_eq_some`: finite numbers are ordered by value.
* `eq_iff`: finite numbers are equal if and only if their values are.
-/
import LineRepl.Binary64.Basic
import Mathlib.Algebra.Order.Field.Rat
import Mathlib.Algebra.Order.Field.Power
import Mathlib.Tactic.FieldSimp
import Mathlib.Tactic.Linarith
import Mathlib.Tactic.Positivity
import Mathlib.Tactic.Ring

namespace LineRepl.Binary64

/-- The value of a finite number. -/
def value? : Binary64 → Option ℚ
  | .nan | .infinite _ => none
  | .finite negative mantissa exponent _ => some (signed negative mantissa * 2 ^ exponent)

lemma signed_mul (negative : Bool) (m k : ℕ) :
    signed negative (m * k) = signed negative m * k := by
  cases negative <;> simp [signed]

/-- A mantissa in a smaller unit stands for the same value. -/
lemma units_mul_zpow (negative : Bool) (m : ℕ) {e unit : ℤ} (h : unit ≤ e) :
    (units negative m e unit : ℚ) * 2 ^ unit = signed negative m * 2 ^ e := by
  rw [units, Nat.shiftLeft_eq, signed_mul]
  push_cast
  rw [mul_assoc, ← zpow_natCast, ← zpow_add₀ two_ne_zero, Int.toNat_of_nonneg (by omega)]
  congr 2
  omega

/-- Numbers are ordered as their multiples by a positive number are. -/
lemma compare_eq_compare_mul {a b : ℤ} {c : ℚ} (hc : 0 < c) :
    compare a b = compare (a * c : ℚ) (b * c : ℚ) := by
  rcases lt_trichotomy a b with h | rfl | h
  · rw [compare_lt_iff_lt.mpr h]
    exact (compare_lt_iff_lt.mpr (mul_lt_mul_of_pos_right (Int.cast_lt.mpr h) hc)).symm
  · rw [compare_eq_iff_eq.mpr rfl, compare_eq_iff_eq.mpr rfl]
  · rw [compare_gt_iff_gt.mpr h]
    exact (compare_gt_iff_gt.mpr (mul_lt_mul_of_pos_right (Int.cast_lt.mpr h) hc)).symm

/-- Finite numbers are ordered by value. -/
lemma compare?_eq_some {x y : Binary64} {p q : ℚ} (hx : x.value? = some p)
    (hy : y.value? = some q) : x.compare? y = some (compare p q) := by
  cases x with
  | nan | infinite => exact nomatch hx
  | finite s m e =>
      cases y with
      | nan | infinite => exact nomatch hy
      | finite t n f =>
          cases hx
          cases hy
          rw [compare?, ← units_mul_zpow s m (min_le_left e f),
            ← units_mul_zpow t n (min_le_right e f)]
          exact congrArg some (compare_eq_compare_mul (by positivity))

/-- Finite numbers are equal if and only if their values are. -/
lemma eq_iff {x y : Binary64} {p q : ℚ} (hx : x.value? = some p) (hy : y.value? = some q) :
    x.eq y = true ↔ p = q := by
  rw [Binary64.eq, compare?_eq_some hx hy, beq_iff_eq, Option.some_inj, compare_eq_iff_eq]

end LineRepl.Binary64
