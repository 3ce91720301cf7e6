/-
Integers of 64 bits as binary64 numbers.

An integer of up to 53 binary digits is kept. A longer one is rounded to a multiple of a power of
two, the one that leaves 53 digits in front of it.

* `nearest`, `nearestInt`: the integers that integers are rounded to.
* `nearestInt_eq_self`: small integers are kept.
* `value?_ofInt`: the value of an integer as a binary64 number.
-/
import LineRepl.Proofs.Binary64.Value

namespace LineRepl.Binary64

/-! ### Rounded quotients -/

/-- A whole quotient is kept. -/
lemma roundQuotient_mul {q den : ℕ} (hden : 0 < den) : roundQuotient (q * den) den = q := by
  simp [roundQuotient, hden]

/-- Whole numbers are not rounded. -/
lemma roundQuotient_one (n : ℕ) : roundQuotient n 1 = n := by
  have h := roundQuotient_mul (q := n) Nat.one_pos
  rwa [Nat.mul_one] at h

/-- A quotient is rounded down, or it is not whole and rounded up. -/
lemma roundQuotient_eq_or {num den : ℕ} (hden : 0 < den) :
    roundQuotient num den = num / den ∨
      roundQuotient num den = num / den + 1 ∧ 0 < num % den := by
  rw [roundQuotient]
  split
  · exact .inl rfl
  · split
    · exact .inr ⟨rfl, by omega⟩
    · split
      · exact .inl rfl
      · exact .inr ⟨rfl, by omega⟩

/-- Rounding a quotient passes no whole number below it. -/
lemma le_roundQuotient {a num den : ℕ} (hden : 0 < den) (h : a * den ≤ num) :
    a ≤ roundQuotient num den := by
  have hle : a ≤ num / den := (Nat.le_div_iff_mul_le hden).mpr h
  rcases roundQuotient_eq_or hden with heq | ⟨heq, -⟩ <;> rw [heq] <;> omega

/-- Rounding a quotient passes no whole number above it. -/
lemma roundQuotient_le {b num den : ℕ} (hden : 0 < den) (h : num ≤ b * den) :
    roundQuotient num den ≤ b := by
  have hsplit := Nat.div_add_mod num den
  rcases roundQuotient_eq_or hden with heq | ⟨heq, hpos⟩ <;> rw [heq]
  · exact Nat.div_le_of_le_mul (Nat.mul_comm b den ▸ h)
  · refine Nat.lt_of_mul_lt_mul_left (a := den) ?_
    rw [Nat.mul_comm den b]
    omega

/-! ### Rounded integers -/

/-- The distance at which binary64 has integers from `n` on. -/
def spacing (n : ℕ) : ℕ := 2 ^ (n.log2 - 52)

/-- The nearest natural number that binary64 has, of two the one with the even mantissa. -/
def nearest (n : ℕ) : ℕ := roundQuotient n (spacing n) * spacing n

/-- The nearest integer that binary64 has. -/
def nearestInt (n : ℤ) : ℤ := signed (decide (n < 0)) (nearest n.natAbs)

lemma spacing_eq_one {n : ℕ} (h : n.log2 ≤ 52) : spacing n = 1 := by
  rw [spacing, Nat.sub_eq_zero_of_le h, Nat.pow_zero]

/-- A number of at most 53 binary digits is its own nearest one. -/
lemma nearest_eq_self_of_log2_le {n : ℕ} (h : n.log2 ≤ 52) : nearest n = n := by
  rw [nearest, spacing_eq_one h, roundQuotient_one, Nat.mul_one]

/-- Natural numbers up to `2 ^ 53` are kept. -/
lemma nearest_eq_self {n : ℕ} (h : n ≤ 2 ^ 53) : nearest n = n := by
  rcases Nat.lt_or_eq_of_le h with hlt | rfl
  · rcases Nat.eq_zero_or_pos n with rfl | hpos
    · rfl
    · have hlog : n.log2 < 53 := (Nat.log2_lt (by omega)).mpr hlt
      exact nearest_eq_self_of_log2_le (by omega)
  · rw [nearest, spacing, Nat.log2_two_pow]
    rfl

lemma signed_natAbs (n : ℤ) : signed (decide (n < 0)) n.natAbs = n := by
  rw [signed]
  split_ifs with h
  all_goals
    rw [decide_eq_true_iff] at h
    omega

/-- Integers between `-2 ^ 53` and `2 ^ 53` are kept. -/
lemma nearestInt_eq_self {n : ℤ} (h : n.natAbs ≤ 2 ^ 53) : nearestInt n = n := by
  rw [nearestInt, nearest_eq_self h, signed_natAbs]

/-! ### Conversion -/

/-- The fraction of a natural number in units of a power of two. -/
lemma unscale_natCast (n k : ℕ) : unscale n 1 k = (n, 2 ^ k) := by
  simp [unscale, Nat.shiftLeft_eq]

/-- With a unit below one a whole number is written with binary digits behind the point. -/
lemma unscale_neg_natCast (n k : ℕ) : unscale n 1 (-k) = (n * 2 ^ k, 1) := by
  simp [unscale, Nat.shiftLeft_eq]

/-- The unit that a natural number is counted in leaves 53 digits before the point. -/
lemma unitExponent_one {n : ℕ} (hn : n ≠ 0) : unitExponent n 1 = n.log2 - 52 := by
  have hle := Nat.log2_self_le hn
  have hfull : 1 <<< 53 ≤
      (unscale n 1 (n.log2 - 53)).1 / (unscale n 1 (n.log2 - 53)).2 := by
    rw [Nat.one_shiftLeft]
    rcases Nat.le_total 53 n.log2 with h | h
    · rw [show (n.log2 : ℤ) - 53 = (n.log2 - 53 : ℕ) by omega, unscale_natCast]
      rw [Nat.le_div_iff_mul_le (by positivity), ← Nat.pow_add, Nat.add_sub_cancel' h]
      exact hle
    · rw [show (n.log2 : ℤ) - 53 = -(53 - n.log2 : ℕ) by omega, unscale_neg_natCast, Nat.div_one]
      calc 2 ^ 53 = 2 ^ n.log2 * 2 ^ (53 - n.log2) := by
            rw [← Nat.pow_add, Nat.add_sub_cancel' h]
        _ ≤ n * 2 ^ (53 - n.log2) := Nat.mul_le_mul_right _ hle
  have hone : Nat.log2 1 = 0 := rfl
  simp only [unitExponent, hone, Nat.cast_zero, sub_zero, if_pos hfull]
  omega

/-- Mantissa and unit of a natural number that is rounded to 53 digits. -/
lemma roundQuotient_unscale {n : ℕ} (hn : n ≠ 0) :
    ∃ m, roundQuotient (unscale n 1 (n.log2 - 52)).1 (unscale n 1 (n.log2 - 52)).2 = m ∧
      2 ^ 52 ≤ m ∧ m ≤ 2 ^ 53 ∧ (m : ℚ) * 2 ^ ((n.log2 : ℤ) - 52) = nearest n := by
  refine ⟨_, rfl, ?_⟩
  have hle := Nat.log2_self_le hn
  have hlt := Nat.lt_log2_self (n := n)
  rcases Nat.le_total 52 n.log2 with h | h
  · have hpos : 0 < 2 ^ (n.log2 - 52) := by positivity
    rw [show (n.log2 : ℤ) - 52 = (n.log2 - 52 : ℕ) by omega, unscale_natCast, zpow_natCast]
    refine ⟨le_roundQuotient hpos ?_, roundQuotient_le hpos ?_, ?_⟩
    · rwa [← Nat.pow_add, Nat.add_sub_cancel' h]
    · rw [← Nat.pow_add, show 53 + (n.log2 - 52) = n.log2 + 1 by omega]
      exact hlt.le
    · rw [nearest, spacing]
      push_cast
      rfl
  · rw [show (n.log2 : ℤ) - 52 = -(52 - n.log2 : ℕ) by omega, unscale_neg_natCast,
      roundQuotient_one, nearest_eq_self_of_log2_le h, zpow_neg, zpow_natCast]
    refine ⟨?_, ?_, ?_⟩
    · calc 2 ^ 52 = 2 ^ n.log2 * 2 ^ (52 - n.log2) := by
            rw [← Nat.pow_add, Nat.add_sub_cancel' h]
        _ ≤ n * 2 ^ (52 - n.log2) := Nat.mul_le_mul_right _ hle
    · calc n * 2 ^ (52 - n.log2) ≤ 2 ^ (n.log2 + 1) * 2 ^ (52 - n.log2) :=
            Nat.mul_le_mul_right _ hlt.le
        _ = 2 ^ 53 := by
            rw [← Nat.pow_add]
            congr 1
            omega
    · push_cast
      field_simp

/-- The value of a natural number of 64 bits as a binary64 number of the given sign. -/
lemma value?_round_one (negative : Bool) {n : ℕ} (hn : n < 2 ^ 64) :
    (round negative n 1).value? = some ((signed negative (nearest n) : ℤ) : ℚ) := by
  rcases Nat.eq_zero_or_pos n with rfl | hpos
  · cases negative <;> simp [round, zero, value?, signed, nearest, roundQuotient]
  have hne : n ≠ 0 := by omega
  have hlog : n.log2 < 64 := (Nat.log2_lt hne).mpr hn
  obtain ⟨m, hm, hlow, hhigh, hvalue⟩ := roundQuotient_unscale hne
  have hsigned : (signed negative (nearest n) : ℚ) =
      signed negative m * 2 ^ ((n.log2 : ℤ) - 52) := by
    cases negative <;> simp [signed, hvalue]
  simp only [round, if_neg hne, unitExponent_one hne, hm]
  by_cases hcarry : m = 1 <<< 53
  · have hcanonical : Canonical (1 <<< 52) ((n.log2 : ℤ) - 52 + 1) := by
      exact ⟨by decide, by omega, by omega, .inl le_rfl⟩
    have hdouble : signed negative m = signed negative (1 <<< 52) * 2 := by
      rw [hcarry]
      exact signed_mul negative (1 <<< 52) 2
    simp only [if_pos hcarry, dif_pos hcanonical, value?, hsigned, hdouble]
    refine congrArg some ?_
    rw [zpow_add_one₀ two_ne_zero]
    push_cast
    ring
  · have hcanonical : Canonical m ((n.log2 : ℤ) - 52) := by
      rw [Nat.one_shiftLeft] at hcarry
      refine ⟨by rw [Nat.one_shiftLeft]; omega, by omega, by omega, .inl ?_⟩
      rwa [Nat.one_shiftLeft]
    simp only [if_neg hcarry, dif_pos hcanonical, value?, hsigned]

/-- The value of an integer of 64 bits as a binary64 number. -/
lemma value?_ofInt {n : ℤ} (hn : n.natAbs < 2 ^ 64) :
    (ofInt n).value? = some (nearestInt n : ℚ) :=
  value?_round_one _ hn

/-- An integer of 64 bits becomes a finite number, of the value that is nearest. -/
lemma value?_ofInt_toInt (n : Int64) : (ofInt n.toInt).value? = some (nearestInt n.toInt : ℚ) := by
  have hle := n.le_toInt
  have hlt := n.toInt_lt
  exact value?_ofInt (by omega)

end LineRepl.Binary64
