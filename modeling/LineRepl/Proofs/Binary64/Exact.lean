/-
Whole numbers of up to 53 binary digits are added, subtracted and multiplied exactly.

Zeros of either sign have the value zero, so a sum or a product is spoken of by its value here,
never by its sign.

* `round_mul_two_pow`: a fraction is rounded to the same number in any power of two.
* `value?_roundScaled`: a multiple of a power of two that is such a whole number is kept.
* `value?_add`, `value?_sub`, `value?_mul`: results that are such whole numbers are exact.
* `toInt?_eq_some_iff`: a number is an integer if its value is.
-/
import LineRepl.Binary64.Arithmetic
import LineRepl.Proofs.Binary64.Integer

namespace LineRepl.Binary64

/-! ### Powers of two in a fraction -/

lemma log2_mul_two_pow {n : ℕ} (hn : n ≠ 0) (k : ℕ) : (n * 2 ^ k).log2 = n.log2 + k := by
  have hpos : 0 < 2 ^ k := by positivity
  have hlow := Nat.mul_le_mul_right (2 ^ k) (Nat.log2_self_le hn)
  have hhigh := Nat.mul_lt_mul_of_pos_right (Nat.lt_log2_self (n := n)) hpos
  rw [← Nat.pow_add] at hlow hhigh
  rw [Nat.add_right_comm] at hhigh
  exact (Nat.log2_eq_iff (Nat.mul_ne_zero hn hpos.ne')).mpr ⟨hlow, hhigh⟩

/-- A fraction is extended by a factor before its unit is taken out or after. -/
lemma unscale_mul (num den c : ℕ) (exponent : ℤ) :
    unscale (num * c) (den * c) exponent =
      ((unscale num den exponent).1 * c, (unscale num den exponent).2 * c) := by
  simp only [unscale, Nat.shiftLeft_eq, Nat.mul_right_comm _ c]

/-- An extended fraction is rounded alike. -/
lemma roundQuotient_mul_mul {num den c : ℕ} (hc : 0 < c) :
    roundQuotient (num * c) (den * c) = roundQuotient num den := by
  simp only [roundQuotient, Nat.mul_div_mul_right _ _ hc, Nat.mul_mod_mul_right,
    ← Nat.mul_assoc, Nat.mul_lt_mul_right hc]

/-- An extended fraction has the same unit. -/
lemma unitExponent_mul_two_pow {num den : ℕ} (hnum : num ≠ 0) (hden : den ≠ 0) (k : ℕ) :
    unitExponent (num * 2 ^ k) (den * 2 ^ k) = unitExponent num den := by
  have hpos : 0 < 2 ^ k := by positivity
  have hguess : ((num.log2 + k : ℕ) : ℤ) - (den.log2 + k : ℕ) = num.log2 - den.log2 := by omega
  simp only [unitExponent, log2_mul_two_pow hnum, log2_mul_two_pow hden, hguess, unscale_mul,
    Nat.mul_div_mul_right _ _ hpos]

/-- A fraction is rounded to the same number in any power of two. -/
lemma round_mul_two_pow (negative : Bool) (num : ℕ) {den : ℕ} (hden : den ≠ 0) (k : ℕ) :
    round negative (num * 2 ^ k) (den * 2 ^ k) = round negative num den := by
  have hpos : 0 < 2 ^ k := by positivity
  rcases Nat.eq_zero_or_pos num with rfl | hnum
  · simp [round]
  · have hne : num ≠ 0 := by omega
    simp only [round, if_neg hne, if_neg (Nat.mul_ne_zero hne hpos.ne'),
      unitExponent_mul_two_pow hne hden, unscale_mul, roundQuotient_mul_mul hpos]

/-! ### Exact results -/

lemma natAbs_signed (negative : Bool) (n : ℕ) : (signed negative n).natAbs = n := by
  cases negative <;> simp [signed]

/-- A multiple of a power of two that is a whole number of up to 53 digits is kept. -/
lemma value?_roundScaled {negative : Bool} {magnitude : ℕ} {exponent n : ℤ}
    (h : (signed negative magnitude : ℚ) * 2 ^ exponent = n) (hn : n.natAbs ≤ 2 ^ 53) :
    (roundScaled negative magnitude exponent).value? = some (n : ℚ) := by
  have hsigned : signed negative n.natAbs = n := by
    have hpow : (0 : ℚ) ≤ magnitude * 2 ^ exponent := by positivity
    cases negative with
    | false =>
        have hnonneg : 0 ≤ n := Int.cast_nonneg_iff.mp (h ▸ hpow)
        exact Int.natAbs_of_nonneg hnonneg
    | true =>
        have hneg : (n : ℚ) = -(magnitude * 2 ^ exponent) := by
          rw [← h, signed, if_pos rfl, Int.cast_neg, neg_mul, Int.cast_natCast]
        have hnonpos : n ≤ 0 := Int.cast_nonpos.mp (hneg ▸ neg_nonpos.mpr hpow)
        rw [signed, if_pos rfl, Int.ofNat_natAbs_of_nonpos hnonpos, neg_neg]
  have hmagnitude : (magnitude : ℚ) * 2 ^ exponent = n.natAbs := by
    have habs := congrArg abs h
    have hpow : (0 : ℚ) < 2 ^ exponent := by positivity
    rwa [abs_mul, abs_of_pos hpow, ← Int.cast_abs, ← Nat.cast_natAbs, natAbs_signed,
      ← Int.cast_abs, ← Nat.cast_natAbs] at habs
  have hround : roundScaled negative magnitude exponent = round negative n.natAbs 1 := by
    obtain ⟨k, rfl | rfl⟩ := Int.eq_nat_or_neg exponent
    · have hshift : magnitude * 2 ^ k = n.natAbs := by exact_mod_cast hmagnitude
      simp [roundScaled, Nat.shiftLeft_eq, hshift]
    · have hshift : magnitude = n.natAbs * 2 ^ k := by
        rw [zpow_neg, zpow_natCast, ← div_eq_mul_inv, div_eq_iff (by positivity)] at hmagnitude
        exact_mod_cast hmagnitude
      rw [roundScaled, hshift, ← round_mul_two_pow negative n.natAbs one_ne_zero k]
      simp [Nat.shiftLeft_eq]
  rw [hround, value?_round_one negative (by omega), nearest_eq_self hn, hsigned]

lemma value?_zero (negative : Bool) : (zero negative).value? = some 0 := by
  cases negative <;> simp [zero, value?, signed]

lemma signed_not (negative : Bool) (n : ℕ) : signed (!negative) n = -signed negative n := by
  cases negative <;> simp [signed]

/-- Signs are multiplied as numbers are. -/
lemma signed_mul_signed (s t : Bool) (m n : ℕ) :
    signed s m * signed t n = signed (s != t) (m * n) := by
  cases s <;> cases t <;> simp [signed]

/-- The negative of a number has the negative value. -/
lemma value?_neg {x : Binary64} {q : ℚ} (hx : x.value? = some q) : (-x).value? = some (-q) := by
  cases x with
  | nan | infinite => exact nomatch hx
  | finite s m e h =>
      cases hx
      change some _ = _
      rw [signed_not, Int.cast_neg, neg_mul]

/-- The exact sum of two numbers, counted in the smaller of their units. -/
lemma units_add_units_mul_zpow (s t : Bool) (a b : ℕ) (e f : ℤ) :
    ((units s a e (min e f) + units t b f (min e f) : ℤ) : ℚ) * 2 ^ min e f =
      signed s a * 2 ^ e + signed t b * 2 ^ f := by
  rw [Int.cast_add, add_mul, units_mul_zpow s a (min_le_left e f),
    units_mul_zpow t b (min_le_right e f)]

/-- A sum that has at most 53 binary digits is exact. -/
lemma value?_add {x y : Binary64} {m n : ℤ} (hx : x.value? = some (m : ℚ))
    (hy : y.value? = some (n : ℚ)) (h : (m + n).natAbs ≤ 2 ^ 53) :
    (x + y).value? = some ((m + n : ℤ) : ℚ) := by
  cases x with
  | nan | infinite => exact nomatch hx
  | finite s a e =>
      cases y with
      | nan | infinite => exact nomatch hy
      | finite t b f =>
          rw [value?, Option.some_inj] at hx hy
          have htotal : ((units s a e (min e f) + units t b f (min e f) : ℤ) : ℚ) * 2 ^ min e f =
              (m + n : ℤ) := by
            rw [units_add_units_mul_zpow, hx, hy, Int.cast_add]
          change (add _ _).value? = _
          simp only [add]
          split_ifs with hzero
          · rw [hzero, Int.cast_zero, zero_mul] at htotal
            rw [value?_zero, htotal]
          · exact value?_roundScaled ((signed_natAbs _).symm ▸ htotal) h

/-- So is a difference. -/
lemma value?_sub {x y : Binary64} {m n : ℤ} (hx : x.value? = some (m : ℚ))
    (hy : y.value? = some (n : ℚ)) (h : (m - n).natAbs ≤ 2 ^ 53) :
    (x - y).value? = some ((m - n : ℤ) : ℚ) := by
  have hneg : (-y).value? = some ((-n : ℤ) : ℚ) := by
    rw [value?_neg hy, Int.cast_neg]
  rw [Int.sub_eq_add_neg] at h ⊢
  exact value?_add hx hneg h

/-- So is a product. -/
lemma value?_mul {x y : Binary64} {m n : ℤ} (hx : x.value? = some (m : ℚ))
    (hy : y.value? = some (n : ℚ)) (h : (m * n).natAbs ≤ 2 ^ 53) :
    (x * y).value? = some ((m * n : ℤ) : ℚ) := by
  cases x with
  | nan | infinite => exact nomatch hx
  | finite s a e =>
      cases y with
      | nan | infinite => exact nomatch hy
      | finite t b f =>
          rw [value?, Option.some_inj] at hx hy
          have hproduct : (signed (s != t) (a * b) : ℚ) * 2 ^ (e + f) = (m * n : ℤ) := by
            rw [← signed_mul_signed, Int.cast_mul, zpow_add₀ two_ne_zero, mul_mul_mul_comm, hx, hy,
              Int.cast_mul]
          change (mul _ _).value? = _
          simp only [mul]
          split_ifs with hzero
          · have hsigned : signed (s != t) 0 = 0 := by cases s <;> cases t <;> rfl
            rw [hzero, hsigned, Int.cast_zero, zero_mul] at hproduct
            rw [value?_zero, hproduct]
          · exact value?_roundScaled hproduct h

/-! ### Integers -/

/-- A mantissa below the point stands for a whole number exactly if it is a multiple. -/
lemma mul_zpow_neg_eq_iff {a n : ℤ} {k : ℕ} :
    (a : ℚ) * 2 ^ (-k : ℤ) = n ↔ a = n * (2 ^ k : ℕ) := by
  rw [zpow_neg, zpow_natCast, ← div_eq_mul_inv, div_eq_iff (by positivity)]
  norm_cast

lemma eq_natAbs_mul_of_signed_eq {negative : Bool} {m k : ℕ} {n : ℤ}
    (h : signed negative m = n * k) : m = n.natAbs * k := by
  have habs := congrArg Int.natAbs h
  rwa [natAbs_signed, Int.natAbs_mul, Int.natAbs_natCast] at habs

/-- A number is an integer if its value is. -/
lemma toInt?_eq_some_iff {x : Binary64} {n : ℤ} : x.toInt? = some n ↔ x.value? = some (n : ℚ) := by
  cases x with
  | nan | infinite => simp [toInt?, value?]
  | finite s m e h =>
      rw [value?, Option.some_inj]
      obtain ⟨k, rfl | rfl⟩ := Int.eq_nat_or_neg e
      · have hint : (finite s m k h).toInt? = some (signed s m * 2 ^ k) := by
          simp [toInt?, Nat.shiftLeft_eq, signed_mul, Nat.mod_one]
        rw [hint, Option.some_inj, zpow_natCast]
        norm_cast
      · have hpos : 0 < 2 ^ k := by positivity
        have hint : (finite s m (-k) h).toInt? =
            if m % 2 ^ k = 0 then some (signed s (m / 2 ^ k)) else none := by
          simp [toInt?, Nat.shiftLeft_eq]
        rw [hint, mul_zpow_neg_eq_iff]
        constructor
        · intro hn
          split_ifs at hn with hmod
          rw [← Option.some_inj.mp hn, ← signed_mul,
            Nat.div_mul_cancel (Nat.dvd_of_mod_eq_zero hmod)]
        · intro hn
          have hm : m = n.natAbs * 2 ^ k := eq_natAbs_mul_of_signed_eq hn
          have hpow : ((2 ^ k : ℕ) : ℤ) ≠ 0 := Int.natCast_ne_zero.mpr hpos.ne'
          rw [hm, signed_mul] at hn
          rw [hm, Nat.mul_mod_left, if_pos rfl, Nat.mul_div_cancel _ hpos,
            mul_right_cancel₀ hpow hn]

end LineRepl.Binary64
