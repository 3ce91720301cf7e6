/-
Whole binary64 numbers, which are sparse beyond `2 ^ 53`.

* `eq_of_mul_zpow_eq`, `eq_of_value?`: a number other than zero has one form, and there are two
  zeros.
* `nearestInt_eq_of_value?`: an integer that binary64 has is the nearest one to itself.
* `ofInt_of_value?`: a whole number is made again from its integer, but for the sign of a zero.
-/
import LineRepl.Proofs.Binary64.Exact

namespace LineRepl.Binary64

/-! ### Forms of a number -/

/-- Of two forms with one value, none has the greater exponent: its mantissa would be full, and that
of the other one would have more than 53 digits. -/
lemma exponent_le_of_mul_zpow_eq {m n : ℕ} {e f : ℤ} (hm : Canonical m e) (hn : Canonical n f)
    (h : (m : ℚ) * 2 ^ e = n * 2 ^ f) : f ≤ e := by
  obtain ⟨hdigits, hleast, -, -⟩ := hm
  obtain ⟨-, -, -, hfull⟩ := hn
  rw [Nat.one_shiftLeft] at hdigits hfull
  by_contra hlt
  obtain ⟨k, rfl⟩ : ∃ k : ℕ, f = e + (k + 1 : ℕ) := ⟨(f - e - 1).toNat, by omega⟩
  have hmn : m = n * 2 ^ (k + 1) := by
    have hpos : (2 : ℚ) ^ e ≠ 0 := by positivity
    rw [zpow_add₀ two_ne_zero, zpow_natCast, mul_left_comm, mul_comm ((2 : ℚ) ^ e)] at h
    exact_mod_cast mul_right_cancel₀ hpos h
  have hlow : 2 ^ 52 ≤ n := by omega
  have hmany : 2 ^ 53 ≤ m :=
    calc 2 ^ 53 = 2 ^ 52 * 2 ^ 1 := rfl
      _ ≤ n * 2 ^ (k + 1) := Nat.mul_le_mul hlow (Nat.pow_le_pow_right (by decide) (by omega))
      _ = m := hmn.symm
  omega

/-- A value has one form. -/
lemma eq_of_mul_zpow_eq {m n : ℕ} {e f : ℤ} (hm : Canonical m e) (hn : Canonical n f)
    (h : (m : ℚ) * 2 ^ e = n * 2 ^ f) : m = n ∧ e = f := by
  obtain rfl : e = f := le_antisymm (exponent_le_of_mul_zpow_eq hn hm h.symm)
    (exponent_le_of_mul_zpow_eq hm hn h)
  have hpos : (2 : ℚ) ^ e ≠ 0 := by positivity
  exact ⟨by exact_mod_cast mul_right_cancel₀ hpos h, rfl⟩

/-- Numbers that are equal in value are equal, unless they are zeros. -/
lemma eq_of_value? {x y : Binary64} {q : ℚ} (hx : x.value? = some q) (hy : y.value? = some q)
    (hq : q ≠ 0) : x = y := by
  cases x with
  | nan | infinite => exact nomatch hx
  | finite s m e hm =>
      cases y with
      | nan | infinite => exact nomatch hy
      | finite t n f hn =>
          rw [value?, Option.some_inj] at hx hy
          have hpow (k : ℕ) (g : ℤ) : (0 : ℚ) ≤ k * 2 ^ g := by positivity
          have hme := hpow m e
          have hnf := hpow n f
          have hvalue : (m : ℚ) * 2 ^ e = n * 2 ^ f ∧ s = t := by
            cases s <;> cases t <;>
              simp only [signed, if_true, if_false, Bool.false_eq_true, Int.cast_neg,
                Int.cast_natCast, neg_mul] at hx hy
            · exact ⟨hx.trans hy.symm, rfl⟩
            · exact absurd (by linarith) hq
            · exact absurd (by linarith) hq
            · exact ⟨by linarith, rfl⟩
          obtain ⟨heq, rfl⟩ := hvalue
          obtain ⟨rfl, rfl⟩ := eq_of_mul_zpow_eq hm hn heq
          rfl

/-- There are two zeros. -/
lemma exists_zero_of_value? {x : Binary64} (hx : x.value? = some 0) : ∃ s, x = zero s := by
  cases x with
  | nan | infinite => exact nomatch hx
  | finite s m e h =>
      rw [value?, Option.some_inj] at hx
      have hpos : (2 : ℚ) ^ e ≠ 0 := by positivity
      have hsigned : signed s m = 0 := by
        exact_mod_cast (mul_eq_zero.mp hx).resolve_right hpos
      obtain rfl : m = 0 := by
        rw [← natAbs_signed s m, hsigned, Int.natAbs_zero]
      obtain rfl : e = -1074 := h.2.2.2.resolve_left (by decide)
      exact ⟨s, rfl⟩

/-! ### Whole numbers -/

/-- A multiple of its spacing is its own nearest number. -/
lemma nearest_eq_of_dvd {n : ℕ} (h : spacing n ∣ n) : nearest n = n := by
  obtain ⟨c, hc⟩ := h
  have hpos : 0 < spacing n := by
    rw [spacing]
    positivity
  have hn : n = c * spacing n := hc.trans (Nat.mul_comm _ c)
  calc nearest n = roundQuotient (c * spacing n) (spacing n) * spacing n := by
        rw [← hn, nearest]
    _ = c * spacing n := by rw [roundQuotient_mul hpos]
    _ = n := hn.symm

/-- A mantissa of 53 digits is kept in any unit. -/
lemma nearest_mul_two_pow {m : ℕ} (hm : m < 2 ^ 53) (k : ℕ) :
    nearest (m * 2 ^ k) = m * 2 ^ k := by
  rcases Nat.eq_zero_or_pos m with rfl | hpos
  · rw [Nat.zero_mul]
    exact nearest_eq_self (Nat.zero_le _)
  · have hlog : m.log2 < 53 := (Nat.log2_lt (by omega)).mpr hm
    refine nearest_eq_of_dvd ?_
    rw [spacing, log2_mul_two_pow (by omega)]
    exact Dvd.dvd.mul_left (Nat.pow_dvd_pow 2 (by omega)) m

/-- A whole number is a multiple of a power of two, by no more than 53 digits. -/
lemma exists_natAbs_eq_of_value? {x : Binary64} {n : ℤ} (hx : x.value? = some (n : ℚ)) :
    ∃ m k, m < 2 ^ 53 ∧ n.natAbs = m * 2 ^ k := by
  cases x with
  | nan | infinite => exact nomatch hx
  | finite s m e h =>
      have hdigits := h.1
      rw [Nat.one_shiftLeft] at hdigits
      rw [value?, Option.some_inj] at hx
      obtain ⟨k, rfl | rfl⟩ := Int.eq_nat_or_neg e
      · refine ⟨m, k, hdigits, ?_⟩
        have hn : signed s m * 2 ^ k = n := by exact_mod_cast hx
        rw [← hn, Int.natAbs_mul, natAbs_signed, Int.natAbs_pow]
        rfl
      · refine ⟨n.natAbs, 0, ?_, by rw [Nat.pow_zero, Nat.mul_one]⟩
        have hm : m = n.natAbs * 2 ^ k :=
          eq_natAbs_mul_of_signed_eq (mul_zpow_neg_eq_iff.mp hx)
        calc n.natAbs ≤ n.natAbs * 2 ^ k := Nat.le_mul_of_pos_right _ (by positivity)
          _ = m := hm.symm
          _ < 2 ^ 53 := hdigits

/-- An integer that binary64 has is the nearest one to itself. -/
lemma nearestInt_eq_of_value? {x : Binary64} {n : ℤ} (hx : x.value? = some (n : ℚ)) :
    nearestInt n = n := by
  obtain ⟨m, k, hm, hn⟩ := exists_natAbs_eq_of_value? hx
  rw [nearestInt, hn, nearest_mul_two_pow hm, ← hn, signed_natAbs]

/-- The number without the sign of a zero. -/
def unsignedZero (x : Binary64) : Binary64 := if x = zero true then zero false else x

lemma unsignedZero_of_ne {x : Binary64} (h : x ≠ zero true) : x.unsignedZero = x := if_neg h

/-- The sign of a zero is none of its value. -/
lemma eq_unsignedZero {x : Binary64} (h : x ≠ .nan) : x.unsignedZero.eq x = true := by
  rw [unsignedZero]
  split_ifs with hzero
  · rw [hzero]
    decide
  · cases x with
    | nan => exact absurd rfl h
    | infinite s => cases s <;> rfl
    | finite s m e hm => exact (eq_iff rfl rfl).mpr rfl

/-- A whole number is made again from its integer, but for the sign of a zero. -/
lemma ofInt_of_value? {x : Binary64} {n : ℤ} (hx : x.value? = some (n : ℚ))
    (hn : n.natAbs < 2 ^ 64) : ofInt n = x.unsignedZero := by
  rcases eq_or_ne n 0 with rfl | hne
  · obtain ⟨s, rfl⟩ := exists_zero_of_value? (by exact_mod_cast hx)
    cases s <;> decide +kernel
  · have hvalue : (ofInt n).value? = some (n : ℚ) := by
      rw [value?_ofInt hn, nearestInt_eq_of_value? hx]
    have hzero : x ≠ zero true := by
      rintro rfl
      rw [value?_zero, Option.some_inj] at hx
      exact hne (by exact_mod_cast hx.symm)
    rw [unsignedZero_of_ne hzero]
    exact eq_of_value? hvalue hx (Int.cast_ne_zero.mpr hne)

end LineRepl.Binary64
