/-
Binary64 numbers without what is behind their point.

A number is whole if and only if nothing is left when its whole part is subtracted from it. That the
difference is a rounded one does no harm: binary64 rounds no difference to zero.

* `trunc`, `fract`, `abs`, `toInt64`: the whole part of a number, what is behind the point, the
  magnitude, and the conversion to an integer of 64 bits, which stops at the ends of their range.
* `value?_sub_eq_zero_iff`: a difference is zero only if the exact one is.
* `isZero_fract_iff`: nothing is behind the point of whole numbers, and of no others.
* `abs_lt_iff`: the magnitudes below that of the greatest integer, which is rounded up to `2 ^ 63`.
* `toInt64_of_value?`: a whole number in the range is converted to its integer.
-/
import LineRepl.Proofs.Binary64.Rounding

namespace LineRepl.Binary64

/-! ### Operations -/

/-- The integer in front of the point. -/
def wholePart (negative : Bool) (mantissa : ℕ) (exponent : ℤ) : ℤ :=
  signed negative ((mantissa >>> (-exponent).toNat) <<< exponent.toNat)

/-- The number without what is behind its point. -/
def trunc : Binary64 → Binary64
  | .nan => .nan
  | .infinite s => .infinite s
  | .finite s m e h => if 0 ≤ e then .finite s m e h else round s (m >>> (-e).toNat) 1

/-- What is behind the point of the number. -/
def fract (x : Binary64) : Binary64 := x - x.trunc

/-- The number without its sign. -/
def abs : Binary64 → Binary64
  | .nan => .nan
  | .infinite _ => .infinite false
  | .finite _ m e h => .finite false m e h

/-- The integer in front of the point, or the one of 64 bits that is nearest to it. -/
def toInt64 : Binary64 → Int64
  | .nan => 0
  | .infinite s => if s then Int64.minValue else Int64.maxValue
  | .finite s m e _ =>
    if wholePart s m e ≤ Int64.minValue.toInt then Int64.minValue
    else if Int64.maxValue.toInt ≤ wholePart s m e then Int64.maxValue
    else Int64.ofInt (wholePart s m e)

/-! ### Zeros among rounded numbers -/

/-- The zeros are the numbers of the value zero. -/
lemma isZero_iff {x : Binary64} : x.isZero = true ↔ x.value? = some 0 := by
  rw [isZero]
  cases x with
  | nan => exact iff_of_false nofun nofun
  | infinite s => cases s <;> exact iff_of_false nofun nofun
  | finite s m e h => rw [eq_iff rfl (value?_zero false), value?, Option.some_inj]

/-- The unit that a fraction is counted in is not greater than the fraction, unless that is below
the least positive number. -/
lemma zpow_unitExponent_le {num den : ℕ} (hnum : num ≠ 0) (hden : den ≠ 0)
    (h : 2 ^ (-1074 : ℤ) ≤ (num : ℚ) / den) : 2 ^ unitExponent num den ≤ (num : ℚ) / den := by
  obtain ⟨hleast, hfull, -⟩ := unitExponent_bounds hnum hden
  rcases hleast.lt_or_eq with hlt | heq
  · calc (2 : ℚ) ^ unitExponent num den = 1 * 2 ^ unitExponent num den := (one_mul _).symm
      _ ≤ 2 ^ 52 * 2 ^ unitExponent num den :=
          mul_le_mul_of_nonneg_right (by norm_num) (by positivity)
      _ ≤ num / den := hfull hlt
  · rwa [← heq]

/-- A quotient is not rounded to zero if it is at least one. -/
lemma roundQuotient_unscale_ne_zero {num den : ℕ} (hden : den ≠ 0) {exponent : ℤ}
    (h : 2 ^ exponent ≤ (num : ℚ) / den) :
    roundQuotient (unscale num den exponent).1 (unscale num den exponent).2 ≠ 0 := by
  have hscaled := unscale_snd_pos num hden exponent
  have hpos : (0 : ℚ) < (unscale num den exponent).2 := Nat.cast_pos.mpr hscaled
  have hone : ((unscale num den exponent).2 : ℚ) ≤ (unscale num den exponent).1 := by
    rw [← one_le_div hpos, unscale_div]
    exact (one_le_div (by positivity)).mpr h
  refine Nat.one_le_iff_ne_zero.mp (le_roundQuotient hscaled ?_)
  rw [Nat.one_mul]
  exact_mod_cast hone

/-- A fraction is not rounded to zero if it is at least the least positive number. -/
lemma value?_round_ne_zero (negative : Bool) {num den : ℕ} (hnum : num ≠ 0) (hden : den ≠ 0)
    (h : 2 ^ (-1074 : ℤ) ≤ (num : ℚ) / den) : (round negative num den).value? ≠ some 0 := by
  have hmantissa := roundQuotient_unscale_ne_zero hden (zpow_unitExponent_le hnum hden h)
  have hfinite {m : ℕ} {e : ℤ} (hcanonical : Canonical m e) (hm : m ≠ 0) :
      (finite negative m e hcanonical).value? ≠ some 0 := by
    intro hzero
    obtain ⟨s, hs⟩ := exists_zero_of_value? hzero
    exact hm (Binary64.finite.inj hs).2.1
  have hinfinite : (infinite negative).value? ≠ some 0 := by
    intro hzero
    cases hzero
  rw [round, if_neg hnum]
  simp only
  split_ifs with hcarry hcanonical hcanonical
  · have hcarried : 1 <<< 52 ≠ 0 := by decide
    exact hfinite hcanonical hcarried
  · exact hinfinite
  · exact hfinite hcanonical hmantissa
  · exact hinfinite

/-- Nothing but zero is rounded to zero, from the least unit on. -/
lemma value?_roundScaled_ne_zero (negative : Bool) {magnitude : ℕ} (hmagnitude : magnitude ≠ 0)
    {exponent : ℤ} (h : -1074 ≤ exponent) :
    (roundScaled negative magnitude exponent).value? ≠ some 0 := by
  rw [roundScaled, Nat.one_shiftLeft, Nat.shiftLeft_eq]
  have hnum : magnitude * 2 ^ exponent.toNat ≠ 0 := by positivity
  refine value?_round_ne_zero negative hnum (by positivity) ?_
  rw [le_div_iff₀ (by positivity), mul_comm]
  calc ((2 ^ (-exponent).toNat : ℕ) : ℚ) * 2 ^ (-1074 : ℤ)
      = 2 ^ (((-exponent).toNat : ℤ) + -1074) := by
        rw [zpow_add₀ two_ne_zero, zpow_natCast, Nat.cast_pow, Nat.cast_ofNat]
    _ ≤ 2 ^ (0 : ℤ) := zpow_le_zpow_right₀ one_le_two (by omega)
    _ ≤ (magnitude * 2 ^ exponent.toNat : ℕ) := by
        exact_mod_cast Nat.one_le_iff_ne_zero.mpr hnum

/-- A sum is zero only if the exact sum is: sums are not rounded to zero. -/
lemma value?_add_eq_zero_iff {x y : Binary64} {p q : ℚ} (hx : x.value? = some p)
    (hy : y.value? = some q) : (x + y).value? = some 0 ↔ p + q = 0 := by
  cases x with
  | nan | infinite => exact nomatch hx
  | finite s a e h =>
      cases y with
      | nan | infinite => exact nomatch hy
      | finite t b f h' =>
          have he := h.2.1
          have hf := h'.2.1
          rw [value?, Option.some_inj] at hx hy
          have htotal : ((units s a e (min e f) + units t b f (min e f) : ℤ) : ℚ) * 2 ^ min e f =
              p + q := by
            rw [units_add_units_mul_zpow, hx, hy]
          have hpow : (2 : ℚ) ^ min e f ≠ 0 := by positivity
          change (add _ _).value? = _ ↔ _
          rw [← htotal, mul_eq_zero_iff_right hpow, Int.cast_eq_zero]
          simp only [add]
          split_ifs with hzero
          · exact iff_of_true (value?_zero _) hzero
          · exact iff_of_false
              (value?_roundScaled_ne_zero _ (Int.natAbs_ne_zero.mpr hzero) (by omega)) hzero

/-- A difference is zero exactly if the numbers have one value. -/
lemma value?_sub_eq_zero_iff {x y : Binary64} {p q : ℚ} (hx : x.value? = some p)
    (hy : y.value? = some q) : (x - y).value? = some 0 ↔ p = q := by
  have hsum := value?_add_eq_zero_iff hx (value?_neg hy)
  rwa [← sub_eq_add_neg, sub_eq_zero] at hsum

/-! ### Whole parts -/

/-- The whole part of a whole number is the number. -/
lemma wholePart_of_value? {s : Bool} {m : ℕ} {e : ℤ} {h : Canonical m e} {n : ℤ}
    (hn : (finite s m e h).value? = some (n : ℚ)) : wholePart s m e = n := by
  have hint := toInt?_eq_some_iff.mpr hn
  rw [toInt?] at hint
  simp only [Nat.one_shiftLeft] at hint
  split_ifs at hint
  rw [wholePart, Nat.shiftRight_eq_div_pow]
  exact Option.some_inj.mp hint

/-- What is left before the point is the whole part of the value. -/
lemma value?_trunc (s : Bool) {m : ℕ} {e : ℤ} (h : Canonical m e) :
    (trunc (.finite s m e h)).value? = some (wholePart s m e : ℚ) := by
  have hdigits := h.1
  rw [Nat.one_shiftLeft] at hdigits
  rw [trunc]
  split_ifs with he
  · obtain ⟨k, rfl⟩ := Int.eq_ofNat_of_zero_le he
    refine congrArg some ?_
    simp [wholePart, Nat.shiftLeft_eq, signed_mul]
  · have hsmall : m >>> (-e).toNat ≤ 2 ^ 53 := by
      rw [Nat.shiftRight_eq_div_pow]
      exact (Nat.div_le_self _ _).trans hdigits.le
    have hnone : e.toNat = 0 := by omega
    rw [value?_round_one s (by omega), nearest_eq_self hsmall, wholePart, hnone,
      Nat.shiftLeft_zero]

/-- Nothing is behind the point of whole numbers, and of no others. -/
lemma isZero_fract_iff {x : Binary64} :
    x.fract.isZero = true ↔ ∃ n : ℤ, x.value? = some (n : ℚ) := by
  rw [isZero_iff, fract]
  cases x with
  | nan => exact iff_of_false nofun nofun
  | infinite s => cases s <;> exact iff_of_false nofun nofun
  | finite s m e h =>
      rw [value?_sub_eq_zero_iff rfl (value?_trunc s h)]
      constructor
      · intro hwhole
        exact ⟨wholePart s m e, congrArg some hwhole⟩
      · rintro ⟨n, hn⟩
        rw [wholePart_of_value? hn]
        exact Option.some_inj.mp hn

/-! ### Ranges -/

/-- The number without its sign has the absolute value. -/
lemma value?_abs {x : Binary64} {q : ℚ} (hx : x.value? = some q) : x.abs.value? = some |q| := by
  cases x with
  | nan | infinite => exact nomatch hx
  | finite s m e h =>
      cases hx
      have hpos : (0 : ℚ) < 2 ^ e := by positivity
      refine congrArg some ?_
      rw [abs_mul, abs_of_pos hpos, ← Int.cast_abs, ← Nat.cast_natAbs, natAbs_signed]
      simp [signed]

/-- The greatest integer is rounded up. -/
lemma value?_ofInt_maxValue : (ofInt Int64.maxValue.toInt).value? = some (2 ^ 63) := by
  have hup : nearestInt Int64.maxValue.toInt = 2 ^ 63 := by decide +kernel
  rw [value?_ofInt_toInt, hup]
  norm_cast

/-- The magnitudes below that of the greatest integer. -/
lemma abs_lt_iff {x : Binary64} {q : ℚ} (hx : x.value? = some q) :
    x.abs.lt (ofInt Int64.maxValue.toInt) = true ↔ |q| < 2 ^ 63 := by
  rw [lt, compare?_eq_some (value?_abs hx) value?_ofInt_maxValue, beq_iff_eq, Option.some_inj,
    compare_lt_iff_lt]

/-- A whole number in the range of the integers of 64 bits is converted to its integer. -/
lemma toInt64_of_value? {x : Binary64} {n : ℤ} (hx : x.value? = some (n : ℚ))
    (hn : n.natAbs < 2 ^ 63) : x.toInt64 = Int64.ofInt n := by
  cases x with
  | nan | infinite => exact nomatch hx
  | finite s m e h =>
      rw [toInt64, wholePart_of_value? hx, Int64.toInt_minValue, Int64.toInt_maxValue]
      split_ifs with hlow hhigh
      · omega
      · obtain rfl : n = 2 ^ 63 - 1 := by omega
        rfl
      · rfl

end LineRepl.Binary64
