/-
Fractions and decimals are rounded correctly.

What a positive number becomes is told by the finite numbers around it: the nearest one, of two
equally near ones the one with the even mantissa. Numbers that lie next to each other have mantissas
of which one is even and one is odd, so there is always one choice.

* `IsNearest`: the finite number that is chosen among all of them.
* `RoundsTo`: what a rational number that is not negative becomes, infinity included.
* `RoundsTo.unique`: there is no more than one such number.
* `roundsTo_round`: fractions become the numbers that they round to.
* `roundsTo_iff_eq_toBinary64`: so do decimals, whatever their digits and exponents are.
-/
import LineRepl.Proofs.Binary64.Reading
import LineRepl.Proofs.Binary64.Whole

namespace LineRepl

namespace Binary64

/-! ### Nearest numbers -/

/-- No finite number is nearer to `q` than `m * 2 ^ e`, and if another one is equally near, then `m`
is even. -/
structure IsNearest (q : ℚ) (m : ℕ) (e : ℤ) : Prop where
  le : ∀ n f, Canonical n f → |q - m * 2 ^ e| ≤ |q - n * 2 ^ f|
  even : ∀ n f, Canonical n f → |q - m * 2 ^ e| = |q - n * 2 ^ f| → (m = n ∧ e = f) ∨ Even m

/-- The least number that rounds to infinity. It lies half way between the greatest finite number,
which is `(2 ^ 53 - 1) * 2 ^ 971`, and `2 ^ 53 * 2 ^ 971`. -/
def overflowBound : ℚ := (2 ^ 53 - 1 / 2) * 2 ^ (971 : ℤ)

/-- What a rational number that is not negative rounds to. -/
inductive RoundsTo (q : ℚ) : Binary64 → Prop where
  | finite {m : ℕ} {e : ℤ} (h : Canonical m e) :
      q < overflowBound → IsNearest q m e → RoundsTo q (.finite false m e h)
  | infinite : overflowBound ≤ q → RoundsTo q (.infinite false)

/-! ### Numbers next to each other -/

/-- A number counted in a smaller unit. -/
lemma mul_zpow_eq_of_le (n : ℕ) {e f : ℤ} (h : e ≤ f) :
    (n : ℚ) * 2 ^ f = (n * 2 ^ (f - e).toNat : ℕ) * 2 ^ e := by
  rw [Nat.cast_mul, Nat.cast_pow, Nat.cast_ofNat, mul_assoc, ← zpow_natCast,
    ← zpow_add₀ two_ne_zero, Int.toNat_of_nonneg (by omega), sub_add_cancel]

/-- Numbers of a smaller unit are smaller than those with a full mantissa. -/
lemma mul_zpow_lt_of_lt {n : ℕ} {e f : ℤ} (hn : Canonical n f) (h : f < e) :
    (n : ℚ) * 2 ^ f < 2 ^ 52 * 2 ^ e := by
  have hdigits : (n : ℚ) < 2 ^ 53 := by
    have hlt := hn.1
    rw [Nat.one_shiftLeft] at hlt
    exact_mod_cast hlt
  calc (n : ℚ) * 2 ^ f < 2 ^ 53 * 2 ^ f := mul_lt_mul_of_pos_right hdigits (by positivity)
    _ = 2 ^ 52 * 2 ^ (f + 1) := by
        rw [zpow_add_one₀ two_ne_zero]
        ring
    _ ≤ 2 ^ 52 * 2 ^ e :=
        mul_le_mul_of_nonneg_left (zpow_le_zpow_right₀ one_le_two (by omega)) (by positivity)

/-- No number lies between two whose mantissas follow each other. -/
lemma succ_mul_zpow_le {m n : ℕ} {e f : ℤ} (hm : Canonical m e) (hn : Canonical n f)
    (h : (m : ℚ) * 2 ^ e < n * 2 ^ f) : ((m + 1 : ℕ) : ℚ) * 2 ^ e ≤ n * 2 ^ f := by
  have hpos : (0 : ℚ) < 2 ^ e := by positivity
  rcases le_or_gt e f with hle | hlt
  · rw [mul_zpow_eq_of_le n hle] at h ⊢
    have hmantissa : m < n * 2 ^ (f - e).toNat :=
      Nat.cast_lt.mp (lt_of_mul_lt_mul_right h hpos.le)
    exact mul_le_mul_of_nonneg_right (Nat.cast_le.mpr hmantissa) hpos.le
  · have hfull : 2 ^ 52 ≤ m := by
      have hleast := hn.2.1
      rcases hm.2.2.2 with hfull | rfl
      · rwa [Nat.one_shiftLeft] at hfull
      · omega
    have hlow : (2 : ℚ) ^ 52 * 2 ^ e ≤ m * 2 ^ e :=
      mul_le_mul_of_nonneg_right (by exact_mod_cast hfull) hpos.le
    exact absurd (h.trans (mul_zpow_lt_of_lt hn hlt)) (not_lt.mpr hlow)

/-- Of two numbers next to each other one has an odd mantissa. -/
lemma IsNearest.not_below {q : ℚ} {m n : ℕ} {e f : ℤ} (hm : Canonical m e) (hn : Canonical n f)
    (h : IsNearest q m e) (hevenm : Even m) (hevenn : Even n)
    (hequal : |q - m * 2 ^ e| = |q - n * 2 ^ f|) : ¬ (m : ℚ) * 2 ^ e < n * 2 ^ f := by
  intro hlt
  obtain ⟨k, hk⟩ := hevenm
  obtain ⟨l, hl⟩ := hevenn
  have hsucc : Canonical (m + 1) e := by
    obtain ⟨hdigits, hleast, hgreatest, hfull⟩ := hm
    rw [Nat.one_shiftLeft] at hdigits hfull
    refine ⟨by rw [Nat.one_shiftLeft]; omega, hleast, hgreatest, ?_⟩
    rw [Nat.one_shiftLeft]
    omega
  have hmiddle : q - m * 2 ^ e = -(q - n * 2 ^ f) := by
    refine (abs_eq_abs.mp hequal).resolve_left fun hsame => ?_
    linarith
  rcases (succ_mul_zpow_le hm hn hlt).lt_or_eq with hbetween | hnext
  · have hgreater : (m : ℚ) * 2 ^ e < (m + 1 : ℕ) * 2 ^ e :=
      mul_lt_mul_of_pos_right (Nat.cast_lt.mpr m.lt_succ_self) (by positivity)
    have hnearer : |q - (m + 1 : ℕ) * 2 ^ e| < q - m * 2 ^ e :=
      abs_lt.mpr ⟨by linarith, by linarith⟩
    have hle := (le_abs_self _).trans (h.le (m + 1) e hsucc)
    linarith
  · obtain ⟨hmn, -⟩ := eq_of_mul_zpow_eq hsucc hn hnext
    omega

/-- There is no more than one nearest number. -/
lemma IsNearest.unique {q : ℚ} {m n : ℕ} {e f : ℤ} (hm : Canonical m e) (hn : Canonical n f)
    (h : IsNearest q m e) (h' : IsNearest q n f) : m = n ∧ e = f := by
  have hequal := le_antisymm (h.le n f hn) (h'.le m e hm)
  rcases h.even n f hn hequal with hsame | hevenm
  · exact hsame
  rcases h'.even m e hm hequal.symm with ⟨hsame, hunit⟩ | hevenn
  · exact ⟨hsame.symm, hunit.symm⟩
  refine eq_of_mul_zpow_eq hm hn (le_antisymm ?_ ?_)
  · exact not_lt.mp (h'.not_below hn hm hevenn hevenm hequal.symm)
  · exact not_lt.mp (h.not_below hm hn hevenm hevenn hequal)

/-- A number rounds to one number only. -/
lemma RoundsTo.unique {q : ℚ} {x y : Binary64} (hx : RoundsTo q x) (hy : RoundsTo q y) :
    x = y := by
  cases hx with
  | finite hm hlow hnear =>
      cases hy with
      | finite hn _ hnear' =>
          obtain ⟨rfl, rfl⟩ := hnear.unique hm hn hnear'
          rfl
      | infinite hhigh => exact absurd hlow (not_lt.mpr hhigh)
  | infinite hhigh =>
      cases hy with
      | finite _ hlow => exact absurd hlow (not_lt.mpr hhigh)
      | infinite => rfl

/-! ### Rounded quotients -/

/-- The rounded quotient is as near to the exact one as any natural number, and if another one is
equally near, then it is even. -/
lemma natAbs_sub_roundQuotient_le (num : ℕ) {den : ℕ} (hden : 0 < den) (k : ℕ) :
    ((num : ℤ) - (roundQuotient num den * den : ℕ)).natAbs ≤ ((num : ℤ) - (k * den : ℕ)).natAbs ∧
      (((num : ℤ) - (roundQuotient num den * den : ℕ)).natAbs =
          ((num : ℤ) - (k * den : ℕ)).natAbs →
        roundQuotient num den = k ∨ Even (roundQuotient num den)) := by
  have hsplit := Nat.div_add_mod num den
  have hrest := Nat.mod_lt num hden
  rw [Nat.mul_comm] at hsplit
  have hsucc : (num / den + 1) * den = num / den * den + den := Nat.succ_mul _ _
  have hbelow (h : k < num / den) : k * den + den ≤ num / den * den := by
    rw [← Nat.succ_mul]
    exact Nat.mul_le_mul_right den h
  have habove (h : num / den + 1 < k) : (num / den + 1) * den + den ≤ k * den := by
    rw [← Nat.succ_mul]
    exact Nat.mul_le_mul_right den h
  rw [Nat.even_iff, roundQuotient]
  rcases Nat.lt_or_ge k (num / den) with hlt | hge
  · have hk := hbelow hlt
    split_ifs <;> omega
  · rcases hge.eq_or_lt with rfl | hlt
    · split_ifs <;> omega
    · rcases Nat.lt_or_ge (num / den + 1) k with hgt | hle
      · have hk := habove hgt
        split_ifs <;> omega
      · obtain rfl : k = num / den + 1 := by omega
        split_ifs <;> omega

/-- How far a fraction is from a whole number, by the rest that is left. -/
lemma abs_div_sub {num den : ℕ} (hden : 0 < den) (k : ℕ) :
    |(num : ℚ) / den - k| = ((num : ℤ) - (k * den : ℕ)).natAbs / den := by
  have hpos : (0 : ℚ) < den := Nat.cast_pos.mpr hden
  have hsub : (num : ℚ) / den - k = (num - k * den) / den := by
    rw [sub_div, mul_div_cancel_right₀ _ hpos.ne']
  rw [hsub, abs_div, abs_of_pos hpos, Nat.cast_natAbs, Int.cast_abs]
  push_cast
  rfl

/-! ### The unit of a fraction -/

lemma unscale_snd_pos (num : ℕ) {den : ℕ} (hden : den ≠ 0) (exponent : ℤ) :
    0 < (unscale num den exponent).2 := by
  simp only [unscale, Nat.shiftLeft_eq]
  positivity

/-- What is left of a fraction once its unit is taken out. -/
lemma unscale_div (num den : ℕ) (exponent : ℤ) :
    ((unscale num den exponent).1 : ℚ) / (unscale num den exponent).2 =
      num / den / 2 ^ exponent := by
  obtain ⟨k, rfl | rfl⟩ := Int.eq_nat_or_neg exponent
  · simp [unscale, Nat.shiftLeft_eq, div_div]
  · simp [unscale, Nat.shiftLeft_eq, div_mul_eq_mul_div]

/-- The binary logarithms of a fraction tell its size but for a factor of four. -/
lemma log2_sub_bounds {num den : ℕ} (hnum : num ≠ 0) (hden : den ≠ 0) :
    2 ^ ((num.log2 : ℤ) - den.log2 - 1) ≤ (num : ℚ) / den ∧
      (num : ℚ) / den < 2 ^ ((num.log2 : ℤ) - den.log2 + 1) := by
  have hpos : (0 : ℚ) < den := Nat.cast_pos.mpr (Nat.pos_of_ne_zero hden)
  have hunits (a b : ℤ) : (2 : ℚ) ^ a * 2 ^ b = 2 ^ (a + b) := (zpow_add₀ two_ne_zero a b).symm
  constructor
  · have hnumlow : (2 : ℚ) ^ (num.log2 : ℤ) ≤ num := by exact_mod_cast Nat.log2_self_le hnum
    have hdenhigh : (den : ℚ) < 2 ^ (den.log2 + 1 : ℤ) := by
      exact_mod_cast Nat.lt_log2_self (n := den)
    rw [le_div_iff₀ hpos]
    calc (2 : ℚ) ^ ((num.log2 : ℤ) - den.log2 - 1) * den
        ≤ 2 ^ ((num.log2 : ℤ) - den.log2 - 1) * 2 ^ (den.log2 + 1 : ℤ) :=
          mul_le_mul_of_nonneg_left hdenhigh.le (by positivity)
      _ = 2 ^ (num.log2 : ℤ) := by rw [hunits, sub_sub, sub_add_cancel]
      _ ≤ num := hnumlow
  · have hnumhigh : (num : ℚ) < 2 ^ (num.log2 + 1 : ℤ) := by
      exact_mod_cast Nat.lt_log2_self (n := num)
    have hdenlow : (2 : ℚ) ^ (den.log2 : ℤ) ≤ den := by exact_mod_cast Nat.log2_self_le hden
    rw [div_lt_iff₀ hpos]
    calc (num : ℚ) < 2 ^ (num.log2 + 1 : ℤ) := hnumhigh
      _ = 2 ^ ((num.log2 : ℤ) - den.log2 + 1) * 2 ^ (den.log2 : ℤ) := by
          rw [hunits, sub_add_eq_add_sub, sub_add_cancel]
      _ ≤ 2 ^ ((num.log2 : ℤ) - den.log2 + 1) * den :=
          mul_le_mul_of_nonneg_left hdenlow (by positivity)

/-- The whole part of a fraction in a unit tells where the fraction is. -/
lemma le_unscale_div_iff (num : ℕ) {den : ℕ} (hden : den ≠ 0) (unit : ℤ) (k : ℕ) :
    k ≤ (unscale num den unit).1 / (unscale num den unit).2 ↔
      (k : ℚ) * 2 ^ unit ≤ (num : ℚ) / den := by
  have hscaled := unscale_snd_pos num hden unit
  have hpos : (0 : ℚ) < (unscale num den unit).2 := Nat.cast_pos.mpr hscaled
  rw [Nat.le_div_iff_mul_le hscaled, ← le_div_iff₀ (by positivity), ← unscale_div,
    le_div_iff₀ hpos]
  exact_mod_cast Iff.rfl

/-- A fraction has 53 digits before the point in its unit, or fewer in the least unit. -/
lemma exists_unitExponent_eq {num den : ℕ} (hnum : num ≠ 0) (hden : den ≠ 0) :
    ∃ g : ℤ, unitExponent num den = max g (-1074) ∧ 2 ^ 52 * 2 ^ g ≤ (num : ℚ) / den ∧
      (num : ℚ) / den < 2 ^ 53 * 2 ^ g := by
  have hunits (k : ℕ) (b : ℤ) : (2 : ℚ) ^ k * 2 ^ b = 2 ^ (k + b) := by
    rw [← zpow_natCast, zpow_add₀ two_ne_zero]
  obtain ⟨hlow, hhigh⟩ := log2_sub_bounds hnum hden
  -- the guess is right, or one too low
  generalize hguess : (num.log2 : ℤ) - den.log2 - 53 = guess
  have hfull := le_unscale_div_iff num hden guess (1 <<< 53)
  rw [show (num.log2 : ℤ) - den.log2 - 1 = (52 : ℕ) + guess by omega, ← hunits] at hlow
  rw [show (num.log2 : ℤ) - den.log2 + 1 = (53 : ℕ) + (guess + 1) by omega, ← hunits] at hhigh
  rw [Nat.one_shiftLeft, Nat.cast_pow, Nat.cast_ofNat] at hfull
  refine ⟨_, by rw [unitExponent, hguess, Nat.one_shiftLeft], ?_, ?_⟩ <;> split_ifs with h <;>
    rw [hfull] at h
  · rw [zpow_add_one₀ two_ne_zero]
    linarith
  · exact hlow
  · exact hhigh
  · exact not_le.mp h

/-- The unit of a fraction is the one that leaves 53 digits before the point, or the least unit. -/
lemma unitExponent_bounds {num den : ℕ} (hnum : num ≠ 0) (hden : den ≠ 0) :
    -1074 ≤ unitExponent num den ∧
      (-1074 < unitExponent num den → 2 ^ 52 * 2 ^ unitExponent num den ≤ (num : ℚ) / den) ∧
      (num : ℚ) / den < 2 ^ 53 * 2 ^ unitExponent num den := by
  obtain ⟨g, hunit, hlow, hhigh⟩ := exists_unitExponent_eq hnum hden
  rw [hunit]
  refine ⟨le_max_right _ _, fun hlt => ?_, hhigh.trans_le ?_⟩
  · rwa [max_eq_left (by omega)]
  · exact mul_le_mul_of_nonneg_left (zpow_le_zpow_right₀ one_le_two (le_max_left _ _))
      (by positivity)

/-- So has the rounded mantissa, unless it is carried. -/
lemma roundQuotient_unscale_bounds {num den : ℕ} (hden : den ≠ 0) {unit : ℤ}
    (hfull : -1074 < unit → 2 ^ 52 * 2 ^ unit ≤ (num : ℚ) / den)
    (hhigh : (num : ℚ) / den < 2 ^ 53 * 2 ^ unit) :
    roundQuotient (unscale num den unit).1 (unscale num den unit).2 ≤ 2 ^ 53 ∧
      (-1074 < unit →
        2 ^ 52 ≤ roundQuotient (unscale num den unit).1 (unscale num den unit).2) := by
  have hscaled := unscale_snd_pos num hden unit
  have hpos : (0 : ℚ) < (unscale num den unit).2 := Nat.cast_pos.mpr hscaled
  have hunit : (0 : ℚ) < 2 ^ unit := by positivity
  constructor
  · refine roundQuotient_le hscaled ?_
    rw [← div_lt_iff₀ hunit, ← unscale_div, div_lt_iff₀ hpos] at hhigh
    exact_mod_cast hhigh.le
  · intro hlt
    have hlow := hfull hlt
    refine le_roundQuotient hscaled ?_
    rw [← le_div_iff₀ hunit, ← unscale_div, le_div_iff₀ hpos] at hlow
    exact_mod_cast hlow

/-! ### Fractions -/

/-- A number that is nearest among the multiples of a unit is nearest among all numbers, if there
are none of a smaller unit so high. -/
lemma isNearest_of_multiples {q : ℚ} {unit : ℤ} {mantissa : ℕ}
    (hnear : ∀ k : ℕ, |q - mantissa * 2 ^ unit| ≤ |q - k * 2 ^ unit| ∧
      (|q - mantissa * 2 ^ unit| = |q - k * 2 ^ unit| → mantissa = k ∨ Even mantissa))
    (hfull : -1074 < unit → 2 ^ 52 * 2 ^ unit ≤ q) {m : ℕ} {e : ℤ} (hm : Canonical m e)
    (hvalue : (m : ℚ) * 2 ^ e = mantissa * 2 ^ unit) (heven : Even mantissa → Even m) :
    IsNearest q m e := by
  have hstrict {n : ℕ} {f : ℤ} (hn : Canonical n f) (hlt : f < unit) :
      |q - m * 2 ^ e| < |q - n * 2 ^ f| := by
    have hleast := hn.2.1
    have hhigh := hfull (by omega)
    have hbelow := mul_zpow_lt_of_lt hn hlt
    have hle := (hnear (2 ^ 52)).1
    rw [Nat.cast_pow, Nat.cast_ofNat, abs_of_nonneg (sub_nonneg.mpr hhigh)] at hle
    rw [hvalue, abs_of_pos (a := q - n * 2 ^ f) (by linarith)]
    linarith
  constructor
  · intro n f hn
    rcases le_or_gt unit f with hle | hlt
    · rw [hvalue, mul_zpow_eq_of_le n hle]
      exact (hnear _).1
    · exact (hstrict hn hlt).le
  · intro n f hn hequal
    rcases le_or_gt unit f with hle | hlt
    · rw [hvalue, mul_zpow_eq_of_le n hle] at hequal
      rcases (hnear _).2 hequal with hsame | hmantissa
      · rw [hsame, ← mul_zpow_eq_of_le n hle] at hvalue
        exact .inl (eq_of_mul_zpow_eq hm hn hvalue)
      · exact .inr (heven hmantissa)
    · exact absurd hequal (hstrict hn hlt).ne

/-- The rounded mantissa is the nearest multiple of the unit. -/
lemma abs_sub_mantissa_le (num : ℕ) {den : ℕ} (hden : den ≠ 0) (unit : ℤ) (k : ℕ) :
    |(num : ℚ) / den -
        roundQuotient (unscale num den unit).1 (unscale num den unit).2 * 2 ^ unit| ≤
      |(num : ℚ) / den - k * 2 ^ unit| ∧
    (|(num : ℚ) / den -
        roundQuotient (unscale num den unit).1 (unscale num den unit).2 * 2 ^ unit| =
      |(num : ℚ) / den - k * 2 ^ unit| →
      roundQuotient (unscale num den unit).1 (unscale num den unit).2 = k ∨
        Even (roundQuotient (unscale num den unit).1 (unscale num den unit).2)) := by
  have hscaled := unscale_snd_pos num hden unit
  have hpos : (0 : ℚ) < (unscale num den unit).2 := Nat.cast_pos.mpr hscaled
  have hunit : (0 : ℚ) < 2 ^ unit := by positivity
  have hdistance (k : ℕ) : |(num : ℚ) / den - k * 2 ^ unit| =
      (((unscale num den unit).1 : ℤ) - (k * (unscale num den unit).2 : ℕ)).natAbs /
        (unscale num den unit).2 * 2 ^ unit := by
    rw [← abs_div_sub hscaled, unscale_div, ← abs_of_pos hunit, ← abs_mul, abs_of_pos hunit,
      sub_mul, div_mul_cancel₀ _ hunit.ne']
  obtain ⟨hle, heven⟩ := natAbs_sub_roundQuotient_le (unscale num den unit).1 hscaled k
  rw [hdistance, hdistance]
  constructor
  · gcongr
  · intro hequal
    refine heven ?_
    exact_mod_cast (div_left_inj' hpos.ne').mp (mul_right_cancel₀ hunit.ne' hequal)

/-- Numbers below the bound, by a factor and a unit. -/
lemma mul_le_overflowBound {c : ℚ} (hc : c ≤ 2 ^ 53 - 1 / 2) {unit : ℤ} (hunit : unit ≤ 971) :
    c * 2 ^ unit ≤ overflowBound :=
  calc c * 2 ^ unit ≤ (2 ^ 53 - 1 / 2) * 2 ^ unit :=
        mul_le_mul_of_nonneg_right hc (by positivity)
    _ ≤ overflowBound :=
        mul_le_mul_of_nonneg_left (zpow_le_zpow_right₀ one_le_two hunit) (by norm_num)

/-- Numbers above the bound, by a factor and a unit. -/
lemma overflowBound_le_mul {c : ℚ} (hc : 2 ^ 53 - 1 / 2 ≤ c) {unit : ℤ} (hunit : 971 ≤ unit) :
    overflowBound ≤ c * 2 ^ unit :=
  calc overflowBound ≤ (2 ^ 53 - 1 / 2) * 2 ^ unit :=
        mul_le_mul_of_nonneg_left (zpow_le_zpow_right₀ one_le_two hunit) (by norm_num)
    _ ≤ c * 2 ^ unit := mul_le_mul_of_nonneg_right hc (by positivity)

section

variable {q : ℚ} {unit : ℤ} {mantissa : ℕ}

/-- Nothing rounds to infinity below the last unit. -/
lemma lt_overflowBound_of_unit_lt (hhigh : q < 2 ^ 53 * 2 ^ unit) (hunit : unit < 971) :
    q < overflowBound :=
  calc q < 2 ^ 53 * 2 ^ unit := hhigh
    _ = 2 ^ 52 * 2 ^ (unit + 1) := by
        rw [zpow_add_one₀ two_ne_zero]
        ring
    _ ≤ overflowBound := mul_le_overflowBound (by norm_num) hunit

/-- Nor does anything in it with a mantissa of 53 digits. -/
lemma lt_overflowBound (hhigh : q < 2 ^ 53 * 2 ^ unit) (hunit : unit ≤ 971)
    (hmantissa : mantissa < 2 ^ 53)
    (hnear : |q - mantissa * 2 ^ unit| ≤ |q - (2 ^ 53 : ℕ) * 2 ^ unit| ∧
      (|q - mantissa * 2 ^ unit| = |q - (2 ^ 53 : ℕ) * 2 ^ unit| →
        mantissa = 2 ^ 53 ∨ Even mantissa)) : q < overflowBound := by
  rcases lt_or_eq_of_le hunit with hlt | rfl
  · exact lt_overflowBound_of_unit_lt hhigh hlt
  · by_contra hbound
    rw [not_lt, overflowBound] at hbound
    have hpos : (0 : ℚ) < 2 ^ (971 : ℤ) := by positivity
    generalize (2 : ℚ) ^ (971 : ℤ) = last at *
    obtain ⟨hle, heven⟩ := hnear
    have hgreatest : (mantissa : ℚ) ≤ 2 ^ 53 - 1 := by
      have hsucc : (mantissa : ℚ) + 1 ≤ 2 ^ 53 := by exact_mod_cast hmantissa
      linarith
    have hproduct : mantissa * last ≤ (2 ^ 53 - 1) * last :=
      mul_le_mul_of_nonneg_right hgreatest hpos.le
    have hnext : |q - (2 ^ 53 : ℕ) * last| = 2 ^ 53 * last - q := by
      rw [Nat.cast_pow, Nat.cast_ofNat, abs_sub_comm, abs_of_pos (by linarith)]
    have hbehind : |q - mantissa * last| = q - mantissa * last :=
      abs_of_pos (by linarith)
    rw [hnext, hbehind] at hle heven
    -- the mantissa is the greatest one, and half a unit is missing to the next
    have htie : q - mantissa * last = 2 ^ 53 * last - q := by linarith
    have hsame : (mantissa : ℚ) * last = (2 ^ 53 - 1 : ℕ) * last := by
      rw [Nat.cast_sub (by decide), Nat.cast_pow, Nat.cast_ofNat, Nat.cast_one]
      linarith
    have hodd : mantissa = 2 ^ 53 - 1 := by exact_mod_cast mul_right_cancel₀ hpos.ne' hsame
    rcases heven htie with hcarry | ⟨k, hk⟩ <;> omega

/-- A mantissa that is carried in the last unit rounds to infinity. -/
lemma overflowBound_le (hunit : 971 ≤ unit)
    (hnear : |q - (2 ^ 53 : ℕ) * 2 ^ unit| ≤ |q - (2 ^ 53 - 1 : ℕ) * 2 ^ unit|) :
    overflowBound ≤ q := by
  have hpos : (0 : ℚ) < 2 ^ unit := by positivity
  rw [Nat.cast_sub (by decide), Nat.cast_pow, Nat.cast_ofNat, Nat.cast_one] at hnear
  have hhalf : (2 ^ 53 - 1 / 2) * 2 ^ unit ≤ q := by
    by_contra hbelow
    have hlt := not_le.mp hbelow
    have hfar : 2 ^ 53 * 2 ^ unit - q ≤ |q - 2 ^ 53 * 2 ^ unit| := by
      rw [abs_sub_comm]
      exact le_abs_self _
    have hnearer : |q - (2 ^ 53 - 1) * 2 ^ unit| < 2 ^ 53 * 2 ^ unit - q :=
      abs_lt.mpr ⟨by linarith, by linarith⟩
    linarith
  exact (overflowBound_le_mul le_rfl hunit).trans hhalf

/-- Up to half of the least positive number, everything rounds to zero. -/
lemma roundsTo_zero (hq : 0 ≤ q) (hle : q ≤ 2 ^ (-1075 : ℤ)) : RoundsTo q (zero false) := by
  have hbound : q < overflowBound :=
    calc q ≤ 2 ^ (-1075 : ℤ) := hle
      _ < 2 ^ (971 : ℤ) := zpow_lt_zpow_right₀ one_lt_two (by decide)
      _ = 1 * 2 ^ (971 : ℤ) := (one_mul _).symm
      _ ≤ overflowBound := mul_le_overflowBound (by norm_num) le_rfl
  refine .finite _ hbound ⟨fun n f hn => ?_, fun _ _ _ _ => .inr Even.zero⟩
  rw [Nat.cast_zero, zero_mul, sub_zero, abs_of_nonneg hq]
  rcases Nat.eq_zero_or_pos n with rfl | hpos
  · rw [Nat.cast_zero, zero_mul, sub_zero]
    exact le_abs_self q
  · have hleast : 2 * 2 ^ (-1075 : ℤ) ≤ (n : ℚ) * 2 ^ f :=
      calc (2 : ℚ) * 2 ^ (-1075 : ℤ) = 1 * 2 ^ (-1074 : ℤ) := by
            rw [one_mul, ← zpow_one_add₀ two_ne_zero]
            rfl
        _ ≤ n * 2 ^ f := mul_le_mul (Nat.one_le_cast.mpr hpos)
            (zpow_le_zpow_right₀ one_le_two hn.2.1) (by positivity) (Nat.cast_nonneg n)
    have hfar := neg_le_abs (q - n * 2 ^ f)
    generalize (2 : ℚ) ^ (-1075 : ℤ) = half at *
    linarith

end

/-- **Correct rounding.** A fraction becomes the number that it rounds to. -/
lemma roundsTo_round (num : ℕ) {den : ℕ} (hden : den ≠ 0) :
    RoundsTo ((num : ℚ) / den) (round false num den) := by
  rcases eq_or_ne num 0 with rfl | hnum
  · rw [round, if_pos rfl, Nat.cast_zero, zero_div]
    exact roundsTo_zero le_rfl (by positivity)
  obtain ⟨hleast, hfull, hhigh⟩ := unitExponent_bounds hnum hden
  have hnear := abs_sub_mantissa_le num hden (unitExponent num den)
  obtain ⟨hmost, hdigits⟩ := roundQuotient_unscale_bounds hden hfull hhigh
  rw [round, if_neg hnum]
  simp only
  generalize unitExponent num den = unit at *
  generalize roundQuotient (unscale num den unit).1 (unscale num den unit).2 = mantissa at *
  have hcarried (hcarry : mantissa = 1 <<< 53) :
      ((1 <<< 52 : ℕ) : ℚ) * 2 ^ (unit + 1) = mantissa * 2 ^ unit := by
    rw [hcarry, zpow_add_one₀ two_ne_zero]
    push_cast
    ring
  split_ifs with hcarry hcanonical hcanonical
  · have hbound := lt_overflowBound_of_unit_lt hhigh (Int.lt_of_add_one_le hcanonical.2.2.1)
    exact .finite hcanonical hbound
      (isNearest_of_multiples hnear hfull hcanonical (hcarried hcarry) fun _ => ⟨2 ^ 51, rfl⟩)
  · have hunit : 971 ≤ unit := by
      by_contra hlt
      have hdigits : 1 <<< 52 < 1 <<< 53 := by decide
      exact hcanonical ⟨hdigits, by simp only; omega, by simp only; omega, .inl le_rfl⟩
    exact .infinite (overflowBound_le hunit (hcarry ▸ hnear (2 ^ 53 - 1)).1)
  · have hdigits : mantissa < 2 ^ 53 := hcanonical.1
    exact .finite hcanonical (lt_overflowBound hhigh hcanonical.2.2.1 hdigits (hnear _))
      (isNearest_of_multiples hnear hfull hcanonical rfl id)
  · rw [Nat.one_shiftLeft] at hcarry
    have hunit : 972 ≤ unit := by
      by_contra hlt
      refine hcanonical ⟨?_, hleast, by simp only; omega, ?_⟩ <;> rw [Nat.one_shiftLeft]
      · simp only
        omega
      · rcases hleast.lt_or_eq with hlt | heq
        · exact .inl (hdigits hlt)
        · exact .inr heq.symm
    refine .infinite ?_
    calc overflowBound ≤ 2 ^ 53 * 2 ^ (unit - 1) :=
          overflowBound_le_mul (by norm_num) (by omega)
      _ = 2 ^ 52 * 2 ^ unit := by
          rw [zpow_sub_one₀ two_ne_zero]
          ring
      _ ≤ (num : ℚ) / den := hfull (by omega)

end Binary64

/-! ### Decimals -/

/-- A number is below the power of ten behind its digits. -/
lemma lt_pow_decimalLength (n : ℕ) : n < 10 ^ decimalLength n := by
  induction n using decimalLength.induct with
  | case1 => simp [decimalLength]
  | case2 n hn ih =>
      rw [decimalLength, dif_neg hn, Nat.pow_succ]
      omega

/-- It is not below the power of ten of its leading digit. -/
lemma pow_decimalLength_le {n : ℕ} (hn : n ≠ 0) : 10 ^ decimalLength n ≤ n * 10 := by
  induction n using decimalLength.induct with
  | case1 => exact absurd rfl hn
  | case2 n hn ih =>
      rw [decimalLength, dif_neg hn, Nat.pow_succ]
      rcases Nat.eq_zero_or_pos (n / 10) with hlast | hpos
      · rw [hlast, decimalLength, dif_pos rfl]
        omega
      · have hle := ih (by omega)
        omega

namespace Decimal

/-- The number that the decimal stands for. -/
def value (d : Decimal) : ℚ := d.digits * 10 ^ d.exponent

lemma fraction_snd_ne_zero (d : Decimal) : d.fraction.2 ≠ 0 :=
  (Nat.pow_pos (by decide)).ne'

/-- The fraction of a decimal is its value. -/
lemma fraction_eq_value (d : Decimal) : (d.fraction.1 : ℚ) / d.fraction.2 = d.value := by
  obtain ⟨digits, exponent⟩ := d
  obtain ⟨k, rfl | rfl⟩ := Int.eq_nat_or_neg exponent
  · simp [fraction, value]
  · simp [fraction, value, div_eq_mul_inv]

/-- A decimal lies between the powers of ten that its length tells. -/
lemma value_bounds (d : Decimal) (h : d.digits ≠ 0) :
    10 ^ (d.exponent + decimalLength d.digits - 1) ≤ d.value ∧
      d.value < 10 ^ (d.exponent + decimalLength d.digits) := by
  have hpos : (0 : ℚ) < 10 ^ d.exponent := by positivity
  have hten : (10 : ℚ) ≠ 0 := by norm_num
  have hlow : (10 : ℚ) ^ decimalLength d.digits ≤ d.digits * 10 := by
    exact_mod_cast pow_decimalLength_le h
  have hhigh : (d.digits : ℚ) < 10 ^ decimalLength d.digits := by
    exact_mod_cast lt_pow_decimalLength d.digits
  rw [zpow_sub_one₀ hten, zpow_add₀ hten, zpow_natCast, value, ← div_eq_mul_inv,
    div_le_iff₀ (by norm_num), mul_comm ((10 : ℚ) ^ d.exponent)]
  constructor
  · calc (10 : ℚ) ^ decimalLength d.digits * 10 ^ d.exponent
        ≤ d.digits * 10 * 10 ^ d.exponent := mul_le_mul_of_nonneg_right hlow hpos.le
      _ = d.digits * 10 ^ d.exponent * 10 := mul_right_comm _ _ _
  · exact mul_lt_mul_of_pos_right hhigh hpos

open Binary64 (RoundsTo overflowBound overflowBound_le_mul roundsTo_round roundsTo_zero)

/-- A decimal becomes the number that it rounds to: what is left out below and above hides
nothing. -/
lemma roundsTo_toBinary64 (d : Decimal) : RoundsTo d.value (d.toBinary64 false) := by
  have hten : (1 : ℚ) ≤ 10 := by norm_num
  simp only [toBinary64]
  split_ifs with hlow hhigh
  · have hnonneg : 0 ≤ d.value := by
      rw [value]
      positivity
    refine roundsTo_zero hnonneg ?_
    by_cases hdigits : d.digits = 0
    · rw [value, hdigits, Nat.cast_zero, zero_mul]
      positivity
    · have hpow : (2 : ℚ) ^ 1075 ≤ 10 ^ 324 := by
        have hnat : 2 ^ 1075 ≤ 10 ^ 324 := by decide +kernel
        exact_mod_cast hnat
      calc d.value ≤ 10 ^ (d.exponent + decimalLength d.digits) := (d.value_bounds hdigits).2.le
        _ ≤ 10 ^ (-324 : ℤ) := zpow_le_zpow_right₀ hten (hlow.resolve_left hdigits)
        _ ≤ 2 ^ (-1075 : ℤ) := by
            rw [zpow_neg, zpow_neg]
            exact inv_anti₀ (by positivity) hpow
  · have hpow : (2 : ℚ) ^ (1024 : ℤ) ≤ 10 ^ (309 : ℤ) := by
      have hnat : 2 ^ 1024 ≤ 10 ^ 309 := by decide +kernel
      exact_mod_cast hnat
    refine .infinite ?_
    calc overflowBound ≤ 2 ^ 53 * 2 ^ (971 : ℤ) := overflowBound_le_mul (by norm_num) le_rfl
      _ = 2 ^ (1024 : ℤ) := by
          rw [← zpow_natCast, ← zpow_add₀ two_ne_zero]
          rfl
      _ ≤ 10 ^ (309 : ℤ) := hpow
      _ ≤ 10 ^ (d.exponent + decimalLength d.digits - 1) :=
          zpow_le_zpow_right₀ hten (by omega)
      _ ≤ d.value := (d.value_bounds fun h => hlow (.inl h)).1
  · rw [← fraction_eq_value]
    exact roundsTo_round _ d.fraction_snd_ne_zero

/-- **Decimals are read correctly.** The number that a decimal becomes is the one that it rounds
to. -/
lemma roundsTo_iff_eq_toBinary64 {d : Decimal} {x : Binary64} :
    RoundsTo d.value x ↔ x = d.toBinary64 false := by
  constructor
  · intro h
    exact h.unique d.roundsTo_toBinary64
  · rintro rfl
    exact d.roundsTo_toBinary64

end Decimal

end LineRepl
