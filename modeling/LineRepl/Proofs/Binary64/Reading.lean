/-
Reading numbers from texts without a sign.

* `Spelled`: the names of infinity and of "not a number".
* `ofText?_of_unsigned`: any other text is read as a decimal.
* `ofText?_of_digits`: digits are read as the number nearest to the one they spell.
* `ofText?_naturalText`: a natural number that is written in decimal is read as the nearest number.
-/
import LineRepl.Binary64.Text
import Mathlib.Algebra.Order.Ring.Nat
import Mathlib.Data.List.TakeWhile
import Mathlib.Tactic.Common

namespace LineRepl

/-! ### Decimal digits -/

lemma isDigit_of_mem_decimalDigits {n : ℕ} {c : Char} (h : c ∈ decimalDigits n) :
    c.isDigit = true := by
  induction n using decimalDigits.induct with
  | case1 => simp [decimalDigits] at h
  | case2 n hn ih =>
      rw [decimalDigits, dif_neg hn, List.mem_append, List.mem_singleton] at h
      have hdigit : ∀ d < 10, (Char.ofNat (48 + d)).isDigit = true := by decide
      rcases h with h | rfl
      · exact ih h
      · exact hdigit (n % 10) (Nat.mod_lt n (by decide))

/-- The digits are those of the standard library. -/
lemma decimalDigits_eq_toDigits {n : ℕ} (h : n ≠ 0) : decimalDigits n = Nat.toDigits 10 n := by
  have hdigit : ∀ d < 10, Char.ofNat (48 + d) = Nat.digitChar d := by decide
  induction n using decimalDigits.induct with
  | case1 => exact absurd rfl h
  | case2 n hn ih =>
      rw [decimalDigits, dif_neg hn, hdigit _ (Nat.mod_lt n (by decide))]
      rcases Nat.lt_or_ge n 10 with hlt | hge
      · rw [Nat.div_eq_of_lt hlt, Nat.mod_eq_of_lt hlt, Nat.toDigits_of_lt_base hlt, decimalDigits,
          dif_pos rfl, List.nil_append]
      · rw [ih (by omega), Nat.toDigits_of_base_le (by decide) hge]

lemma decimalDigits_ne_nil {n : ℕ} (h : n ≠ 0) : decimalDigits n ≠ [] := by
  rw [decimalDigits, dif_neg h]
  exact List.append_ne_nil_of_right_ne_nil _ (List.cons_ne_nil _ _)

/-- The digits of a number spell it. -/
lemma Binary64.digitsValue_decimalDigits (n : ℕ) : digitsValue (decimalDigits n) = n := by
  induction n using decimalDigits.induct with
  | case1 => simp [decimalDigits, digitsValue]
  | case2 n hn ih =>
      have hdigit : ∀ d < 10, (Char.ofNat (48 + d)).toNat - 48 = d := by decide
      rw [digitsValue] at ih
      rw [decimalDigits, dif_neg hn, digitsValue, List.foldl_append, ih, List.foldl_cons,
        List.foldl_nil, hdigit (n % 10) (Nat.mod_lt n (by decide)), Nat.div_add_mod]

/-- A number below a power of ten has no more digits than its exponent. -/
lemma decimalLength_le {n k : ℕ} (h : n < 10 ^ k) : decimalLength n ≤ k := by
  induction k generalizing n with
  | zero =>
      obtain rfl : n = 0 := by simpa using h
      simp [decimalLength]
  | succ k ih =>
      rw [decimalLength]
      split_ifs with hn
      · exact Nat.zero_le _
      · rw [Nat.pow_succ] at h
        exact Nat.succ_le_succ (ih (Nat.div_lt_of_lt_mul (Nat.mul_comm _ 10 ▸ h)))

namespace Binary64

/-! ### Texts without a sign -/

/-- A name of infinity or of "not a number", in small or capital letters. -/
def Spelled (text : String) : Prop :=
  String.ofList (text.toList.map Char.toLower) ∈ ["inf", "infinity", "nan"]

instance (text : String) : Decidable (Spelled text) :=
  inferInstanceAs (Decidable (_ ∈ _))

/-- A text without a sign that is no name of a number is read as a decimal. -/
lemma ofText?_of_unsigned {text : String} {c : Char} {cs : List Char}
    (htext : text.toList = c :: cs) (hminus : c ≠ '-') (hplus : c ≠ '+')
    (hspelled : ¬ Spelled text) :
    ofText? text = (decimal? (c :: cs)).map (·.toBinary64 false) := by
  simp only [Spelled, htext, List.mem_cons, List.not_mem_nil, or_false, not_or] at hspelled
  obtain ⟨hinf, hinfinity, hnan⟩ := hspelled
  rw [ofText?, htext]
  simp only [List.cons.injEq, hminus, hplus, false_and, imp_self, implies_true, beq_iff_eq,
    Bool.or_eq_true, hinf, hinfinity, hnan, or_self, if_false]

/-- Digits alone are read as a whole decimal. -/
lemma decimal?_of_digits {digits : List Char} (hne : digits ≠ [])
    (hdigits : ∀ c ∈ digits, c.isDigit = true) :
    decimal? digits = some ⟨digitsValue digits, 0⟩ := by
  have htake : digits.takeWhile Char.isDigit = digits := List.takeWhile_eq_self_iff.mpr hdigits
  have hdrop : digits.dropWhile Char.isDigit = [] := List.dropWhile_eq_nil_iff.mpr hdigits
  simp [decimal?, htake, hdrop, hne]

/-- Digits with a point and more digits behind them are read as a decimal with so many places. -/
lemma decimal?_of_fraction {whole fraction : List Char} (hne : whole ≠ [])
    (hwhole : ∀ c ∈ whole, c.isDigit = true) (hfraction : ∀ c ∈ fraction, c.isDigit = true) :
    decimal? (whole ++ '.' :: fraction) =
      some ⟨digitsValue (whole ++ fraction), -fraction.length⟩ := by
  have htake : (whole ++ '.' :: fraction).takeWhile Char.isDigit = whole := by
    rw [List.takeWhile_append_of_pos hwhole, List.takeWhile_cons_of_neg (by decide),
      List.append_nil]
  have hdrop : (whole ++ '.' :: fraction).dropWhile Char.isDigit = '.' :: fraction := by
    rw [List.dropWhile_append_of_pos hwhole, List.dropWhile_cons_of_neg (by decide)]
  have htake' : fraction.takeWhile Char.isDigit = fraction :=
    List.takeWhile_eq_self_iff.mpr hfraction
  have hdrop' : fraction.dropWhile Char.isDigit = [] := List.dropWhile_eq_nil_iff.mpr hfraction
  simp [decimal?, htake, hdrop, htake', hdrop', hne]

/-- The names of infinity and of "not a number" start with a letter. -/
lemma not_spelled_of_isDigit {text : String} {c : Char} {cs : List Char}
    (htext : text.toList = c :: cs) (hc : c.isDigit = true) : ¬ Spelled text := by
  have hlower : c.toLower = c := by
    rw [Char.isDigit_iff_toNat] at hc
    have hupper : ¬ 'A'.toNat ≤ c.toNat := fun h => absurd (h.trans hc.2) (by decide)
    exact dif_neg fun h => hupper (UInt32.le_iff_toNat_le.mp h.1)
  have hhead : (String.ofList (text.toList.map Char.toLower)).toList.head? = some c := by
    rw [String.toList_ofList, htext, List.map_cons, hlower, List.head?_cons]
  have hletters : ∀ name ∈ ["inf", "infinity", "nan"],
      name.toList.head?.any Char.isDigit = false := by decide
  intro h
  have hletter := hletters _ h
  rw [hhead, Option.any_some, hc] at hletter
  cases hletter

/-- A text that starts with a digit is read as a decimal. -/
lemma ofText?_of_isDigit {text : String} {c : Char} {cs : List Char}
    (htext : text.toList = c :: cs) (hc : c.isDigit = true) :
    ofText? text = (decimal? (c :: cs)).map (·.toBinary64 false) := by
  have hsign {d : Char} (hd : d.isDigit = false) : c ≠ d := by
    rintro rfl
    exact nomatch hc.symm.trans hd
  exact ofText?_of_unsigned htext (hsign (by decide)) (hsign (by decide))
    (not_spelled_of_isDigit htext hc)

/-- A whole decimal with at most 309 digits is read as the nearest number. -/
lemma toBinary64_whole {n : ℕ} (h : decimalLength n ≤ 309) :
    Decimal.toBinary64 false ⟨n, 0⟩ = ofInt n := by
  have hof : ofInt n = round false n 1 := by
    rw [ofInt, decide_eq_false (Int.not_lt.mpr (Int.natCast_nonneg n)), Int.natAbs_natCast]
  rw [hof, Decimal.toBinary64]
  simp only [Decimal.fraction, Int.zero_add]
  split_ifs with hlow hhigh
  · obtain rfl : n = 0 := by omega
    rw [round, if_pos rfl]
  · omega
  · simp

/-- Digits are read as the number nearest to the one they spell. -/
lemma ofText?_of_digits {text : String} (hne : text.toList ≠ [])
    (hdigits : ∀ c ∈ text.toList, c.isDigit = true)
    (h : decimalLength (digitsValue text.toList) ≤ 309) :
    ofText? text = some (ofInt (digitsValue text.toList)) := by
  obtain ⟨c, cs, htext⟩ := List.exists_cons_of_ne_nil hne
  rw [ofText?_of_isDigit htext (hdigits c (htext ▸ List.mem_cons_self)), ← htext,
    decimal?_of_digits hne hdigits, Option.map_some, toBinary64_whole h]

/-! ### Texts of natural numbers -/

lemma toList_naturalText {n : ℕ} (h : n ≠ 0) : (naturalText n).toList = decimalDigits n := by
  rw [naturalText, if_neg h, String.toList_ofList]

/-- A natural number is written with its digits, and zero with one digit. -/
lemma toList_naturalText_eq_toDigits (n : ℕ) : (naturalText n).toList = Nat.toDigits 10 n := by
  rcases eq_or_ne n 0 with rfl | hn
  · rfl
  · rw [toList_naturalText hn, decimalDigits_eq_toDigits hn]

/-- Numbers are padded with zeros to three digits. -/
lemma paddedText_eq_leftpad (n : ℕ) :
    paddedText n = String.ofList ((Nat.toDigits 10 n).leftpad 3 '0') := by
  rw [paddedText, List.leftpad, String.ofList_append, ← toList_naturalText_eq_toDigits,
    String.length_toList, String.ofList_toList]

lemma isDigit_of_mem_naturalText {n : ℕ} {c : Char} (h : c ∈ (naturalText n).toList) :
    c.isDigit = true := by
  rcases eq_or_ne n 0 with rfl | hn
  · exact List.all_eq_true.mp (by decide : "0".toList.all Char.isDigit = true) c h
  · exact isDigit_of_mem_decimalDigits (toList_naturalText hn ▸ h)

lemma toList_naturalText_ne_nil (n : ℕ) : (naturalText n).toList ≠ [] := by
  rcases eq_or_ne n 0 with rfl | hn
  · decide
  · exact toList_naturalText hn ▸ decimalDigits_ne_nil hn

/-- What is written is read back. -/
lemma digitsValue_naturalText (n : ℕ) : digitsValue (naturalText n).toList = n := by
  rcases eq_or_ne n 0 with rfl | hn
  · decide
  · exact toList_naturalText hn ▸ digitsValue_decimalDigits n

/-- A natural number that is written in decimal is read as the nearest number. -/
lemma ofText?_naturalText {n : ℕ} (h : decimalLength n ≤ 309) :
    ofText? (naturalText n) = some (ofInt n) := by
  have hvalue := digitsValue_naturalText n
  rw [ofText?_of_digits (toList_naturalText_ne_nil n) (fun c => isDigit_of_mem_naturalText)
    (hvalue.symm ▸ h), hvalue]

/-! ### Texts of integers -/

lemma integerText_of_nonneg {n : ℤ} (h : 0 ≤ n) : integerText n = naturalText n.natAbs := by
  rw [integerText, if_neg (Int.not_lt.mpr h)]

lemma integerText_of_neg {n : ℤ} (h : n < 0) : integerText n = "-" ++ naturalText n.natAbs := by
  rw [integerText, if_pos h]

end Binary64

end LineRepl
