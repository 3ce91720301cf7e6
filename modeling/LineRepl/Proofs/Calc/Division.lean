/-
Quotients and remainders of integers.

Both operators look at the remainder as the machine has it, which does not exist for the least
integer and minus one. A quotient takes this for an inexact division, and a remainder for an
overflow.

* `Replies`: the reply to an operator between two expressions with integer values.
* `inRange_tdiv`: all quotients but one have 64 bits.
* `DivisionLaws`: quotients are exact, overflow or are floats, and remainders always exist.
* `divisionLaws_iff`: the laws hold for all integers but the least one and minus one.
-/
import LineRepl.Proofs.Calc.Exactness

namespace LineRepl.Calc

open Formula

variable {op : BinaryOp} {a b : Int64} {reply reply' : Reply}

/-! ### Replies -/

/-- The reply to the operator between any two expressions with these values. -/
def Replies (op : BinaryOp) (a b : Int64) (reply : Reply) : Prop :=
  ∀ (left right : Expr) (w : Workspace) (store store' : Store),
    left.eval w.bindings w.store = .ok (.int a, store) →
    right.eval w.bindings store = .ok (.int b, store') →
    ((Statement.expr (.binary op left right)).run w).1 = reply

/-- The reply to a value or a fault. -/
def replyTo : Except RuntimeFault Value → Reply
  | .ok v => .value v
  | .error fault => .error (.runtime fault.message)

/-- An expression line replies with the operation on the values of its operands. -/
lemma run_binary {left right : Expr} {w : Workspace} {store store' : Store}
    (hleft : left.eval w.bindings w.store = .ok (.int a, store))
    (hright : right.eval w.bindings store = .ok (.int b, store')) :
    ((Statement.expr (.binary op left right)).run w).1 =
      replyTo (binary op (.int a) (.int b)) := by
  simp only [Statement.run, Expr.eval, hleft, hright]
  cases binary op (.int a) (.int b) <;> rfl

/-- The reply to an operation depends on the values of the operands alone. -/
lemma replies_iff : Replies op a b reply ↔ replyTo (binary op (.int a) (.int b)) = reply := by
  constructor
  · intro h
    have hliterals := h (.int a) (.int b) ⟨⟨[]⟩, .empty⟩ .empty .empty (by rw [Expr.eval])
      (by rw [Expr.eval])
    rwa [run_binary (by rw [Expr.eval]) (by rw [Expr.eval])] at hliterals
  · intro h left right w store store' hleft hright
    rw [run_binary hleft hright, h]

/-- There is one reply. -/
lemma Replies.unique (h : Replies op a b reply) (h' : Replies op a b reply') : reply = reply' :=
  (replies_iff.mp h).symm.trans (replies_iff.mp h')

/-! ### Quotients and remainders of 64 bits -/

lemma toInt_eq_zero_iff : b.toInt = 0 ↔ b = 0 := by
  rw [← Int64.toInt_inj]
  rfl

/-- A quotient by an integer other than one and minus one has at most half the magnitude, so that
only a change of the sign can take one out of range. -/
lemma inRange_tdiv (h : ¬(a = Int64.minValue ∧ b = -1)) : InRange (a.toInt.tdiv b.toInt) := by
  rw [inRange_iff]
  have hlow := a.le_toInt
  have hhigh := a.toInt_lt
  by_cases hb : b.toInt.natAbs = 1
  · rcases (show b.toInt = 1 ∨ b.toInt = -1 by omega) with hone | hminus
    · rw [hone, Int.tdiv_one]
      exact ⟨hlow, hhigh⟩
    · have ha : a.toInt ≠ -2 ^ 63 := by
        intro ha
        exact h ⟨Int64.toInt_inj.mp (ha.trans Int64.toInt_minValue.symm), Int64.toInt_inj.mp hminus⟩
      rw [hminus, Int.tdiv_neg, Int.tdiv_one]
      omega
  · have hhalf : (a.toInt.tdiv b.toInt).natAbs ≤ a.toInt.natAbs / 2 := by
      rw [Int.natAbs_tdiv]
      change a.toInt.natAbs / b.toInt.natAbs ≤ _
      rcases Nat.eq_zero_or_pos b.toInt.natAbs with hzero | hpos
      · rw [hzero, Nat.div_zero]
        exact Nat.zero_le _
      · exact Nat.div_le_div_left (by omega) (by decide)
    omega

/-- An exact quotient is found. -/
lemma tdiv_eq_of_eq_mul {q : ℤ} (hb : b ≠ 0) (h : a.toInt = b.toInt * q) :
    a.toInt.tdiv b.toInt = q := by
  rw [h, Int.mul_tdiv_cancel_left _ (mt toInt_eq_zero_iff.mp hb)]

/-- A remainder is smaller than the divisor. -/
lemma natAbs_tmod_lt (hb : b ≠ 0) : (a.toInt.tmod b.toInt).natAbs < b.toInt.natAbs := by
  rw [Int.natAbs_tmod]
  exact Nat.mod_lt _ (Int.natAbs_pos.mpr (mt toInt_eq_zero_iff.mp hb))

/-- Remainders are in the range of 64 bits. -/
lemma inRange_tmod (hb : b ≠ 0) : InRange (a.toInt.tmod b.toInt) := by
  have hlt := natAbs_tmod_lt (a := a) hb
  have hlow := b.le_toInt
  have hhigh := b.toInt_lt
  rw [inRange_iff]
  omega

/-- A remainder is zero or has the sign of the dividend. -/
lemma sign_tmod {m n : ℤ} (h : m.tmod n ≠ 0) : (m.tmod n).sign = m.sign := by
  rcases Int.lt_trichotomy m 0 with hneg | rfl | hpos
  · have hle : 0 ≤ (-m).tmod n := Int.tmod_nonneg n (by omega)
    rw [Int.neg_tmod] at hle
    rw [Int.sign_eq_neg_one_of_neg hneg, Int.sign_eq_neg_one_of_neg (by omega)]
  · rw [Int.zero_tmod] at h
    exact absurd rfl h
  · have hle : 0 ≤ m.tmod n := Int.tmod_nonneg n (by omega)
    rw [Int.sign_eq_one_of_pos hpos, Int.sign_eq_one_of_pos (by omega)]

/-! ### The two operators -/

/-- Away from the one overflow, remainders are computed. -/
lemma remainder?_eq_some (hb : b ≠ 0) (h : ¬(a = Int64.minValue ∧ b = -1)) :
    remainder? a b = some (a.toInt.tmod b.toInt) := by
  rw [remainder?, if_neg]
  rintro (hzero | hleast)
  · exact hb hzero
  · exact h hleast

/-- A quotient that is whole is an integer. -/
lemma binary_div_of_dvd (hb : b ≠ 0) (h : ¬(a = Int64.minValue ∧ b = -1))
    (hdvd : b.toInt ∣ a.toInt) :
    binary .div (.int a) (.int b) = .ok (.int (Int64.ofInt (a.toInt.tdiv b.toInt))) := by
  have hrem : remainder? a b = some 0 := by
    rw [remainder?_eq_some hb h, Int.tmod_eq_zero_of_dvd hdvd]
  change intBinary .div a b = _
  rw [intBinary, if_neg hb, if_pos hrem, exactInt_of_inRange (inRange_tdiv h)]

/-- A quotient is a float where the remainder is not known to be zero. -/
lemma binary_div_of_ne (hb : b ≠ 0) (h : remainder? a b ≠ some 0) :
    binary .div (.int a) (.int b) =
      .ok (.float (.div (.ofInt a.toInt) (.ofInt b.toInt))) := by
  change intBinary .div a b = _
  rw [intBinary, if_neg hb, if_neg h]

lemma remainder?_ne_of_not_dvd (h : ¬b.toInt ∣ a.toInt) : remainder? a b ≠ some 0 := by
  rw [remainder?]
  split
  · simp
  · simpa using mt Int.dvd_of_tmod_eq_zero h

/-- The remainder is the one of the division that cuts towards zero. -/
lemma binary_rem (hb : b ≠ 0) (h : ¬(a = Int64.minValue ∧ b = -1)) :
    binary .rem (.int a) (.int b) = .ok (.int (Int64.ofInt (a.toInt.tmod b.toInt))) := by
  change intBinary .rem a b = _
  simp only [intBinary, if_neg hb, remainder?_eq_some hb h, exactInt_of_inRange (inRange_tmod hb)]

/-! ### The laws -/

/-- The reply to a division by zero. -/
def dividedByZero : Reply := .error (.runtime "division by zero")

/-- The reply to a result of more than 64 bits. -/
def overflowed : Reply := .error (.runtime "integer overflow")

/-- By zero there is neither a quotient nor a remainder. Elsewhere the quotient is an integer where
the division is exact, an overflow if that integer has too many bits, and a float where the division
is not exact; the remainder is the integer that goes with the quotient rounded toward zero. -/
structure DivisionLaws (a b : Int64) : Prop where
  div_zero : Replies .div a b dividedByZero ↔ b = 0
  rem_zero : Replies .rem a b dividedByZero ↔ b = 0
  exact (n : Int64) : b ≠ 0 → a.toInt = b.toInt * n.toInt → Replies .div a b (.value (.int n))
  overflow (q : ℤ) : b ≠ 0 → a.toInt = b.toInt * q → ¬(-2 ^ 63 ≤ q ∧ q < 2 ^ 63) →
    Replies .div a b overflowed
  inexact : b ≠ 0 → ¬b.toInt ∣ a.toInt → ∃ x, Replies .div a b (.value (.float x))
  remainder : b ≠ 0 → ∃ r : Int64, Replies .rem a b (.value (.int r)) ∧
    a.toInt = b.toInt * a.toInt.tdiv b.toInt + r.toInt ∧ r.toInt.natAbs < b.toInt.natAbs ∧
    (r.toInt = 0 ∨ r.toInt.sign = a.toInt.sign)

lemma replies_of_eq_ok {v : Value} (h : binary op (.int a) (.int b) = .ok v) :
    Replies op a b (.value v) := by
  rw [replies_iff, h]
  rfl

/-- A division by zero is refused. -/
lemma replies_div_zero : Replies .div a 0 dividedByZero := replies_iff.mpr rfl

/-- So is its remainder. -/
lemma replies_rem_zero : Replies .rem a 0 dividedByZero := replies_iff.mpr rfl

/-- A reply that is a value is not that of a division by zero. -/
lemma Replies.not_dividedByZero {v : Value} (h : Replies op a b (.value v)) :
    ¬Replies op a b dividedByZero := by
  intro hzero
  cases h.unique hzero

/-- Away from zero and the one overflow, every division has a value. -/
lemma exists_replies_div (hb : b ≠ 0) (h : ¬(a = Int64.minValue ∧ b = -1)) :
    ∃ v, Replies .div a b (.value v) := by
  by_cases hdvd : b.toInt ∣ a.toInt
  · exact ⟨_, replies_of_eq_ok (binary_div_of_dvd hb h hdvd)⟩
  · exact ⟨_, replies_of_eq_ok (binary_div_of_ne hb (remainder?_ne_of_not_dvd hdvd))⟩

/-- Where the remainder exists, the laws hold. -/
lemma divisionLaws (h : ¬(a = Int64.minValue ∧ b = -1)) : DivisionLaws a b where
  div_zero := by
    constructor
    · intro hzero
      by_contra hb
      obtain ⟨v, hv⟩ := exists_replies_div hb h
      exact hv.not_dividedByZero hzero
    · rintro rfl
      exact replies_div_zero
  rem_zero := by
    constructor
    · intro hzero
      by_contra hb
      exact (replies_of_eq_ok (binary_rem hb h)).not_dividedByZero hzero
    · rintro rfl
      exact replies_rem_zero
  exact n hb hmul := by
    have hvalue := binary_div_of_dvd hb h ⟨_, hmul⟩
    rw [tdiv_eq_of_eq_mul hb hmul, Int64.ofInt_toInt] at hvalue
    exact replies_of_eq_ok hvalue
  overflow q hb hmul hout := by
    -- no such quotient is left
    have hrange := inRange_tdiv h
    rw [tdiv_eq_of_eq_mul hb hmul, inRange_iff] at hrange
    exact absurd hrange hout
  inexact hb hdvd := ⟨_, replies_of_eq_ok (binary_div_of_ne hb (remainder?_ne_of_not_dvd hdvd))⟩
  remainder hb := by
    have hr := toInt_ofInt (inRange_tmod (a := a) hb)
    refine ⟨_, replies_of_eq_ok (binary_rem hb h), ?_, ?_, ?_⟩
    · rw [hr]
      exact (Int.mul_tdiv_add_tmod _ _).symm
    · rw [hr]
      exact natAbs_tmod_lt hb
    · rw [hr]
      exact or_iff_not_imp_left.mpr sign_tmod

/-- The quotient that has too many bits is a float. -/
lemma replies_div_least :
    Replies .div Int64.minValue (-1) (.value (.float (Binary64.ofInt (2 ^ 63)))) := by
  have hquotient : (Binary64.ofInt Int64.minValue.toInt).div (Binary64.ofInt (-1 : Int64).toInt) =
      Binary64.ofInt (2 ^ 63) := by
    decide +kernel
  rw [← hquotient]
  exact replies_of_eq_ok (binary_div_of_ne (by decide) (by decide))

/-- The remainder that is zero is an overflow. -/
lemma replies_rem_least : Replies .rem Int64.minValue (-1) overflowed := replies_iff.mpr rfl

/-- The one quotient that overflows is not reported as an overflow. -/
lemma not_replies_div_least : ¬Replies .div Int64.minValue (-1) overflowed := by
  intro h
  cases replies_div_least.unique h

/-- **Quotients and remainders follow their laws** for all integers but the least one and minus one.
There the quotient, which has too many bits, is a float, and the remainder, which is zero, is an
overflow. -/
theorem divisionLaws_iff (a b : Int64) :
    (DivisionLaws a b ↔ ¬(a = Int64.minValue ∧ b = -1)) ∧
      Replies .div Int64.minValue (-1) (.value (.float (Binary64.ofInt (2 ^ 63)))) ∧
      Replies .rem Int64.minValue (-1) overflowed := by
  refine ⟨⟨?_, divisionLaws⟩, replies_div_least, replies_rem_least⟩
  rintro hlaws ⟨rfl, rfl⟩
  exact not_replies_div_least (hlaws.overflow (2 ^ 63) (by decide) (by decide) (by decide))

/-- The least integer divided by minus one has a quotient of too many bits and the remainder zero,
and neither reply says so. -/
theorem not_divisionLaws_least :
    (-1 : Int64) ≠ 0 ∧ Int64.minValue.toInt = (-1 : Int64).toInt * 2 ^ 63 ∧
      ¬Replies .div Int64.minValue (-1) overflowed ∧
      ¬∃ r : Int64, Replies .rem Int64.minValue (-1) (.value (.int r)) := by
  refine ⟨by decide, by decide, not_replies_div_least, ?_⟩
  rintro ⟨r, hr⟩
  cases hr.unique replies_rem_least

end LineRepl.Calc
