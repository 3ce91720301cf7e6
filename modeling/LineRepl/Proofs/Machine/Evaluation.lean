/-
Expressions evaluated by a machine.

The operations of the machine on integers of 64 bits panic where the exact result has more bits, and
at divisions by zero. Expressions use them only behind a look at the operands. The functions that
expressions call look their arguments up by index.

* `Machine.plus`, …, `Machine.remainder`: the operations.
* `Machine.checked`: an operation behind a look at its exact result.
* `Machine.eval`: the value of an expression.
* `Machine.intBinary_eq`, `Machine.eval_eq`: they are what the operators and the evaluation say.
-/
import LineRepl.Proofs.Calc.Division
import LineRepl.Proofs.Machine.Basic

namespace LineRepl.Machine

open Calc
open Calc.Formula (InRange exactInt_of_inRange exactInt_of_not_inRange inRange_toInt)
open Run (crash ended given refuse)

variable {ε : Type} {a b : Int64}

instance (n : ℤ) : Decidable (InRange n) := inferInstanceAs (Decidable (_ ∧ _))

/-! ### Operations on integers -/

/-- The result `bits` of an operation whose exact result is `n`. -/
def operation (n : ℤ) (bits : Int64) (message : String) : Run ε Int64 :=
  if InRange n then pure bits else crash message

def plus (a b : Int64) : Run ε Int64 :=
  operation (a.toInt + b.toInt) (a + b) "attempt to add with overflow"

def minus (a b : Int64) : Run ε Int64 :=
  operation (a.toInt - b.toInt) (a - b) "attempt to subtract with overflow"

def times (a b : Int64) : Run ε Int64 :=
  operation (a.toInt * b.toInt) (a * b) "attempt to multiply with overflow"

def opposite (a : Int64) : Run ε Int64 :=
  operation (-a.toInt) (-a) "attempt to negate with overflow"

def quotient (a b : Int64) : Run ε Int64 :=
  if b = 0 then crash "attempt to divide by zero"
  else operation (a.toInt.tdiv b.toInt) (a / b) "attempt to divide with overflow"

/-- A remainder overflows with the quotient that belongs to it. -/
def remainder (a b : Int64) : Run ε Int64 :=
  if b = 0 then crash "attempt to calculate the remainder with a divisor of zero"
  else
    operation (a.toInt.tdiv b.toInt) (a % b) "attempt to calculate the remainder with overflow"

/-- An operation that is left out where its exact result would not fit. -/
def checked (n : ℤ) (run : Run ε Int64) : Run ε (Option Int64) :=
  if InRange n then some <$> run else pure none

def checkedQuotient (a b : Int64) : Run ε (Option Int64) :=
  if b = 0 then pure none else checked (a.toInt.tdiv b.toInt) (quotient a b)

def checkedRemainder (a b : Int64) : Run ε (Option Int64) :=
  if b = 0 then pure none else checked (a.toInt.tdiv b.toInt) (remainder a b)

/-! ### The program -/

/-- The integer, or an overflow where there is none. -/
def orOverflow : Option Int64 → Run RuntimeFault Value
  | some n => pure (.int n)
  | none => refuse .integerOverflow

/-- The value of an operator on two integers. -/
def intBinary (op : BinaryOp) (a b : Int64) : Run RuntimeFault Value :=
  match op with
  | .add => checked (a.toInt + b.toInt) (plus a b) >>= orOverflow
  | .sub => checked (a.toInt - b.toInt) (minus a b) >>= orOverflow
  | .mul => checked (a.toInt * b.toInt) (times a b) >>= orOverflow
  | .div =>
    if b = 0 then refuse .divisionByZero
    else do
      let r ← checkedRemainder a b
      if r = some 0 then checkedQuotient a b >>= orOverflow
      else pure (.float (.div (.ofInt a.toInt) (.ofInt b.toInt)))
  | .rem =>
    if b = 0 then refuse .divisionByZero else checkedRemainder a b >>= orOverflow
  | .eq | .ne | .lt | .le | .gt | .ge => given (Calc.intBinary op a b)

/-- The value of an operator on two values. -/
def binary (op : BinaryOp) (v w : Value) : Run RuntimeFault Value :=
  match op, v, w with
  | .eq, v, w => given (Calc.binary .eq v w)
  | .ne, v, w => given (Calc.binary .ne v w)
  | op, .int m, .int n => intBinary op m n
  | op, v, w => given (Calc.binary op v w)

/-- The value of a minus sign before a value. -/
def negate (v : Value) : Run RuntimeFault Value :=
  match v with
  | .int n => checked (-n.toInt) (opposite n) >>= orOverflow
  | other => given (Calc.negate other)

/-- The value of a call, and the store with the streams that it made. -/
def call (f : NativeFunction) (args : List Value) (store : Store) :
    Run CallFault (Value × Store) :=
  match f with
  | .range | .naturals => ended (f.call args store)
  | .len => do
    let v ← item args 0
    let n ← ended (NativeFunction.length v)
    pure (n, store)
  | .str => do
    let v ← item args 0
    pure (.str v.text, store)

mutual

/-- The value of an expression. -/
def eval (b : Bindings) (e : Expr) (store : Store) : Run RuntimeFault (Value × Store) :=
  match e with
  | .int n => pure (.int n, store)
  | .float x => pure (.float x, store)
  | .str s => pure (.str s, store)
  | .var name => do
    let v ← given (lookup b name)
    pure (v, store)
  | .list items => do
    let (values, store) ← evalItems b items store
    pure (.list values, store)
  | .neg e => do
    let (v, store) ← eval b e store
    let v ← negate v
    pure (v, store)
  | .binary op left right => do
    let (v, store) ← eval b left store
    let (w, store) ← eval b right store
    let v ← binary op v w
    pure (v, store)
  | .call function args => do
    let (v, store) ← eval b function store
    let f ← given (callee v args.length)
    let (values, store) ← evalItems b args store
    (call f values store).refusedAs fun fault => .failedCall f fault.message

/-- The values of expressions, in order. -/
def evalItems (b : Bindings) (es : List Expr) (store : Store) :
    Run RuntimeFault (List Value × Store) :=
  match es with
  | [] => pure ([], store)
  | e :: rest => do
    let (v, store) ← eval b e store
    let (values, store) ← evalItems b rest store
    pure (v :: values, store)

end

/-! ### Operations that are looked at before -/

lemma checked_operation (n : ℤ) (bits : Int64) (message : String) :
    (checked n (operation n bits message) : Run ε (Option Int64)) =
      pure (if InRange n then some bits else none) := by
  rw [checked, operation]
  split_ifs <;> rfl

/-- One quotient is out of range. -/
lemma inRange_tdiv_iff : InRange (a.toInt.tdiv b.toInt) ↔ ¬ (a = Int64.minValue ∧ b = -1) := by
  refine ⟨?_, inRange_tdiv⟩
  rintro h ⟨rfl, rfl⟩
  exact absurd h (by decide)

/-- A quotient is checked before it is computed. -/
lemma checkedQuotient_eq (hb : b ≠ 0) :
    (checkedQuotient a b : Run ε (Option Int64)) =
      pure (if InRange (a.toInt.tdiv b.toInt) then some (a / b) else none) := by
  rw [checkedQuotient, if_neg hb, quotient, if_neg hb, checked_operation]

/-- So is a remainder, by its quotient. -/
lemma checkedRemainder_eq (hb : b ≠ 0) :
    (checkedRemainder a b : Run ε (Option Int64)) =
      pure (if InRange (a.toInt.tdiv b.toInt) then some (a % b) else none) := by
  rw [checkedRemainder, if_neg hb, remainder, if_neg hb, checked_operation]

/-- What fits is the exact result. -/
lemma orOverflow_eq {n : ℤ} {bits : Int64} (h : Int64.ofInt n = bits) :
    orOverflow (if InRange n then some bits else none) = given (exactInt n) := by
  by_cases hn : InRange n
  · rw [if_pos hn, exactInt_of_inRange hn, h]
    rfl
  · rw [if_neg hn, exactInt_of_not_inRange hn]
    rfl

/-! ### Operators -/

lemma ofInt_tdiv_toInt : Int64.ofInt (a.toInt.tdiv b.toInt) = a / b := by
  rw [Int64.ofInt_tdiv a.minValue_le_toInt a.toInt_le b.minValue_le_toInt b.toInt_le,
    Int64.ofInt_toInt, Int64.ofInt_toInt]

/-- The remainder of the machine is the one that divisions look at. -/
lemma remainder?_eq (hb : b ≠ 0) :
    remainder? a b =
      (if InRange (a.toInt.tdiv b.toInt) then some (a % b) else none).map Int64.toInt := by
  by_cases h : a = Int64.minValue ∧ b = -1
  · rw [if_neg fun hfits => inRange_tdiv_iff.mp hfits h, remainder?, if_pos (.inr h)]
    rfl
  · rw [if_pos (inRange_tdiv h), remainder?_eq_some hb h, Option.map_some, Int64.toInt_mod]

/-- The operators on integers use no operation where it would panic. -/
lemma intBinary_eq (op : BinaryOp) (a b : Int64) :
    intBinary op a b = given (Calc.intBinary op a b) := by
  cases op with
  | add =>
      rw [intBinary, plus, checked_operation, pure_bind]
      exact orOverflow_eq (by rw [Int64.ofInt_add, Int64.ofInt_toInt, Int64.ofInt_toInt])
  | sub =>
      rw [intBinary, minus, checked_operation, pure_bind]
      exact orOverflow_eq (by rw [Int64.ofInt_sub, Int64.ofInt_toInt, Int64.ofInt_toInt])
  | mul =>
      rw [intBinary, times, checked_operation, pure_bind]
      exact orOverflow_eq (by rw [Int64.ofInt_mul, Int64.ofInt_toInt, Int64.ofInt_toInt])
  | div =>
      rw [intBinary, Calc.intBinary]
      by_cases hb : b = 0
      · rw [if_pos hb, if_pos hb]
        rfl
      rw [if_neg hb, if_neg hb, checkedRemainder_eq hb, pure_bind, checkedQuotient_eq hb,
        pure_bind, orOverflow_eq ofInt_tdiv_toInt, remainder?_eq hb]
      by_cases hfits : InRange (a.toInt.tdiv b.toInt)
      · simp only [if_pos hfits, Option.map_some, Option.some.injEq, toInt_eq_zero_iff]
        split <;> rfl
      · simp only [if_neg hfits, Option.map_none, reduceCtorEq, if_false]
        rfl
  | rem =>
      rw [intBinary, Calc.intBinary]
      by_cases hb : b = 0
      · rw [if_pos hb, if_pos hb]
        rfl
      rw [if_neg hb, if_neg hb, checkedRemainder_eq hb, pure_bind, remainder?_eq hb]
      by_cases hfits : InRange (a.toInt.tdiv b.toInt)
      · simp only [if_pos hfits, Option.map_some, exactInt_of_inRange (inRange_toInt _),
          Int64.ofInt_toInt]
        rfl
      · simp only [if_neg hfits, Option.map_none]
        rfl
  | eq | ne | lt | le | gt | ge => rfl

/-- Operators come to the same on the machine. -/
lemma binary_eq (op : BinaryOp) (v w : Value) : binary op v w = given (Calc.binary op v w) := by
  rw [binary.eq_def]
  split
  next => rfl
  next => rfl
  next heq hne =>
    rw [intBinary_eq]
    cases op with
    | eq => exact absurd rfl heq
    | ne => exact absurd rfl hne
    | _ => rfl
  next => rfl

/-- So does the minus sign. -/
lemma negate_eq (v : Value) : negate v = given (Calc.negate v) := by
  cases v with
  | int n =>
      rw [negate, opposite, checked_operation, pure_bind]
      exact orOverflow_eq (by rw [Int64.ofInt_neg, Int64.ofInt_toInt])
  | bool | float | str | list | stream | function | object => rfl

/-- So do calls. -/
lemma call_eq (f : NativeFunction) (args : List Value) (store : Store) :
    call f args store = ended (f.call args store) := by
  cases f with
  | range | naturals => rfl
  | len =>
      rcases args with _ | ⟨v, args⟩
      · rfl
      · cases v <;> rfl
  | str => cases args <;> rfl

/-! ### Expressions -/

mutual

/-- Expressions have for the machine the value that they have. -/
lemma eval_eq (b : Bindings) (e : Expr) (store : Store) :
    eval b e store = ended (e.eval b store) := by
  cases e with
  | int | float | str =>
      rw [eval, Expr.eval]
      rfl
  | var name =>
      rw [eval, Expr.eval]
      cases lookup b name <;> rfl
  | list items =>
      rw [eval, Expr.eval, evalItems_eq b items store]
      rcases Calc.evalItems b items store with stop | ⟨values, store⟩ <;> rfl
  | neg e =>
      rw [eval, Expr.eval, eval_eq b e store]
      rcases e.eval b store with stop | ⟨v, store⟩
      · rfl
      · simp only [Run.ended_ok, pure_bind, negate_eq]
        cases Calc.negate v <;> rfl
  | binary op left right =>
      rw [eval, Expr.eval, eval_eq b left store]
      rcases left.eval b store with stop | ⟨v, store⟩
      · rfl
      · simp only [Run.ended_ok, pure_bind, eval_eq b right store]
        rcases right.eval b store with stop | ⟨w, store⟩
        · rfl
        · simp only [Run.ended_ok, pure_bind, binary_eq]
          cases Calc.binary op v w <;> rfl
  | call function args =>
      rw [eval, Expr.eval, eval_eq b function store]
      rcases function.eval b store with stop | ⟨v, store⟩
      · rfl
      · simp only [Run.ended_ok, pure_bind]
        rcases callee v args.length with fault | f
        · rfl
        · simp only [Run.given_ok, pure_bind, evalItems_eq b args store]
          rcases Calc.evalItems b args store with stop | ⟨values, store⟩
          · rfl
          · simp only [Run.ended_ok, pure_bind, call_eq, callFunction]
            rcases f.call values store with (fault | p) | r <;> rfl

/-- So do items. -/
lemma evalItems_eq (b : Bindings) (es : List Expr) (store : Store) :
    evalItems b es store = ended (Calc.evalItems b es store) := by
  cases es with
  | nil =>
      rw [evalItems, Calc.evalItems]
      rfl
  | cons e rest =>
      rw [evalItems, Calc.evalItems, eval_eq b e store]
      rcases e.eval b store with stop | ⟨v, store⟩
      · rfl
      · simp only [Run.ended_ok, pure_bind, evalItems_eq b rest store]
        rcases Calc.evalItems b rest store with stop | ⟨values, store⟩ <;> rfl

end

end LineRepl.Machine
