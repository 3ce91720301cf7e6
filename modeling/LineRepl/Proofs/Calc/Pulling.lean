/-
The evaluation of expressions pulls from no stream.

* `NativeFunction.pullsNone_call`: what a call does to the streams.
* `Calc.exists_of_eval_list`, `Calc.exists_of_eval_neg`, `Calc.exists_of_eval_binary`,
  `Calc.exists_of_eval_call`: what was computed where an expression has a value.
* `Calc.pullsNone_eval`, `Calc.pullsNone_evalLine`: no stream is pulled from.
* `Calc.Statement.Inert`: statements whose value is no stream, whatever streams they use.
* `Calc.noStream_eval`, `Calc.noStream_evalLine`: their values are no streams.
-/
import LineRepl.Calc.Eval
import LineRepl.Proofs.Store
import Mathlib.Data.Int.Notation

namespace LineRepl

open Store (PullsNone)

/-! ### Calls -/

/-- The value is no stream. -/
def Value.NoStream (v : Value) : Prop := ∀ handle, v ≠ .stream handle

/-- What succeeds in two steps succeeds in each of them. -/
lemma exists_of_bind_eq_ok {ε α β : Type} {x : Except ε α} {f : α → Except ε β} {r : β}
    (h : x >>= f = .ok r) : ∃ a, x = .ok a ∧ f a = .ok r := by
  cases x with
  | error e => cases h
  | ok a => exact ⟨a, rfl, h⟩

namespace NativeFunction

/-- A length is no stream. -/
lemma noStream_length {u v : Value} (h : length u = .ok v) : v.NoStream := by
  cases u <;> cases h <;> exact nofun

/-- A call pulls from no stream, and the values of two functions are never streams. -/
lemma pullsNone_call {f : NativeFunction} {args : List Value} {store store' : Store} {v : Value}
    (h : f.call args store = .ok (v, store')) :
    PullsNone store store' ∧ (f = .len ∨ f = .str → v.NoStream) := by
  cases f with
  | range =>
      obtain ⟨first, -, hfirst⟩ := exists_of_bind_eq_ok h
      obtain ⟨bound, -, hbound⟩ := exists_of_bind_eq_ok hfirst
      cases hbound
      exact ⟨Store.pullsNone_insert rfl, by simp⟩
  | naturals =>
      cases h
      exact ⟨Store.pullsNone_insert rfl, by simp⟩
  | len =>
      obtain ⟨u, -, hu⟩ := exists_of_bind_eq_ok h
      obtain ⟨n, hlength, hn⟩ := exists_of_bind_eq_ok hu
      cases hn
      exact ⟨.refl store, fun _ => noStream_length hlength⟩
  | str =>
      obtain ⟨u, -, hu⟩ := exists_of_bind_eq_ok h
      cases hu
      exact ⟨.refl store, fun _ => nofun⟩

end NativeFunction

/-! ### Evaluation -/

namespace Calc

variable {b : Bindings} {store store' : Store} {v : Value}

lemma withStore_eq_ok {r : Except RuntimeFault Value} (h : withStore store r = .ok (v, store')) :
    r = .ok v ∧ store' = store := by
  cases r <;> cases h
  exact ⟨rfl, rfl⟩

lemma call_of_callFunction_eq_ok {f : NativeFunction} {args : List Value}
    (h : callFunction f args store = .ok (v, store')) : f.call args store = .ok (v, store') := by
  rw [callFunction] at h
  rcases hcall : f.call args store with (_ | _) | r <;> rw [hcall] at h <;> cases h
  rfl

section

variable {e left right function : Expr} {rest items args : List Expr} {op : BinaryOp}
  {values : List Value}

/-! What was computed where an expression has a value. -/

lemma exists_of_eval_list (h : (Expr.list items).eval b store = .ok (v, store')) :
    ∃ values, evalItems b items store = .ok (values, store') ∧ v = .list values := by
  rw [Expr.eval] at h
  rcases hitems : evalItems b items store with _ | ⟨values, store₁⟩ <;> rw [hitems] at h <;> cases h
  exact ⟨values, rfl, rfl⟩

lemma exists_of_eval_neg (h : e.neg.eval b store = .ok (v, store')) :
    ∃ u, e.eval b store = .ok (u, store') ∧ negate u = .ok v := by
  rw [Expr.eval] at h
  rcases he : e.eval b store with _ | ⟨u, store₁⟩ <;> rw [he] at h
  · cases h
  · obtain ⟨hnegate, rfl⟩ := withStore_eq_ok h
    exact ⟨u, rfl, hnegate⟩

/-- Operands are evaluated from left to right before the operator. -/
lemma exists_of_eval_binary (h : (Expr.binary op left right).eval b store = .ok (v, store')) :
    ∃ u u' store₁, left.eval b store = .ok (u, store₁) ∧
      right.eval b store₁ = .ok (u', store') ∧ binary op u u' = .ok v := by
  rw [Expr.eval] at h
  rcases hleft : left.eval b store with _ | ⟨u, store₁⟩ <;> rw [hleft] at h
  · cases h
  · simp only at h
    rcases hright : right.eval b store₁ with _ | ⟨u', store₂⟩ <;> rw [hright] at h
    · cases h
    · obtain ⟨hbinary, rfl⟩ := withStore_eq_ok h
      exact ⟨u, u', store₁, rfl, hright, hbinary⟩

/-- What is called is evaluated before its arguments. -/
lemma exists_of_eval_call (h : (function.call args).eval b store = .ok (v, store')) :
    ∃ u store₁ f values store₂, function.eval b store = .ok (u, store₁) ∧
      callee u args.length = .ok f ∧ evalItems b args store₁ = .ok (values, store₂) ∧
      f.call values store₂ = .ok (v, store') := by
  rw [Expr.eval] at h
  rcases hfunction : function.eval b store with _ | ⟨u, store₁⟩ <;> rw [hfunction] at h
  · cases h
  · simp only at h
    rcases hcallee : callee u args.length with _ | f <;> rw [hcallee] at h
    · cases h
    · simp only at h
      rcases hargs : evalItems b args store₁ with _ | ⟨values, store₂⟩ <;> rw [hargs] at h
      · cases h
      · exact ⟨u, store₁, f, values, store₂, rfl, hcallee, hargs, call_of_callFunction_eq_ok h⟩

/-- Items are evaluated from left to right. -/
lemma exists_of_evalItems_cons (h : evalItems b (e :: rest) store = .ok (values, store')) :
    ∃ u us store₁, e.eval b store = .ok (u, store₁) ∧ evalItems b rest store₁ = .ok (us, store') ∧
      values = u :: us := by
  rw [evalItems] at h
  rcases he : e.eval b store with _ | ⟨u, store₁⟩ <;> rw [he] at h
  · cases h
  · simp only at h
    rcases hrest : evalItems b rest store₁ with _ | ⟨us, store₂⟩ <;> rw [hrest] at h <;> cases h
    exact ⟨u, us, store₁, rfl, hrest, rfl⟩

end

mutual

/-- The evaluation of an expression pulls from no stream. -/
lemma pullsNone_eval {e : Expr} {store store' : Store} {v : Value}
    (h : e.eval b store = .ok (v, store')) : PullsNone store store' := by
  cases e with
  | int n | float x | str s =>
      rw [Expr.eval] at h
      cases h
      exact .refl store
  | var name =>
      rw [Expr.eval] at h
      obtain ⟨-, rfl⟩ := withStore_eq_ok h
      exact .refl store'
  | list items =>
      obtain ⟨values, hitems, -⟩ := exists_of_eval_list h
      exact pullsNone_evalItems hitems
  | neg e =>
      obtain ⟨u, he, -⟩ := exists_of_eval_neg h
      exact pullsNone_eval he
  | binary op left right =>
      obtain ⟨u, u', store₁, hleft, hright, -⟩ := exists_of_eval_binary h
      exact (pullsNone_eval hleft).trans (pullsNone_eval hright)
  | call function args =>
      obtain ⟨u, store₁, f, values, store₂, hfunction, -, hargs, hcall⟩ := exists_of_eval_call h
      exact ((pullsNone_eval hfunction).trans (pullsNone_evalItems hargs)).trans
        (NativeFunction.pullsNone_call hcall).1

/-- Nor do items. -/
lemma pullsNone_evalItems {es : List Expr} {store store' : Store} {values : List Value}
    (h : evalItems b es store = .ok (values, store')) : PullsNone store store' := by
  cases es with
  | nil =>
      rw [evalItems] at h
      cases h
      exact .refl store
  | cons e rest =>
      obtain ⟨u, us, store₁, he, hrest, -⟩ := exists_of_evalItems_cons h
      exact (pullsNone_eval he).trans (pullsNone_evalItems hrest)

end

/-- A statement pulls from no stream. -/
lemma pullsNone_run (statement : Statement) (w : Workspace) :
    PullsNone w.store (statement.run w).2.store := by
  cases statement with
  | assign name e | expr e =>
      rw [Statement.run]
      rcases heval : e.eval w.bindings w.store with _ | ⟨v, store⟩
      · exact .refl w.store
      · exact pullsNone_eval heval

/-- A line pulls from no stream as it is evaluated. -/
lemma pullsNone_evalLine (line : String) (w : Workspace) :
    PullsNone w.store (evalLine line w).2.store := by
  rw [evalLine]
  split
  · exact .refl w.store
  · exact .refl w.store
  · split
    · exact .refl w.store
    · exact pullsNone_run _ w

/-! ### Values that are no streams -/

lemma noStream_exactInt {n : ℤ} (h : exactInt n = .ok v) : v.NoStream := by
  rw [exactInt] at h
  split at h <;> cases h
  exact nofun

/-- Operators of integers make no streams. -/
lemma noStream_intBinary {op : BinaryOp} {m n : Int64} (h : intBinary op m n = .ok v) :
    v.NoStream := by
  cases op with
  | add | sub | mul => exact noStream_exactInt h
  | div =>
      rw [intBinary] at h
      split_ifs at h
      · exact noStream_exactInt h
      · cases h
        exact nofun
  | rem =>
      rw [intBinary] at h
      split_ifs at h
      split at h
      · exact noStream_exactInt h
      · cases h
  | eq | ne | lt | le | gt | ge =>
      cases h
      exact nofun

/-- Nor do those of floats. -/
lemma noStream_floatBinary {op : BinaryOp} {x y : Binary64} (h : floatBinary op x y = .ok v) :
    v.NoStream := by
  cases op with
  | div | rem =>
      rw [floatBinary] at h
      split_ifs at h
      cases h
      exact nofun
  | add | sub | mul | eq | ne | lt | le | gt | ge =>
      cases h
      exact nofun

/-- Operators have no streams as values, also where their operands are streams. -/
lemma noStream_binary {op : BinaryOp} {u u' : Value} (h : binary op u u' = .ok v) :
    v.NoStream := by
  rw [binary.eq_def] at h
  split at h
  · cases h
    exact nofun
  · cases h
    exact nofun
  · cases h
    exact nofun
  · cases h
    exact nofun
  · cases h
    exact nofun
  · exact noStream_intBinary h
  · rw [mixedBinary] at h
    split at h
    · exact noStream_floatBinary h
    · cases h

lemma noStream_negate {u : Value} (h : negate u = .ok v) : v.NoStream := by
  cases u with
  | int n => exact noStream_exactInt h
  | float x =>
      cases h
      exact nofun
  | bool | str | list | stream | function | object => cases h

/-- The function that a name means is the callee. -/
lemma eq_of_callee_var {name : String} {u : Value} {f g : NativeFunction} {count : ℕ}
    (hname : (Expr.var name).eval b store = .ok (u, store')) (hcallee : callee u count = .ok f)
    (hlookup : lookup b name = .ok (.function g)) : f = g := by
  rw [Expr.eval, hlookup] at hname
  cases hname
  rw [callee] at hcallee
  split_ifs at hcallee
  cases hcallee
  rfl

/-- A literal, a list, a sign, an operator, or a call of one of the two functions whose values are
never streams. -/
def Expr.Inert (b : Bindings) : Expr → Prop
  | .var _ => False
  | .call (.var name) _ =>
    lookup b name = .ok (.function .len) ∨ lookup b name = .ok (.function .str)
  | .call .. => False
  | _ => True

/-- The value of an inert expression is no stream, whatever streams it uses. -/
lemma noStream_eval {e : Expr} (hinert : e.Inert b) (h : e.eval b store = .ok (v, store')) :
    v.NoStream := by
  cases e with
  | int | float | str =>
      rw [Expr.eval] at h
      cases h
      exact nofun
  | var => exact hinert.elim
  | list items =>
      obtain ⟨values, -, rfl⟩ := exists_of_eval_list h
      exact nofun
  | neg e =>
      obtain ⟨u, -, hnegate⟩ := exists_of_eval_neg h
      exact noStream_negate hnegate
  | binary op left right =>
      obtain ⟨u, u', store₁, -, -, hbinary⟩ := exists_of_eval_binary h
      exact noStream_binary hbinary
  | call function args =>
      obtain ⟨u, store₁, f, values, store₂, hfunction, hcallee, -, hcall⟩ := exists_of_eval_call h
      cases function with
      | var name =>
          refine (NativeFunction.pullsNone_call hcall).2 ?_
          exact hinert.imp (eq_of_callee_var hfunction hcallee) (eq_of_callee_var hfunction hcallee)
      | int | float | str | list | neg | binary | call => exact hinert.elim

/-- An assignment, or an inert expression. -/
def Statement.Inert (b : Bindings) : Statement → Prop
  | .assign .. => True
  | .expr e => e.Inert b

/-- The value of an inert statement is no stream. -/
lemma noStream_run {statement : Statement} {w w' : Workspace}
    (hinert : statement.Inert w.bindings) (h : statement.run w = (.value v, w')) :
    v.NoStream := by
  cases statement with
  | assign name e =>
      rw [Statement.run] at h
      rcases heval : e.eval w.bindings w.store with (_ | _) | ⟨u, store⟩ <;> rw [heval] at h <;>
        cases h
  | expr e =>
      rw [Statement.run] at h
      rcases heval : e.eval w.bindings w.store with (_ | _) | ⟨u, store⟩ <;> rw [heval] at h <;>
        cases h
      exact noStream_eval hinert heval

/-- A line that is an inert statement has no stream as its value. -/
lemma noStream_evalLine {line : String} {tokens : List PlacedToken} {statement : Statement}
    {w w' : Workspace} (hinert : statement.Inert w.bindings)
    (htokens : tokenize line = .ok tokens) (hparse : parse tokens = .ok statement)
    (h : evalLine line w = (.value v, w')) : v.NoStream := by
  rw [evalLine, htokens] at h
  cases tokens with
  | nil => cases h
  | cons token rest =>
      simp only [hparse] at h
      exact noStream_run hinert h

end Calc

end LineRepl
