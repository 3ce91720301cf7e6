/-
What expression lines do to the bindings: an assignment binds one name, and nothing else binds any.

* `NativeFunction.call_ne_panic`: functions that are given as many arguments as they take do not
  panic.
* `eval_ne_panic`: no evaluation of an expression does.
* `Atomic`: the ways in which a line can end, with what it did to the bindings.
* `evalLine_atomic`: every line ends in one of them.
-/
import LineRepl.Proofs.Bindings
import LineRepl.Proofs.Calc.Pulling

namespace LineRepl

/-! ### Calls -/

namespace NativeFunction

/-- A function that is given as many arguments as it takes does not panic. -/
lemma call_ne_panic {f : NativeFunction} {args : List Value} (harity : args.length = f.arity)
    (store : Store) (p : Panic) : f.call args store ≠ .error (.panic p) := by
  cases f with
  | range =>
      obtain ⟨first, bound, rfl⟩ := List.length_eq_two.mp harity
      cases first <;> cases bound <;> exact nofun
  | naturals => exact nofun
  | len =>
      obtain ⟨v, rfl⟩ := List.length_eq_one_iff.mp harity
      cases v <;> exact nofun
  | str =>
      obtain ⟨v, rfl⟩ := List.length_eq_one_iff.mp harity
      exact nofun

end NativeFunction

namespace Calc

variable {b : Bindings} {store : Store}

/-- A function that gets as many arguments as it takes does not panic. -/
lemma callFunction_ne_panic {f : NativeFunction} {args : List Value}
    (harity : args.length = f.arity) (store : Store) (p : Panic) :
    callFunction f args store ≠ .error (.panic p) := by
  intro h
  rw [callFunction] at h
  rcases hcall : f.call args store with (_ | p') | r <;> rw [hcall] at h <;> cases h
  exact NativeFunction.call_ne_panic harity store p hcall

/-! ### Evaluation -/

/-- A value or a fault beside its store is no panic. -/
lemma withStore_ne_panic (store : Store) (r : Except RuntimeFault Value) (p : Panic) :
    withStore store r ≠ .error (.panic p) := by
  cases r <;> exact nofun

/-- There is a value for every item. -/
lemma length_of_evalItems {es : List Expr} {store store' : Store} {values : List Value}
    (h : evalItems b es store = .ok (values, store')) : values.length = es.length := by
  induction es generalizing store values with
  | nil =>
      rw [evalItems] at h
      cases h
      rfl
  | cons e rest ih =>
      obtain ⟨v, vs, store₁, -, hrest, rfl⟩ := exists_of_evalItems_cons h
      rw [List.length_cons, List.length_cons, ih hrest]

/-- A callee that was accepted takes as many arguments as there are. -/
lemma eq_arity_of_callee {v : Value} {count : ℕ} {f : NativeFunction}
    (h : callee v count = .ok f) : count = f.arity := by
  cases v with
  | function g =>
      rw [callee] at h
      split_ifs at h with harity
      cases h
      exact harity
  | bool | int | float | str | list | stream | object => cases h

mutual

/-- The evaluation of an expression does not panic. -/
lemma eval_ne_panic (b : Bindings) (e : Expr) (store : Store) (p : Panic) :
    e.eval b store ≠ .error (.panic p) := by
  intro h
  cases e with
  | int | float | str =>
      rw [Expr.eval] at h
      cases h
  | var name =>
      rw [Expr.eval] at h
      exact withStore_ne_panic store _ p h
  | list items =>
      rw [Expr.eval] at h
      rcases hitems : evalItems b items store with _ | ⟨values, store₁⟩ <;> rw [hitems] at h <;>
        cases h
      exact evalItems_ne_panic b items store p hitems
  | neg e =>
      rw [Expr.eval] at h
      rcases he : e.eval b store with _ | ⟨v, store₁⟩ <;> rw [he] at h
      · exact eval_ne_panic b e store p (he.trans h)
      · exact withStore_ne_panic store₁ _ p h
  | binary op left right =>
      rw [Expr.eval] at h
      rcases hleft : left.eval b store with _ | ⟨v, store₁⟩ <;> rw [hleft] at h
      · exact eval_ne_panic b left store p (hleft.trans h)
      · simp only at h
        rcases hright : right.eval b store₁ with _ | ⟨w, store₂⟩ <;> rw [hright] at h
        · exact eval_ne_panic b right store₁ p (hright.trans h)
        · exact withStore_ne_panic store₂ _ p h
  | call function args =>
      rw [Expr.eval] at h
      rcases hfunction : function.eval b store with _ | ⟨v, store₁⟩ <;> rw [hfunction] at h
      · exact eval_ne_panic b function store p (hfunction.trans h)
      · simp only at h
        rcases hcallee : callee v args.length with _ | f <;> rw [hcallee] at h
        · cases h
        · simp only at h
          rcases hvalues : evalItems b args store₁ with _ | ⟨values, store₂⟩ <;> rw [hvalues] at h
          · cases h
            exact evalItems_ne_panic b args store₁ p hvalues
          · have harity := (length_of_evalItems hvalues).trans (eq_arity_of_callee hcallee)
            exact callFunction_ne_panic harity store₂ p h

/-- Items are evaluated one after another, and none of them panics. -/
lemma evalItems_ne_panic (b : Bindings) (es : List Expr) (store : Store) (p : Panic) :
    evalItems b es store ≠ .error (.panic p) := by
  intro h
  cases es with
  | nil =>
      rw [evalItems] at h
      cases h
  | cons e rest =>
      rw [evalItems] at h
      rcases he : e.eval b store with _ | ⟨v, store₁⟩ <;> rw [he] at h
      · cases h
        exact eval_ne_panic b e store p he
      · simp only at h
        rcases hrest : evalItems b rest store₁ with _ | ⟨values, store₂⟩ <;> rw [hrest] at h <;>
          cases h
        exact evalItems_ne_panic b rest store₁ p hrest

end

/-! ### Lines -/

/-- How a line can end, and the workspace then. -/
inductive Atomic (line : String) (w : Workspace) : Reply × Workspace → Prop
  /-- An error undoes all that the line did. -/
  | refused (e : EvalError) : Atomic line w (.error e, w)
  /-- A value can come with new streams. -/
  | valued (v : Value) (store : Store) : Atomic line w (.value v, { w with store })
  | blank : tokenize line = .ok [] → Atomic line w (.nothing, w)
  /-- The value of the expression in the old bindings is bound to the one name. -/
  | assigned {tokens : List PlacedToken} {name : String} {e : Expr} {v : Value} {store : Store}
      {b : Bindings} :
      tokenize line = .ok tokens → parse tokens = .ok (.assign name e) →
      e.eval w.bindings w.store = .ok (v, store) → Bindings.Rebound name v w.bindings b →
      Atomic line w (.nothing, ⟨b, store⟩)

/-- A statement that stops does so in an error. -/
lemma exists_stopped_eq {e : Expr} {stop : Stop RuntimeFault}
    (h : e.eval b store = .error stop) : ∃ error, stopped stop = .error error := by
  cases stop with
  | fault fault => exact ⟨_, rfl⟩
  | panic p => exact absurd h (eval_ne_panic b e store p)

/-- **Expression lines are atomic**: a line that ends in an error or has a value leaves the bindings
as they were. A line that has neither is blank, or it is an assignment: then the name is bound to
the value that the expression has in the old bindings, in its old place if there is one, and all
other entries are left alone. -/
theorem evalLine_atomic (line : String) (w : Workspace) : Atomic line w (evalLine line w) := by
  rw [evalLine]
  split
  next => exact .refused _
  next hblank => exact .blank hblank
  next tokens hne htokens =>
    rcases hparse : parse tokens with e | (⟨name, e⟩ | e)
    · exact .refused _
    · rcases heval : e.eval w.bindings w.store with stop | ⟨v, store⟩
      · obtain ⟨error, hstopped⟩ := exists_stopped_eq heval
        simp only [Statement.run, heval, hstopped]
        exact .refused error
      · simp only [Statement.run, heval]
        exact .assigned htokens hparse heval (Bindings.rebound_set name v w.bindings)
    · rcases heval : e.eval w.bindings w.store with stop | ⟨v, store⟩
      · obtain ⟨error, hstopped⟩ := exists_stopped_eq heval
        simp only [Statement.run, heval, hstopped]
        exact .refused error
      · simp only [Statement.run, heval]
        exact .valued v store

end Calc

end LineRepl
