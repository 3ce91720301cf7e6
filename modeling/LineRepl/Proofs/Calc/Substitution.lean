/-
Assigning a value to a name and writing its expression in place of the name.

* `Expr.subst`: a tree with an expression in place of every name.
* `Expr.names`: the names in a tree.
* `eval_subst`: two evaluations are the same if the names of one mean what stands in their place in
  the other.
* `eval_of_agreeOn`: so an evaluation sees only the names in the tree.
* `Expr.calls`: the functions that an evaluation calls.
* `eval_of_streamless`: an evaluation that makes no stream has its value in every store.
* `eval_subst_of_assigned`: an assignment and the substitution of its expression come to the same.
-/
import LineRepl.Proofs.Bindings
import LineRepl.Proofs.Calc.Pulling
import Mathlib.Logic.Function.Basic

namespace LineRepl.Calc

/-! ### Substitution -/

mutual

/-- The tree with an expression in place of every name. What is put in is not searched for names
again. -/
def Expr.subst (σ : String → Expr) : Expr → Expr
  | .int n => .int n
  | .float x => .float x
  | .str s => .str s
  | .var name => σ name
  | .list items => .list (substItems σ items)
  | .neg e => .neg (e.subst σ)
  | .binary op left right => .binary op (left.subst σ) (right.subst σ)
  | .call function args => .call (function.subst σ) (substItems σ args)

/-- All trees with an expression in place of every name. -/
def substItems (σ : String → Expr) : List Expr → List Expr
  | [] => []
  | e :: rest => e.subst σ :: substItems σ rest

end

mutual

/-- The names in a tree, those of callees included. -/
def Expr.names : Expr → List String
  | .int _ | .float _ | .str _ => []
  | .var name => [name]
  | .list items => namesOfItems items
  | .neg e => e.names
  | .binary _ left right => left.names ++ right.names
  | .call function args => function.names ++ namesOfItems args

/-- The names in any of the trees. -/
def namesOfItems : List Expr → List String
  | [] => []
  | e :: rest => e.names ++ namesOfItems rest

end

/-- Substitution keeps the number of items. -/
lemma length_substItems (σ : String → Expr) (es : List Expr) :
    (substItems σ es).length = es.length := by
  induction es with
  | nil => rfl
  | cons e rest ih => rw [substItems, List.length_cons, List.length_cons, ih]

mutual

/-- Names for themselves change nothing. -/
lemma subst_var (e : Expr) : e.subst .var = e := by
  cases e with
  | int | float | str | var => rfl
  | list items => rw [Expr.subst, substItems_var items]
  | neg e => rw [Expr.subst, subst_var e]
  | binary op left right => rw [Expr.subst, subst_var left, subst_var right]
  | call function args => rw [Expr.subst, subst_var function, substItems_var args]

/-- Nothing changes if names stand for themselves. -/
lemma substItems_var (es : List Expr) : substItems .var es = es := by
  cases es with
  | nil => rfl
  | cons e rest => rw [substItems, subst_var e, substItems_var rest]

end

/-- In any store, the name means in `b'` what the expression in its place means in `b`. -/
def Stands (b b' : Bindings) (σ : String → Expr) (name : String) : Prop :=
  ∀ store, (σ name).eval b store = (Expr.var name).eval b' store

variable {b b' : Bindings} {σ : String → Expr}

mutual

/-- The evaluation of a tree after substitution is that of the tree, if its names mean what is put
in their place. -/
lemma eval_subst {e : Expr} (h : ∀ name ∈ e.names, Stands b b' σ name) (store : Store) :
    (e.subst σ).eval b store = e.eval b' store := by
  cases e with
  | int | float | str => rfl
  | var name => exact h name (List.mem_singleton_self name) store
  | list items =>
      rw [Expr.subst, Expr.eval, Expr.eval, evalItems_subst h]
  | neg e =>
      have he := eval_subst (e := e) h
      simp only [Expr.subst, Expr.eval, he]
  | binary op left right =>
      rw [Expr.names, List.forall_mem_append] at h
      have hleft := eval_subst h.1
      have hright := eval_subst h.2
      simp only [Expr.subst, Expr.eval, hleft, hright]
  | call function args =>
      rw [Expr.names, List.forall_mem_append] at h
      have hfunction := eval_subst h.1
      have hargs := evalItems_subst h.2
      simp only [Expr.subst, Expr.eval, hfunction, hargs, length_substItems]

/-- Items come to the same after substitution. -/
lemma evalItems_subst {es : List Expr} (h : ∀ name ∈ namesOfItems es, Stands b b' σ name)
    (store : Store) : evalItems b (substItems σ es) store = evalItems b' es store := by
  cases es with
  | nil => rfl
  | cons e rest =>
      rw [namesOfItems, List.forall_mem_append] at h
      have he := eval_subst h.1
      have hrest := evalItems_subst h.2
      simp only [substItems, evalItems, he, hrest]

end

/-- **An evaluation sees only the names in the tree.** -/
theorem eval_of_agreeOn {e : Expr} (h : b.AgreeOn (· ∈ e.names) b') (store : Store) :
    e.eval b store = e.eval b' store := by
  have hstands : ∀ name ∈ e.names, Stands b b' .var name := by
    intro name hname store
    rw [Expr.eval, Expr.eval, lookup, lookup, h name hname]
  rw [← eval_subst hstands, subst_var]

/-! ### Calls -/

mutual

/-- The functions that are called as an expression is evaluated, in order. -/
def Expr.calls (b : Bindings) (e : Expr) (store : Store) : List NativeFunction :=
  match e with
  | .int _ | .float _ | .str _ | .var _ => []
  | .list items => callsOfItems b items store
  | .neg e => e.calls b store
  | .binary _ left right =>
    left.calls b store ++
      match left.eval b store with
      | .error _ => []
      | .ok (_, store) => right.calls b store
  | .call function args =>
    function.calls b store ++
      match function.eval b store with
      | .error _ => []
      | .ok (v, store) =>
        match callee v args.length with
        | .error _ => []
        | .ok f =>
          callsOfItems b args store ++
            match evalItems b args store with
            | .error _ => []
            | .ok _ => [f]

/-- The functions that are called as expressions are evaluated, in order. -/
def callsOfItems (b : Bindings) (es : List Expr) (store : Store) : List NativeFunction :=
  match es with
  | [] => []
  | e :: rest =>
    e.calls b store ++
      match e.eval b store with
      | .error _ => []
      | .ok (_, store) => callsOfItems b rest store

end

/-- No function that makes a stream is called. -/
def Streamless (calls : List NativeFunction) : Prop := ∀ f ∈ calls, f ≠ .range ∧ f ≠ .naturals

lemma streamless_append {calls calls' : List NativeFunction} :
    Streamless (calls ++ calls') ↔ Streamless calls ∧ Streamless calls' :=
  List.forall_mem_append

variable {store store' : Store}

/-- Functions that make no stream have their values in every store. -/
lemma call_of_streamless {f : NativeFunction} {args : List Value} {v : Value}
    (hf : f ≠ .range ∧ f ≠ .naturals) (h : f.call args store = .ok (v, store')) (other : Store) :
    f.call args other = .ok (v, other) := by
  cases f with
  | range => exact absurd rfl hf.1
  | naturals => exact absurd rfl hf.2
  | len =>
      obtain ⟨u, hu, hlength⟩ := exists_of_bind_eq_ok h
      obtain ⟨n, hn, hv⟩ := exists_of_bind_eq_ok hlength
      cases hv
      simp only [NativeFunction.call, hu]
      exact congrArg (fun r : Except (Stop CallFault) Value => r >>= fun n => .ok (n, other)) hn
  | str =>
      obtain ⟨u, hu, hv⟩ := exists_of_bind_eq_ok h
      cases hv
      rw [NativeFunction.call, hu]
      rfl

mutual

/-- An evaluation that makes no stream has its value in every store, and leaves the store alone. -/
lemma eval_of_streamless {e : Expr} {store store' : Store} {v : Value}
    (h : e.eval b store = .ok (v, store')) (hcalls : Streamless (e.calls b store))
    (other : Store) : e.eval b other = .ok (v, other) := by
  cases e with
  | int n | float x | str s =>
      rw [Expr.eval] at h ⊢
      cases h
      rfl
  | var name =>
      rw [Expr.eval] at h ⊢
      obtain ⟨hlookup, -⟩ := withStore_eq_ok h
      rw [hlookup, withStore]
  | list items =>
      obtain ⟨values, hitems, rfl⟩ := exists_of_eval_list h
      rw [Expr.eval, evalItems_of_streamless hitems hcalls]
  | neg e =>
      obtain ⟨u, he, hnegate⟩ := exists_of_eval_neg h
      rw [Expr.eval, eval_of_streamless he hcalls]
      simp only [hnegate, withStore]
  | binary op left right =>
      obtain ⟨u, u', store₁, hleft, hright, hbinary⟩ := exists_of_eval_binary h
      rw [Expr.calls, hleft, streamless_append] at hcalls
      rw [Expr.eval, eval_of_streamless hleft hcalls.1]
      simp only [eval_of_streamless hright hcalls.2, hbinary, withStore]
  | call function args =>
      obtain ⟨u, store₁, f, values, store₂, hfunction, hcallee, hargs, hcall⟩ :=
        exists_of_eval_call h
      simp only [Expr.calls, hfunction, hcallee, hargs, streamless_append] at hcalls
      obtain ⟨hfirst, hmiddle, hlast⟩ := hcalls
      have hf := hlast f (List.mem_singleton_self f)
      rw [Expr.eval, eval_of_streamless hfunction hfirst]
      simp only [hcallee, evalItems_of_streamless hargs hmiddle, callFunction,
        call_of_streamless hf hcall]

/-- Items whose calls make no streams come to the same over every store, which they keep. -/
lemma evalItems_of_streamless {es : List Expr} {store store' : Store} {values : List Value}
    (h : evalItems b es store = .ok (values, store'))
    (hcalls : Streamless (callsOfItems b es store)) (other : Store) :
    evalItems b es other = .ok (values, other) := by
  cases es with
  | nil =>
      rw [evalItems] at h ⊢
      cases h
      rfl
  | cons e rest =>
      obtain ⟨u, us, store₁, he, hrest, rfl⟩ := exists_of_evalItems_cons h
      rw [callsOfItems, he, streamless_append] at hcalls
      rw [evalItems, eval_of_streamless he hcalls.1]
      simp only [evalItems_of_streamless hrest hcalls.2]

end

/-! ### Assignment and substitution -/

/-- A name that is bound to the value of an expression stands for it, whatever it was bound to
before. -/
lemma stands_update {e : Expr} {v : Value} (h : e.eval b store = .ok (v, store'))
    (hcalls : Streamless (e.calls b store)) (x name : String) :
    Stands b (b.set x v) (Function.update .var x e) name := by
  intro other
  by_cases hname : name = x
  · subst hname
    rw [Function.update_self, eval_of_streamless h hcalls, Expr.eval, lookup,
      Bindings.get?_set_self, withStore]
  · rw [Function.update_of_ne hname, Expr.eval, Expr.eval, lookup, lookup, Bindings.get?_set,
      if_neg hname]

/-- **Assignment is substitution.** If an expression has a value and its evaluation makes no stream,
the name that it is assigned to and the expression in place of the name are evaluated to the same
value or the same error, in any tree and any store; and a line with the name, after the line with
the assignment, is answered as one line with the expression in its place. -/
theorem eval_subst_of_assigned {e₁ : Expr} {v : Value} {w : Workspace} {store : Store}
    (h : e₁.eval w.bindings w.store = .ok (v, store))
    (hrange : .range ∉ e₁.calls w.bindings w.store)
    (hnaturals : .naturals ∉ e₁.calls w.bindings w.store) (x : String) (e₂ : Expr) :
    (∀ other, e₂.eval (w.bindings.set x v) other =
      (e₂.subst (Function.update .var x e₁)).eval w.bindings other) ∧
    (Statement.assign x e₁).run w = (.nothing, w.bind x v) ∧
    ((Statement.expr e₂).run (w.bind x v)).1 =
      ((Statement.expr (e₂.subst (Function.update .var x e₁))).run w).1 := by
  have hcalls : Streamless (e₁.calls w.bindings w.store) := by
    intro f hf
    exact ⟨fun heq => hrange (heq ▸ hf), fun heq => hnaturals (heq ▸ hf)⟩
  have heval : ∀ other, e₂.eval (w.bindings.set x v) other =
      (e₂.subst (Function.update .var x e₁)).eval w.bindings other := fun other =>
    (eval_subst (fun name _ => stands_update h hcalls x name) other).symm
  refine ⟨heval, ?_, ?_⟩
  · rw [Statement.run, eval_of_streamless h hcalls]
    rfl
  · simp only [Statement.run, Workspace.bind, heval]
    rcases (e₂.subst (Function.update .var x e₁)).eval w.bindings w.store with _ | _ <;> rfl

/-- `true` is the name of a function, and `x` is bound. -/
def shadowing : Workspace := ⟨⟨[("x", .int 1), ("true", .function .len)]⟩, .empty⟩

/-- The expression `[x, true("ab")]`. -/
def pair : Expr := .list [.var "x", .call (.var "true") [.str "ab"]]

/-- A name that always means something is bound to a function, and then assigned the value of an
expression that calls it. -/
theorem eval_subst_shadowing :
    pair.eval shadowing.bindings shadowing.store = .ok (.list [.int 1, .int 2], .empty) ∧
      pair.calls shadowing.bindings shadowing.store = [.len] ∧
      ((Statement.expr (.binary .add (.var "true") (.var "true"))).run
        (shadowing.bind "true" (.list [.int 1, .int 2]))).1 =
        .value (.list [.int 1, .int 2, .int 1, .int 2]) ∧
      ((Statement.expr (.binary .add pair pair)).run shadowing).1 =
        .value (.list [.int 1, .int 2, .int 1, .int 2]) := by
  have hcalls : pair.calls shadowing.bindings shadowing.store = [.len] := rfl
  have hvalue : pair.eval shadowing.bindings shadowing.store =
      .ok (.list [.int 1, .int 2], .empty) := rfl
  have hassigned := eval_subst_of_assigned hvalue (by rw [hcalls]; decide)
    (by rw [hcalls]; decide) "true" (.binary .add (.var "true") (.var "true"))
  exact ⟨hvalue, hcalls, rfl, hassigned.2.2.symm⟩

end LineRepl.Calc
