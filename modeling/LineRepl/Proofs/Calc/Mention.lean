/-
The names that an expression line mentions are all that it sees of the bindings.

* `Grammar.Line.ident_mem`: the names in the tree of a line are among its tokens.
* `Mentions`: the names among the tokens of a line.
* `assigned`: what a line binds, and `bindings_evalLine`: it binds nothing else.
* `evalLine_of_agreeOn`: the line does the same in bindings that agree on these names.
-/
import LineRepl.Proofs.Calc.Height
import LineRepl.Proofs.Calc.Substitution

namespace LineRepl.Calc

/-! ### Names and tokens -/

namespace Grammar

variable {limit : ℕ} {name : String}

mutual

/-- The names in the tree of an expression are among its tokens. -/
lemma Expression.ident_mem {d : ℕ} {ts : List Token} {e : Expr} :
    Expression limit d ts e → name ∈ e.names → .ident name ∈ ts
  | .single _ h, hname => h.ident_mem hname
  | .compare _ _ h h', hname => by
      rcases List.mem_append.mp hname with hleft | hright
      · exact List.mem_append_left _ (h.ident_mem hleft)
      · exact List.mem_append_right _ (List.mem_cons_of_mem _ (h'.ident_mem hright))

/-- The names of a chain are those of its operands. -/
lemma Chain.ident_mem {level : Level} {d : ℕ} {ts : List Token} {e : Expr} :
    Chain limit level d ts e → name ∈ e.names → .ident name ∈ ts
  | .mk h h', hname => by
      rcases h'.ident_mem _ hname with hfirst | hsteps
      · exact List.mem_append_left _ (h.ident_mem hfirst)
      · exact List.mem_append_right _ hsteps

lemma Operand.ident_mem {level : Level} {d : ℕ} {ts : List Token} {e : Expr} :
    Operand limit level d ts e → name ∈ e.names → .ident name ∈ ts
  | .product h, hname => h.ident_mem hname
  | .signed h, hname => h.ident_mem hname

/-- Operations add no names but those of their operands. -/
lemma Operations.ident_mem {level : Level} {d : ℕ} {ts : List Token}
    {steps : List (BinaryOp × Expr)} : Operations limit level d ts steps →
    ∀ left, name ∈ (leanLeft left steps).names → name ∈ left.names ∨ .ident name ∈ ts
  | .nil, _, hname => .inl hname
  | @Operations.cons _ _ _ _ _ op e _ _ _ h h', left, hname => by
      rcases h'.ident_mem (.binary op left e) hname with hnode | hsteps
      · rcases List.mem_append.mp hnode with hleft | hright
        · exact .inl hleft
        · exact .inr (List.mem_cons_of_mem _ (List.mem_append_left _ (h.ident_mem hright)))
      · exact .inr (List.mem_cons_of_mem _ (List.mem_append_right _ hsteps))

lemma Signed.ident_mem {d : ℕ} {ts : List Token} {e : Expr} :
    Signed limit d ts e → name ∈ e.names → .ident name ∈ ts
  | .minus _ h, hname => List.mem_cons_of_mem _ (h.ident_mem hname)
  | .applied h, hname => h.ident_mem hname

lemma Applied.ident_mem {d : ℕ} {ts : List Token} {e : Expr} :
    Applied limit d ts e → name ∈ e.names → .ident name ∈ ts
  | .mk h h', hname => by
      rcases h'.ident_mem _ hname with hcallee | harguments
      · exact List.mem_append_left _ (h.ident_mem hcallee)
      · exact List.mem_append_right _ harguments

/-- Calls add no names but those of their arguments. -/
lemma Applications.ident_mem {d : ℕ} {ts : List Token} {arguments : List (List Expr)} :
    Applications limit d ts arguments →
    ∀ callee, name ∈ (applyAll callee arguments).names → name ∈ callee.names ∨ .ident name ∈ ts
  | .nil, _, hname => .inl hname
  | @Applications.cons _ _ _ _ es _ _ h h', callee, hname => by
      rcases h'.ident_mem (.call callee es) hname with hnode | hrest
      · rcases List.mem_append.mp hnode with hcallee | hes
        · exact .inl hcallee
        · exact .inr (List.mem_cons_of_mem _ (List.mem_append_left _ (h.ident_mem hes)))
      · exact .inr (List.mem_cons_of_mem _
          (List.mem_append_right _ (List.mem_cons_of_mem _ hrest)))

lemma Arguments.ident_mem {d : ℕ} {ts : List Token} {es : List Expr} :
    Arguments limit d ts es → name ∈ namesOfItems es → .ident name ∈ ts
  | .none, hname => nomatch hname
  | .some h, hname => h.ident_mem hname

lemma Items.ident_mem {d : ℕ} {ts : List Token} {es : List Expr} :
    Items limit d ts es → name ∈ namesOfItems es → .ident name ∈ ts
  | .last h, hname => by
      rw [namesOfItems, namesOfItems, List.append_nil] at hname
      exact h.ident_mem hname
  | .cons h h', hname => by
      rcases List.mem_append.mp hname with hfirst | hothers
      · exact List.mem_append_left _ (h.ident_mem hfirst)
      · exact List.mem_append_right _ (List.mem_cons_of_mem _ (h'.ident_mem hothers))

/-- A name stands for itself, and brackets add none. -/
lemma Primary.ident_mem {d : ℕ} {ts : List Token} {e : Expr} :
    Primary limit d ts e → name ∈ e.names → .ident name ∈ ts
  | .int _, hname | .float _, hname | .str _, hname => nomatch hname
  | .var _, hname => List.mem_singleton.mpr (congrArg Token.ident (List.mem_singleton.mp hname))
  | .parens h, hname =>
      List.mem_cons_of_mem _ (List.mem_append_left _ (h.ident_mem hname))
  | .list h, hname =>
      List.mem_cons_of_mem _ (List.mem_append_left _ (h.ident_mem hname))

end

/-- The names of the body of a line are among its tokens. -/
lemma Line.ident_mem {ts : List Token} {s : Statement} (h : Line limit ts s)
    (hname : name ∈ s.body.names) : .ident name ∈ ts := by
  cases h with
  | expr h => exact h.ident_mem hname
  | assign _ h => exact List.mem_cons_of_mem _ (List.mem_cons_of_mem _ (h.ident_mem hname))

end Grammar

/-! ### What a line binds -/

/-- The name that a statement binds, with the value. -/
def Statement.assigned (s : Statement) (w : Workspace) : List (String × Value) :=
  match s with
  | .expr _ => []
  | .assign name e =>
    match e.eval w.bindings w.store with
    | .error _ => []
    | .ok (v, _) => [(name, v)]

/-- What a line binds: one name at most. -/
def assigned (line : String) (w : Workspace) : List (String × Value) :=
  match tokenize line with
  | .error _ | .ok [] => []
  | .ok tokens =>
    match parse tokens with
    | .error _ => []
    | .ok statement => statement.assigned w

/-- A statement binds what it assigns and nothing else. -/
lemma Statement.bindings_run (s : Statement) (w : Workspace) :
    (s.run w).2.bindings = w.bindings.setAll (s.assigned w) := by
  cases s with
  | expr e | assign name e =>
      rw [run, assigned]
      rcases e.eval w.bindings w.store with _ | _ <;> rfl

/-- The bindings after a line. -/
lemma bindings_evalLine (line : String) (w : Workspace) :
    (evalLine line w).2.bindings = w.bindings.setAll (assigned line w) := by
  rw [evalLine, assigned]
  rcases tokenize line with _ | _ | ⟨t, ts⟩
  · rfl
  · rfl
  · simp only
    rcases parse (t :: ts) with _ | s
    · rfl
    · exact s.bindings_run w

/-! ### What a line sees -/

/-- The name is among the tokens of the line. -/
def Mentions (line name : String) : Prop :=
  ∃ tokens, tokenize line = .ok tokens ∧ .ident name ∈ Grammar.words tokens

variable {b b' : Bindings}

/-- A statement comes to the same under bindings that agree on its names. -/
lemma Statement.run_of_agreeOn {s : Statement} (h : b.AgreeOn (· ∈ s.body.names) b')
    (store : Store) :
    (s.run ⟨b, store⟩).1 = (s.run ⟨b', store⟩).1 ∧
      (s.run ⟨b, store⟩).2.store = (s.run ⟨b', store⟩).2.store ∧
      s.assigned ⟨b, store⟩ = s.assigned ⟨b', store⟩ := by
  cases s with
  | expr e | assign name e =>
      have heval : e.eval b store = e.eval b' store := eval_of_agreeOn h store
      simp only [run, assigned, heval]
      rcases e.eval b' store with _ | _ <;> exact ⟨rfl, rfl, trivial⟩

/-- A line does the same in bindings that agree on the names that it mentions. -/
lemma evalLine_of_agreeOn {line : String} (h : b.AgreeOn (Mentions line) b') (store : Store) :
    (evalLine line ⟨b, store⟩).1 = (evalLine line ⟨b', store⟩).1 ∧
      (evalLine line ⟨b, store⟩).2.store = (evalLine line ⟨b', store⟩).2.store ∧
      assigned line ⟨b, store⟩ = assigned line ⟨b', store⟩ := by
  simp only [evalLine, assigned]
  rcases htokens : tokenize line with _ | _ | ⟨t, ts⟩
  · exact ⟨rfl, rfl, rfl⟩
  · exact ⟨rfl, rfl, rfl⟩
  · simp only
    rcases hparse : parse (t :: ts) with _ | s
    · exact ⟨rfl, rfl, rfl⟩
    · have hline := Grammar.parse_eq_ok_iff.mp hparse
      exact Statement.run_of_agreeOn
        (fun name hname => h name ⟨_, htokens, hline.ident_mem hname⟩) store

end LineRepl.Calc
