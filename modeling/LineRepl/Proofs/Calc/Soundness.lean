/-
What the parser accepts is a line of the grammar.

* `Derived`: an outcome is an error, or a tree that a rule derives from the tokens that were read,
  with the count of nesting back where it was.
* `Sound`: all rules of the parser have such outcomes on the given tokens.
* `sound`: they do on all tokens, by induction on their number.
-/
import LineRepl.Proofs.Calc.Grammar
import LineRepl.Proofs.Calc.Outcome

open LineRepl.Calc.Parser

namespace LineRepl.Calc.Grammar

/-- An outcome on the tokens `rest` is an error, or a tree that the rule derives from the tokens
that were read, and the count is `exit` then. -/
def Derived {α : Type} (rule : List Token → α → Prop) (rest : List PlacedToken) (exit : ℕ)
    (out : Except SyntaxError (α × Cursor)) : Prop :=
  ∀ x c', out = .ok (x, c') →
    c'.depth = exit ∧ ∃ read, rest = read ++ c'.rest ∧ rule (words read) x

/-- A chain goes on with the operators that `rule` derives. -/
def Continuing (left : Expr) (rule : List Token → List (BinaryOp × Expr) → Prop)
    (ts : List Token) (e : Expr) : Prop :=
  ∃ steps, rule ts steps ∧ e = leanLeft left steps

/-- A callee is applied to the argument lists that `rule` derives. -/
def Applying (callee : Expr) (rule : List Token → List (List Expr) → Prop)
    (ts : List Token) (e : Expr) : Prop :=
  ∃ arguments, rule ts arguments ∧ e = applyAll callee arguments

/-- The tokens end with the closing bracket, and what is before it is derived by `rule`. -/
def Closed (b : Bracket) (rule : List Token → List Expr → Prop) (ts : List Token)
    (es : List Expr) : Prop :=
  ∃ us, ts = us ++ [b.close] ∧ rule us es

/-- The rules of the parser give only what the grammar derives from the tokens `rest`. -/
structure Sound (stop : ℕ) (rest : List PlacedToken) : Prop where
  expr : ∀ d, Derived (Expression maxDepth d) rest d (outcome (expr stop ⟨rest, d⟩))
  chain : ∀ level d,
    Derived (Chain maxDepth level d) rest d (outcome (chain stop level ⟨rest, d⟩))
  operand : ∀ level d,
    Derived (Operand maxDepth level d) rest d (outcome (operand stop level ⟨rest, d⟩))
  chainTail : ∀ level left levels d,
    Derived (Continuing left (Operations maxDepth level d)) rest (d - levels)
      (outcome (chainTail stop level left levels ⟨rest, d⟩))
  unary : ∀ d, Derived (Signed maxDepth d) rest d (outcome (unary stop ⟨rest, d⟩))
  applied : ∀ d, Derived (Applied maxDepth d) rest d (outcome (applied stop ⟨rest, d⟩))
  appliedTail : ∀ callee levels d,
    Derived (Applying callee (Applications maxDepth d)) rest (d - levels)
      (outcome (appliedTail stop callee levels ⟨rest, d⟩))
  args : ∀ b d,
    Derived (Closed b (Arguments maxDepth d)) rest d (outcome (args stop b ⟨rest, d⟩))
  items : ∀ b d, Derived (Closed b (Items maxDepth d)) rest d (outcome (items stop b ⟨rest, d⟩))
  primary : ∀ d, Derived (Primary maxDepth d) rest d (outcome (primary stop ⟨rest, d⟩))

/-! ### One rule at a time -/

/-- The bracket is closed by a token that is its own. -/
lemma close_eq_ok {stop : ℕ} {b : Bracket} {c c' : Cursor} {u : Unit}
    (h : outcome (close stop b c) = .ok (u, c')) :
    ∃ t, t.token = b.close ∧ c.rest = t :: c'.rest ∧ c'.depth = c.depth := by
  rw [outcome_close] at h
  split at h
  · cases h
  next t rest hrest =>
    split at h
    next hclose =>
      cases h
      exact ⟨t, hclose, hrest, rfl⟩
    · cases h

section

variable {stop : ℕ} {rest : List PlacedToken}
  (shorter : ∀ rest' : List PlacedToken, rest'.length < rest.length → Sound stop rest')

include shorter

/-- What is read as an operand without signs and calls is derived as one. -/
lemma derived_primary (d : ℕ) :
    Derived (Primary maxDepth d) rest d (outcome (primary stop ⟨rest, d⟩)) := by
  intro e c' ho
  rw [outcome_primary] at ho
  rcases rest with _ | ⟨t, rest⟩
  · cases ho
  simp only at ho
  split at ho
  next e' hleaf =>
    cases ho
    exact ⟨rfl, [t], rfl, .of_leaf? hleaf⟩
  split at ho
  next hopen =>
    split at ho
    · cases ho
    next inner c₁ hinner =>
      obtain ⟨hd, read, rfl, hread⟩ := (shorter rest (by simp)).expr d _ _ hinner
      split at ho
      · cases ho
      next c₂ hclosed =>
        cases ho
        obtain ⟨u, hu, hrest, hd₂⟩ := close_eq_ok hclosed
        refine ⟨hd₂.trans hd, t :: (read ++ [u]), by simp [hrest], ?_⟩
        rw [words_cons, words_append, words_cons, hopen, hu]
        exact .parens hread
  split at ho
  next hopen =>
    split at ho
    · cases ho
    next members c₁ hmembers =>
      cases ho
      obtain ⟨hd, read, rfl, us, hus, hread⟩ :=
        (shorter rest (by simp)).args .square d _ _ hmembers
      refine ⟨hd, t :: read, rfl, ?_⟩
      rw [words_cons, hus, hopen]
      exact .list hread
  · cases ho

/-- What is read as calls is derived as calls of what was there before. -/
lemma derived_appliedTail (callee : Expr) (levels d : ℕ) :
    Derived (Applying callee (Applications maxDepth d)) rest (d - levels)
      (outcome (appliedTail stop callee levels ⟨rest, d⟩)) := by
  intro e c' ho
  rw [outcome_appliedTail] at ho
  rcases rest with _ | ⟨t, rest⟩
  · cases ho
    exact ⟨rfl, [], rfl, [], .nil, rfl⟩
  simp only at ho
  split at ho
  next hopen =>
    split at ho
    next hd =>
      split at ho
      · cases ho
      next arguments c₁ harguments =>
        obtain ⟨hd₁, read, rfl, us, hus, hread⟩ :=
          (shorter rest (by simp)).args .paren (d + 1) _ _ harguments
        obtain ⟨hd₂, read₂, hrest₂, others, hothers, rfl⟩ :=
          (shorter c₁.rest (by grind)).appliedTail _ _ c₁.depth _ _ ho
        rw [hd₁] at hothers
        refine ⟨by omega, t :: (read ++ read₂), by simp [hrest₂], arguments :: others, ?_, rfl⟩
        rw [words_cons, words_append, hus, hopen, List.append_assoc]
        exact .cons hd hread hothers
    · cases ho
  · cases ho
    exact ⟨rfl, [], rfl, [], .nil, rfl⟩

lemma derived_applied (d : ℕ) :
    Derived (Applied maxDepth d) rest d (outcome (applied stop ⟨rest, d⟩)) := by
  intro e c' ho
  rw [outcome_applied] at ho
  split at ho
  · cases ho
  next callee c₁ hcallee =>
    obtain ⟨rfl, read, hrest, hread⟩ := derived_primary shorter d _ _ hcallee
    obtain ⟨hd₂, read₂, hrest₂, arguments, harguments, rfl⟩ :=
      (shorter c₁.rest (length_of_outcome hcallee)).appliedTail _ _ c₁.depth _ _ ho
    refine ⟨hd₂, read ++ read₂, by simp [hrest, hrest₂], ?_⟩
    rw [words_append]
    exact .mk hread harguments

/-- What is read as a signed operand is derived as one. -/
lemma derived_unary (d : ℕ) :
    Derived (Signed maxDepth d) rest d (outcome (unary stop ⟨rest, d⟩)) := by
  have happlied : Derived (Signed maxDepth d) rest d (outcome (applied stop ⟨rest, d⟩)) := by
    intro e c' ho
    obtain ⟨hd, read, hrest, hread⟩ := derived_applied shorter d _ _ ho
    exact ⟨hd, read, hrest, .applied hread⟩
  intro e c' ho
  rw [outcome_unary] at ho
  rcases rest with _ | ⟨t, rest⟩
  · exact happlied _ _ ho
  simp only at ho
  split at ho
  next hminus =>
    split at ho
    next hd =>
      split at ho
      · cases ho
      next inner c₁ hinner =>
        cases ho
        obtain ⟨hd₁, read, rfl, hread⟩ := (shorter rest (by simp)).unary (d + 1) _ _ hinner
        refine ⟨by simp [hd₁], t :: read, rfl, ?_⟩
        rw [words_cons, hminus]
        exact .minus hd hread
    · cases ho
  · exact happlied _ _ ho

/-- What is read as operators is derived as a chain that goes on. -/
lemma derived_chainTail (level : Level) (left : Expr) (levels d : ℕ) :
    Derived (Continuing left (Operations maxDepth level d)) rest (d - levels)
      (outcome (chainTail stop level left levels ⟨rest, d⟩)) := by
  intro e c' ho
  rw [outcome_chainTail] at ho
  rcases rest with _ | ⟨t, rest⟩
  · cases ho
    exact ⟨rfl, [], rfl, [], .nil, rfl⟩
  simp only at ho
  split at ho
  · cases ho
    exact ⟨rfl, [], rfl, [], .nil, rfl⟩
  next op hop =>
    obtain ⟨hmem, htoken⟩ := operator?_eq_some_iff.mp hop
    split at ho
    next hd =>
      split at ho
      · cases ho
      next right c₁ hright =>
        obtain ⟨hd₁, read, rfl, hread⟩ := (shorter rest (by simp)).operand level (d + 1) _ _ hright
        obtain ⟨hd₂, read₂, hrest₂, steps, hsteps, rfl⟩ :=
          (shorter c₁.rest (by grind)).chainTail level _ _ c₁.depth _ _ ho
        rw [hd₁] at hsteps
        refine ⟨by omega, t :: (read ++ read₂), by simp [hrest₂], (op, right) :: steps, ?_, rfl⟩
        rw [words_cons, words_append, htoken]
        exact .cons hd hmem hread hsteps
    · cases ho

/-- A chain is sound where its operands are. -/
lemma derived_chain_of_operand {level : Level} {d : ℕ}
    (h : Derived (Operand maxDepth level d) rest d (outcome (operand stop level ⟨rest, d⟩))) :
    Derived (Chain maxDepth level d) rest d (outcome (chain stop level ⟨rest, d⟩)) := by
  intro e c' ho
  rw [outcome_chain] at ho
  split at ho
  · cases ho
  next left c₁ hleft =>
    obtain ⟨rfl, read, hrest, hread⟩ := h _ _ hleft
    obtain ⟨hd₂, read₂, hrest₂, steps, hsteps, rfl⟩ :=
      (shorter c₁.rest (length_of_outcome hleft)).chainTail level _ _ c₁.depth _ _ ho
    refine ⟨hd₂, read ++ read₂, by simp [hrest, hrest₂], ?_⟩
    rw [words_append]
    exact .mk hread hsteps

/-- So are the operands of a level. -/
lemma derived_operand (level : Level) (d : ℕ) :
    Derived (Operand maxDepth level d) rest d (outcome (operand stop level ⟨rest, d⟩)) := by
  have hproduct : Derived (Operand maxDepth .product d) rest d
      (outcome (operand stop .product ⟨rest, d⟩)) := by
    intro e c' ho
    rw [outcome_operand_product] at ho
    obtain ⟨hd, read, hrest, hread⟩ := derived_unary shorter d _ _ ho
    exact ⟨hd, read, hrest, .signed hread⟩
  cases level with
  | product => exact hproduct
  | sum =>
      intro e c' ho
      rw [outcome_operand_sum] at ho
      obtain ⟨hd, read, hrest, hread⟩ := derived_chain_of_operand shorter hproduct _ _ ho
      exact ⟨hd, read, hrest, .product hread⟩

lemma derived_chain (level : Level) (d : ℕ) :
    Derived (Chain maxDepth level d) rest d (outcome (chain stop level ⟨rest, d⟩)) :=
  derived_chain_of_operand shorter (derived_operand shorter level d)

/-- What is read as an expression is derived as one. -/
lemma derived_expr (d : ℕ) :
    Derived (Expression maxDepth d) rest d (outcome (expr stop ⟨rest, d⟩)) := by
  intro e c' ho
  rw [outcome_expr] at ho
  split at ho
  next hd =>
    split at ho
    · cases ho
    next left d₁ hleft =>
      cases ho
      obtain ⟨hd₁, read, hrest, hread⟩ := derived_chain shorter .sum (d + 1) _ _ hleft
      exact ⟨by simp_all, read, hrest, .single hd hread⟩
    next left t rest₁ d₁ hleft =>
      obtain ⟨hd₁, read, hrest, hread⟩ := derived_chain shorter .sum (d + 1) _ _ hleft
      split at ho
      · cases ho
        exact ⟨by simp_all, read, hrest, .single hd hread⟩
      next op hop =>
        obtain ⟨hmem, htoken⟩ := comparison?_eq_some_iff.mp hop
        split at ho
        · cases ho
        next right c₂ hright =>
          cases ho
          have hlt : rest₁.length < rest.length := by simp [hrest]; omega
          obtain ⟨hd₂, read₂, hrest₂, hread₂⟩ := (shorter rest₁ hlt).chain .sum d₁ _ _ hright
          subst hd₁
          refine ⟨by simp [hd₂], read ++ t :: read₂, by simp [hrest, hrest₂], ?_⟩
          rw [words_append, words_cons, htoken]
          exact .compare hd hmem hread hread₂
  · cases ho

/-- Items are derived together with the bracket that closes them. -/
lemma derived_items (b : Bracket) (d : ℕ) :
    Derived (Closed b (Items maxDepth d)) rest d (outcome (items stop b ⟨rest, d⟩)) := by
  intro es c' ho
  rw [outcome_items] at ho
  split at ho
  · cases ho
  · cases ho
  next first t rest₁ d₁ hfirst =>
    obtain ⟨rfl, read, hrest, hread⟩ := derived_expr shorter d _ _ hfirst
    split at ho
    next hcomma =>
      split at ho
      · cases ho
      next others c₂ hothers =>
        cases ho
        have hlt : rest₁.length < rest.length := by simp [hrest]; omega
        obtain ⟨hd₂, read₂, hrest₂, us, hus, hread₂⟩ := (shorter rest₁ hlt).items b _ _ _ hothers
        refine ⟨hd₂, read ++ t :: read₂, by simp [hrest, hrest₂], words read ++ .comma :: us, ?_,
          .cons hread hread₂⟩
        rw [words_append, words_cons, hcomma, hus, List.append_assoc, List.cons_append]
    · split at ho
      next hclose =>
        cases ho
        refine ⟨rfl, read ++ [t], by simp [hrest], words read, ?_, .last hread⟩
        rw [words_append, words_cons, hclose]
        rfl
      · cases ho

lemma derived_args (b : Bracket) (d : ℕ) :
    Derived (Closed b (Arguments maxDepth d)) rest d (outcome (args stop b ⟨rest, d⟩)) := by
  have hitems : Derived (Closed b (Arguments maxDepth d)) rest d
      (outcome (items stop b ⟨rest, d⟩)) := by
    intro es c' ho
    obtain ⟨hd, read, hrest, us, hus, hread⟩ := derived_items shorter b d _ _ ho
    exact ⟨hd, read, hrest, us, hus, .some hread⟩
  intro es c' ho
  rw [outcome_args] at ho
  rcases rest with _ | ⟨t, rest⟩
  · exact hitems _ _ ho
  simp only at ho
  split at ho
  next hclose =>
    cases ho
    exact ⟨rfl, [t], rfl, [], by simp [words, hclose], .none⟩
  · exact hitems _ _ ho

end

/-! ### All rules -/

/-- What the parser gives is derived by the grammar, on all tokens: the rules call one another on
fewer tokens, or on the same tokens in the order of the fields below. -/
theorem sound (stop : ℕ) (rest : List PlacedToken) : Sound stop rest := by
  induction h : rest.length using Nat.strongRecOn generalizing rest with
  | _ n ih =>
      have shorter : ∀ rest' : List PlacedToken, rest'.length < rest.length → Sound stop rest' :=
        fun rest' hlt => ih rest'.length (h ▸ hlt) rest' rfl
      exact
        { expr := derived_expr shorter
          chain := derived_chain shorter
          operand := derived_operand shorter
          chainTail := derived_chainTail shorter
          unary := derived_unary shorter
          applied := derived_applied shorter
          appliedTail := derived_appliedTail shorter
          args := derived_args shorter
          items := derived_items shorter
          primary := derived_primary shorter }

end LineRepl.Calc.Grammar
