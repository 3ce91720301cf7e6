/-
The parser and the columns of tokens.

The parser reads the kinds of tokens only, and hands their columns on in its errors. So it does the
same for tokens that stand elsewhere.

* `PlacedToken.moved`, `SyntaxError.moved`, `Parser.moved`: what stands at other columns.
* `Parser.Uniform`: all rules of the parser do the same there.
* `Parser.uniform`: they do on all tokens, by induction on their number.
* `parse_eq_moved`: lines of the same tokens are parsed alike, wherever these stand.
-/
import LineRepl.Proofs.Calc.EarliestError
import LineRepl.Proofs.Calc.Height

namespace LineRepl.Calc

/-- The token, put at another column. -/
def PlacedToken.moved (f : ℕ → ℕ) (t : PlacedToken) : PlacedToken := { t with column := f t.column }

@[simp] lemma PlacedToken.token_moved (f : ℕ → ℕ) (t : PlacedToken) :
    (t.moved f).token = t.token := rfl

/-- The error, reported at another column. -/
def SyntaxError.moved (f : ℕ → ℕ) (e : SyntaxError) : SyntaxError := { e with column := f e.column }

namespace Parser

/-- The outcome of a rule where columns are others. -/
def moved {α : Type} (f : ℕ → ℕ) :
    Except SyntaxError (α × Cursor) → Except SyntaxError (α × Cursor)
  | .error e => .error (e.moved f)
  | .ok (x, c) => .ok (x, ⟨c.rest.map (·.moved f), c.depth⟩)

/-- A rule does the same on the tokens `rest` where columns are others. -/
def Commutes {α : Type} (f : ℕ → ℕ) (stop : ℕ) (rest : List PlacedToken)
    (rule : ℕ → Cursor → Except SyntaxError (α × Cursor)) : Prop :=
  ∀ d, rule (f stop) ⟨rest.map (·.moved f), d⟩ = moved f (rule stop ⟨rest, d⟩)

/-- All rules do the same on the tokens `rest` where columns are others. -/
structure Uniform (f : ℕ → ℕ) (stop : ℕ) (rest : List PlacedToken) : Prop where
  expr : Commutes f stop rest fun stop c => outcome (expr stop c)
  chain : ∀ level, Commutes f stop rest fun stop c => outcome (chain stop level c)
  operand : ∀ level, Commutes f stop rest fun stop c => outcome (operand stop level c)
  chainTail : ∀ level left levels,
    Commutes f stop rest fun stop c => outcome (chainTail stop level left levels c)
  unary : Commutes f stop rest fun stop c => outcome (unary stop c)
  applied : Commutes f stop rest fun stop c => outcome (applied stop c)
  appliedTail : ∀ callee levels,
    Commutes f stop rest fun stop c => outcome (appliedTail stop callee levels c)
  args : ∀ b, Commutes f stop rest fun stop c => outcome (args stop b c)
  items : ∀ b, Commutes f stop rest fun stop c => outcome (items stop b c)
  primary : Commutes f stop rest fun stop c => outcome (primary stop c)

/-! ### One rule at a time -/

section

variable {f : ℕ → ℕ} {stop : ℕ} {rest : List PlacedToken}

/-- A nest that is too deep is found at the moved token. -/
lemma tooDeep_moved (rest : List PlacedToken) :
    tooDeep (f stop) (rest.map (·.moved f)) = (tooDeep stop rest).moved f := by
  cases rest <;> rfl

/-- The bracket is missed at the same token, which has moved. -/
lemma commutes_close (b : Bracket) :
    Commutes f stop rest fun stop c => outcome (close stop b c) := by
  intro d
  simp only [outcome_close]
  rcases rest with _ | ⟨t, rest⟩
  · rfl
  simp only [List.map_cons, PlacedToken.token_moved]
  by_cases hclose : t.token = b.close <;> simp only [hclose, if_true, if_false] <;> rfl

variable (shorter : ∀ rest' : List PlacedToken, rest'.length < rest.length → Uniform f stop rest')

include shorter

/-- An operand is read alike wherever its tokens stand. -/
lemma commutes_primary : Commutes f stop rest fun stop c => outcome (primary stop c) := by
  intro d
  simp only [outcome_primary]
  rcases rest with _ | ⟨t, rest⟩
  · rfl
  have hrest := shorter rest (Nat.lt_succ_self _)
  have hexpr := hrest.expr d
  have hargs := hrest.args .square d
  simp only [List.map_cons, PlacedToken.token_moved, hexpr, hargs]
  rcases leaf? t.token with _ | e
  · simp only
    split
    · rcases outcome (expr stop ⟨rest, d⟩) with e | ⟨inner, c₁⟩
      · rfl
      · have hclose : Commutes f stop c₁.rest fun stop c => outcome (close stop .paren c) :=
          commutes_close .paren
        have hclosed := hclose c₁.depth
        simp only at hclosed
        simp only [moved, hclosed]
        rcases outcome (close stop .paren c₁) with e | ⟨_, c₂⟩ <;> rfl
    · split
      · rcases outcome (args stop .square ⟨rest, d⟩) with e | ⟨members, c₁⟩ <;> rfl
      · rfl
  · rfl

lemma commutes_appliedTail (callee : Expr) (levels : ℕ) :
    Commutes f stop rest fun stop c => outcome (appliedTail stop callee levels c) := by
  intro d
  simp only
  rw [outcome_appliedTail, outcome_appliedTail]
  rcases rest with _ | ⟨t, rest⟩
  · rfl
  have hargs := (shorter rest (Nat.lt_succ_self _)).args .paren (d + 1)
  simp only [List.map_cons, PlacedToken.token_moved, hargs]
  split
  · split
    · rcases harguments : outcome (args stop .paren ⟨rest, d + 1⟩) with e | ⟨arguments, c₁⟩
      · rfl
      · have hlt := length_of_outcome harguments
        exact (shorter c₁.rest (hlt.trans (Nat.lt_succ_self _))).appliedTail _ _ c₁.depth
    · exact congrArg Except.error (tooDeep_moved (t :: rest))
  · rfl

lemma commutes_applied : Commutes f stop rest fun stop c => outcome (applied stop c) := by
  intro d
  have hprimary := commutes_primary shorter d
  simp only [outcome_applied]
  simp only [hprimary]
  rcases hcallee : outcome (primary stop ⟨rest, d⟩) with e | ⟨callee, c₁⟩
  · rfl
  · exact (shorter c₁.rest (length_of_outcome hcallee)).appliedTail callee 0 c₁.depth

lemma commutes_unary : Commutes f stop rest fun stop c => outcome (unary stop c) := by
  intro d
  have happlied := commutes_applied shorter d
  simp only
  rw [outcome_unary, outcome_unary]
  rcases rest with _ | ⟨t, rest⟩
  · exact happlied
  have hunary := (shorter rest (Nat.lt_succ_self _)).unary (d + 1)
  simp only at happlied
  simp only [List.map_cons, PlacedToken.token_moved, hunary, happlied]
  split
  · split
    · rcases outcome (unary stop ⟨rest, d + 1⟩) with e | ⟨inner, c₁⟩ <;> rfl
    · exact congrArg Except.error (tooDeep_moved rest)
  · rfl

/-- So are the operators of a chain. -/
lemma commutes_chainTail (level : Level) (left : Expr) (levels : ℕ) :
    Commutes f stop rest fun stop c => outcome (chainTail stop level left levels c) := by
  intro d
  simp only
  rw [outcome_chainTail, outcome_chainTail]
  rcases rest with _ | ⟨t, rest⟩
  · rfl
  have hoperand := (shorter rest (Nat.lt_succ_self _)).operand level (d + 1)
  simp only [List.map_cons, PlacedToken.token_moved, hoperand]
  rcases level.operator? t.token with _ | op
  · rfl
  simp only
  split
  · rcases hright : outcome (operand stop level ⟨rest, d + 1⟩) with e | ⟨right, c₁⟩
    · rfl
    · have hlt := length_of_outcome hright
      exact (shorter c₁.rest (hlt.trans (Nat.lt_succ_self _))).chainTail level _ _ c₁.depth
  · exact congrArg Except.error (tooDeep_moved (t :: rest))

/-- A chain is parsed alike where its first operand is. -/
lemma commutes_chain_of_operand {level : Level}
    (h : Commutes f stop rest fun stop c => outcome (operand stop level c)) :
    Commutes f stop rest fun stop c => outcome (chain stop level c) := by
  intro d
  have hoperand := h d
  simp only [outcome_chain]
  simp only [hoperand]
  rcases hleft : outcome (operand stop level ⟨rest, d⟩) with e | ⟨left, c₁⟩
  · rfl
  · exact (shorter c₁.rest (length_of_outcome hleft)).chainTail level left 0 c₁.depth

lemma commutes_operand (level : Level) :
    Commutes f stop rest fun stop c => outcome (operand stop level c) := by
  have hproduct : Commutes f stop rest fun stop c => outcome (operand stop .product c) := by
    intro d
    simp only [outcome_operand_product]
    exact commutes_unary shorter d
  cases level with
  | product => exact hproduct
  | sum =>
      intro d
      simp only [outcome_operand_sum]
      exact commutes_chain_of_operand shorter hproduct d

lemma commutes_chain (level : Level) :
    Commutes f stop rest fun stop c => outcome (chain stop level c) :=
  commutes_chain_of_operand shorter (commutes_operand shorter level)

/-- So is a whole expression. -/
lemma commutes_expr : Commutes f stop rest fun stop c => outcome (expr stop c) := by
  intro d
  have hchain := commutes_chain shorter .sum (d + 1)
  simp only [outcome_expr]
  simp only [hchain]
  split
  · rcases hleft : outcome (chain stop .sum ⟨rest, d + 1⟩) with e | ⟨left, ⟨_ | ⟨t, rest₁⟩, d₁⟩⟩
    · rfl
    · rfl
    · have hlt : rest₁.length < rest.length :=
        (Nat.lt_succ_self _).trans (length_of_outcome hleft)
      have hright := (shorter rest₁ hlt).chain .sum d₁
      simp only [moved, List.map_cons, PlacedToken.token_moved, hright]
      rcases comparison? t.token with _ | op
      · rfl
      · rcases outcome (chain stop .sum ⟨rest₁, d₁⟩) with e | ⟨right, c₂⟩ <;> rfl
  · exact congrArg Except.error (tooDeep_moved rest)

lemma commutes_items (b : Bracket) :
    Commutes f stop rest fun stop c => outcome (items stop b c) := by
  intro d
  have hexpr := commutes_expr shorter d
  simp only at hexpr ⊢
  rw [outcome_items, outcome_items, hexpr]
  rcases hfirst : outcome (expr stop ⟨rest, d⟩) with e | ⟨first, ⟨_ | ⟨t, rest₁⟩, d₁⟩⟩
  · rfl
  · rfl
  · have hlt : rest₁.length < rest.length := (Nat.lt_succ_self _).trans (length_of_outcome hfirst)
    have hothers := (shorter rest₁ hlt).items b d₁
    simp only [moved, List.map_cons, PlacedToken.token_moved, hothers]
    split
    · rcases outcome (items stop b ⟨rest₁, d₁⟩) with e | ⟨others, c₂⟩ <;> rfl
    · by_cases hclose : t.token = b.close
      · rw [if_pos hclose]
        exact if_pos hclose
      · rw [if_neg hclose]
        exact if_neg hclose

lemma commutes_args (b : Bracket) :
    Commutes f stop rest fun stop c => outcome (args stop b c) := by
  intro d
  have hitems := commutes_items shorter b d
  simp only
  rw [outcome_args, outcome_args]
  rcases rest with _ | ⟨t, rest⟩
  · exact hitems
  simp only at hitems
  simp only [List.map_cons, PlacedToken.token_moved, hitems]
  split <;> rfl

end

/-! ### All rules -/

/-- Rules do the same where columns are others, on all tokens. They call one another on fewer
tokens, or on the same tokens in the order of the lemmas above. -/
theorem uniform (f : ℕ → ℕ) (stop : ℕ) (rest : List PlacedToken) : Uniform f stop rest := by
  induction h : rest.length using Nat.strongRecOn generalizing rest with
  | _ n ih =>
      have shorter : ∀ rest' : List PlacedToken, rest'.length < rest.length →
          Uniform f stop rest' :=
        fun rest' hlt => ih rest'.length (h ▸ hlt) rest' rfl
      exact
        { expr := commutes_expr shorter
          chain := commutes_chain shorter
          operand := commutes_operand shorter
          chainTail := commutes_chainTail shorter
          unary := commutes_unary shorter
          applied := commutes_applied shorter
          appliedTail := commutes_appliedTail shorter
          args := commutes_args shorter
          items := commutes_items shorter
          primary := commutes_primary shorter }

end Parser

/-! ### Lines -/

open Grammar (columnAt columnAt_eq placed words)

/-- The parser commutes with moves of its tokens. -/
lemma parseExpr_moved (f : ℕ → ℕ) (stop : ℕ) (tokens : List PlacedToken) :
    parseExpr (f stop) (tokens.map (·.moved f)) =
      (parseExpr stop tokens).mapError (·.moved f) := by
  have hexpr := (Parser.uniform f stop tokens).expr 0
  simp only at hexpr
  rw [Parser.parseExpr_eq, Parser.parseExpr_eq, hexpr]
  rcases Parser.outcome (Parser.expr stop ⟨tokens, 0⟩) with e | ⟨x, ⟨_ | ⟨t, rest⟩, d⟩⟩ <;> rfl

/-- Where columns are others, so is the column behind the last token. -/
lemma parse_moved {f : ℕ → ℕ} {tokens : List PlacedToken}
    (hend : endColumn (tokens.map (·.moved f)) = f (endColumn tokens)) :
    parse (tokens.map (·.moved f)) = (parse tokens).mapError (·.moved f) := by
  rw [parse.eq_def tokens]
  split
  next name i j rest =>
    have hparse : parse (List.map (·.moved f) (⟨.ident name, i⟩ :: ⟨.assign, j⟩ :: rest)) =
        (parseExpr _ (rest.map (·.moved f))).map (.assign name) := rfl
    rw [hparse, hend, parseExpr_moved]
    cases parseExpr _ rest <;> rfl
  next hother =>
    have hparse : parse (tokens.map (·.moved f)) =
        (parseExpr (endColumn (tokens.map (·.moved f))) (tokens.map (·.moved f))).map .expr := by
      rw [parse.eq_def]
      split
      next name i j rest htokens =>
        obtain ⟨⟨_, i'⟩, others, rfl, ⟨⟩, hothers⟩ := List.map_eq_cons_iff.mp htokens
        obtain ⟨⟨_, j'⟩, rest, rfl, ⟨⟩, rfl⟩ := List.map_eq_cons_iff.mp hothers
        exact absurd rfl (hother name i' j' rest)
      next => rfl
    rw [hparse, hend, parseExpr_moved]
    cases parseExpr _ tokens <;> rfl

/-- The columns that tokens have. -/
def columns (tokens : List PlacedToken) (place : ℕ) : ℕ := columnAt tokens (place - 1)

/-- Behind tokens at the first columns comes the next column. -/
lemma endColumn_placed (ts : List Token) : endColumn (placed ts) = ts.length + 1 := by
  rw [endColumn, placed, List.getLast?_mapIdx]
  rcases ts with _ | ⟨t, ts⟩
  · rfl
  · simp [List.getLast?_cons]

/-- The column behind the last token is sent to the one that the parser reports there. -/
lemma columns_endColumn_placed (tokens : List PlacedToken) :
    columns tokens (endColumn (placed (words tokens))) = endColumn tokens := by
  have hlength : (words tokens).length = tokens.length := List.length_map _
  rw [endColumn_placed, columns, columnAt_eq, hlength, Nat.add_sub_cancel, List.getElem?_length]
  rfl

/-- Tokens are those of their kinds, put where they stand. -/
lemma map_moved_placed (tokens : List PlacedToken) :
    (placed (words tokens)).map (·.moved (columns tokens)) = tokens := by
  refine List.ext_getElem? fun k => ?_
  rcases hk : tokens[k]? with _ | t <;>
    simp [placed, words, PlacedToken.moved, columns, columnAt_eq, hk]

/-- **The parser does not look at columns.** The statement that the tokens of a line spell, or the
error, is the one of these tokens at the columns from 1 on, and the error is reported where its
token stands, or behind the last one. -/
theorem parse_eq_moved (tokens : List PlacedToken) :
    parse tokens = (parse (placed (words tokens))).mapError (·.moved (columns tokens)) := by
  have hend := columns_endColumn_placed tokens
  rw [← parse_moved (by rw [map_moved_placed, hend]), map_moved_placed]

/-- An error of the parser is at a token, or behind the last one. -/
lemma exists_columnAt_of_parse_error {tokens : List PlacedToken} {e : SyntaxError}
    (h : parse tokens = .error e) : ∃ k, e.column = columnAt tokens k := by
  rw [parse_eq_moved] at h
  rcases hplaced : parse (placed (words tokens)) with e' | s <;> rw [hplaced] at h <;> cases h
  exact ⟨e'.column - 1, rfl⟩

end LineRepl.Calc
