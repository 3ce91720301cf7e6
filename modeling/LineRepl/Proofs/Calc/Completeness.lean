/-
The parser accepts every line of the grammar, with the tree that the grammar derives.

What a rule reads does not end where its tokens end unless the next token cannot go on with them.
So each statement is about tokens with more behind them, of which the first, if there is one, ends
what was derived.

* `EndsOperand`, `EndsChain`, `EndsExpression`: the token cannot go on with what is before it.
* `Expression.accepted`: an expression is read up to such a token.
* `parse_eq_ok_iff_line`: the lines of the grammar are those that the parser accepts.
-/
import LineRepl.Proofs.Calc.Soundness

open LineRepl.Calc.Parser

namespace LineRepl.Calc.Grammar

/-! ### Tokens that end a rule -/

/-- No operand of the level goes on with the token. -/
def EndsOperand : Level → Token → Prop
  | .product, t => t ≠ .openParen
  | .sum, t => t ≠ .openParen ∧ Level.product.operator? t = none

/-- No chain of the level goes on with the token. -/
def EndsChain (level : Level) (t : Token) : Prop :=
  EndsOperand level t ∧ level.operator? t = none

/-- No expression goes on with the token. -/
def EndsExpression (t : Token) : Prop := EndsChain .sum t ∧ comparison? t = none

/-- The next token, if there is one, has the property. -/
def Ahead (P : Token → Prop) (rest : List PlacedToken) : Prop := ∀ t ∈ rest.head?, P t.token

/-- What is ahead satisfies every weaker demand. -/
lemma Ahead.mono {P Q : Token → Prop} {rest : List PlacedToken} (h : Ahead P rest)
    (hPQ : ∀ t, P t → Q t) : Ahead Q rest :=
  fun t ht => hPQ _ (h t ht)

/-- Behind the last token every demand is met. -/
lemma ahead_nil (P : Token → Prop) : Ahead P [] := by
  rintro _ ⟨⟩

/-- An expression ends where its list goes on. -/
lemma endsExpression_comma : EndsExpression .comma := ⟨⟨⟨nofun, rfl⟩, rfl⟩, rfl⟩

/-- It ends where its bracket is closed. -/
lemma endsExpression_close (b : Bracket) : EndsExpression b.close := by
  cases b <;> exact ⟨⟨⟨nofun, rfl⟩, rfl⟩, rfl⟩

/-- A sum ends at a comparison. -/
lemma endsChain_comparison {op : BinaryOp} (h : op ∈ comparisons) : EndsChain .sum op.token := by
  fin_cases h <;> exact ⟨⟨nofun, rfl⟩, rfl⟩

/-- An operand ends at an operator of its own level. -/
lemma endsOperand_operator {level : Level} {op : BinaryOp} (h : op ∈ level.operators) :
    EndsOperand level op.token := by
  cases level with
  | product => fin_cases h <;> nofun
  | sum => fin_cases h <;> exact ⟨nofun, rfl⟩

variable {d : ℕ}

/-- An operand ends before the operators of its chain, and where the chain ends. -/
lemma Operations.ahead {level : Level} {ts : List Token} {steps : List (BinaryOp × Expr)}
    (h : Operations maxDepth level d ts steps) {read rest : List PlacedToken}
    (hread : words read = ts) (hrest : Ahead (EndsChain level) rest) :
    Ahead (EndsOperand level) (read ++ rest) := by
  cases h with
  | nil =>
      obtain rfl := List.map_eq_nil_iff.mp hread
      exact hrest.mono fun _ => And.left
  | cons _ hop =>
      obtain ⟨t, read, rfl, ht, -⟩ := words_eq_cons hread
      rintro _ ⟨⟩
      exact ht ▸ endsOperand_operator hop

/-! ### Every rule accepts what it derives -/

mutual

/-- An expression is read up to a token that ends it. -/
theorem Expression.accepted {d : ℕ} {ts : List Token} {e : Expr} (stop : ℕ) :
    Expression maxDepth d ts e → ∀ read rest, words read = ts → Ahead EndsExpression rest →
      outcome (expr stop ⟨read ++ rest, d⟩) = .ok (e, ⟨rest, d⟩)
  | .single hd h, read, rest, hread, hrest => by
      have hchain := h.accepted stop read rest hread (hrest.mono fun _ => And.left)
      rw [outcome_expr, if_pos hd, hchain]
      rcases rest with _ | ⟨t, rest⟩
      · rfl
      · have hnone : comparison? t.token = none := (hrest t rfl).2
        simp only [hnone, Nat.add_sub_cancel]
  | .compare hd hop h h', read, rest, hread, hrest => by
      obtain ⟨front, back, rfl, hfront, hback⟩ := words_eq_append hread
      obtain ⟨t, back, rfl, ht, hback⟩ := words_eq_cons hback
      have hleft := h.accepted stop front (t :: back ++ rest) hfront
        (by rintro _ ⟨⟩; exact ht ▸ endsChain_comparison hop)
      have hright := h'.accepted stop back rest hback (hrest.mono fun _ => And.left)
      rw [outcome_expr, if_pos hd, List.append_assoc, hleft]
      simp only [List.cons_append, comparison?_eq_some_iff.mpr ⟨hop, ht⟩, hright,
        Nat.add_sub_cancel]

/-- A chain is parsed to the end if no operator of its level or a stronger one comes behind it. -/
theorem Chain.accepted {level : Level} {d : ℕ} {ts : List Token} {e : Expr} (stop : ℕ) :
    Chain maxDepth level d ts e → ∀ read rest, words read = ts → Ahead (EndsChain level) rest →
      outcome (chain stop level ⟨read ++ rest, d⟩) = .ok (e, ⟨rest, d⟩)
  | .mk h h', read, rest, hread, hrest => by
      obtain ⟨front, back, rfl, hfront, hback⟩ := words_eq_append hread
      have hfirst := h.accepted stop front (back ++ rest) hfront (h'.ahead hback hrest)
      rw [outcome_chain, List.append_assoc, hfirst]
      exact h'.accepted stop _ 0 back rest hback hrest

/-- So is an operand, if none of a stronger level does. -/
theorem Operand.accepted {level : Level} {d : ℕ} {ts : List Token} {e : Expr} (stop : ℕ) :
    Operand maxDepth level d ts e → ∀ read rest, words read = ts →
      Ahead (EndsOperand level) rest →
      outcome (operand stop level ⟨read ++ rest, d⟩) = .ok (e, ⟨rest, d⟩)
  | .product h, read, rest, hread, hrest => by
      rw [outcome_operand_sum]
      exact h.accepted stop read rest hread hrest
  | .signed h, read, rest, hread, hrest => by
      rw [outcome_operand_product]
      exact h.accepted stop read rest hread hrest

/-- The operators of a chain are read up to a token that ends the chain; then all levels that they
added are taken off the count. -/
theorem Operations.accepted {level : Level} {d : ℕ} {ts : List Token}
    {steps : List (BinaryOp × Expr)} (stop : ℕ) :
    Operations maxDepth level d ts steps → ∀ left levels read rest, words read = ts →
      Ahead (EndsChain level) rest →
      outcome (chainTail stop level left levels ⟨read ++ rest, d⟩) =
        .ok (leanLeft left steps, ⟨rest, d - levels⟩)
  | .nil, left, levels, read, rest, hread, hrest => by
      obtain rfl := List.map_eq_nil_iff.mp hread
      rw [outcome_chainTail]
      rcases rest with _ | ⟨t, rest⟩
      · rfl
      · have hnone : level.operator? t.token = none := (hrest t rfl).2
        simp only [List.nil_append, hnone]
        rfl
  | @Operations.cons _ _ _ _ _ op e _ hd hop h h', left, levels, read, rest, hread, hrest => by
      obtain ⟨t, read, rfl, ht, hread⟩ := words_eq_cons hread
      obtain ⟨front, back, rfl, hfront, hback⟩ := words_eq_append hread
      have hright := h.accepted stop front (back ++ rest) hfront (h'.ahead hback hrest)
      have htail := h'.accepted stop (.binary op left e) (levels + 1) back rest hback hrest
      rw [outcome_chainTail]
      simp only [List.cons_append, operator?_eq_some_iff.mpr ⟨hop, ht⟩, if_pos hd,
        List.append_assoc, hright, htail, Nat.add_sub_add_right]
      rfl

/-- An operand with its minus signs is parsed to the end if no parenthesis opens behind it. -/
theorem Signed.accepted {d : ℕ} {ts : List Token} {e : Expr} (stop : ℕ) :
    Signed maxDepth d ts e → ∀ read rest, words read = ts → Ahead (· ≠ .openParen) rest →
      outcome (unary stop ⟨read ++ rest, d⟩) = .ok (e, ⟨rest, d⟩)
  | .minus hd h, read, rest, hread, hrest => by
      obtain ⟨t, read, rfl, ht, hread⟩ := words_eq_cons hread
      have hinner := h.accepted stop read rest hread hrest
      rw [outcome_unary]
      simp only [List.cons_append, if_pos ht, if_pos hd, hinner, Nat.add_sub_cancel]
  | .applied h, read, rest, hread, hrest => by
      have happlied := h.accepted stop read rest hread hrest
      obtain ⟨t, us, hts, hminus, -⟩ := h.begins
      obtain ⟨u, read, rfl, hu, -⟩ := words_eq_cons (hread.trans hts)
      rw [outcome_unary]
      simp only [List.cons_append] at happlied ⊢
      rw [if_neg (hu ▸ hminus), happlied]

/-- So is an operand with its calls. -/
theorem Applied.accepted {d : ℕ} {ts : List Token} {e : Expr} (stop : ℕ) :
    Applied maxDepth d ts e → ∀ read rest, words read = ts → Ahead (· ≠ .openParen) rest →
      outcome (applied stop ⟨read ++ rest, d⟩) = .ok (e, ⟨rest, d⟩)
  | .mk h h', read, rest, hread, hrest => by
      obtain ⟨front, back, rfl, hfront, hback⟩ := words_eq_append hread
      have hcallee := h.accepted stop front (back ++ rest) hfront
      rw [outcome_applied, List.append_assoc, hcallee]
      exact h'.accepted stop _ 0 back rest hback hrest

/-- Calls are parsed to the end whatever was called before, and give back the levels of the calls
before them. -/
theorem Applications.accepted {d : ℕ} {ts : List Token} {arguments : List (List Expr)}
    (stop : ℕ) :
    Applications maxDepth d ts arguments → ∀ callee levels read rest, words read = ts →
      Ahead (· ≠ .openParen) rest →
      outcome (appliedTail stop callee levels ⟨read ++ rest, d⟩) =
        .ok (applyAll callee arguments, ⟨rest, d - levels⟩)
  | .nil, callee, levels, read, rest, hread, hrest => by
      obtain rfl := List.map_eq_nil_iff.mp hread
      rw [outcome_appliedTail]
      rcases rest with _ | ⟨t, rest⟩
      · rfl
      · have hne : t.token ≠ .openParen := hrest t rfl
        simp only [List.nil_append, if_neg hne]
        rfl
  | @Applications.cons _ _ _ _ es _ hd h h', callee, levels, read, rest, hread, hrest => by
      obtain ⟨t, read, rfl, ht, hread⟩ := words_eq_cons hread
      obtain ⟨front, back, rfl, hfront, hback⟩ := words_eq_append hread
      obtain ⟨u, back, rfl, hu, hback⟩ := words_eq_cons hback
      have harguments := h.accepted stop .paren front (back ++ rest) u hfront hu
      have htail := h'.accepted stop (.call callee es) (levels + 1) back rest hback hrest
      rw [outcome_appliedTail]
      simp only [List.cons_append, if_pos ht, if_pos hd, List.append_assoc, harguments, htail,
        Nat.add_sub_add_right]
      rfl

/-- The arguments of a call are parsed up to the bracket that closes them. -/
theorem Arguments.accepted {d : ℕ} {ts : List Token} {es : List Expr} (stop : ℕ) (b : Bracket) :
    Arguments maxDepth d ts es → ∀ read rest t, words read = ts → t.token = b.close →
      outcome (args stop b ⟨read ++ t :: rest, d⟩) = .ok (es, ⟨rest, d⟩)
  | .none, read, rest, t, hread, ht => by
      obtain rfl := List.map_eq_nil_iff.mp hread
      rw [outcome_args]
      simp only [List.nil_append, if_pos ht]
  | .some h, read, rest, t, hread, ht => by
      have hitems := h.accepted stop b read rest t hread ht
      obtain ⟨v, us, hts, hclose⟩ := h.begins
      obtain ⟨u, read, rfl, hu, -⟩ := words_eq_cons (hread.trans hts)
      rw [outcome_args]
      simp only [List.cons_append] at hitems ⊢
      rw [if_neg (hu ▸ hclose b), hitems]

/-- So are the items of a list, of which there is one at least. -/
theorem Items.accepted {d : ℕ} {ts : List Token} {es : List Expr} (stop : ℕ) (b : Bracket) :
    Items maxDepth d ts es → ∀ read rest t, words read = ts → t.token = b.close →
      outcome (items stop b ⟨read ++ t :: rest, d⟩) = .ok (es, ⟨rest, d⟩)
  | .last h, read, rest, t, hread, ht => by
      have hexpr := h.accepted stop read (t :: rest) hread
        (by rintro _ ⟨⟩; exact ht ▸ endsExpression_close b)
      have hcomma : t.token ≠ .comma := by rw [ht]; cases b <;> nofun
      rw [outcome_items, hexpr]
      simp only [if_neg hcomma, if_pos ht]
  | .cons h h', read, rest, t, hread, ht => by
      obtain ⟨front, back, rfl, hfront, hback⟩ := words_eq_append hread
      obtain ⟨u, back, rfl, hu, hback⟩ := words_eq_cons hback
      have hfirst := h.accepted stop front (u :: back ++ t :: rest) hfront
        (by rintro _ ⟨⟩; exact hu ▸ endsExpression_comma)
      have hothers := h'.accepted stop b back rest t hback ht
      rw [outcome_items, List.append_assoc, hfirst]
      simp only [List.cons_append, if_pos hu, hothers]

/-- An operand without signs and calls is parsed to the end, whatever comes behind it. -/
theorem Primary.accepted {d : ℕ} {ts : List Token} {e : Expr} (stop : ℕ) :
    Primary maxDepth d ts e → ∀ read rest, words read = ts →
      outcome (primary stop ⟨read ++ rest, d⟩) = .ok (e, ⟨rest, d⟩)
  | .int _, read, rest, hread | .float _, read, rest, hread | .str _, read, rest, hread
  | .var _, read, rest, hread => by
      obtain ⟨t, read, rfl, ht, hread⟩ := words_eq_cons hread
      obtain rfl := List.map_eq_nil_iff.mp hread
      rw [outcome_primary]
      simp only [List.cons_append, List.nil_append, ht, leaf?]
  | .parens h, read, rest, hread => by
      obtain ⟨t, read, rfl, ht, hread⟩ := words_eq_cons hread
      obtain ⟨front, back, rfl, hfront, hback⟩ := words_eq_append hread
      obtain ⟨u, back, rfl, hu, hback⟩ := words_eq_cons hback
      obtain rfl := List.map_eq_nil_iff.mp hback
      have hinner := h.accepted stop front (u :: rest) hfront
        (by rintro _ ⟨⟩; exact hu ▸ endsExpression_close .paren)
      have hclose : u.token = Bracket.paren.close := hu
      rw [outcome_primary]
      simp only [List.cons_append, List.append_assoc, List.nil_append, ht, leaf?, if_true, hinner,
        outcome_close, if_pos hclose]
  | .list h, read, rest, hread => by
      obtain ⟨t, read, rfl, ht, hread⟩ := words_eq_cons hread
      obtain ⟨front, back, rfl, hfront, hback⟩ := words_eq_append hread
      obtain ⟨u, back, rfl, hu, hback⟩ := words_eq_cons hback
      obtain rfl := List.map_eq_nil_iff.mp hback
      have hmembers := h.accepted stop .square front rest u hfront hu
      rw [outcome_primary]
      simp only [List.cons_append, List.append_assoc, List.nil_append, ht, leaf?, hmembers,
        reduceCtorEq, if_true, if_false]

end

/-! ### Lines -/

/-- The parser accepts what its rule for expressions reads to the end. -/
lemma parseExpr_eq_ok_iff_outcome {stop : ℕ} {tokens : List PlacedToken} {e : Expr} :
    parseExpr stop tokens = .ok e ↔
      ∃ d, outcome (Parser.expr stop ⟨tokens, 0⟩) = .ok (e, ⟨[], d⟩) := by
  rw [parseExpr]
  rcases Parser.expr stop ⟨tokens, 0⟩ with err | ⟨⟨e', ⟨_ | ⟨t, rest⟩, d⟩⟩, h⟩ <;>
    simp [outcome, Except.map]

/-- The tokens spell an expression if and only if the grammar derives it from all of them. -/
lemma parseExpr_eq_ok_iff {stop : ℕ} {tokens : List PlacedToken} {e : Expr} :
    parseExpr stop tokens = .ok e ↔ Expression maxDepth 0 (words tokens) e := by
  rw [parseExpr_eq_ok_iff_outcome]
  constructor
  · rintro ⟨d, h⟩
    obtain ⟨-, read, hread, hderived⟩ := (sound stop tokens).expr 0 _ _ h
    rw [List.append_nil] at hread
    exact hread ▸ hderived
  · intro h
    have haccepted := h.accepted stop tokens [] rfl (ahead_nil _)
    rw [List.append_nil] at haccepted
    exact ⟨0, haccepted⟩

/-- A line that begins with a name and an assignment sign is no expression, so the parser may choose
between the two forms of a line by its first two tokens. -/
lemma parse_eq_ok_iff {tokens : List PlacedToken} {s : Statement} :
    parse tokens = .ok s ↔ Line maxDepth (words tokens) s := by
  rw [parse.eq_def]
  split
  next name i j rest =>
    constructor
    · intro h
      rcases hrest : parseExpr _ rest with err | e <;> rw [hrest] at h <;> cases h
      exact .assign name (parseExpr_eq_ok_iff.mp hrest)
    · rintro (h | ⟨-, h⟩)
      · exact absurd (by simp [words]) h.assign_notMem
      · exact congrArg (Except.map (Statement.assign name)) (parseExpr_eq_ok_iff.mpr h)
  next hother =>
    constructor
    · intro h
      rcases hrest : parseExpr _ tokens with err | e <;> rw [hrest] at h <;> cases h
      exact .expr (parseExpr_eq_ok_iff.mp hrest)
    · intro h
      generalize hts : words tokens = ts at h
      cases h with
      | expr h =>
          rw [← hts] at h
          exact congrArg (Except.map Statement.expr) (parseExpr_eq_ok_iff.mpr h)
      | assign name h =>
          obtain ⟨⟨t, i⟩, tokens, rfl, rfl, hrest⟩ := words_eq_cons hts
          obtain ⟨⟨u, j⟩, tokens, rfl, rfl, hrest⟩ := words_eq_cons hrest
          exact absurd rfl (hother name i j tokens)

/-- **The language of the parser.** The tokens of a line are accepted with a statement if and only
if the grammar derives the statement from them by a derivation that nests `maxDepth` levels deep at
most. So there is one such statement at most, and where there is none the line is in error. -/
theorem parse_eq_ok_iff_line (tokens : List PlacedToken) :
    (∀ s, parse tokens = .ok s ↔ Line maxDepth (words tokens) s) ∧
      (∀ s s', Line maxDepth (words tokens) s → Line maxDepth (words tokens) s' → s = s') ∧
      ((¬∃ s, Line maxDepth (words tokens) s) → ∃ e : SyntaxError, parse tokens = .error e) := by
  refine ⟨fun s => parse_eq_ok_iff, fun s s' h h' => ?_, fun hnone => ?_⟩
  · have hs := parse_eq_ok_iff.mpr h
    have hs' := parse_eq_ok_iff.mpr h'
    exact Except.ok.inj (hs.symm.trans hs')
  · rcases hparse : parse tokens with e | s
    · exact ⟨e, rfl⟩
    · exact absurd ⟨s, parse_eq_ok_iff.mp hparse⟩ hnone

end LineRepl.Calc.Grammar
