/-
Statements recognised by a machine.

The machine goes over the tokens by their index and counts the nesting up and down. It calls itself
for what is nested and goes round in a loop for chains, and nothing keeps it from not coming to an
end but the tokens.

* `Place`: the index of the next token, and the nesting.
* `Machine.parse`: the statement that the tokens of a line spell.
* `Agrees`: the machine gives what a rule of the parser gives, further on and with the nesting back
  where it was.
* `Machine.parse_eq`: tokens that the machine can count are parsed as they should be.
-/
import LineRepl.Proofs.Calc.Outcome
import LineRepl.Proofs.Machine.Basic

namespace LineRepl.Machine

open Calc
open Calc.Parser (tooDeep outcome)
open Run (given given_error given_ok refuse refuse_bind)

variable {ε α : Type}

/-! ### The program -/

/-- Where the machine stands: the index of the next token, and the nesting. -/
structure Place where
  pos : ℕ
  depth : ℕ

section

variable (machine : Machine) (tokens : List PlacedToken)

/-- The next token. -/
def peek (s : Place) : Option PlacedToken := tokens[s.pos]?

/-- The place behind the next token. -/
def forward (s : Place) : Run ε Place := do
  let pos ← add machine.index s.pos 1
  pure { s with pos }

/-- The column behind the last token. -/
def endColumn : Run ε ℕ :=
  match tokens.getLast? with
  | some t => add machine.index t.column 1
  | none => pure 1

/-- The place with one more level of nesting, if there may be one. -/
def descend (s : Place) : Run SyntaxError Place := do
  let depth ← add machine.depth s.depth 1
  if maxDepth < depth then
    match peek tokens s with
    | some t => refuse ⟨.nestedTooDeeply, t.column⟩
    | none =>
      let column ← endColumn machine tokens
      refuse ⟨.nestedTooDeeply, column⟩
  else pure { s with depth }

/-- The place with fewer levels of nesting. -/
def ascend (levels : ℕ) (s : Place) : Run ε Place := do
  let depth ← subtract s.depth levels
  pure { s with depth }

/-- Requires the next token to close the bracket. -/
def expect (b : Bracket) (s : Place) : Run SyntaxError Place :=
  match peek tokens s with
  | some t => do
    let s ← forward machine s
    if t.token = b.close then pure s else refuse ⟨.expectedClose b, t.column⟩
  | none => do
    let column ← endColumn machine tokens
    refuse ⟨.expectedClose b, column⟩

end

mutual

/-- One sum, or two with a comparison between them. -/
def expr (machine : Machine) (tokens : List PlacedToken) (s : Place) :
    Run SyntaxError (Expr × Place) := do
  let s ← descend machine tokens s
  let (left, s) ← machine |>.chain tokens .sum s
  match (peek tokens s).bind (comparison? ·.token) with
  | none =>
    let s ← ascend 1 s
    pure (left, s)
  | some op =>
    let s ← forward machine s
    let (right, s) ← machine |>.chain tokens .sum s
    let s ← ascend 1 s
    pure (.binary op left right, s)
partial_fixpoint

/-- Operands of a level with its operators between them. -/
def chain (machine : Machine) (tokens : List PlacedToken) (level : Level) (s : Place) :
    Run SyntaxError (Expr × Place) := do
  let (left, s) ← machine |>.operand tokens level s
  machine |>.chainTail tokens level left 0 s
partial_fixpoint

/-- An operand of a level: a chain of products in a sum, a signed operand in a product. -/
def operand (machine : Machine) (tokens : List PlacedToken) (level : Level) (s : Place) :
    Run SyntaxError (Expr × Place) :=
  match level with
  | .sum => machine |>.chain tokens .product s
  | .product => machine |>.unary tokens s
partial_fixpoint

/-- The loop over the operators and operands that follow `left`. -/
def chainTail (machine : Machine) (tokens : List PlacedToken) (level : Level) (left : Expr)
    (levels : ℕ) (s : Place) : Run SyntaxError (Expr × Place) := do
  match (peek tokens s).bind (level.operator? ·.token) with
  | none =>
    let s ← ascend levels s
    pure (left, s)
  | some op =>
    let s ← descend machine tokens s
    let levels ← add machine.depth levels 1
    let s ← forward machine s
    let (right, s) ← machine |>.operand tokens level s
    machine |>.chainTail tokens level (.binary op left right) levels s
partial_fixpoint

/-- An operand with its minus signs. -/
def unary (machine : Machine) (tokens : List PlacedToken) (s : Place) :
    Run SyntaxError (Expr × Place) := do
  if (peek tokens s).map (·.token) = some .minus then
    let s ← forward machine s
    let s ← descend machine tokens s
    let (inner, s) ← machine |>.unary tokens s
    let s ← ascend 1 s
    pure (.neg inner, s)
  else machine |>.applied tokens s
partial_fixpoint

/-- A primary with the argument lists that follow it. -/
def applied (machine : Machine) (tokens : List PlacedToken) (s : Place) :
    Run SyntaxError (Expr × Place) := do
  let (callee, s) ← machine |>.primary tokens s
  machine |>.appliedTail tokens callee 0 s
partial_fixpoint

/-- The loop over the argument lists that follow `callee`. -/
def appliedTail (machine : Machine) (tokens : List PlacedToken) (callee : Expr) (levels : ℕ)
    (s : Place) : Run SyntaxError (Expr × Place) := do
  if (peek tokens s).map (·.token) = some .openParen then
    let s ← descend machine tokens s
    let levels ← add machine.depth levels 1
    let s ← forward machine s
    let (arguments, s) ← machine |>.args tokens .paren s
    machine |>.appliedTail tokens (.call callee arguments) levels s
  else
    let s ← ascend levels s
    pure (callee, s)
partial_fixpoint

/-- Expressions with commas between them up to the closing bracket, or none at all. -/
def args (machine : Machine) (tokens : List PlacedToken) (b : Bracket) (s : Place) :
    Run SyntaxError (List Expr × Place) := do
  if (peek tokens s).map (·.token) = some b.close then
    let s ← forward machine s
    pure ([], s)
  else machine |>.items tokens b s
partial_fixpoint

/-- The loop over expressions with commas between them, and the closing bracket. -/
def items (machine : Machine) (tokens : List PlacedToken) (b : Bracket) (s : Place) :
    Run SyntaxError (List Expr × Place) := do
  let (first, s) ← machine |>.expr tokens s
  if (peek tokens s).map (·.token) = some .comma then
    let s ← forward machine s
    let (others, s) ← machine |>.items tokens b s
    pure (first :: others, s)
  else
    let s ← expect machine tokens b s
    pure ([first], s)
partial_fixpoint

/-- A literal, a name, an expression in parentheses or a list. -/
def primary (machine : Machine) (tokens : List PlacedToken) (s : Place) :
    Run SyntaxError (Expr × Place) := do
  let stop ← endColumn machine tokens
  match peek tokens s with
  | none => refuse ⟨.unexpectedEnd, stop⟩
  | some t =>
    let s ← forward machine s
    match leaf? t.token with
    | some e => pure (e, s)
    | none =>
      if t.token = .openParen then
        let (inner, s) ← machine |>.expr tokens s
        let s ← expect machine tokens .paren s
        pure (inner, s)
      else if t.token = .openBracket then
        let (members, s) ← machine |>.args tokens .square s
        pure (.list members, s)
      else refuse ⟨.unexpectedToken t.token, t.column⟩
partial_fixpoint

end

/-- The statement at the front of the tokens, and the place behind it. -/
def statement (machine : Machine) (tokens : List PlacedToken) :
    Run SyntaxError (Statement × Place) := do
  match tokens[0]?.map PlacedToken.token, tokens[1]?.map PlacedToken.token with
  | some (.ident name), some .assign =>
    let (e, s) ← expr machine tokens ⟨2, 0⟩
    pure (.assign name e, s)
  | _, _ =>
    let (e, s) ← expr machine tokens ⟨0, 0⟩
    pure (.expr e, s)

/-- Requires that there is no next token. -/
def finish (tokens : List PlacedToken) (r : Statement × Place) : Run SyntaxError Statement :=
  match peek tokens r.2 with
  | some t => refuse ⟨.unexpectedToken t.token, t.column⟩
  | none => pure r.1

/-- The statement that the tokens of a line spell. -/
def parse (machine : Machine) (tokens : List PlacedToken) : Run SyntaxError Statement := do
  let r ← statement machine tokens
  finish tokens r

/-! ### Places and cursors -/

/-- The machine can count the tokens, their columns and the nesting. -/
structure Holds (machine : Machine) (tokens : List PlacedToken) : Prop where
  length : tokens.length < machine.index
  columns : ∀ t ∈ tokens, t.column < machine.index
  depth : maxDepth < machine.depth

/-- The place of the machine where the tokens `rest` are left. -/
def placeOf (tokens rest : List PlacedToken) (depth : ℕ) : Place :=
  ⟨tokens.length - rest.length, depth⟩

section

variable {tokens rest : List PlacedToken} {t : PlacedToken} {d : ℕ}

/-- The next token is the first of the rest. -/
lemma peek_placeOf (hrest : rest <:+ tokens) :
    peek tokens (placeOf tokens rest d) = rest.head? := by
  obtain ⟨front, rfl⟩ := hrest
  rw [peek, placeOf, List.length_append, Nat.add_sub_cancel,
    List.getElem?_append_right (Nat.le_refl _), Nat.sub_self, List.head?_eq_getElem?]

lemma ascend_placeOf {levels : ℕ} (hlevels : levels ≤ d) :
    (ascend levels (placeOf tokens rest d) : Run ε Place) =
      pure (placeOf tokens rest (d - levels)) := by
  rw [ascend, placeOf, subtract_eq hlevels]
  rfl

namespace Holds

variable {machine : Machine} (h : Holds machine tokens)

include h

lemma forward_placeOf (hrest : t :: rest <:+ tokens) :
    (forward machine (placeOf tokens (t :: rest) d) : Run ε Place) =
      pure (placeOf tokens rest d) := by
  have hlength := h.length
  have hle := hrest.length_le
  rw [List.length_cons] at hle
  -- the index is a difference, and a token is left, so the step is one up
  have hpos : (placeOf tokens (t :: rest) d).pos + 1 = tokens.length - rest.length := by
    simp only [placeOf, List.length_cons]
    omega
  have hadd : (add machine.index (placeOf tokens (t :: rest) d).pos 1 : Run ε ℕ) =
      pure (tokens.length - rest.length) := by
    rw [add_eq (by omega), hpos]
  rw [forward, hadd]
  rfl

lemma endColumn_eq : (endColumn machine tokens : Run ε ℕ) = pure (Calc.endColumn tokens) := by
  rw [endColumn, Calc.endColumn]
  rcases hlast : tokens.getLast? with _ | t
  · rfl
  · exact add_eq (h.columns t (List.mem_of_getLast? hlast))

/-- A level is entered without an overflow, or the nest is too deep. -/
lemma descend_placeOf (hrest : rest <:+ tokens) (hd : d ≤ maxDepth) :
    descend machine tokens (placeOf tokens rest d) =
      if d < maxDepth then pure (placeOf tokens rest (d + 1))
      else refuse (tooDeep (Calc.endColumn tokens) rest) := by
  have hdepth := h.depth
  have hadd : (add machine.depth (placeOf tokens rest d).depth 1 : Run SyntaxError ℕ) =
      pure (d + 1) := add_eq (by simp only [placeOf]; omega)
  rw [descend, hadd, pure_bind, peek_placeOf hrest]
  split_ifs with hdeep hlt hlt
  · omega
  · cases rest with
    | nil =>
        rw [List.head?_nil, h.endColumn_eq]
        rfl
    | cons t rest => rfl
  · rfl
  · omega

/-- A bracket is read, or missed at the token that is there. -/
lemma expect_placeOf (b : Bracket) (hrest : rest <:+ tokens) :
    expect machine tokens b (placeOf tokens rest d) =
      match rest with
      | [] => refuse ⟨.expectedClose b, Calc.endColumn tokens⟩
      | t :: rest =>
        if t.token = b.close then pure (placeOf tokens rest d)
        else refuse ⟨.expectedClose b, t.column⟩ := by
  rw [expect, peek_placeOf hrest]
  cases rest with
  | nil =>
      rw [List.head?_nil, h.endColumn_eq]
      rfl
  | cons t rest =>
      simp only [List.head?_cons, h.forward_placeOf hrest, pure_bind]

end Holds

end

/-! ### Rules and programs -/

/-- The machine is refused for the error that a rule of the parser gives, or it has the rule's tree.
Then fewer tokens than `below` are left, and the nesting is `exit`. -/
def Agrees (tokens : List PlacedToken) (below exit : ℕ) (given : Except SyntaxError (α × Cursor))
    (run : Run SyntaxError (α × Place)) : Prop :=
  (∃ e, given = .error e ∧ run = refuse e) ∨
    ∃ x rest, rest <:+ tokens ∧ rest.length < below ∧ given = .ok (x, ⟨rest, exit⟩) ∧
      run = pure (x, placeOf tokens rest exit)

/-- Refusals agree. -/
lemma Agrees.refused {tokens : List PlacedToken} {below exit : ℕ} (e : SyntaxError) :
    Agrees tokens below exit (.error e : Except SyntaxError (α × Cursor)) (refuse e) :=
  .inl ⟨e, rfl, rfl⟩

/-- The bound on the tokens that are left can be raised. -/
lemma Agrees.mono {tokens : List PlacedToken} {below below' exit : ℕ}
    {given : Except SyntaxError (α × Cursor)} {run : Run SyntaxError (α × Place)}
    (h : Agrees tokens below exit given run) (hle : below ≤ below') :
    Agrees tokens below' exit given run := by
  obtain he | ⟨x, rest, hrest, hlt, hx⟩ := h
  · exact .inl he
  · exact .inr ⟨x, rest, hrest, Nat.lt_of_lt_of_le hlt hle, hx⟩

/-- The machine agrees with all rules of the parser where the tokens `rest` are left. -/
structure Traces (machine : Machine) (tokens rest : List PlacedToken) : Prop where
  expr : ∀ d ≤ maxDepth, Agrees tokens rest.length d
    (outcome (Parser.expr (Calc.endColumn tokens) ⟨rest, d⟩))
    (expr machine tokens (placeOf tokens rest d))
  chain : ∀ level, ∀ d ≤ maxDepth, Agrees tokens rest.length d
    (outcome (Parser.chain (Calc.endColumn tokens) level ⟨rest, d⟩))
    (chain machine tokens level (placeOf tokens rest d))
  operand : ∀ level, ∀ d ≤ maxDepth, Agrees tokens rest.length d
    (outcome (Parser.operand (Calc.endColumn tokens) level ⟨rest, d⟩))
    (operand machine tokens level (placeOf tokens rest d))
  chainTail : ∀ level left levels, ∀ d ≤ maxDepth, levels ≤ d →
    Agrees tokens (rest.length + 1) (d - levels)
      (outcome (Parser.chainTail (Calc.endColumn tokens) level left levels ⟨rest, d⟩))
      (chainTail machine tokens level left levels (placeOf tokens rest d))
  unary : ∀ d ≤ maxDepth, Agrees tokens rest.length d
    (outcome (Parser.unary (Calc.endColumn tokens) ⟨rest, d⟩))
    (unary machine tokens (placeOf tokens rest d))
  applied : ∀ d ≤ maxDepth, Agrees tokens rest.length d
    (outcome (Parser.applied (Calc.endColumn tokens) ⟨rest, d⟩))
    (applied machine tokens (placeOf tokens rest d))
  appliedTail : ∀ callee levels, ∀ d ≤ maxDepth, levels ≤ d →
    Agrees tokens (rest.length + 1) (d - levels)
      (outcome (Parser.appliedTail (Calc.endColumn tokens) callee levels ⟨rest, d⟩))
      (appliedTail machine tokens callee levels (placeOf tokens rest d))
  args : ∀ b, ∀ d ≤ maxDepth, Agrees tokens rest.length d
    (outcome (Parser.args (Calc.endColumn tokens) b ⟨rest, d⟩))
    (args machine tokens b (placeOf tokens rest d))
  items : ∀ b, ∀ d ≤ maxDepth, Agrees tokens rest.length d
    (outcome (Parser.items (Calc.endColumn tokens) b ⟨rest, d⟩))
    (items machine tokens b (placeOf tokens rest d))
  primary : ∀ d ≤ maxDepth, Agrees tokens rest.length d
    (outcome (Parser.primary (Calc.endColumn tokens) ⟨rest, d⟩))
    (primary machine tokens (placeOf tokens rest d))

/-! ### One rule at a time -/

section

variable {machine : Machine} {tokens rest : List PlacedToken} {d : ℕ}
  (h : Holds machine tokens)
  (shorter : ∀ rest', rest' <:+ tokens → rest'.length < rest.length → Traces machine tokens rest')
  (hrest : rest <:+ tokens) (hd : d ≤ maxDepth)

include h shorter hrest hd

/-- The loop over operators agrees with the recursion of the parser. -/
lemma agrees_chainTail (level : Level) (left : Expr) {levels : ℕ} (hlevels : levels ≤ d) :
    Agrees tokens (rest.length + 1) (d - levels)
      (outcome (Parser.chainTail (Calc.endColumn tokens) level left levels ⟨rest, d⟩))
      (chainTail machine tokens level left levels (placeOf tokens rest d)) := by
  have hdepth := h.depth
  rw [Parser.outcome_chainTail, chainTail, peek_placeOf hrest]
  rcases rest with _ | ⟨t, rest⟩
  · simp only [List.head?_nil, Option.bind_none, ascend_placeOf hlevels, pure_bind]
    exact .inr ⟨left, [], hrest, Nat.lt_succ_self _, rfl, rfl⟩
  have hnext : rest <:+ tokens := (List.suffix_cons t rest).trans hrest
  simp only [List.head?_cons, Option.bind_some]
  rcases level.operator? t.token with _ | op
  · simp only [ascend_placeOf hlevels, pure_bind]
    exact .inr ⟨left, t :: rest, hrest, Nat.lt_succ_self _, rfl, rfl⟩
  simp only [h.descend_placeOf hrest hd]
  split
  next hlt =>
    have hadd : (add machine.depth levels 1 : Run SyntaxError ℕ) = pure (levels + 1) :=
      add_eq (by omega)
    simp only [pure_bind, hadd, h.forward_placeOf hrest]
    obtain ⟨e, ho, hr⟩ | ⟨right, rest', hrest', hlt', ho, hr⟩ :=
      (shorter rest hnext (Nat.lt_succ_self _)).operand level (d + 1) hlt
    · simp only [ho, hr]
      exact .refused e
    · have htail := (shorter rest' hrest' (Nat.lt_succ_of_lt hlt')).chainTail level
        (.binary op left right) (levels + 1) (d + 1) hlt (Nat.succ_le_succ hlevels)
      -- what the loop goes down by it comes back up by at its end
      rw [Nat.add_sub_add_right] at htail
      simp only [ho, hr, pure_bind]
      exact htail.mono (by simp only [List.length_cons]; omega)
  next => exact .refused _

/-- An operand is read alike. -/
lemma agrees_primary : Agrees tokens rest.length d
    (outcome (Parser.primary (Calc.endColumn tokens) ⟨rest, d⟩))
    (primary machine tokens (placeOf tokens rest d)) := by
  rw [Parser.outcome_primary, primary, h.endColumn_eq, pure_bind, peek_placeOf hrest]
  rcases rest with _ | ⟨t, rest⟩
  · exact .refused _
  have hnext : rest <:+ tokens := (List.suffix_cons t rest).trans hrest
  have hinside := shorter rest hnext (Nat.lt_succ_self _)
  simp only [List.head?_cons, h.forward_placeOf hrest, pure_bind]
  rcases leaf? t.token with _ | e
  · simp only
    split
    · obtain ⟨e, ho, hr⟩ | ⟨inner, rest', hrest', hlt, ho, hr⟩ := hinside.expr d hd
      · simp only [ho, hr]
        exact .refused e
      simp only [ho, hr, pure_bind, h.expect_placeOf .paren hrest', Parser.outcome_close]
      rcases rest' with _ | ⟨u, rest'⟩
      · exact .refused _
      by_cases hclose : u.token = Bracket.paren.close
      · have hbehind : rest' <:+ tokens := (List.suffix_cons u rest').trans hrest'
        simp only [hclose, if_true, pure_bind]
        exact .inr ⟨inner, rest', hbehind, Nat.lt_succ_of_lt (Nat.lt_of_succ_lt hlt), rfl, rfl⟩
      · simp only [hclose, if_false, refuse_bind]
        exact .refused _
    · split
      · obtain ⟨e, ho, hr⟩ | ⟨members, rest', hrest', hlt, ho, hr⟩ := hinside.args .square d hd
        · simp only [ho, hr]
          exact .refused e
        · simp only [ho, hr, pure_bind]
          exact .inr ⟨_, rest', hrest', Nat.lt_succ_of_lt hlt, rfl, rfl⟩
      · exact .refused _
  · exact .inr ⟨e, rest, hnext, Nat.lt_succ_self _, rfl, rfl⟩

/-- The loop over calls agrees with the recursion of the parser. -/
lemma agrees_appliedTail (callee : Expr) {levels : ℕ} (hlevels : levels ≤ d) :
    Agrees tokens (rest.length + 1) (d - levels)
      (outcome (Parser.appliedTail (Calc.endColumn tokens) callee levels ⟨rest, d⟩))
      (appliedTail machine tokens callee levels (placeOf tokens rest d)) := by
  have hdepth := h.depth
  rw [Parser.outcome_appliedTail, appliedTail, peek_placeOf hrest]
  rcases rest with _ | ⟨t, rest⟩
  · simp only [List.head?_nil, Option.map_none, reduceCtorEq, if_false, ascend_placeOf hlevels,
      pure_bind]
    exact .inr ⟨callee, [], hrest, Nat.lt_succ_self _, rfl, rfl⟩
  have hnext : rest <:+ tokens := (List.suffix_cons t rest).trans hrest
  simp only [List.head?_cons, Option.map_some, Option.some.injEq]
  split
  · simp only [h.descend_placeOf hrest hd]
    split
    next hlt =>
      have hadd : (add machine.depth levels 1 : Run SyntaxError ℕ) = pure (levels + 1) :=
        add_eq (by omega)
      simp only [pure_bind, hadd, h.forward_placeOf hrest]
      obtain ⟨e, ho, hr⟩ | ⟨arguments, rest', hrest', hlt', ho, hr⟩ :=
        (shorter rest hnext (Nat.lt_succ_self _)).args .paren (d + 1) hlt
      · simp only [ho, hr]
        exact .refused e
      · have htail := (shorter rest' hrest' (Nat.lt_succ_of_lt hlt')).appliedTail
          (.call callee arguments) (levels + 1) (d + 1) hlt (Nat.succ_le_succ hlevels)
        rw [Nat.add_sub_add_right] at htail
        simp only [ho, hr, pure_bind]
        exact htail.mono (by simp only [List.length_cons]; omega)
    next => exact .refused _
  · simp only [ascend_placeOf hlevels, pure_bind]
    exact .inr ⟨callee, t :: rest, hrest, Nat.lt_succ_self _, rfl, rfl⟩

lemma agrees_applied : Agrees tokens rest.length d
    (outcome (Parser.applied (Calc.endColumn tokens) ⟨rest, d⟩))
    (applied machine tokens (placeOf tokens rest d)) := by
  rw [Parser.outcome_applied, applied]
  obtain ⟨e, ho, hr⟩ | ⟨callee, rest', hrest', hlt, ho, hr⟩ := agrees_primary h shorter hrest hd
  · simp only [ho, hr]
    exact .refused e
  · simp only [ho, hr, pure_bind]
    exact ((shorter rest' hrest' hlt).appliedTail callee 0 d hd (Nat.zero_le d)).mono hlt

/-- A signed operand is read alike. -/
lemma agrees_unary : Agrees tokens rest.length d
    (outcome (Parser.unary (Calc.endColumn tokens) ⟨rest, d⟩))
    (unary machine tokens (placeOf tokens rest d)) := by
  have happlied := agrees_applied h shorter hrest hd
  rw [Parser.outcome_unary, unary, peek_placeOf hrest]
  rcases rest with _ | ⟨t, rest⟩
  · exact happlied
  have hnext : rest <:+ tokens := (List.suffix_cons t rest).trans hrest
  simp only [List.head?_cons, Option.map_some, Option.some.injEq]
  split
  · simp only [h.forward_placeOf hrest, pure_bind, h.descend_placeOf hnext hd]
    split
    next hlt =>
      obtain ⟨e, ho, hr⟩ | ⟨inner, rest', hrest', hlt', ho, hr⟩ :=
        (shorter rest hnext (Nat.lt_succ_self _)).unary (d + 1) hlt
      · simp only [pure_bind, ho, hr]
        exact .refused e
      · simp only [pure_bind, ho, hr, ascend_placeOf (Nat.le_add_left 1 d)]
        exact .inr ⟨_, rest', hrest', Nat.lt_succ_of_lt hlt', rfl, rfl⟩
    next => exact .refused _
  · exact happlied

omit h hrest in
/-- The machine agrees on a chain where it does on its operands. -/
lemma agrees_chain_of_operand {level : Level} (hoperand : Agrees tokens rest.length d
      (outcome (Parser.operand (Calc.endColumn tokens) level ⟨rest, d⟩))
      (operand machine tokens level (placeOf tokens rest d))) :
    Agrees tokens rest.length d (outcome (Parser.chain (Calc.endColumn tokens) level ⟨rest, d⟩))
      (chain machine tokens level (placeOf tokens rest d)) := by
  rw [Parser.outcome_chain, chain]
  obtain ⟨e, ho, hr⟩ | ⟨left, rest', hrest', hlt, ho, hr⟩ := hoperand
  · simp only [ho, hr]
    exact .refused e
  · simp only [ho, hr, pure_bind]
    exact ((shorter rest' hrest' hlt).chainTail level left 0 d hd (Nat.zero_le d)).mono hlt

lemma agrees_operand (level : Level) : Agrees tokens rest.length d
    (outcome (Parser.operand (Calc.endColumn tokens) level ⟨rest, d⟩))
    (operand machine tokens level (placeOf tokens rest d)) := by
  have hproduct : Agrees tokens rest.length d
      (outcome (Parser.operand (Calc.endColumn tokens) .product ⟨rest, d⟩))
      (operand machine tokens .product (placeOf tokens rest d)) := by
    rw [Parser.outcome_operand_product, operand]
    exact agrees_unary h shorter hrest hd
  cases level with
  | product => exact hproduct
  | sum =>
      rw [Parser.outcome_operand_sum, operand]
      exact agrees_chain_of_operand shorter hd hproduct

lemma agrees_chain (level : Level) : Agrees tokens rest.length d
    (outcome (Parser.chain (Calc.endColumn tokens) level ⟨rest, d⟩))
    (chain machine tokens level (placeOf tokens rest d)) :=
  agrees_chain_of_operand shorter hd (agrees_operand h shorter hrest hd level)

/-- An expression is read alike. -/
lemma agrees_expr : Agrees tokens rest.length d
    (outcome (Parser.expr (Calc.endColumn tokens) ⟨rest, d⟩))
    (expr machine tokens (placeOf tokens rest d)) := by
  rw [Parser.outcome_expr, expr, h.descend_placeOf hrest hd]
  split
  next hlt =>
    simp only [pure_bind]
    obtain ⟨e, ho, hr⟩ | ⟨left, rest', hrest', hlt', ho, hr⟩ :=
      agrees_chain h shorter hrest hlt .sum
    · simp only [ho, hr]
      exact .refused e
    simp only [ho, hr, pure_bind, peek_placeOf hrest']
    rcases rest' with _ | ⟨t, rest'⟩
    · simp only [List.head?_nil, Option.bind_none, ascend_placeOf (Nat.le_add_left 1 d), pure_bind]
      exact .inr ⟨left, [], hrest', hlt', rfl, rfl⟩
    simp only [List.head?_cons, Option.bind_some]
    rcases comparison? t.token with _ | op
    · simp only [ascend_placeOf (Nat.le_add_left 1 d), pure_bind]
      exact .inr ⟨left, t :: rest', hrest', hlt', rfl, rfl⟩
    have hnext : rest' <:+ tokens := (List.suffix_cons t rest').trans hrest'
    have hshort : rest'.length < rest.length := Nat.lt_of_succ_lt hlt'
    simp only [h.forward_placeOf hrest', pure_bind]
    obtain ⟨e, ho, hr⟩ | ⟨right, rest'', hrest'', hlt'', ho, hr⟩ :=
      (shorter rest' hnext hshort).chain .sum (d + 1) hlt
    · simp only [ho, hr]
      exact .refused e
    · simp only [ho, hr, pure_bind, ascend_placeOf (Nat.le_add_left 1 d)]
      exact .inr ⟨_, rest'', hrest'', Nat.lt_trans hlt'' hshort, rfl, rfl⟩
  next => exact .refused _

/-- The loop over items agrees with the recursion of the parser. -/
lemma agrees_items (b : Bracket) : Agrees tokens rest.length d
    (outcome (Parser.items (Calc.endColumn tokens) b ⟨rest, d⟩))
    (items machine tokens b (placeOf tokens rest d)) := by
  rw [Parser.outcome_items, items]
  obtain ⟨e, ho, hr⟩ | ⟨first, rest', hrest', hlt, ho, hr⟩ := agrees_expr h shorter hrest hd
  · simp only [ho, hr]
    exact .refused e
  simp only [ho, hr, pure_bind, peek_placeOf hrest', h.expect_placeOf b hrest']
  rcases rest' with _ | ⟨t, rest'⟩
  · exact .refused _
  have hnext : rest' <:+ tokens := (List.suffix_cons t rest').trans hrest'
  have hshort : rest'.length < rest.length := Nat.lt_of_succ_lt hlt
  simp only [List.head?_cons, Option.map_some, Option.some.injEq]
  split
  · simp only [h.forward_placeOf hrest', pure_bind]
    obtain ⟨e, ho, hr⟩ | ⟨others, rest'', hrest'', hlt'', ho, hr⟩ :=
      (shorter rest' hnext hshort).items b d hd
    · simp only [ho, hr]
      exact .refused e
    · simp only [ho, hr, pure_bind]
      exact .inr ⟨_, rest'', hrest'', Nat.lt_trans hlt'' hshort, rfl, rfl⟩
  · split
    · exact .inr ⟨[first], rest', hnext, hshort, rfl, rfl⟩
    · exact .refused _

lemma agrees_args (b : Bracket) : Agrees tokens rest.length d
    (outcome (Parser.args (Calc.endColumn tokens) b ⟨rest, d⟩))
    (args machine tokens b (placeOf tokens rest d)) := by
  have hitems := agrees_items h shorter hrest hd b
  rw [Parser.outcome_args, args, peek_placeOf hrest]
  rcases rest with _ | ⟨t, rest⟩
  · exact hitems
  have hnext : rest <:+ tokens := (List.suffix_cons t rest).trans hrest
  simp only [List.head?_cons, Option.map_some, Option.some.injEq]
  split
  · simp only [h.forward_placeOf hrest, pure_bind]
    exact .inr ⟨[], rest, hnext, Nat.lt_succ_self _, rfl, rfl⟩
  · exact hitems

end

/-! ### All rules -/

/-- The machine agrees with the parser on all tokens that it can count. The rules call one another
where fewer tokens are left, or where the same are in the order of the lemmas above. -/
theorem traces {machine : Machine} {tokens rest : List PlacedToken} (h : Holds machine tokens)
    (hrest : rest <:+ tokens) : Traces machine tokens rest := by
  induction hlength : rest.length using Nat.strongRecOn generalizing rest with
  | _ n ih =>
      have shorter : ∀ rest', rest' <:+ tokens → rest'.length < rest.length →
          Traces machine tokens rest' :=
        fun rest' hrest' hlt => ih rest'.length (hlength ▸ hlt) hrest' rfl
      exact
        { expr := fun _ hd => agrees_expr h shorter hrest hd
          chain := fun level _ hd => agrees_chain h shorter hrest hd level
          operand := fun level _ hd => agrees_operand h shorter hrest hd level
          chainTail := fun level left _ _ hd hlevels =>
            agrees_chainTail h shorter hrest hd level left hlevels
          unary := fun _ hd => agrees_unary h shorter hrest hd
          applied := fun _ hd => agrees_applied h shorter hrest hd
          appliedTail := fun callee _ _ hd hlevels =>
            agrees_appliedTail h shorter hrest hd callee hlevels
          args := fun b _ hd => agrees_args h shorter hrest hd b
          items := fun b _ hd => agrees_items h shorter hrest hd b
          primary := fun _ hd => agrees_primary h shorter hrest hd }

/-! ### Statements -/

section

variable {machine : Machine} {tokens : List PlacedToken}

/-- What is left behind an expression is refused alike. -/
lemma finish_eq {rest : List PlacedToken} (h : Holds machine tokens) (hrest : rest <:+ tokens)
    (wrap : Expr → Statement) :
    (do
      let r ← (do
        let (e, s) ← expr machine tokens (placeOf tokens rest 0)
        pure (wrap e, s) : Run SyntaxError (Statement × Place))
      finish tokens r) =
      given ((parseExpr (Calc.endColumn tokens) rest).map wrap) := by
  rw [Parser.parseExpr_eq]
  obtain ⟨e, ho, hr⟩ | ⟨x, left, hleft, -, ho, hr⟩ := (traces h hrest).expr 0 (Nat.zero_le _)
  · simp only [ho, hr]
    rfl
  · simp only [ho, hr, pure_bind, finish, peek_placeOf hleft]
    cases left <;> rfl

/-- **Tokens that the machine can count are parsed as they should be.** -/
theorem parse_eq (h : Holds machine tokens) : parse machine tokens = given (Calc.parse tokens) := by
  rw [parse, Calc.parse.eq_def]
  split
  next name i j rest =>
    have hrest : rest <:+ ⟨.ident name, i⟩ :: ⟨.assign, j⟩ :: rest := ⟨[_, _], rfl⟩
    have hplace : placeOf (⟨.ident name, i⟩ :: ⟨.assign, j⟩ :: rest) rest 0 = ⟨2, 0⟩ := by
      simp only [placeOf, List.length_cons]
      congr 1
      omega
    have hfinish := finish_eq h hrest (.assign name)
    rw [hplace] at hfinish
    exact hfinish
  next hother =>
    have hplace : placeOf tokens tokens 0 = ⟨0, 0⟩ := by rw [placeOf, Nat.sub_self]
    have hfinish := finish_eq h List.suffix_rfl .expr
    rw [hplace] at hfinish
    rw [← hfinish, statement]
    split
    next name hname hassign =>
      rcases tokens with _ | ⟨⟨_, i⟩, _ | ⟨⟨_, j⟩, rest⟩⟩ <;> cases hname <;> cases hassign
      exact absurd rfl (hother name i j rest)
    next => rfl

end

end LineRepl.Machine
