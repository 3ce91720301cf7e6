/-
Calls of the parser and the statements that it recognises.

Started with any activations waiting, a rule that has been called returns what the parser recognises
there, or the tokens are refused for the same error. The run goes on where an activation is resumed,
so both are followed side by side, rule by rule.

* `Comes`: the run comes to what a rule of the parser gives.
* `Follows`: it does for all rules where the same tokens are left.
* `follows`: it does wherever tokens are left.
* `calls_balanced_and_finite`: all moments of a run are as they should be, and the run ends in the
  statement or the error that the parser gives.
-/
import LineRepl.Proofs.Machine.Activation

namespace LineRepl.Calc.Calls

open Machine (Place peek placeOf peek_placeOf)
open Calc.Parser (outcome tooDeep)

/-! ### Steps -/

section

variable {tokens rest : List PlacedToken} {t : PlacedToken} {d : ℕ}

lemma forward_placeOf (hrest : t :: rest <:+ tokens) :
    forward (placeOf tokens (t :: rest) d) = placeOf tokens rest d := by
  have hle := hrest.length_le
  simp only [List.length_cons] at hle
  simp only [forward, placeOf, List.length_cons, Place.mk.injEq, and_true]
  omega

/-- A level is entered, or the nest is too deep. -/
lemma descend_placeOf (hrest : rest <:+ tokens) (go : Place → Move × Place) :
    descend tokens (placeOf tokens rest d) go =
      if d < maxDepth then go (placeOf tokens rest (d + 1))
      else (.refuse (tooDeep (endColumn tokens) rest), placeOf tokens rest (d + 1)) := by
  rw [descend, peek_placeOf hrest]
  by_cases hd : d < maxDepth
  · rw [if_pos hd]
    exact if_neg (Nat.not_lt_of_le hd)
  · rw [if_neg hd]
    exact if_pos (Nat.lt_succ_of_le (Nat.le_of_not_lt hd))

lemma ascend_placeOf {levels : ℕ} (e : Expr) (hlevels : levels ≤ d) :
    ascend levels e (placeOf tokens rest d) =
      (.answer (.one e), placeOf tokens rest (d - levels)) :=
  if_pos hlevels

end

/-! ### Runs and rules -/

/-- From the moment `c` on, the tokens are refused for the error that a rule of the parser gives; or
the call entered at `entry` returns the rule's answer. Then fewer tokens than `below` are left, the
nesting is `exit`, and the activations in `stack` are waiting. -/
def Comes {α : Type} (tokens : List PlacedToken) (entry : Place) (answer : α → Answer)
    (below exit : ℕ) (given : Except SyntaxError (α × Cursor)) (stack : List Activation)
    (c : Config) : Prop :=
  (∃ e s stack', given = .error e ∧ Reaches tokens c ⟨.refused e, s, stack'⟩) ∨
    ∃ x rest, rest <:+ tokens ∧ rest.length < below ∧ given = .ok (x, ⟨rest, exit⟩) ∧
      Reaches tokens c ⟨.returned entry (answer x), placeOf tokens rest exit, stack⟩

namespace Comes

variable {α : Type} {tokens : List PlacedToken} {entry : Place} {answer : α → Answer}
  {below below' exit : ℕ} {given : Except SyntaxError (α × Cursor)} {stack : List Activation}
  {c c' : Config}

/-- A refusal ends the machine, whatever waits. -/
lemma refused {e : SyntaxError} {s : Place} {stack' : List Activation}
    (h : Reaches tokens c ⟨.refused e, s, stack'⟩) :
    Comes tokens entry answer below exit (.error e) stack c :=
  .inl ⟨e, s, stack', rfl, h⟩

/-- An answer goes to what waits. -/
lemma returned {x : α} {rest : List PlacedToken} (hrest : rest <:+ tokens)
    (hlt : rest.length < below)
    (h : Reaches tokens c ⟨.returned entry (answer x), placeOf tokens rest exit, stack⟩) :
    Comes tokens entry answer below exit (.ok (x, ⟨rest, exit⟩)) stack c :=
  .inr ⟨x, rest, hrest, hlt, rfl, h⟩

/-- Moves before do not matter. -/
lemma after (hc : Reaches tokens c c') (h : Comes tokens entry answer below exit given stack c') :
    Comes tokens entry answer below exit given stack c := by
  obtain ⟨e, s, stack', he, hr⟩ | ⟨x, rest, hrest, hlt, hx, hr⟩ := h
  · exact .inl ⟨e, s, stack', he, hc.trans hr⟩
  · exact .inr ⟨x, rest, hrest, hlt, hx, hc.trans hr⟩

/-- A call begins with the moves of its rule. -/
lemma begin {rule : Rule} {s : Place} {around : List Activation}
    (h : Comes tokens entry answer below exit given stack (enact s around (begin tokens s rule))) :
    Comes tokens entry answer below exit given stack ⟨.called rule, s, around⟩ :=
  h.after (.single rfl)

/-- An activation that gets its answer goes on. -/
lemma resume {p : Pending} {a : Answer} {r : Move × Place} {s inner outer : Place}
    {around : List Activation} (hresume : resume tokens s p a = some r)
    (h : Comes tokens entry answer below exit given stack (enact outer around r)) :
    Comes tokens entry answer below exit given stack
      ⟨.returned inner a, s, ⟨outer, p⟩ :: around⟩ :=
  h.after (.single (congrArg (Option.map (enact outer around)) hresume))

/-- The bound on the tokens that are left can be raised. -/
lemma mono (h : Comes tokens entry answer below exit given stack c) (hle : below ≤ below') :
    Comes tokens entry answer below' exit given stack c := by
  obtain he | ⟨x, rest, hrest, hlt, hx⟩ := h
  · exact .inl he
  · exact .inr ⟨x, rest, hrest, Nat.lt_of_lt_of_le hlt hle, hx⟩

end Comes

/-- A rule that has been called comes to what the parser gives, whatever activations are waiting. -/
def Returns {α : Type} (tokens rest : List PlacedToken) (d : ℕ) (rule : Rule) (answer : α → Answer)
    (given : Except SyntaxError (α × Cursor)) : Prop :=
  ∀ stack, Comes tokens (placeOf tokens rest d) answer rest.length d given stack
    ⟨.called rule, placeOf tokens rest d, stack⟩

/-- A loop comes to what the parser gives, in an activation entered anywhere. Levels that it has
added are taken off. -/
def Loops (tokens rest : List PlacedToken) (d levels : ℕ) (r : Move × Place)
    (given : Except SyntaxError (Expr × Cursor)) : Prop :=
  ∀ entry stack, Comes tokens entry .one (rest.length + 1) (d - levels) given stack
    (enact entry stack r)

/-- Items behind the items in `done` come to what the parser gives. -/
def Lists (tokens rest : List PlacedToken) (d : ℕ) (b : Bracket)
    (given : Except SyntaxError (List Expr × Cursor)) : Prop :=
  ∀ done entry stack, Comes tokens entry (fun others => .many (done ++ others)) rest.length d given
    stack ⟨.called .expr, placeOf tokens rest d, ⟨entry, .item b done⟩ :: stack⟩

/-- All rules come to what the parser gives where the tokens `rest` are left. -/
structure Follows (tokens rest : List PlacedToken) : Prop where
  expr : ∀ d ≤ maxDepth, Returns tokens rest d .expr .one
    (outcome (Parser.expr (endColumn tokens) ⟨rest, d⟩))
  chain : ∀ level, ∀ d ≤ maxDepth, Returns tokens rest d (.chain level) .one
    (outcome (Parser.chain (endColumn tokens) level ⟨rest, d⟩))
  operand : ∀ level, ∀ d ≤ maxDepth, Returns tokens rest d (operandRule level) .one
    (outcome (Parser.operand (endColumn tokens) level ⟨rest, d⟩))
  chainOn : ∀ level left levels, ∀ d ≤ maxDepth, levels ≤ d → Loops tokens rest d levels
    (chainOn tokens level left levels (placeOf tokens rest d))
    (outcome (Parser.chainTail (endColumn tokens) level left levels ⟨rest, d⟩))
  unary : ∀ d ≤ maxDepth, Returns tokens rest d .unary .one
    (outcome (Parser.unary (endColumn tokens) ⟨rest, d⟩))
  appliedOn : ∀ callee levels, ∀ d ≤ maxDepth, levels ≤ d → Loops tokens rest d levels
    (appliedOn tokens callee levels (placeOf tokens rest d))
    (outcome (Parser.appliedTail (endColumn tokens) callee levels ⟨rest, d⟩))
  args : ∀ b, ∀ d ≤ maxDepth, Returns tokens rest d (.args b) .many
    (outcome (Parser.args (endColumn tokens) b ⟨rest, d⟩))
  items : ∀ b, ∀ d ≤ maxDepth, Lists tokens rest d b
    (outcome (Parser.items (endColumn tokens) b ⟨rest, d⟩))

/-! ### One rule at a time -/

section

variable {tokens rest : List PlacedToken} {d : ℕ}
  (shorter : ∀ rest', rest' <:+ tokens → rest'.length < rest.length → Follows tokens rest')
  (hrest : rest <:+ tokens) (hd : d ≤ maxDepth)

include shorter hrest hd

omit hd in
/-- The machine goes through operators as the parser does. -/
lemma loops_chainOn (level : Level) (left : Expr) {levels : ℕ} (hlevels : levels ≤ d) :
    Loops tokens rest d levels (chainOn tokens level left levels (placeOf tokens rest d))
      (outcome (Parser.chainTail (endColumn tokens) level left levels ⟨rest, d⟩)) := by
  intro entry stack
  rw [Parser.outcome_chainTail, chainOn, peek_placeOf hrest]
  rcases rest with _ | ⟨t, rest⟩
  · simp only [List.head?_nil, Option.bind_none, ascend_placeOf left hlevels]
    exact .returned hrest (Nat.lt_succ_self _) .refl
  have hnext : rest <:+ tokens := (List.suffix_cons t rest).trans hrest
  simp only [List.head?_cons, Option.bind_some]
  rcases level.operator? t.token with _ | op
  · simp only [ascend_placeOf left hlevels]
    exact .returned hrest (Nat.lt_succ_self _) .refl
  simp only [descend_placeOf hrest]
  split
  next hlt =>
    rw [forward_placeOf hrest]
    obtain ⟨e, s, stack', ho, hr⟩ | ⟨right, rest', hrest', hlt', ho, hr⟩ :=
      (shorter rest hnext (Nat.lt_succ_self _)).operand level (d + 1) hlt
        (⟨entry, .next level left op (levels + 1)⟩ :: stack)
    · rw [ho]
      exact .refused hr
    · have htail := (shorter rest' hrest' (Nat.lt_succ_of_lt hlt')).chainOn level
        (.binary op left right) (levels + 1) (d + 1) hlt (Nat.succ_le_succ hlevels) entry stack
      -- what the loop goes down by it comes back up by at its end
      rw [Nat.add_sub_add_right] at htail
      rw [ho]
      exact .after hr (.resume rfl (htail.mono (by simp only [List.length_cons]; omega)))
  next => exact .refused .refl

/-- The machine reads an operand as the parser does. -/
lemma returns_primary : Returns tokens rest d .primary .one
    (outcome (Parser.primary (endColumn tokens) ⟨rest, d⟩)) := by
  intro stack
  refine .begin ?_
  rw [Parser.outcome_primary, begin, peek_placeOf hrest]
  rcases rest with _ | ⟨t, rest⟩
  · exact .refused .refl
  have hnext : rest <:+ tokens := (List.suffix_cons t rest).trans hrest
  have hinside := shorter rest hnext (Nat.lt_succ_self _)
  simp only [List.head?_cons, forward_placeOf hrest]
  rcases leaf? t.token with _ | e
  · simp only
    split
    · obtain ⟨e, s, stack', ho, hr⟩ | ⟨inner, rest', hrest', hlt, ho, hr⟩ :=
        hinside.expr d hd (⟨placeOf tokens (t :: rest) d, .inside⟩ :: stack)
      · rw [ho]
        exact .refused hr
      refine .after hr (.resume rfl ?_)
      rw [ho, expect, peek_placeOf hrest']
      simp only [Parser.outcome_close]
      rcases rest' with _ | ⟨u, rest'⟩
      · exact .refused .refl
      have hbehind : rest' <:+ tokens := (List.suffix_cons u rest').trans hrest'
      simp only [List.head?_cons, forward_placeOf hrest']
      by_cases hclose : u.token = Bracket.paren.close
      · simp only [hclose, if_true]
        exact .returned hbehind (Nat.lt_succ_of_lt (Nat.lt_of_succ_lt hlt)) .refl
      · simp only [hclose, if_false]
        exact .refused .refl
    · split
      · obtain ⟨e, s, stack', ho, hr⟩ | ⟨members, rest', hrest', hlt, ho, hr⟩ :=
          hinside.args .square d hd (⟨placeOf tokens (t :: rest) d, .members⟩ :: stack)
        · rw [ho]
          exact .refused hr
        · rw [ho]
          exact .after hr (.resume rfl (.returned hrest' (Nat.lt_succ_of_lt hlt) .refl))
      · exact .refused .refl
  · exact .returned hnext (Nat.lt_succ_self _) .refl

omit hd in
/-- It goes through calls as the parser does. -/
lemma loops_appliedOn (callee : Expr) {levels : ℕ} (hlevels : levels ≤ d) :
    Loops tokens rest d levels (appliedOn tokens callee levels (placeOf tokens rest d))
      (outcome (Parser.appliedTail (endColumn tokens) callee levels ⟨rest, d⟩)) := by
  intro entry stack
  rw [Parser.outcome_appliedTail, appliedOn, peek_placeOf hrest]
  rcases rest with _ | ⟨t, rest⟩
  · simp only [List.head?_nil, Option.map_none, reduceCtorEq, if_false,
      ascend_placeOf callee hlevels]
    exact .returned hrest (Nat.lt_succ_self _) .refl
  have hnext : rest <:+ tokens := (List.suffix_cons t rest).trans hrest
  simp only [List.head?_cons, Option.map_some, Option.some.injEq]
  split
  · simp only [descend_placeOf hrest]
    split
    next hlt =>
      rw [forward_placeOf hrest]
      obtain ⟨e, s, stack', ho, hr⟩ | ⟨arguments, rest', hrest', hlt', ho, hr⟩ :=
        (shorter rest hnext (Nat.lt_succ_self _)).args .paren (d + 1) hlt
          (⟨entry, .arguments callee (levels + 1)⟩ :: stack)
      · rw [ho]
        exact .refused hr
      · have htail := (shorter rest' hrest' (Nat.lt_succ_of_lt hlt')).appliedOn
          (.call callee arguments) (levels + 1) (d + 1) hlt (Nat.succ_le_succ hlevels) entry stack
        rw [Nat.add_sub_add_right] at htail
        rw [ho]
        exact .after hr (.resume rfl (htail.mono (by simp only [List.length_cons]; omega)))
    next => exact .refused .refl
  · simp only [ascend_placeOf callee hlevels]
    exact .returned hrest (Nat.lt_succ_self _) .refl

lemma returns_applied : Returns tokens rest d .applied .one
    (outcome (Parser.applied (endColumn tokens) ⟨rest, d⟩)) := by
  intro stack
  rw [Parser.outcome_applied]
  refine .begin ?_
  obtain ⟨e, s, stack', ho, hr⟩ | ⟨callee, rest', hrest', hlt, ho, hr⟩ :=
    returns_primary shorter hrest hd (⟨placeOf tokens rest d, .callee⟩ :: stack)
  · rw [ho]
    exact .refused hr
  · have hloop := (shorter rest' hrest' hlt).appliedOn callee 0 d hd (Nat.zero_le d)
    rw [ho]
    exact .after hr (.resume rfl ((hloop _ stack).mono hlt))

/-- So it reads a signed operand. -/
lemma returns_unary : Returns tokens rest d .unary .one
    (outcome (Parser.unary (endColumn tokens) ⟨rest, d⟩)) := by
  intro stack
  have happlied : Comes tokens (placeOf tokens rest d) .one rest.length d
      (outcome (Parser.applied (endColumn tokens) ⟨rest, d⟩)) stack
      ⟨.called .applied, placeOf tokens rest d, ⟨placeOf tokens rest d, .unsigned⟩ :: stack⟩ := by
    obtain ⟨e, s, stack', ho, hr⟩ | ⟨x, rest', hrest', hlt, ho, hr⟩ :=
      returns_applied shorter hrest hd (⟨placeOf tokens rest d, .unsigned⟩ :: stack)
    · rw [ho]
      exact .refused hr
    · rw [ho]
      exact .after hr (.resume rfl (.returned hrest' hlt .refl))
  refine .begin ?_
  rw [Parser.outcome_unary, begin, peek_placeOf hrest]
  rcases rest with _ | ⟨t, rest⟩
  · exact happlied
  have hnext : rest <:+ tokens := (List.suffix_cons t rest).trans hrest
  simp only [List.head?_cons, Option.map_some, Option.some.injEq]
  split
  · simp only [forward_placeOf hrest, descend_placeOf hnext]
    split
    next hlt =>
      obtain ⟨e, s, stack', ho, hr⟩ | ⟨inner, rest', hrest', hlt', ho, hr⟩ :=
        (shorter rest hnext (Nat.lt_succ_self _)).unary (d + 1) hlt
          (⟨placeOf tokens (t :: rest) d, .signed⟩ :: stack)
      · rw [ho]
        exact .refused hr
      · refine .after hr (.resume rfl ?_)
        rw [ho, ascend_placeOf _ (Nat.le_add_left 1 d)]
        exact .returned hrest' (Nat.lt_succ_of_lt hlt') .refl
    next => exact .refused .refl
  · exact happlied

omit hrest in
/-- A chain comes to what the parser gives if its operands do. -/
lemma returns_chain_of_operand {level : Level}
    (hoperand : Returns tokens rest d (operandRule level) .one
      (outcome (Parser.operand (endColumn tokens) level ⟨rest, d⟩))) :
    Returns tokens rest d (.chain level) .one
      (outcome (Parser.chain (endColumn tokens) level ⟨rest, d⟩)) := by
  intro stack
  rw [Parser.outcome_chain]
  refine .begin ?_
  obtain ⟨e, s, stack', ho, hr⟩ | ⟨left, rest', hrest', hlt, ho, hr⟩ :=
    hoperand (⟨placeOf tokens rest d, .first level⟩ :: stack)
  · rw [ho]
    exact .refused hr
  · have hloop := (shorter rest' hrest' hlt).chainOn level left 0 d hd (Nat.zero_le d)
    rw [ho]
    exact .after hr (.resume rfl ((hloop _ stack).mono hlt))

lemma returns_operand (level : Level) : Returns tokens rest d (operandRule level) .one
    (outcome (Parser.operand (endColumn tokens) level ⟨rest, d⟩)) := by
  have hproduct : Returns tokens rest d (operandRule .product) .one
      (outcome (Parser.operand (endColumn tokens) .product ⟨rest, d⟩)) := by
    rw [Parser.outcome_operand_product]
    exact returns_unary shorter hrest hd
  cases level with
  | product => exact hproduct
  | sum =>
      rw [Parser.outcome_operand_sum]
      exact returns_chain_of_operand shorter hd hproduct

lemma returns_chain (level : Level) : Returns tokens rest d (.chain level) .one
    (outcome (Parser.chain (endColumn tokens) level ⟨rest, d⟩)) :=
  returns_chain_of_operand shorter hd (returns_operand shorter hrest hd level)

omit hd in
/-- So it reads an expression. -/
lemma returns_expr : Returns tokens rest d .expr .one
    (outcome (Parser.expr (endColumn tokens) ⟨rest, d⟩)) := by
  intro stack
  refine .begin ?_
  rw [Parser.outcome_expr, begin, descend_placeOf hrest]
  split
  next hlt =>
    obtain ⟨e, s, stack', ho, hr⟩ | ⟨left, rest', hrest', hlt', ho, hr⟩ :=
      returns_chain shorter hrest hlt .sum (⟨placeOf tokens rest d, .left⟩ :: stack)
    · rw [ho]
      exact .refused hr
    refine .after hr (.resume rfl ?_)
    rw [compareOn, peek_placeOf hrest']
    simp only [ho]
    rcases rest' with _ | ⟨t, rest'⟩
    · simp only [List.head?_nil, Option.bind_none, ascend_placeOf _ (Nat.le_add_left 1 d)]
      exact .returned hrest' hlt' .refl
    simp only [List.head?_cons, Option.bind_some]
    rcases comparison? t.token with _ | op
    · simp only [ascend_placeOf _ (Nat.le_add_left 1 d)]
      exact .returned hrest' hlt' .refl
    have hnext : rest' <:+ tokens := (List.suffix_cons t rest').trans hrest'
    have hshort : rest'.length < rest.length := Nat.lt_of_succ_lt hlt'
    simp only [forward_placeOf hrest']
    obtain ⟨e, s, stack', ho, hr⟩ | ⟨right, rest'', hrest'', hlt'', ho, hr⟩ :=
      (shorter rest' hnext hshort).chain .sum (d + 1) hlt
        (⟨placeOf tokens rest d, .right op left⟩ :: stack)
    · rw [ho]
      exact .refused hr
    · refine .after hr (.resume rfl ?_)
      rw [ho, ascend_placeOf _ (Nat.le_add_left 1 d)]
      exact .returned hrest'' (Nat.lt_trans hlt'' hshort) .refl
  next => exact .refused .refl

/-- So it goes through items. -/
lemma lists_items (b : Bracket) : Lists tokens rest d b
    (outcome (Parser.items (endColumn tokens) b ⟨rest, d⟩)) := by
  intro done entry stack
  rw [Parser.outcome_items]
  obtain ⟨e, s, stack', ho, hr⟩ | ⟨first, rest', hrest', hlt, ho, hr⟩ :=
    returns_expr shorter hrest (⟨entry, .item b done⟩ :: stack)
  · rw [ho]
    exact .refused hr
  refine .after hr (.resume rfl ?_)
  rw [itemsOn, expect, peek_placeOf hrest']
  simp only [ho]
  rcases rest' with _ | ⟨t, rest'⟩
  · exact .refused .refl
  have hnext : rest' <:+ tokens := (List.suffix_cons t rest').trans hrest'
  have hshort : rest'.length < rest.length := Nat.lt_of_succ_lt hlt
  simp only [List.head?_cons, Option.map_some, Option.some.injEq, forward_placeOf hrest']
  split
  · obtain ⟨e, s, stack', ho, hr⟩ | ⟨others, rest'', hrest'', hlt'', ho, hr⟩ :=
      (shorter rest' hnext hshort).items b d hd (done ++ [first]) entry stack
    · rw [ho]
      exact .refused hr
    · simp only [List.append_assoc] at hr
      rw [ho]
      exact .returned hrest'' (Nat.lt_trans hlt'' hshort) hr
  · split
    · exact .returned hnext hshort .refl
    · exact .refused .refl

lemma returns_args (b : Bracket) : Returns tokens rest d (.args b) .many
    (outcome (Parser.args (endColumn tokens) b ⟨rest, d⟩)) := by
  intro stack
  have hitems := lists_items shorter hrest hd b [] (placeOf tokens rest d) stack
  refine .begin ?_
  rw [Parser.outcome_args, Calls.begin, peek_placeOf hrest]
  rcases rest with _ | ⟨t, rest⟩
  · exact hitems
  have hnext : rest <:+ tokens := (List.suffix_cons t rest).trans hrest
  simp only [List.head?_cons, Option.map_some, Option.some.injEq, forward_placeOf hrest]
  split
  · exact .returned hnext (Nat.lt_succ_self _) .refl
  · exact hitems

end

/-! ### All rules -/

/-- All rules come to what the parser gives wherever tokens are left. They call one another where
fewer tokens are left, or where the same are in the order of the lemmas above. -/
theorem follows {tokens rest : List PlacedToken} (hrest : rest <:+ tokens) :
    Follows tokens rest := by
  induction hlength : rest.length using Nat.strongRecOn generalizing rest with
  | _ n ih =>
      have shorter : ∀ rest', rest' <:+ tokens → rest'.length < rest.length →
          Follows tokens rest' :=
        fun rest' hrest' hlt => ih rest'.length (hlength ▸ hlt) hrest' rfl
      exact
        { expr := fun _ _ => returns_expr shorter hrest
          chain := fun level _ hd => returns_chain shorter hrest hd level
          operand := fun level _ hd => returns_operand shorter hrest hd level
          chainOn := fun level left _ _ _ hlevels => loops_chainOn shorter hrest level left hlevels
          unary := fun _ hd => returns_unary shorter hrest hd
          appliedOn := fun callee _ _ _ hlevels => loops_appliedOn shorter hrest callee hlevels
          args := fun b _ hd => returns_args shorter hrest hd b
          items := fun b _ hd => lists_items shorter hrest hd b }

/-! ### Statements -/

/-- An expression is called behind the name that is assigned to, and what it spells there is the
statement. -/
lemma exists_start_eq (tokens : List PlacedToken) : ∃ rest, rest <:+ tokens ∧
    start tokens = ⟨.called .expr, placeOf tokens rest 0, []⟩ ∧
    parse tokens = (parseExpr (endColumn tokens) rest).map (wrap tokens) := by
  rw [parse.eq_def]
  split
  next name i j rest =>
    refine ⟨rest, ⟨[_, _], rfl⟩, ?_, rfl⟩
    have hplace : placeOf (⟨.ident name, i⟩ :: ⟨.assign, j⟩ :: rest) rest 0 = ⟨2, 0⟩ := by
      simp only [placeOf, List.length_cons]
      congr 1
      omega
    rw [hplace]
    rfl
  next hother =>
    have hassigned : assigned? tokens = none := by
      rw [assigned?.eq_def]
      split
      next name i j rest => exact absurd rfl (hother name i j rest)
      next => rfl
    have hwrap : wrap tokens = .expr := by
      funext e
      rw [wrap, hassigned]
    refine ⟨tokens, List.suffix_rfl, ?_, ?_⟩
    · rw [start, hassigned, placeOf, Nat.sub_self]
      rfl
    · rw [hwrap]

/-- The run from the first moment ends in the statement or the error that the parser gives. -/
lemma exists_conclusion (tokens : List PlacedToken) :
    ∃ c, Reaches tokens (start tokens) c ∧ next tokens c = none ∧
      conclusion? tokens c = some (parse tokens) := by
  obtain ⟨rest, hrest, hstart, hparse⟩ := exists_start_eq tokens
  rw [hstart, hparse, Parser.parseExpr_eq]
  obtain ⟨e, s, stack, ho, hr⟩ | ⟨x, left, hleft, -, ho, hr⟩ :=
    (follows hrest).expr 0 (Nat.zero_le _) []
  · refine ⟨_, hr, rfl, ?_⟩
    rw [ho]
    rfl
  · refine ⟨_, hr, rfl, ?_⟩
    rw [conclusion?, ho, peek_placeOf hleft]
    cases left <;> rfl

/-- The parser finds no fault but those of tokens. -/
lemma syntactic_of_parse_eq_error {tokens : List PlacedToken} {e : SyntaxError}
    (h : parse tokens = .error e) : Syntactic e.fault := by
  obtain ⟨⟨control, place, stack⟩, hrun, -, hconclusion⟩ := exists_conclusion tokens
  rw [h] at hconclusion
  cases balanced_of_reaches hrun with
  | called => exact nomatch hconclusion
  | refused hstack hentry hmax hfault =>
      cases hconclusion
      exact hfault
  | @returned _ _ a _ =>
      cases stack with
      | cons => cases a <;> exact nomatch hconclusion
      | nil =>
          cases a with
          | many => exact nomatch hconclusion
          | one x =>
              rw [conclusion?] at hconclusion
              cases hnext : peek tokens place with
              | none =>
                  rw [hnext] at hconclusion
                  cases hconclusion
              | some t =>
                  rw [hnext] at hconclusion
                  cases hconclusion
                  exact trivial

/-- A run does nothing else than what it does, so where one ends, all moments of it come to. -/
lemma Reaches.to_end {tokens : List PlacedToken} {c c' last : Config}
    (hlast : Reaches tokens c last) (hend : next tokens last = none) (h : Reaches tokens c c') :
    Reaches tokens c' last := by
  have hunique : Relator.RightUnique fun c c' => next tokens c = some c' :=
    fun _ _ _ h h' => Option.some_inj.mp (h.symm.trans h')
  obtain h | h := Relation.ReflTransGen.total_of_right_unique hunique h hlast
  · exact h
  · obtain rfl | ⟨c'', hstep, -⟩ := h.cases_head
    · exact .refl
    · exact nomatch hend.symm.trans hstep

/-- **The parser's calls are balanced, and they end.** At every moment of a run over any tokens the
nesting is at most one above the limit, and so is the number of activations that are nested; no
levels are taken off that are not there; and a call that returns leaves the nesting as it was at its
entry, and is further on. All moments come to one that is the last, with the statement or the error
that the parser gives. -/
theorem calls_balanced_and_finite (tokens : List PlacedToken) :
    (∀ c, Reaches tokens (start tokens) c → Moment tokens c) ∧
      ∃ last, next tokens last = none ∧ conclusion? tokens last = some (parse tokens) ∧
        ∀ c, Reaches tokens (start tokens) c → Reaches tokens c last := by
  obtain ⟨last, hlast, hend, hconclusion⟩ := exists_conclusion tokens
  exact ⟨fun _ h => (balanced_of_reaches h).moment, last, hend, hconclusion,
    fun _ h => hlast.to_end hend h⟩

end LineRepl.Calc.Calls
