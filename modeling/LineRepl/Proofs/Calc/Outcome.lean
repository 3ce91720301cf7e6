/-
The rules of the parser as equations between outcomes.

The parser's functions return, with every tree, the fact that tokens were used up. Here each is told
without that fact, by what the functions below it give.

* `outcome`: a tree and a cursor, or an error.
* `outcome_expr`, `outcome_chain`, …: one equation for each rule.
* `length_of_outcome`: a rule that succeeds leaves fewer tokens.
-/
import LineRepl.Calc.Parser
import Mathlib.Tactic.Common

namespace LineRepl.Calc.Parser

/-- What a rule gives, without what is known about it. -/
def outcome {ε β : Type} {P : β → Prop} (p : Except ε { r : β // P r }) : Except ε β :=
  p.map Subtype.val

/-- What is proved together with a result is true of it. -/
lemma of_outcome_eq_ok {ε β : Type} {P : β → Prop} {p : Except ε { r : β // P r }} {r : β}
    (h : outcome p = .ok r) : P r := by
  cases p with
  | error e => exact nomatch h
  | ok r' =>
      obtain ⟨r', hr'⟩ := r'
      cases h
      exact hr'

/-- A rule that succeeds leaves fewer tokens. -/
lemma length_of_outcome {α : Type} {c c' : Cursor} {p : Parsed α c} {x : α}
    (h : outcome p = .ok (x, c')) : c'.rest.length < c.rest.length :=
  of_outcome_eq_ok (P := fun r : α × Cursor => r.2.rest.length < c.rest.length) h

variable (stop : ℕ)

/-! ### Expressions and chains -/

/-- An expression is one sum or a comparison of two, at a level of its own. -/
lemma outcome_expr (c : Cursor) :
    outcome (expr stop c) =
      if c.depth < maxDepth then
        match outcome (chain stop .sum ⟨c.rest, c.depth + 1⟩) with
        | .error e => .error e
        | .ok (left, ⟨[], d⟩) => .ok (left, ⟨[], d - 1⟩)
        | .ok (left, ⟨t :: rest, d⟩) =>
          match comparison? t.token with
          | none => .ok (left, ⟨t :: rest, d - 1⟩)
          | some op =>
            match outcome (chain stop .sum ⟨rest, d⟩) with
            | .error e => .error e
            | .ok (right, c₂) => .ok (.binary op left right, ⟨c₂.rest, c₂.depth - 1⟩)
      else .error (tooDeep stop c.rest) := by
  rw [expr]
  split
  · rcases chain stop .sum ⟨c.rest, c.depth + 1⟩ with e | ⟨⟨left, ⟨_ | ⟨t, rest⟩, d⟩⟩, h₁⟩
    · rfl
    · rfl
    · simp only [outcome, Except.map]
      rcases comparison? t.token with _ | op
      · rfl
      · rcases chain stop .sum ⟨rest, d⟩ with e | ⟨⟨right, c₂⟩, h₂⟩ <;> rfl
  · rfl

/-- A chain is an operand and the operators behind it. -/
lemma outcome_chain (level : Level) (c : Cursor) :
    outcome (chain stop level c) =
      match outcome (operand stop level c) with
      | .error e => .error e
      | .ok (left, c₁) => outcome (chainTail stop level left 0 c₁) := by
  rw [chain]
  rcases operand stop level c with e | ⟨⟨left, c₁⟩, h₁⟩
  · rfl
  · simp only [outcome, Except.map]
    rcases chainTail stop level left 0 c₁ with e | ⟨r, h₂⟩ <;> rfl

lemma outcome_operand_sum (c : Cursor) :
    outcome (operand stop .sum c) = outcome (chain stop .product c) := by
  rw [operand]

lemma outcome_operand_product (c : Cursor) :
    outcome (operand stop .product c) = outcome (unary stop c) := by
  rw [operand]

/-- Each operator behind an operand takes a level and one operand more. -/
lemma outcome_chainTail (level : Level) (left : Expr) (levels : ℕ) (c : Cursor) :
    outcome (chainTail stop level left levels c) =
      match c.rest with
      | [] => .ok (left, ⟨[], c.depth - levels⟩)
      | t :: rest =>
        match level.operator? t.token with
        | none => .ok (left, ⟨t :: rest, c.depth - levels⟩)
        | some op =>
          if c.depth < maxDepth then
            match outcome (operand stop level ⟨rest, c.depth + 1⟩) with
            | .error e => .error e
            | .ok (right, c₁) =>
              outcome (chainTail stop level (.binary op left right) (levels + 1) c₁)
          else .error (tooDeep stop (t :: rest)) := by
  obtain ⟨_ | ⟨t, rest⟩, d⟩ := c <;> rw [chainTail]
  · rfl
  · simp only
    rcases level.operator? t.token with _ | op
    · rfl
    · simp only
      split
      · rcases operand stop level ⟨rest, d + 1⟩ with e | ⟨⟨right, c₁⟩, h₁⟩
        · rfl
        · simp only [outcome, Except.map]
          rcases chainTail stop level (.binary op left right) (levels + 1) c₁ with e | ⟨r, h₂⟩ <;>
            rfl
      · rfl

/-! ### Signs and calls -/

/-- A minus sign takes a level. -/
lemma outcome_unary (c : Cursor) :
    outcome (unary stop c) =
      match c.rest with
      | [] => outcome (applied stop c)
      | t :: rest =>
        if t.token = .minus then
          if c.depth < maxDepth then
            match outcome (unary stop ⟨rest, c.depth + 1⟩) with
            | .error e => .error e
            | .ok (inner, c₁) => .ok (.neg inner, ⟨c₁.rest, c₁.depth - 1⟩)
          else .error (tooDeep stop rest)
        else outcome (applied stop c) := by
  obtain ⟨_ | ⟨t, rest⟩, d⟩ := c <;> rw [unary]
  simp only
  split
  · split
    · rcases unary stop ⟨rest, d + 1⟩ with e | ⟨⟨inner, c₁⟩, h₁⟩ <;> rfl
    · rfl
  · rfl

lemma outcome_applied (c : Cursor) :
    outcome (applied stop c) =
      match outcome (primary stop c) with
      | .error e => .error e
      | .ok (callee, c₁) => outcome (appliedTail stop callee 0 c₁) := by
  rw [applied]
  rcases primary stop c with e | ⟨⟨callee, c₁⟩, h₁⟩
  · rfl
  · simp only [outcome, Except.map]
    rcases appliedTail stop callee 0 c₁ with e | ⟨r, h₂⟩ <;> rfl

/-- Each call takes a level and its arguments. -/
lemma outcome_appliedTail (callee : Expr) (levels : ℕ) (c : Cursor) :
    outcome (appliedTail stop callee levels c) =
      match c.rest with
      | [] => .ok (callee, ⟨[], c.depth - levels⟩)
      | t :: rest =>
        if t.token = .openParen then
          if c.depth < maxDepth then
            match outcome (args stop .paren ⟨rest, c.depth + 1⟩) with
            | .error e => .error e
            | .ok (arguments, c₁) =>
              outcome (appliedTail stop (.call callee arguments) (levels + 1) c₁)
          else .error (tooDeep stop (t :: rest))
        else .ok (callee, ⟨t :: rest, c.depth - levels⟩) := by
  obtain ⟨_ | ⟨t, rest⟩, d⟩ := c <;> rw [appliedTail]
  · rfl
  · simp only
    split
    · split
      · rcases args stop .paren ⟨rest, d + 1⟩ with e | ⟨⟨arguments, c₁⟩, h₁⟩
        · rfl
        · simp only [outcome, Except.map]
          rcases appliedTail stop (.call callee arguments) (levels + 1) c₁ with e | ⟨r, h₂⟩ <;> rfl
      · rfl
    · rfl

/-! ### Arguments and primaries -/

lemma outcome_args (b : Bracket) (c : Cursor) :
    outcome (args stop b c) =
      match c.rest with
      | [] => outcome (items stop b c)
      | t :: rest =>
        if t.token = b.close then .ok ([], ⟨rest, c.depth⟩) else outcome (items stop b c) := by
  obtain ⟨_ | ⟨t, rest⟩, d⟩ := c <;> rw [args]
  simp only
  split <;> rfl

/-- Items go on at each comma, up to the bracket. -/
lemma outcome_items (b : Bracket) (c : Cursor) :
    outcome (items stop b c) =
      match outcome (expr stop c) with
      | .error e => .error e
      | .ok (_, ⟨[], _⟩) => .error ⟨.expectedClose b, stop⟩
      | .ok (first, ⟨t :: rest, d⟩) =>
        if t.token = .comma then
          match outcome (items stop b ⟨rest, d⟩) with
          | .error e => .error e
          | .ok (others, c₂) => .ok (first :: others, c₂)
        else if t.token = b.close then .ok ([first], ⟨rest, d⟩)
        else .error ⟨.expectedClose b, t.column⟩ := by
  rw [items]
  rcases expr stop c with e | ⟨⟨first, ⟨_ | ⟨t, rest⟩, d⟩⟩, h₁⟩
  · rfl
  · rfl
  · simp only [outcome, Except.map]
    by_cases hcomma : t.token = .comma
    · simp only [hcomma, if_true]
      rcases items stop b ⟨rest, d⟩ with e | ⟨⟨others, c₂⟩, h₂⟩ <;> rfl
    · simp only [hcomma, if_false]
      by_cases hclose : t.token = b.close <;> simp only [hclose, if_true, if_false]

lemma outcome_close (b : Bracket) (c : Cursor) :
    outcome (close stop b c) =
      match c.rest with
      | [] => .error ⟨.expectedClose b, stop⟩
      | t :: rest =>
        if t.token = b.close then .ok ((), ⟨rest, c.depth⟩)
        else .error ⟨.expectedClose b, t.column⟩ := by
  obtain ⟨_ | ⟨t, rest⟩, d⟩ := c <;> rw [close]
  · rfl
  · simp only
    split <;> rfl

/-- An operand is a leaf, an expression in parentheses or a list. -/
lemma outcome_primary (c : Cursor) :
    outcome (primary stop c) =
      match c.rest with
      | [] => .error ⟨.unexpectedEnd, stop⟩
      | t :: rest =>
        match leaf? t.token with
        | some e => .ok (e, ⟨rest, c.depth⟩)
        | none =>
          if t.token = .openParen then
            match outcome (expr stop ⟨rest, c.depth⟩) with
            | .error e => .error e
            | .ok (inner, c₁) =>
              match outcome (close stop .paren c₁) with
              | .error e => .error e
              | .ok (_, c₂) => .ok (inner, c₂)
          else if t.token = .openBracket then
            match outcome (args stop .square ⟨rest, c.depth⟩) with
            | .error e => .error e
            | .ok (members, c₁) => .ok (.list members, c₁)
          else .error ⟨.unexpectedToken t.token, t.column⟩ := by
  obtain ⟨_ | ⟨t, rest⟩, d⟩ := c <;> rw [primary]
  · rfl
  · simp only
    rcases leaf? t.token with _ | e
    · simp only
      split
      · rcases expr stop ⟨rest, d⟩ with e | ⟨⟨inner, c₁⟩, h₁⟩
        · rfl
        · simp only [outcome, Except.map]
          rcases close stop .paren c₁ with e | ⟨⟨_, c₂⟩, h₂⟩ <;> rfl
      · split
        · rcases args stop .square ⟨rest, d⟩ with e | ⟨⟨members, c₁⟩, h₁⟩ <;> rfl
        · rfl
    · rfl

/-! ### Whole expressions -/

/-- All tokens have to be read. -/
lemma parseExpr_eq (tokens : List PlacedToken) :
    parseExpr stop tokens =
      match outcome (expr stop ⟨tokens, 0⟩) with
      | .error e => .error e
      | .ok (x, ⟨[], _⟩) => .ok x
      | .ok (_, ⟨t :: _, _⟩) => .error ⟨.unexpectedToken t.token, t.column⟩ := by
  rw [parseExpr]
  rcases expr stop ⟨tokens, 0⟩ with e | ⟨⟨x, ⟨_ | ⟨t, rest⟩, d⟩⟩, h⟩ <;> rfl

end LineRepl.Calc.Parser
