/-
Syntax errors of lines.

* `Viable`: the tokens are a line or the beginning of one.
* `FirstImpossible`: with the token at the place, and not before, they are no longer.
* `parse_error_earliest`: a line that is rejected, but not for its nesting, is rejected there.
-/
import LineRepl.Proofs.Calc.Rejection

open LineRepl.Calc.Parser

namespace LineRepl.Calc.Grammar

/-! ### Places in a line -/

/-- The tokens are a line or the beginning of one. -/
def Viable (limit : ℕ) (ts : List Token) : Prop := ∃ us s, Line limit (ts ++ us) s

/-- The column of the token at the place. A place behind all tokens has the column after that of
the last one, or the first column if there are none. -/
def columnAt (tokens : List PlacedToken) (k : ℕ) : ℕ :=
  match tokens[k]?, tokens.getLast? with
  | some t, _ => t.column
  | none, some last => last.column + 1
  | none, none => 1

/-- This is the column that the parser reports. -/
lemma columnAt_eq (tokens : List PlacedToken) (k : ℕ) :
    columnAt tokens k = (tokens[k]?.map (·.column)).getD (endColumn tokens) := by
  rw [columnAt, endColumn]
  cases tokens[k]? <;> cases tokens.getLast? <;> rfl

/-- The parser reports errors at the token that it has come to, or where the line ends. -/
lemma columnAt_length (front left : List PlacedToken) :
    columnAt (front ++ left) front.length = columnAhead (endColumn (front ++ left)) left := by
  rw [columnAt_eq, List.getElem?_append_right le_rfl, Nat.sub_self, ← List.head?_eq_getElem?]
  rfl

/-- The tokens before the place are a line or the beginning of one, and with the token at the place
they are not, at whatever limit. The place may be behind all tokens. -/
structure FirstImpossible (tokens : List PlacedToken) (k : ℕ) : Prop where
  le_length : k ≤ tokens.length
  viable : Viable maxDepth (words (tokens.take k))
  impossible : k < tokens.length → ∀ limit, ¬Viable limit (words (tokens.take (k + 1)))

/-! ### Expressions in lines -/

/-- A fault of an expression, which is none of its depth, is at its first impossible token. -/
lemma earliest_of_parseExpr {stop : ℕ} {tokens : List PlacedToken} {e : SyntaxError}
    (h : parseExpr stop tokens = .error e) (hfault : e.fault ≠ .nestedTooDeeply) :
    Earliest stop (Expression maxDepth 0) .start tokens e := by
  rw [parseExpr] at h
  split at h
  next e' hexpr =>
    cases h
    exact (precise stop tokens).expr 0 [] e (by rw [hexpr]; rfl) hfault
  next x c hlt hexpr =>
    have hok : outcome (expr stop ⟨tokens, 0⟩) = .ok (x, c) := by
      rw [hexpr]
      rfl
    obtain ⟨-, read, compared, hrest, hread, hrun, hextend⟩ := exists_read_of_expr [] hok
    split at h
    · cases h
    next t left hleft =>
      cases h
      rw [hleft] at hrest hextend
      refine ⟨read, t :: left, _, hrest, rfl, ⟨[], x, ?_⟩, hrun, ?_⟩
      · rwa [List.append_nil]
      · rintro _ ⟨⟩
        exact Point.next?_behind_eq_none (hextend t rfl) rfl rfl

/-- The first impossible token of an expression is that of the line that it is the rest of. -/
lemma Earliest.exists_firstImpossible (first : List PlacedToken) {rest : List PlacedToken}
    {e : SyntaxError}
    (h : Earliest (endColumn (first ++ rest)) (Expression maxDepth 0) .start rest e)
    (hline : ∀ ts x, Expression maxDepth 0 ts x → ∃ s, Line maxDepth (words first ++ ts) s)
    (hstuck : ∀ read t left p, rest = read ++ t :: left → Point.start.run (words read) = some p →
      p.next? t.token = none →
      ∀ limit us s, ¬Line limit (words first ++ (words read ++ t.token :: us)) s) :
    ∃ k, FirstImpossible (first ++ rest) k ∧ e.column = columnAt (first ++ rest) k := by
  obtain ⟨read, left, p, rfl, hcolumn, ⟨us, x, hx⟩, hread, hnext⟩ := h
  rw [← List.append_assoc] at hcolumn ⊢
  refine ⟨(first ++ read).length, ⟨by simp, ?_, ?_⟩, by rw [hcolumn, columnAt_length]⟩
  · obtain ⟨s, hs⟩ := hline _ x hx
    refine ⟨us, s, ?_⟩
    rwa [List.take_left, words_append, List.append_assoc]
  · intro hlt limit hviable
    cases left with
    | nil => simp at hlt
    | cons t left =>
        obtain ⟨vs, s, hs⟩ := hviable
        rw [List.take_length_add_append, List.take_one, List.head?_cons, Option.toList_some,
          words_append, words_append, List.append_assoc, List.append_assoc] at hs
        exact hstuck read t left p rfl hread (hnext t rfl) limit vs s hs

section

variable {limit : ℕ} {ts us : List Token} {t : Token} {p : Point} {s : Statement}

/-- The tokens behind a name and an assignment sign are those of an expression. -/
lemma Line.next?_ne_none_of_assign {name : String}
    (h : Line limit (.ident name :: .assign :: (ts ++ t :: us)) s)
    (hp : Point.start.run ts = some p) : p.next? t ≠ none := by
  cases h with
  | expr h => exact absurd (by simp) h.assign_notMem
  | assign _ h => exact h.next?_ne_none hp

/-- Where no name with an assignment sign behind it is at the front, the tokens are those of an
expression. What stands behind the token may be anything else than in the line. -/
lemma Line.next?_ne_none (left : List Token) (h : Line limit (ts ++ t :: us) s)
    (hother : ∀ name vs, ts ++ t :: left ≠ .ident name :: .assign :: vs)
    (hp : Point.start.run ts = some p) : p.next? t ≠ none := by
  generalize hline : ts ++ t :: us = line at h
  cases h with
  | expr h =>
      subst hline
      exact h.next?_ne_none hp
  | assign name h =>
      rcases ts with _ | ⟨u, _ | ⟨v, ts⟩⟩
      · cases hline
        cases hp
        exact Option.some_ne_none _
      · cases hline
        exact absurd rfl (hother name left)
      · cases hline
        exact absurd rfl (hother name (ts ++ t :: left))

end

/-! ### Rejected lines -/

/-- **Syntax errors point at the earliest impossible token.** Where a line is rejected, but not for
its nesting, the column is that of the first token that no line of the grammar has there, or the one
behind the last token if there is no such token. -/
theorem parse_error_earliest {tokens : List PlacedToken} {e : SyntaxError}
    (h : parse tokens = .error e) (hfault : e.fault ≠ .nestedTooDeeply) :
    ∃ k, FirstImpossible tokens k ∧ e.column = columnAt tokens k := by
  rw [parse.eq_def] at h
  split at h
  next name i j rest =>
    rcases hrest : parseExpr _ rest with e' | x <;> rw [hrest] at h <;> cases h
    have hearliest := earliest_of_parseExpr hrest hfault
    refine Earliest.exists_firstImpossible [⟨.ident name, i⟩, ⟨.assign, j⟩] hearliest
      (fun ts x hx => ⟨_, .assign name hx⟩) ?_
    intro read t left p _ hread hnone limit us s hline
    exact hline.next?_ne_none_of_assign hread hnone
  next hother =>
    rcases hrest : parseExpr _ tokens with e' | x <;> rw [hrest] at h <;> cases h
    have hearliest := earliest_of_parseExpr hrest hfault
    refine Earliest.exists_firstImpossible [] hearliest (fun ts x hx => ⟨_, .expr hx⟩) ?_
    intro read t left p htokens hread hnone limit us s hline
    refine Line.next?_ne_none (words left) hline (fun name vs hwords => ?_) hread hnone
    rw [← words_cons, ← words_append, ← htokens] at hwords
    obtain ⟨⟨_, i⟩, others, rfl, rfl, hothers⟩ := words_eq_cons hwords
    obtain ⟨⟨_, j⟩, others, rfl, rfl, -⟩ := words_eq_cons hothers
    exact hother name i j others rfl

/-- The tokens of a line with a comparison too many. -/
def compared : List PlacedToken := [⟨.int 1, 1⟩, ⟨.lt, 2⟩, ⟨.int 2, 3⟩, ⟨.lt, 4⟩, ⟨.int 3, 5⟩]

/-- The tokens of a line that ends behind an operator. -/
def unfinished : List PlacedToken := [⟨.int 1, 1⟩, ⟨.plus, 3⟩]

/-- A second comparison is impossible behind the first one. In a line that is not finished every
token is possible, and the place behind them is reported. -/
theorem parse_error_compared_and_unfinished :
    (parse compared = .error ⟨.unexpectedToken .lt, 4⟩ ∧
      SyntaxFault.unexpectedToken .lt ≠ .nestedTooDeeply ∧ FirstImpossible compared 3 ∧
      columnAt compared 3 = 4) ∧
    parse unfinished = .error ⟨.unexpectedEnd, 4⟩ ∧
      SyntaxFault.unexpectedEnd ≠ .nestedTooDeeply ∧ FirstImpossible unfinished 2 ∧
      columnAt unfinished 2 = 4 := by
  have hcompared : parse compared = .error ⟨.unexpectedToken .lt, 4⟩ := by
    cbv
  have hunfinished : parse unfinished = .error ⟨.unexpectedEnd, 4⟩ := by
    cbv
  have hlt : SyntaxFault.unexpectedToken .lt ≠ .nestedTooDeeply := by decide
  have hend : SyntaxFault.unexpectedEnd ≠ .nestedTooDeeply := by decide
  obtain ⟨k, hk, hcolumn⟩ := parse_error_earliest hcompared hlt
  obtain ⟨l, hl, hcolumn'⟩ := parse_error_earliest hunfinished hend
  -- in either line only one place has the column
  have hplace : ∀ k ≤ 5, 4 = columnAt compared k → k = 3 := by decide
  have hplace' : ∀ l ≤ 2, 4 = columnAt unfinished l → l = 2 := by decide
  obtain rfl := hplace k hk.le_length hcolumn
  obtain rfl := hplace' l hl.le_length hcolumn'
  exact ⟨⟨hcompared, hlt, hk, hcolumn.symm⟩, hunfinished, hend, hl, hcolumn'.symm⟩

end LineRepl.Calc.Grammar
