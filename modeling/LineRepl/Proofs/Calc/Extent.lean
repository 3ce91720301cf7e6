/-
How far the rules of the parser read.

A rule ends only where the next token cannot go on with it. For an expression that depends on what
was read: behind a comparison there is no other one.

* `ends_chain`: no chain goes on where the parser ends it.
* `exists_read_of_expr`: an expression is read up to a token that does not extend it.
-/
import LineRepl.Proofs.Calc.Completeness
import LineRepl.Proofs.Calc.Progress

open LineRepl.Calc.Parser

namespace LineRepl.Calc.Grammar

open Point (extend? next?_comparison run_append run_cons)

/-! ### Where rules end -/

section

variable {stop : ℕ} {c c' : Cursor} {e : Expr} {level : Level}

/-- No argument list follows where the argument lists end. -/
lemma ends_appliedTail {callee : Expr} {levels : ℕ}
    (h : outcome (appliedTail stop callee levels c) = .ok (e, c')) :
    Ahead (· ≠ .openParen) c'.rest := by
  induction hn : c.rest.length using Nat.strong_induction_on generalizing callee levels c with
  | _ n ih =>
      rw [outcome_appliedTail] at h
      split at h
      · cases h
        exact ahead_nil _
      next t rest hrest =>
        split at h
        · split at h
          · split at h
            · cases h
            next arguments c₁ harguments =>
              have hlt : c₁.rest.length < rest.length := length_of_outcome harguments
              exact ih c₁.rest.length (by rw [← hn, hrest, List.length_cons]; omega) h rfl
          · cases h
        next hne =>
          cases h
          rintro _ ⟨⟩
          exact hne

/-- Behind an operand and its calls no parenthesis opens. -/
lemma ends_applied (h : outcome (applied stop c) = .ok (e, c')) :
    Ahead (· ≠ .openParen) c'.rest := by
  rw [outcome_applied] at h
  split at h
  · cases h
  · exact ends_appliedTail h

/-- Nor does one behind a signed operand. -/
lemma ends_unary {rest : List PlacedToken} {d : ℕ}
    (h : outcome (unary stop ⟨rest, d⟩) = .ok (e, c')) : Ahead (· ≠ .openParen) c'.rest := by
  induction rest generalizing d e c' with
  | nil =>
      rw [outcome_unary] at h
      exact ends_applied h
  | cons t rest ih =>
      rw [outcome_unary] at h
      simp only at h
      split at h
      · split at h
        · split at h
          · cases h
          next inner c₁ hinner =>
            have hends : Ahead (· ≠ .openParen) c₁.rest := ih hinner
            cases h
            exact hends
        · cases h
      · exact ends_applied h

/-- A chain ends where its operators do, if its operands end where they do. -/
lemma ends_chainTail {left : Expr} {levels : ℕ}
    (hoperand : ∀ c c' e, outcome (operand stop level c) = .ok (e, c') →
      Ahead (EndsOperand level) c'.rest)
    (hc : Ahead (EndsOperand level) c.rest)
    (h : outcome (chainTail stop level left levels c) = .ok (e, c')) :
    Ahead (EndsChain level) c'.rest := by
  induction hn : c.rest.length using Nat.strong_induction_on generalizing left levels c with
  | _ n ih =>
      rw [outcome_chainTail] at h
      split at h
      · cases h
        exact ahead_nil _
      next t rest hrest =>
        split at h
        next hnone =>
          cases h
          rintro _ ⟨⟩
          exact ⟨hc t (by rw [hrest]; rfl), hnone⟩
        · split at h
          · split at h
            · cases h
            next right c₁ hright =>
              have hlt : c₁.rest.length < rest.length := length_of_outcome hright
              exact ih c₁.rest.length (by rw [← hn, hrest, List.length_cons]; omega)
                (hoperand _ _ _ hright) h rfl
          · cases h

/-- A chain ends where its last operand does and no operator of its level comes. -/
lemma ends_chain_of_operand
    (hoperand : ∀ c c' e, outcome (operand stop level c) = .ok (e, c') →
      Ahead (EndsOperand level) c'.rest)
    (h : outcome (chain stop level c) = .ok (e, c')) : Ahead (EndsChain level) c'.rest := by
  rw [outcome_chain] at h
  split at h
  · cases h
  next left c₁ hleft => exact ends_chainTail hoperand (hoperand _ _ _ hleft) h

/-- An operand ends before a token that no operand of its level goes on with. -/
lemma ends_operand (h : outcome (operand stop level c) = .ok (e, c')) :
    Ahead (EndsOperand level) c'.rest := by
  have hproduct (c c' : Cursor) (e : Expr) (h : outcome (operand stop .product c) = .ok (e, c')) :
      Ahead (EndsOperand .product) c'.rest := by
    rw [outcome_operand_product] at h
    exact ends_unary h
  cases level with
  | product => exact hproduct c c' e h
  | sum =>
      rw [outcome_operand_sum] at h
      exact ends_chain_of_operand hproduct h

/-- No chain goes on where it ends. -/
lemma ends_chain (h : outcome (chain stop level c) = .ok (e, c')) :
    Ahead (EndsChain level) c'.rest :=
  ends_chain_of_operand (fun _ _ _ => ends_operand) h

end

/-! ### What cannot come next -/

section

variable {compared : Bool} {outer : List Enclosure} {t : Token}

/-- A token that starts no operand cannot stand for one. -/
lemma operand?_eq_none {p : Point} (hleaf : leaf? t = none) (hminus : t ≠ .minus)
    (hparen : t ≠ .openParen) (hbracket : t ≠ .openBracket) : p.operand? t = none := by
  cases t <;> first | rfl | contradiction

/-- What ends a chain may be a comparison, but that is no use behind a comparison. -/
lemma extend?_eq_none (h : EndsChain .sum t) (hcompared : compared = true ∨ comparison? t = none) :
    extend? ⟨.behind, compared, outer⟩ t = none := by
  obtain ⟨⟨hparen, hproduct⟩, hsum⟩ := h
  rcases hcompared with rfl | hcomparison
  · cases t <;> first | rfl | contradiction
  · cases t <;> first | rfl | contradiction

end

/-- An expression is read up to a token that does not extend it. -/
lemma exists_read_of_expr {stop d : ℕ} {rest : List PlacedToken} {e : Expr} {c' : Cursor}
    (outer : List Enclosure) (h : outcome (expr stop ⟨rest, d⟩) = .ok (e, c')) :
    c'.depth = d ∧ ∃ read compared, rest = read ++ c'.rest ∧
      Expression maxDepth d (words read) e ∧
      Point.run ⟨.operand, false, outer⟩ (words read) = some ⟨.behind, compared, outer⟩ ∧
      Ahead (fun t => extend? ⟨.behind, compared, outer⟩ t = none) c'.rest := by
  rw [outcome_expr] at h
  split at h
  next hd =>
    split at h
    · cases h
    next left d₁ hleft =>
      obtain ⟨hd₁, read, hrest, hread⟩ := (sound stop rest).chain .sum (d + 1) _ _ hleft
      cases h
      exact ⟨by simp_all, read, false, hrest, .single hd hread, hread.run false outer, ahead_nil _⟩
    next left t rest₁ d₁ hleft =>
      obtain ⟨hd₁, read, hrest, hread⟩ := (sound stop rest).chain .sum (d + 1) _ _ hleft
      have hends := ends_chain hleft
      split at h
      next hnone =>
        cases h
        refine ⟨by simp_all, read, false, hrest, .single hd hread, hread.run false outer, ?_⟩
        rintro _ ⟨⟩
        exact extend?_eq_none (hends t rfl) (.inr hnone)
      next op hop =>
        obtain ⟨hmem, htoken⟩ := comparison?_eq_some_iff.mp hop
        split at h
        · cases h
        next right c₂ hright =>
          obtain ⟨hd₂, read₂, hrest₂, hread₂⟩ := (sound stop rest₁).chain .sum d₁ _ _ hright
          cases h
          subst hd₁
          refine ⟨by simp [hd₂], read ++ t :: read₂, true, by simp [hrest, hrest₂], ?_, ?_, ?_⟩
          · rw [words_append, words_cons, htoken]
            exact .compare hd hmem hread hread₂
          · rw [words_append, words_cons, htoken, run_append (hread.run false outer),
              run_cons (next?_comparison hmem), hread₂.run true outer]
          · exact (ends_chain hright).mono fun u hu => extend?_eq_none hu (.inl rfl)
  · cases h

end LineRepl.Calc.Grammar
