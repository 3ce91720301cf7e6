/-
Where the rules of the parser report errors.

An error other than too deep a nesting is at the first token that cannot come next, or behind the
last token. More tokens behind those before it would complete what the rule reads.

* `Earliest`: an error is where the tokens that a rule reads become impossible.
* `Rejects`: so are the errors of an outcome.
* `Precise`: all rules of the parser have such outcomes on the given tokens.
* `precise`: they do on all tokens, by induction on their number.
-/
import LineRepl.Proofs.Calc.Extent

open LineRepl.Calc.Parser

namespace LineRepl.Calc.Grammar

open Point (extend? next?_behind_eq_none next?_comma next?_comparison next?_opened_eq_none
  next?_operator run_append run_cons run_nil run_opened)

/-! ### The first impossible token -/

/-- The column of the next token, or `stop` where there is none. -/
def columnAhead (stop : ℕ) (rest : List PlacedToken) : ℕ := (rest.head?.map (·.column)).getD stop

/-- On the tokens `rest` an error is at the first one that cannot come next: the tokens before it
lead on from the point `p`, and with more behind them they are derived by `rule`. Where all tokens
lead on, the error is at the end. -/
def Earliest {α : Type} (stop : ℕ) (rule : List Token → α → Prop) (p : Point)
    (rest : List PlacedToken) (e : SyntaxError) : Prop :=
  ∃ read left q, rest = read ++ left ∧ e.column = columnAhead stop left ∧
    (∃ us x, rule (words read ++ us) x) ∧ p.run (words read) = some q ∧
    Ahead (fun t => q.next? t = none) left

namespace Earliest

variable {α β : Type} {stop : ℕ} {rule : List Token → α → Prop} {rule' : List Token → β → Prop}
  {p q : Point} {rest : List PlacedToken} {e : SyntaxError}

/-- The very next token is impossible. -/
lemma here {us : List Token} {x : α} (hcolumn : e.column = columnAhead stop rest)
    (hrule : rule us x) (hnext : Ahead (fun t => p.next? t = none) rest) :
    Earliest stop rule p rest e :=
  ⟨[], rest, p, rfl, hcolumn, ⟨us, x, hrule⟩, run_nil, hnext⟩

/-- An error behind tokens that were read is one of the rule that they belong to. -/
lemma after (h : Earliest stop rule' q rest e) (front : List PlacedToken)
    (hrun : p.run (words front) = some q)
    (hrule : ∀ ts x, rule' ts x → ∃ y, rule (words front ++ ts) y) :
    Earliest stop rule p (front ++ rest) e := by
  obtain ⟨read, left, q', rfl, hcolumn, ⟨us, x, hx⟩, hread, hnext⟩ := h
  obtain ⟨y, hy⟩ := hrule _ x hx
  refine ⟨front ++ read, left, q', (List.append_assoc _ _ _).symm, hcolumn, ⟨us, y, ?_⟩, ?_, hnext⟩
  · rwa [words_append, List.append_assoc]
  · rw [words_append, run_append hrun, hread]

/-- An error of a rule is one of the rules that it is passed through. -/
lemma mono (h : Earliest stop rule' p rest e) (hrule : ∀ ts x, rule' ts x → ∃ y, rule ts y) :
    Earliest stop rule p rest e :=
  h.after [] run_nil hrule

/-- An error of a rule is one of a rule that begins with it. -/
lemma complete (h : Earliest stop rule' p rest e)
    (hrule : ∀ ts x, rule' ts x → ∃ us y, rule (ts ++ us) y) : Earliest stop rule p rest e := by
  obtain ⟨read, left, q, rfl, hcolumn, ⟨us, x, hx⟩, hread, hnext⟩ := h
  obtain ⟨vs, y, hy⟩ := hrule _ x hx
  rw [List.append_assoc] at hy
  exact ⟨read, left, q, rfl, hcolumn, ⟨us ++ vs, y, hy⟩, hread, hnext⟩

/-- Behind an opening bracket the next token could have been the closing one. -/
lemma opened {b : Bracket} {around : Bool} {outer : List Enclosure}
    (h : Earliest stop rule ⟨.operand, false, ⟨b, true, around⟩ :: outer⟩ rest e)
    (hclose : Ahead (· ≠ b.close) rest) :
    Earliest stop rule ⟨.opened, false, ⟨b, true, around⟩ :: outer⟩ rest e := by
  obtain ⟨read, left, q, rfl, hcolumn, hrule, hread, hnext⟩ := h
  cases read with
  | nil =>
      cases hread
      refine ⟨[], left, _, rfl, hcolumn, hrule, run_nil, fun t ht => ?_⟩
      have hoperand :
          Point.operand? ⟨.opened, false, ⟨b, true, around⟩ :: outer⟩ t.token = none := by
        have hnone := hnext t ht
        cases htoken : t.token <;> rw [htoken] at hnone <;> exact hnone
      have hnotClose : Point.close? ⟨.opened, false, ⟨b, true, around⟩ :: outer⟩ t.token = none :=
        if_neg (hclose t ht)
      exact next?_opened_eq_none hoperand hnotClose
  | cons t read => exact ⟨t :: read, left, q, rfl, hcolumn, hrule, run_opened hread, hnext⟩

end Earliest

/-- The errors of an outcome are at the first token that is impossible, but for those about the
nesting. -/
def Rejects {α β : Type} (stop : ℕ) (rule : List Token → α → Prop) (p : Point)
    (rest : List PlacedToken) (out : Except SyntaxError β) : Prop :=
  ∀ e, out = .error e → e.fault ≠ .nestedTooDeeply → Earliest stop rule p rest e

/-- The rules of the parser report errors among the tokens `rest` where these become impossible.
Operands without signs are no part of this, because they are read only where no minus sign is
next. -/
structure Precise (stop : ℕ) (rest : List PlacedToken) : Prop where
  expr : ∀ d outer, Rejects stop (Expression maxDepth d) ⟨.operand, false, outer⟩ rest
    (outcome (expr stop ⟨rest, d⟩))
  chain : ∀ level d compared outer, Rejects stop (Chain maxDepth level d)
    ⟨.operand, compared, outer⟩ rest (outcome (chain stop level ⟨rest, d⟩))
  operand : ∀ level d compared outer, Rejects stop (Operand maxDepth level d)
    ⟨.operand, compared, outer⟩ rest (outcome (operand stop level ⟨rest, d⟩))
  chainTail : ∀ level left levels d compared outer, Rejects stop (Operations maxDepth level d)
    ⟨.behind, compared, outer⟩ rest (outcome (chainTail stop level left levels ⟨rest, d⟩))
  unary : ∀ d compared outer, Rejects stop (Signed maxDepth d) ⟨.operand, compared, outer⟩ rest
    (outcome (unary stop ⟨rest, d⟩))
  appliedTail : ∀ callee levels d compared outer, Rejects stop (Applications maxDepth d)
    ⟨.behind, compared, outer⟩ rest (outcome (appliedTail stop callee levels ⟨rest, d⟩))
  args : ∀ b d compared outer, Rejects stop (Closed b (Arguments maxDepth d))
    ⟨.opened, false, ⟨b, true, compared⟩ :: outer⟩ rest (outcome (args stop b ⟨rest, d⟩))
  items : ∀ b d compared outer, Rejects stop (Closed b (Items maxDepth d))
    ⟨.operand, false, ⟨b, true, compared⟩ :: outer⟩ rest (outcome (items stop b ⟨rest, d⟩))

/-! ### One rule at a time -/

/-- A bracket is missed at the token ahead. -/
lemma close_eq_error {stop : ℕ} {b : Bracket} {c : Cursor} {e : SyntaxError}
    (h : outcome (close stop b c) = .error e) :
    e.column = columnAhead stop c.rest ∧ Ahead (· ≠ b.close) c.rest := by
  rw [outcome_close] at h
  split at h
  next hrest =>
    cases h
    exact ⟨by rw [hrest]; rfl, hrest ▸ ahead_nil _⟩
  next t rest hrest =>
    split at h
    · cases h
    next hne =>
      cases h
      refine ⟨by rw [hrest]; rfl, ?_⟩
      rw [hrest]
      rintro _ ⟨⟩
      exact hne

/-- Behind an expression in brackets, what does not extend it and is neither a comma nor the closing
bracket is impossible. -/
lemma next?_inside_eq_none {b : Bracket} {items around compared : Bool} {outer : List Enclosure}
    {t : Token} (hextend : extend? ⟨.behind, compared, ⟨b, items, around⟩ :: outer⟩ t = none)
    (hcomma : items = true → t ≠ .comma) (hclose : t ≠ b.close) :
    Point.next? ⟨.behind, compared, ⟨b, items, around⟩ :: outer⟩ t = none := by
  have hseparate : Point.separate? ⟨.behind, compared, ⟨b, items, around⟩ :: outer⟩ t = none :=
    if_neg fun h => hcomma h.1 h.2
  have hnotClose : Point.close? ⟨.behind, compared, ⟨b, items, around⟩ :: outer⟩ t = none :=
    if_neg hclose
  exact next?_behind_eq_none hextend hseparate hnotClose

/-- An expression in parentheses that is not followed by the closing one. -/
lemma earliest_of_close {stop d : ℕ} {compared : Bool} {outer : List Enclosure}
    {rest : List PlacedToken} {inner : Expr} {c₁ : Cursor} {e : SyntaxError}
    (hinner : outcome (expr stop ⟨rest, d⟩) = .ok (inner, c₁))
    (hclosed : outcome (close stop .paren c₁) = .error e) :
    Earliest stop (fun ts x => Primary maxDepth d (.openParen :: ts) x)
      ⟨.operand, false, ⟨.paren, false, compared⟩ :: outer⟩ rest e := by
  obtain ⟨-, read, last, hrest, hread, hrun, hextend⟩ :=
    exists_read_of_expr (⟨.paren, false, compared⟩ :: outer) hinner
  obtain ⟨hcolumn, hclose⟩ := close_eq_error hclosed
  exact ⟨read, c₁.rest, _, hrest, hcolumn, ⟨[.closeParen], inner, .parens hread⟩, hrun,
    fun u hu => next?_inside_eq_none (hextend u hu)
      (fun hitems => absurd hitems Bool.false_ne_true) (hclose u hu)⟩

section

variable {stop : ℕ} {rest : List PlacedToken}
  (shorter : ∀ rest' : List PlacedToken, rest'.length < rest.length → Precise stop rest')

include shorter

/-- The reader of an operand fails at its first impossible token. -/
lemma rejects_primary (d : ℕ) (compared : Bool) (outer : List Enclosure)
    (hminus : Ahead (· ≠ .minus) rest) :
    Rejects stop (Primary maxDepth d) ⟨.operand, compared, outer⟩ rest
      (outcome (primary stop ⟨rest, d⟩)) := by
  intro e ho hfault
  rw [outcome_primary] at ho
  rcases rest with _ | ⟨t, rest⟩
  · cases ho
    exact .here rfl (.int 0) (ahead_nil _)
  simp only at ho
  split at ho
  · cases ho
  next hleaf =>
    split at ho
    next hopen =>
      have hnext : Point.next? ⟨.operand, compared, outer⟩ t.token =
          some ⟨.operand, false, ⟨.paren, false, compared⟩ :: outer⟩ := by
        rw [hopen]
        rfl
      have hgroup (h : Earliest stop (fun ts x => Primary maxDepth d (.openParen :: ts) x)
          ⟨.operand, false, ⟨.paren, false, compared⟩ :: outer⟩ rest e) :
          Earliest stop (Primary maxDepth d) ⟨.operand, compared, outer⟩ (t :: rest) e := by
        refine h.after [t] (run_cons hnext) fun ts x hx => ⟨x, ?_⟩
        rwa [words_cons, hopen]
      split at ho
      next e' hinner =>
        cases ho
        exact hgroup (((shorter rest (by simp)).expr d _ e hinner hfault).complete
          fun ts x hx => ⟨[.closeParen], x, .parens hx⟩)
      next inner c₁ hinner =>
        split at ho
        next e' hclosed =>
          cases ho
          exact hgroup (earliest_of_close hinner hclosed)
        · cases ho
    next hparen =>
      split at ho
      next hopen =>
        have hnext : Point.next? ⟨.operand, compared, outer⟩ t.token =
            some ⟨.opened, false, ⟨.square, true, compared⟩ :: outer⟩ := by
          rw [hopen]
          rfl
        split at ho
        next e' hmembers =>
          cases ho
          refine ((shorter rest (by simp)).args .square d _ _ e hmembers hfault).after
            [t] (run_cons hnext) ?_
          rintro _ x ⟨us, rfl, hx⟩
          rw [words_cons, hopen]
          exact ⟨.list x, .list hx⟩
        · cases ho
      next hbracket =>
        cases ho
        refine .here rfl (.int 0) ?_
        rintro _ ⟨⟩
        exact operand?_eq_none hleaf (hminus t rfl) hparen hbracket

/-- So does the reader of calls. -/
lemma rejects_appliedTail (callee : Expr) (levels d : ℕ) (compared : Bool)
    (outer : List Enclosure) :
    Rejects stop (Applications maxDepth d) ⟨.behind, compared, outer⟩ rest
      (outcome (appliedTail stop callee levels ⟨rest, d⟩)) := by
  intro e ho hfault
  rw [outcome_appliedTail] at ho
  rcases rest with _ | ⟨t, rest⟩
  · cases ho
  simp only at ho
  split at ho
  next hopen =>
    split at ho
    next hd =>
      have hnext : Point.next? ⟨.behind, compared, outer⟩ t.token =
          some ⟨.opened, false, ⟨.paren, true, compared⟩ :: outer⟩ := by
        rw [hopen]
        rfl
      split at ho
      next e' harguments =>
        cases ho
        refine ((shorter rest (by simp)).args .paren (d + 1) _ _ e harguments hfault).after
          [t] (run_cons hnext) ?_
        rintro _ x ⟨us, rfl, hx⟩
        rw [words_cons, hopen]
        exact ⟨[x], .cons hd hx .nil⟩
      next arguments c₁ harguments =>
        obtain ⟨hd₁, read, rfl, us, hus, hread⟩ :=
          (sound stop rest).args .paren (d + 1) _ _ harguments
        have hlt : c₁.rest.length < (t :: (read ++ c₁.rest)).length := by grind
        have hrun : Point.run ⟨.behind, compared, outer⟩ (words (t :: read)) =
            some ⟨.behind, compared, outer⟩ := by
          rw [words_cons, run_cons hnext, hus]
          exact hread.run .paren compared outer []
        refine ((shorter c₁.rest hlt).appliedTail _ _ c₁.depth _ _ e ho hfault).after
          (t :: read) hrun ?_
        intro ts x hx
        rw [hd₁] at hx
        rw [words_cons, hus, hopen, List.cons_append, List.append_assoc]
        exact ⟨arguments :: x, .cons hd hread hx⟩
    · cases ho
      exact absurd rfl hfault
  · cases ho

lemma rejects_applied (d : ℕ) (compared : Bool) (outer : List Enclosure)
    (hminus : Ahead (· ≠ .minus) rest) :
    Rejects stop (Applied maxDepth d) ⟨.operand, compared, outer⟩ rest
      (outcome (applied stop ⟨rest, d⟩)) := by
  intro e ho hfault
  rw [outcome_applied] at ho
  split at ho
  next e' hcallee =>
    cases ho
    refine (rejects_primary shorter d compared outer hminus e hcallee hfault).complete ?_
    exact fun ts x hx => ⟨[], x, .mk hx .nil⟩
  next callee c₁ hcallee =>
    obtain ⟨rfl, read, hrest, hread⟩ := (sound stop rest).primary d _ _ hcallee
    have htail := (shorter c₁.rest (length_of_outcome hcallee)).appliedTail _ _ _ compared outer e
      ho hfault
    rw [hrest]
    exact htail.after read (hread.run compared outer)
      fun ts x hx => ⟨applyAll callee x, .mk hread hx⟩

lemma rejects_unary (d : ℕ) (compared : Bool) (outer : List Enclosure) :
    Rejects stop (Signed maxDepth d) ⟨.operand, compared, outer⟩ rest
      (outcome (unary stop ⟨rest, d⟩)) := by
  have happlied (hminus : Ahead (· ≠ .minus) rest) :
      Rejects stop (Signed maxDepth d) ⟨.operand, compared, outer⟩ rest
        (outcome (applied stop ⟨rest, d⟩)) := by
    intro e ho hfault
    exact (rejects_applied shorter d compared outer hminus e ho hfault).mono
      fun ts x hx => ⟨x, .applied hx⟩
  intro e ho hfault
  rw [outcome_unary] at ho
  rcases rest with _ | ⟨t, rest⟩
  · exact happlied (ahead_nil _) e ho hfault
  simp only at ho
  split at ho
  next hminus =>
    split at ho
    next hd =>
      split at ho
      next e' hinner =>
        cases ho
        have hnext : Point.next? ⟨.operand, compared, outer⟩ t.token =
            some ⟨.operand, compared, outer⟩ := by
          rw [hminus]
          rfl
        refine ((shorter rest (by simp)).unary (d + 1) _ _ e hinner hfault).after [t]
          (run_cons hnext) ?_
        intro ts x hx
        rw [words_cons, hminus]
        exact ⟨.neg x, .minus hd hx⟩
      · cases ho
    · cases ho
      exact absurd rfl hfault
  next hne =>
    refine happlied ?_ e ho hfault
    rintro _ ⟨⟩
    exact hne

/-- So does the reader of operators, at any level. -/
lemma rejects_chainTail (level : Level) (left : Expr) (levels d : ℕ) (compared : Bool)
    (outer : List Enclosure) :
    Rejects stop (Operations maxDepth level d) ⟨.behind, compared, outer⟩ rest
      (outcome (chainTail stop level left levels ⟨rest, d⟩)) := by
  intro e ho hfault
  rw [outcome_chainTail] at ho
  rcases rest with _ | ⟨t, rest⟩
  · cases ho
  simp only at ho
  split at ho
  · cases ho
  next op hop =>
    obtain ⟨hmem, htoken⟩ := operator?_eq_some_iff.mp hop
    have hnext : Point.next? ⟨.behind, compared, outer⟩ t.token =
        some ⟨.operand, compared, outer⟩ := by
      rw [htoken]
      exact next?_operator hmem
    split at ho
    next hd =>
      split at ho
      next e' hright =>
        cases ho
        refine ((shorter rest (by simp)).operand level (d + 1) _ _ e hright hfault).after
          [t] (run_cons hnext) ?_
        intro ts x hx
        have hsteps := Operations.cons hd hmem hx .nil
        rw [List.append_nil] at hsteps
        rw [words_cons, htoken]
        exact ⟨[(op, x)], hsteps⟩
      next right c₁ hright =>
        obtain ⟨hd₁, read, rfl, hread⟩ := (sound stop rest).operand level (d + 1) _ _ hright
        have hlt : c₁.rest.length < (t :: (read ++ c₁.rest)).length := by grind
        have hrun : Point.run ⟨.behind, compared, outer⟩ (words (t :: read)) =
            some ⟨.behind, compared, outer⟩ :=
          (run_cons hnext).trans (hread.run compared outer)
        refine ((shorter c₁.rest hlt).chainTail level _ _ c₁.depth _ _ e ho hfault).after
          (t :: read) hrun ?_
        intro ts x hx
        rw [hd₁] at hx
        rw [words_cons, htoken, List.cons_append]
        exact ⟨(op, right) :: x, .cons hd hmem hread hx⟩
    · cases ho
      exact absurd rfl hfault

/-- The errors of a chain are precise where those of its operands are. -/
lemma rejects_chain_of_operand {level : Level} {d : ℕ} {compared : Bool} {outer : List Enclosure}
    (h : Rejects stop (Operand maxDepth level d) ⟨.operand, compared, outer⟩ rest
      (outcome (operand stop level ⟨rest, d⟩))) :
    Rejects stop (Chain maxDepth level d) ⟨.operand, compared, outer⟩ rest
      (outcome (chain stop level ⟨rest, d⟩)) := by
  intro e ho hfault
  rw [outcome_chain] at ho
  split at ho
  next e' hleft =>
    cases ho
    exact (h e hleft hfault).mono fun ts x hx => ⟨x, hx.chain⟩
  next left c₁ hleft =>
    obtain ⟨rfl, read, hrest, hread⟩ := (sound stop rest).operand level d _ _ hleft
    have htail := (shorter c₁.rest (length_of_outcome hleft)).chainTail level _ _ _ compared outer e
      ho hfault
    rw [hrest]
    exact htail.after read (hread.run compared outer) fun ts x hx => ⟨leanLeft left x, .mk hread hx⟩

lemma rejects_operand (level : Level) (d : ℕ) (compared : Bool) (outer : List Enclosure) :
    Rejects stop (Operand maxDepth level d) ⟨.operand, compared, outer⟩ rest
      (outcome (operand stop level ⟨rest, d⟩)) := by
  have hproduct : Rejects stop (Operand maxDepth .product d) ⟨.operand, compared, outer⟩ rest
      (outcome (operand stop .product ⟨rest, d⟩)) := by
    intro e ho hfault
    rw [outcome_operand_product] at ho
    exact (rejects_unary shorter d compared outer e ho hfault).mono
      fun ts x hx => ⟨x, .signed hx⟩
  cases level with
  | product => exact hproduct
  | sum =>
      intro e ho hfault
      rw [outcome_operand_sum] at ho
      exact (rejects_chain_of_operand shorter hproduct e ho hfault).mono
        fun ts x hx => ⟨x, .product hx⟩

lemma rejects_chain (level : Level) (d : ℕ) (compared : Bool) (outer : List Enclosure) :
    Rejects stop (Chain maxDepth level d) ⟨.operand, compared, outer⟩ rest
      (outcome (chain stop level ⟨rest, d⟩)) :=
  rejects_chain_of_operand shorter (rejects_operand shorter level d compared outer)

/-- So does the reader of an expression, which may compare once. -/
lemma rejects_expr (d : ℕ) (outer : List Enclosure) :
    Rejects stop (Expression maxDepth d) ⟨.operand, false, outer⟩ rest
      (outcome (expr stop ⟨rest, d⟩)) := by
  intro e ho hfault
  rw [outcome_expr] at ho
  split at ho
  next hd =>
    split at ho
    next e' hleft =>
      cases ho
      exact (rejects_chain shorter .sum (d + 1) false outer e hleft hfault).mono
        fun ts x hx => ⟨x, .single hd hx⟩
    · cases ho
    next left t rest₁ d₁ hleft =>
      obtain ⟨hd₁, read, hrest, hread⟩ := (sound stop rest).chain .sum (d + 1) _ _ hleft
      split at ho
      · cases ho
      next op hop =>
        obtain ⟨hmem, htoken⟩ := comparison?_eq_some_iff.mp hop
        split at ho
        next e' hright =>
          cases ho
          have hlt : rest₁.length < rest.length := by simp [hrest]; omega
          have hrun : Point.run ⟨.operand, false, outer⟩ (words (read ++ [t])) =
              some ⟨.operand, true, outer⟩ := by
            rw [words_append, words_cons, htoken, run_append (hread.run false outer)]
            exact run_cons (next?_comparison hmem)
          have hafter := (shorter rest₁ hlt).chain .sum d₁ true outer e hright hfault
          rw [hrest, List.append_cons]
          refine hafter.after (read ++ [t]) hrun fun ts x hx => ?_
          subst hd₁
          rw [words_append, words_cons, htoken, List.append_assoc]
          exact ⟨.binary op left x, .compare hd hmem hread hx⟩
        · cases ho
  · cases ho
    exact absurd rfl hfault

/-- So does the reader of items, up to their bracket. -/
lemma rejects_items (b : Bracket) (d : ℕ) (compared : Bool) (outer : List Enclosure) :
    Rejects stop (Closed b (Items maxDepth d)) ⟨.operand, false, ⟨b, true, compared⟩ :: outer⟩ rest
      (outcome (items stop b ⟨rest, d⟩)) := by
  intro e ho hfault
  rw [outcome_items] at ho
  split at ho
  next e' hfirst =>
    cases ho
    exact (rejects_expr shorter d (⟨b, true, compared⟩ :: outer) e hfirst hfault).complete
      fun ts x hx => ⟨[b.close], [x], ts, rfl, .last hx⟩
  next first d₁ hfirst =>
    obtain ⟨-, read, last, hrest, hread, hrun, -⟩ :=
      exists_read_of_expr (⟨b, true, compared⟩ :: outer) hfirst
    cases ho
    exact ⟨read, [], _, hrest, rfl, ⟨[b.close], [first], words read, rfl, .last hread⟩, hrun,
      ahead_nil _⟩
  next first t rest₁ d₁ hfirst =>
    obtain ⟨rfl, read, last, hrest, hread, hrun, hextend⟩ :=
      exists_read_of_expr (⟨b, true, compared⟩ :: outer) hfirst
    split at ho
    next hcomma =>
      split at ho
      next e' hothers =>
        cases ho
        have hlt : rest₁.length < rest.length := by simp [hrest]; omega
        have hinside : Point.run ⟨.operand, false, ⟨b, true, compared⟩ :: outer⟩
            (words (read ++ [t])) = some ⟨.operand, false, ⟨b, true, compared⟩ :: outer⟩ := by
          rw [words_append, words_cons, hcomma, run_append hrun]
          exact run_cons next?_comma
        have hafter := (shorter rest₁ hlt).items b _ compared outer e hothers hfault
        rw [hrest, List.append_cons]
        refine hafter.after (read ++ [t]) hinside ?_
        rintro _ x ⟨us, rfl, hx⟩
        refine ⟨first :: x, words read ++ .comma :: us, ?_, .cons hread hx⟩
        rw [words_append, words_cons, hcomma, List.append_assoc, List.append_assoc]
        rfl
      · cases ho
    next hcomma =>
      split at ho
      · cases ho
      next hclose =>
        cases ho
        refine ⟨read, t :: rest₁, _, hrest, rfl, ⟨[b.close], [first], words read, rfl, .last hread⟩,
          hrun, ?_⟩
        rintro _ ⟨⟩
        exact next?_inside_eq_none (hextend t rfl) (fun _ => hcomma) hclose

lemma rejects_args (b : Bracket) (d : ℕ) (compared : Bool) (outer : List Enclosure) :
    Rejects stop (Closed b (Arguments maxDepth d))
      ⟨.opened, false, ⟨b, true, compared⟩ :: outer⟩ rest (outcome (args stop b ⟨rest, d⟩)) := by
  have hitems (hclose : Ahead (· ≠ b.close) rest) : Rejects stop (Closed b (Arguments maxDepth d))
      ⟨.opened, false, ⟨b, true, compared⟩ :: outer⟩ rest (outcome (items stop b ⟨rest, d⟩)) := by
    intro e ho hfault
    refine ((rejects_items shorter b d compared outer e ho hfault).opened hclose).mono ?_
    rintro _ x ⟨us, rfl, hx⟩
    exact ⟨x, us, rfl, .some hx⟩
  intro e ho hfault
  rw [outcome_args] at ho
  rcases rest with _ | ⟨t, rest⟩
  · exact hitems (ahead_nil _) e ho hfault
  simp only at ho
  split at ho
  · cases ho
  next hne =>
    refine hitems ?_ e ho hfault
    rintro _ ⟨⟩
    exact hne

end

/-! ### All rules -/

/-- Errors are at the first impossible token, on all tokens. -/
theorem precise (stop : ℕ) (rest : List PlacedToken) : Precise stop rest := by
  induction h : rest.length using Nat.strongRecOn generalizing rest with
  | _ n ih =>
      have shorter : ∀ rest' : List PlacedToken, rest'.length < rest.length → Precise stop rest' :=
        fun rest' hlt => ih rest'.length (h ▸ hlt) rest' rfl
      exact
        { expr := rejects_expr shorter
          chain := rejects_chain shorter
          operand := rejects_operand shorter
          chainTail := rejects_chainTail shorter
          unary := rejects_unary shorter
          appliedTail := rejects_appliedTail shorter
          args := rejects_args shorter
          items := rejects_items shorter }

end LineRepl.Calc.Grammar
