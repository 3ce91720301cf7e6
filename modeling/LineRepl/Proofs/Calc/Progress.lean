/-
How far an expression has been read.

Which tokens can come next in an expression is told by little: whether an operand is due, whether
there has been a comparison, and which brackets are open. Expressions are read along such points
without a derivation at hand, so a token that does not lead on from the point that was reached is in
no expression there.

* `Point`: what decides what can come next.
* `Point.next?`: the point behind a token, if the token can come next.
* `Expression.run`: every expression is read from where one is due to behind it.
* `Expression.next?_ne_none`: each token of an expression can come next where it stands.
-/
import LineRepl.Proofs.Calc.Grammar

namespace LineRepl.Calc.Grammar

/-! ### Points -/

/-- What is due: an operand, an operand or the end of the brackets that were just opened, or what
stands behind an operand. -/
inductive Place where
  | operand
  | opened
  | behind

/-- Open brackets: which ones, whether they hold items with commas between them, and whether the
expression around them has had its comparison. -/
structure Enclosure where
  bracket : Bracket
  items : Bool
  compared : Bool

/-- A point inside an expression: what is due there, whether the innermost expression has had its
comparison, and the brackets that are open, from the innermost one outwards. -/
structure Point where
  place : Place
  compared : Bool
  enclosures : List Enclosure

namespace Point

/-- Where an expression is due that nothing is around. -/
def start : Point := ⟨.operand, false, []⟩

/-- The point behind a token that begins an operand. -/
def operand? (p : Point) : Token → Option Point
  | .int _ | .float _ | .str _ | .ident _ => some { p with place := .behind }
  | .minus => some { p with place := .operand }
  | .openParen => some ⟨.operand, false, ⟨.paren, false, p.compared⟩ :: p.enclosures⟩
  | .openBracket => some ⟨.opened, false, ⟨.square, true, p.compared⟩ :: p.enclosures⟩
  | .plus | .star | .slash | .percent | .closeParen | .closeBracket | .comma | .assign | .eq | .ne
  | .lt | .le | .gt | .ge => none

/-- The point behind a token that goes on with an expression: an operator, a comparison if there has
been none, or the parenthesis of an argument list. -/
def extend? (p : Point) : Token → Option Point
  | .plus | .minus | .star | .slash | .percent => some { p with place := .operand }
  | .eq | .ne | .lt | .le | .gt | .ge =>
      if p.compared then none else some ⟨.operand, true, p.enclosures⟩
  | .openParen => some ⟨.opened, false, ⟨.paren, true, p.compared⟩ :: p.enclosures⟩
  | .int _ | .float _ | .str _ | .ident _ | .closeParen | .openBracket | .closeBracket | .comma
  | .assign => none

/-- The point behind a comma between items. -/
def separate? (p : Point) (t : Token) : Option Point :=
  match p.enclosures with
  | [] => none
  | outer :: _ =>
      if outer.items ∧ t = .comma then some ⟨.operand, false, p.enclosures⟩ else none

/-- The point behind the end of the innermost brackets. -/
def close? (p : Point) (t : Token) : Option Point :=
  match p.enclosures with
  | [] => none
  | outer :: others =>
      if t = outer.bracket.close then some ⟨.behind, outer.compared, others⟩ else none

/-- The point behind a token, if the token can come next. -/
def next? (p : Point) (t : Token) : Option Point :=
  match p.place with
  | .operand => p.operand? t
  | .opened => (p.operand? t).or (p.close? t)
  | .behind => (p.extend? t).or ((p.separate? t).or (p.close? t))

/-- The point behind tokens, if each of them can come next. -/
def run (p : Point) (ts : List Token) : Option Point := ts.foldlM next? p

/-! ### Runs -/

section

variable {p q : Point} {t : Token} {ts us : List Token}

lemma run_nil : p.run [] = some p := rfl

lemma run_cons (h : p.next? t = some q) : p.run (t :: ts) = q.run ts := by
  rw [run, List.foldlM_cons, h]
  rfl

/-- Tokens are gone through one after another. -/
lemma run_append (h : p.run ts = some q) : p.run (ts ++ us) = q.run us := by
  rw [run, List.foldlM_append, ← run, h]
  rfl

/-- Tokens do not run where one of them cannot come next. -/
lemma run_append_cons (h : p.run ts = some q) (ht : q.next? t = none) :
    p.run (ts ++ t :: us) = none := by
  rw [run_append h, run, List.foldlM_cons, ht]
  rfl

end

/-! ### Tokens of the rules -/

section

variable {compared : Bool} {outer : List Enclosure}

lemma next?_leaf {t : Token} {e : Expr} (h : leaf? t = some e) :
    next? ⟨.operand, compared, outer⟩ t = some ⟨.behind, compared, outer⟩ := by
  cases t <;> first | rfl | exact nomatch h

/-- Behind an operand an operator of any level is possible. -/
lemma next?_operator {level : Level} {op : BinaryOp} (h : op ∈ level.operators) :
    next? ⟨.behind, compared, outer⟩ op.token = some ⟨.operand, compared, outer⟩ := by
  cases level <;> fin_cases h <;> rfl

/-- A comparison is possible if there is none yet. -/
lemma next?_comparison {op : BinaryOp} (h : op ∈ comparisons) :
    next? ⟨.behind, false, outer⟩ op.token = some ⟨.operand, true, outer⟩ := by
  fin_cases h <;> rfl

/-- A comma is possible among items. -/
lemma next?_comma {b : Bracket} {around : Bool} :
    next? ⟨.behind, compared, ⟨b, true, around⟩ :: outer⟩ .comma =
      some ⟨.operand, false, ⟨b, true, around⟩ :: outer⟩ := rfl

/-- The innermost bracket can be closed behind an operand. -/
lemma next?_close {b : Bracket} {items around : Bool} :
    next? ⟨.behind, compared, ⟨b, items, around⟩ :: outer⟩ b.close =
      some ⟨.behind, around, outer⟩ := by
  cases b <;> cases items <;> rfl

/-- It can be closed at once if nothing is in it. -/
lemma next?_opened_close {b : Bracket} {items around : Bool} :
    next? ⟨.opened, compared, ⟨b, items, around⟩ :: outer⟩ b.close =
      some ⟨.behind, around, outer⟩ := by
  cases b <;> rfl

/-- What begins an operand can come next behind the opening bracket too. -/
lemma next?_opened {t : Token} {q : Point} (h : next? ⟨.operand, compared, outer⟩ t = some q) :
    next? ⟨.opened, compared, outer⟩ t = some q := by
  have hoperand : operand? ⟨.opened, compared, outer⟩ t = some q := by
    cases t <;> exact h
  rw [next?, hoperand, Option.some_or]

/-- What neither begins an operand nor closes the brackets cannot come next in brackets that were
just opened. -/
lemma next?_opened_eq_none {t : Token} (hoperand : operand? ⟨.opened, compared, outer⟩ t = none)
    (hclose : close? ⟨.opened, compared, outer⟩ t = none) :
    next? ⟨.opened, compared, outer⟩ t = none := by
  simp only [next?, hoperand, hclose, Option.or_none]

/-- What does not extend the expression, part items or close the brackets cannot come next behind an
operand. -/
lemma next?_behind_eq_none {t : Token} (hextend : extend? ⟨.behind, compared, outer⟩ t = none)
    (hseparate : separate? ⟨.behind, compared, outer⟩ t = none)
    (hclose : close? ⟨.behind, compared, outer⟩ t = none) :
    next? ⟨.behind, compared, outer⟩ t = none := by
  simp only [next?, hextend, hseparate, hclose, Option.or_none]

/-- What is possible for an operand is possible behind an open bracket. -/
lemma run_opened {t : Token} {ts : List Token} {q : Point}
    (h : run ⟨.operand, compared, outer⟩ (t :: ts) = some q) :
    run ⟨.opened, compared, outer⟩ (t :: ts) = some q := by
  cases hnext : next? ⟨.operand, compared, outer⟩ t with
  | none => simp [run, hnext] at h
  | some p =>
      rw [run_cons hnext] at h
      rwa [run_cons (next?_opened hnext)]

end

end Point

/-! ### The grammar runs -/

section

variable {limit : ℕ}

open Point (next?_close next?_comma next?_comparison next?_leaf next?_opened_close next?_operator
  run_append run_cons run_nil run_opened)

mutual

/-- An expression leads from where one is due to behind it. -/
lemma Expression.run {d : ℕ} {ts : List Token} {e : Expr} (outer : List Enclosure) :
    Expression limit d ts e →
      ∃ compared, Point.run ⟨.operand, false, outer⟩ ts = some ⟨.behind, compared, outer⟩
  | .single _ h => ⟨false, h.run false outer⟩
  | .compare _ hop h h' => by
      refine ⟨true, ?_⟩
      rw [run_append (h.run false outer), run_cons (next?_comparison hop)]
      exact h'.run true outer

/-- Every token of a chain is possible, and an operand is complete behind it. -/
lemma Chain.run {level : Level} {d : ℕ} {ts : List Token} {e : Expr} (compared : Bool)
    (outer : List Enclosure) :
    Chain limit level d ts e →
      Point.run ⟨.operand, compared, outer⟩ ts = some ⟨.behind, compared, outer⟩
  | .mk h h' => by
      rw [run_append (h.run compared outer)]
      exact h'.run compared outer

lemma Operand.run {level : Level} {d : ℕ} {ts : List Token} {e : Expr} (compared : Bool)
    (outer : List Enclosure) :
    Operand limit level d ts e →
      Point.run ⟨.operand, compared, outer⟩ ts = some ⟨.behind, compared, outer⟩
  | .product h => h.run compared outer
  | .signed h => h.run compared outer

/-- So is every token of the operators and their operands. -/
lemma Operations.run {level : Level} {d : ℕ} {ts : List Token} {steps : List (BinaryOp × Expr)}
    (compared : Bool) (outer : List Enclosure) :
    Operations limit level d ts steps →
      Point.run ⟨.behind, compared, outer⟩ ts = some ⟨.behind, compared, outer⟩
  | .nil => run_nil
  | .cons _ hop h h' => by
      rw [run_cons (next?_operator hop), run_append (h.run compared outer)]
      exact h'.run compared outer

lemma Signed.run {d : ℕ} {ts : List Token} {e : Expr} (compared : Bool) (outer : List Enclosure) :
    Signed limit d ts e →
      Point.run ⟨.operand, compared, outer⟩ ts = some ⟨.behind, compared, outer⟩
  | .minus _ h => h.run compared outer
  | .applied h => h.run compared outer

lemma Applied.run {d : ℕ} {ts : List Token} {e : Expr} (compared : Bool) (outer : List Enclosure) :
    Applied limit d ts e →
      Point.run ⟨.operand, compared, outer⟩ ts = some ⟨.behind, compared, outer⟩
  | .mk h h' => by
      rw [run_append (h.run compared outer)]
      exact h'.run compared outer

/-- So is every token of calls. -/
lemma Applications.run {d : ℕ} {ts : List Token} {arguments : List (List Expr)} (compared : Bool)
    (outer : List Enclosure) :
    Applications limit d ts arguments →
      Point.run ⟨.behind, compared, outer⟩ ts = some ⟨.behind, compared, outer⟩
  | .nil => run_nil
  | @Applications.cons _ _ _ us _ _ _ h h' => by
      have harguments := h.run .paren compared outer us
      exact harguments.trans (h'.run compared outer)

/-- Arguments are read with the bracket behind them. -/
lemma Arguments.run {d : ℕ} {ts : List Token} {es : List Expr} (b : Bracket) (compared : Bool)
    (outer : List Enclosure) (us : List Token) :
    Arguments limit d ts es →
      Point.run ⟨.opened, false, ⟨b, true, compared⟩ :: outer⟩ (ts ++ b.close :: us) =
        Point.run ⟨.behind, compared, outer⟩ us
  | .none => run_cons next?_opened_close
  | .some h => by
      obtain ⟨last, hitems⟩ := h.run b compared outer
      -- there are items, so the first step from the bracket is into an operand
      obtain ⟨t, others, rfl, -⟩ := h.begins
      rw [run_append (run_opened hitems), run_cons next?_close]

/-- So is every token of items inside of their bracket. -/
lemma Items.run {d : ℕ} {ts : List Token} {es : List Expr} (b : Bracket) (around : Bool)
    (outer : List Enclosure) :
    Items limit d ts es →
      ∃ compared, Point.run ⟨.operand, false, ⟨b, true, around⟩ :: outer⟩ ts =
        some ⟨.behind, compared, ⟨b, true, around⟩ :: outer⟩
  | .last h => h.run (⟨b, true, around⟩ :: outer)
  | .cons h h' => by
      obtain ⟨first, hfirst⟩ := h.run (⟨b, true, around⟩ :: outer)
      obtain ⟨last, hothers⟩ := h'.run b around outer
      refine ⟨last, ?_⟩
      rw [run_append hfirst, run_cons next?_comma, hothers]

lemma Primary.run {d : ℕ} {ts : List Token} {e : Expr} (compared : Bool) (outer : List Enclosure) :
    Primary limit d ts e →
      Point.run ⟨.operand, compared, outer⟩ ts = some ⟨.behind, compared, outer⟩
  | .int _ | .float _ | .str _ | .var _ => rfl
  | .parens h => by
      obtain ⟨inner, hinner⟩ := h.run (⟨.paren, false, compared⟩ :: outer)
      refine (run_append hinner).trans ?_
      exact run_cons (next?_close (b := .paren))
  | .list h => h.run .square compared outer []

end

/-- Each token of an expression can come next where it stands. -/
lemma Expression.next?_ne_none {d : ℕ} {ts us : List Token} {t : Token} {e : Expr} {p : Point}
    (h : Expression limit d (ts ++ t :: us) e) (hp : Point.start.run ts = some p) :
    p.next? t ≠ none := by
  intro hnone
  obtain ⟨compared, hrun⟩ := h.run []
  have hstuck : Point.start.run (ts ++ t :: us) = none := Point.run_append_cons hp hnone
  rw [Point.start, hrun] at hstuck
  cases hstuck

end

end LineRepl.Calc.Grammar
