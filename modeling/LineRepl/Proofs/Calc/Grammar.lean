/-
The grammar of expression lines, as a relation between tokens and trees.

    line    := IDENT '=' expr | expr
    expr    := sum (comparison sum)?
    sum     := product (('+' | '-') product)*
    product := signed (('*' | '/' | '%') signed)*
    signed  := '-' signed | applied
    applied := primary ('(' args? ')')*
    primary := INT | FLOAT | STRING | IDENT | '(' expr ')' | '[' args? ']'
    args    := expr (',' expr)*

Every rule carries the count of nesting that its tokens are read at, and no derivation raises that
count above `limit`. An expression raises it by one. An operator of a sum or a product raises it by
one from there to the end of its own chain, a minus sign for its operand, and an argument list from
there to the end of the argument lists.

* `Line`: what is a line, and the statement it spells.
* `Expression.begins`: a few tokens only can begin an expression.
* `Expression.assign_notMem`: no expression has an assignment sign.
-/
import LineRepl.Calc.Parser
import Mathlib.Tactic.Common
import Mathlib.Tactic.FinCases

namespace LineRepl.Calc

/-- The token that an operator is written as. -/
def BinaryOp.token : BinaryOp → Token
  | .add => .plus
  | .sub => .minus
  | .mul => .star
  | .div => .slash
  | .rem => .percent
  | .eq => .eq
  | .ne => .ne
  | .lt => .lt
  | .le => .le
  | .gt => .gt
  | .ge => .ge

/-- The operators of a level. -/
def Level.operators : Level → List BinaryOp
  | .sum => [.add, .sub]
  | .product => [.mul, .div, .rem]

namespace Grammar

/-- The operators of which an expression has one at most. -/
def comparisons : List BinaryOp := [.eq, .ne, .lt, .le, .gt, .ge]

/-- The tree of a chain of operators, which leans to the left. -/
def leanLeft (first : Expr) (steps : List (BinaryOp × Expr)) : Expr :=
  steps.foldl (fun left step => .binary step.1 left step.2) first

/-- The tree of a callee with argument lists after it, which leans to the left too. -/
def applyAll (callee : Expr) (arguments : List (List Expr)) : Expr :=
  arguments.foldl .call callee

@[simp] lemma leanLeft_nil (first : Expr) : leanLeft first [] = first := rfl

@[simp] lemma leanLeft_cons (first e : Expr) (op : BinaryOp) (steps : List (BinaryOp × Expr)) :
    leanLeft first ((op, e) :: steps) = leanLeft (.binary op first e) steps := rfl

@[simp] lemma applyAll_nil (callee : Expr) : applyAll callee [] = callee := rfl

@[simp] lemma applyAll_cons (callee : Expr) (es : List Expr) (arguments : List (List Expr)) :
    applyAll callee (es :: arguments) = applyAll (.call callee es) arguments := rfl

/-! ### The rules -/

section

variable (limit : ℕ)

mutual

/-- A sum, or two with a comparison between them. -/
inductive Expression : ℕ → List Token → Expr → Prop where
  | single {d : ℕ} {ts : List Token} {e : Expr} :
      d < limit → Chain .sum (d + 1) ts e → Expression d ts e
  | compare {d : ℕ} {ts us : List Token} {left right : Expr} {op : BinaryOp} :
      d < limit → op ∈ comparisons → Chain .sum (d + 1) ts left → Chain .sum (d + 1) us right →
      Expression d (ts ++ op.token :: us) (.binary op left right)

/-- Operands of a level with its operators between them. -/
inductive Chain : Level → ℕ → List Token → Expr → Prop where
  | mk {level : Level} {d : ℕ} {ts us : List Token} {first : Expr}
      {steps : List (BinaryOp × Expr)} :
      Operand level d ts first → Operations level d us steps →
      Chain level d (ts ++ us) (leanLeft first steps)

/-- The operands of a sum are products, and those of a product may have a sign. -/
inductive Operand : Level → ℕ → List Token → Expr → Prop where
  | product {d : ℕ} {ts : List Token} {e : Expr} : Chain .product d ts e → Operand .sum d ts e
  | signed {d : ℕ} {ts : List Token} {e : Expr} : Signed d ts e → Operand .product d ts e

/-- The operators of a chain, each with its right operand. Each raises the count for all that
comes after it in the chain. -/
inductive Operations : Level → ℕ → List Token → List (BinaryOp × Expr) → Prop where
  | nil {level : Level} {d : ℕ} : Operations level d [] []
  | cons {level : Level} {d : ℕ} {ts us : List Token} {op : BinaryOp} {e : Expr}
      {steps : List (BinaryOp × Expr)} :
      d < limit → op ∈ level.operators → Operand level (d + 1) ts e →
      Operations level (d + 1) us steps →
      Operations level d (op.token :: (ts ++ us)) ((op, e) :: steps)

/-- A primary with its argument lists, behind any number of minus signs. -/
inductive Signed : ℕ → List Token → Expr → Prop where
  | minus {d : ℕ} {ts : List Token} {e : Expr} :
      d < limit → Signed (d + 1) ts e → Signed d (.minus :: ts) (.neg e)
  | applied {d : ℕ} {ts : List Token} {e : Expr} : Applied d ts e → Signed d ts e

/-- A primary with the argument lists that follow it. -/
inductive Applied : ℕ → List Token → Expr → Prop where
  | mk {d : ℕ} {ts us : List Token} {callee : Expr} {arguments : List (List Expr)} :
      Primary d ts callee → Applications d us arguments →
      Applied d (ts ++ us) (applyAll callee arguments)

/-- Argument lists in parentheses. Each raises the count for itself and for those after it. -/
inductive Applications : ℕ → List Token → List (List Expr) → Prop where
  | nil {d : ℕ} : Applications d [] []
  | cons {d : ℕ} {ts us : List Token} {es : List Expr} {arguments : List (List Expr)} :
      d < limit → Arguments (d + 1) ts es → Applications (d + 1) us arguments →
      Applications d (.openParen :: (ts ++ .closeParen :: us)) (es :: arguments)

/-- What stands between brackets: expressions, or nothing. -/
inductive Arguments : ℕ → List Token → List Expr → Prop where
  | none {d : ℕ} : Arguments d [] []
  | some {d : ℕ} {ts : List Token} {es : List Expr} : Items d ts es → Arguments d ts es

/-- Expressions, at least one, with commas between them. -/
inductive Items : ℕ → List Token → List Expr → Prop where
  | last {d : ℕ} {ts : List Token} {e : Expr} : Expression d ts e → Items d ts [e]
  | cons {d : ℕ} {ts us : List Token} {e : Expr} {es : List Expr} :
      Expression d ts e → Items d us es → Items d (ts ++ .comma :: us) (e :: es)

/-- A literal, a name, an expression in parentheses, which leave no trace in the tree, or a
list. -/
inductive Primary : ℕ → List Token → Expr → Prop where
  | int {d : ℕ} (n : Int64) : Primary d [.int n] (.int n)
  | float {d : ℕ} (x : Binary64) : Primary d [.float x] (.float x)
  | str {d : ℕ} (s : String) : Primary d [.str s] (.str s)
  | var {d : ℕ} (name : String) : Primary d [.ident name] (.var name)
  | parens {d : ℕ} {ts : List Token} {e : Expr} :
      Expression d ts e → Primary d (.openParen :: (ts ++ [.closeParen])) e
  | list {d : ℕ} {ts : List Token} {es : List Expr} :
      Arguments d ts es → Primary d (.openBracket :: (ts ++ [.closeBracket])) (.list es)

end

/-- An expression, or a name with an expression to bind it to. The count starts at zero. -/
inductive Line : List Token → Statement → Prop where
  | expr {ts : List Token} {e : Expr} : Expression limit 0 ts e → Line ts (.expr e)
  | assign {ts : List Token} {e : Expr} (name : String) :
      Expression limit 0 ts e → Line (.ident name :: .assign :: ts) (.assign name e)

end

/-! ### Rules that are passed through -/

section

variable {limit d : ℕ} {ts : List Token} {e : Expr}

/-- One operand is a chain. -/
lemma Operand.chain {level : Level} (h : Operand limit level d ts e) :
    Chain limit level d ts e := by
  have hchain := Chain.mk h .nil
  rwa [List.append_nil] at hchain

/-- An operand with its signs is an operand of either level. -/
lemma Signed.operand (level : Level) (h : Signed limit d ts e) : Operand limit level d ts e := by
  cases level with
  | product => exact .signed h
  | sum => exact .product (Operand.signed h).chain

/-- A signed operand is an expression. -/
lemma Signed.expression (hd : d < limit) (h : Signed limit (d + 1) ts e) :
    Expression limit d ts e :=
  .single hd (h.operand .sum).chain

/-- An operand without signs and calls is a signed one. -/
lemma Primary.signed (h : Primary limit d ts e) : Signed limit d ts e := by
  have happlied := Applied.mk h .nil
  rw [List.append_nil] at happlied
  exact .applied happlied

/-- A primary that stands alone is an operand of either level. -/
lemma Primary.operand (level : Level) (h : Primary limit d ts e) : Operand limit level d ts e :=
  h.signed.operand level

/-- A primary that stands alone is an expression. -/
lemma Primary.expression (hd : d < limit) (h : Primary limit (d + 1) ts e) :
    Expression limit d ts e :=
  h.signed.expression hd

end

/-! ### Tokens -/

/-- The tokens without their columns. -/
def words (tokens : List PlacedToken) : List Token := tokens.map (·.token)

lemma words_cons (t : PlacedToken) (tokens : List PlacedToken) :
    words (t :: tokens) = t.token :: words tokens := rfl

lemma words_append (tokens others : List PlacedToken) :
    words (tokens ++ others) = words tokens ++ words others :=
  List.map_append

/-- Tokens whose first word is known begin with a token of this word. -/
lemma words_eq_cons {tokens : List PlacedToken} {t : Token} {ts : List Token}
    (h : words tokens = t :: ts) :
    ∃ u rest, tokens = u :: rest ∧ u.token = t ∧ words rest = ts :=
  List.map_eq_cons_iff.mp h

/-- Tokens are divided where their words are. -/
lemma words_eq_append {tokens : List PlacedToken} {ts us : List Token}
    (h : words tokens = ts ++ us) :
    ∃ front back, tokens = front ++ back ∧ words front = ts ∧ words back = us :=
  List.map_eq_append_iff.mp h

/-! ### Tokens of operators and of literals -/

/-- The operators of a level are recognised by their tokens. -/
lemma operator?_eq_some_iff {level : Level} {t : Token} {op : BinaryOp} :
    level.operator? t = some op ↔ op ∈ level.operators ∧ t = op.token := by
  constructor
  · intro h
    cases level <;> cases t <;> cases h <;> exact ⟨by decide, rfl⟩
  · rintro ⟨h, rfl⟩
    cases level <;> fin_cases h <;> rfl

/-- So are the comparisons. -/
lemma comparison?_eq_some_iff {t : Token} {op : BinaryOp} :
    comparison? t = some op ↔ op ∈ comparisons ∧ t = op.token := by
  constructor
  · intro h
    cases t <;> cases h <;> exact ⟨by decide, rfl⟩
  · rintro ⟨h, rfl⟩
    fin_cases h <;> rfl

/-- A token that is an expression by itself is a primary. -/
lemma Primary.of_leaf? {limit d : ℕ} {t : Token} {e : Expr} (h : leaf? t = some e) :
    Primary limit d [t] e := by
  cases t with
  | int n => cases h; exact .int n
  | float x => cases h; exact .float x
  | str s => cases h; exact .str s
  | ident name => cases h; exact .var name
  | _ => exact nomatch h

/-! ### Where an expression begins -/

/-- There is a first token, and it has the property. -/
def Begins (P : Token → Prop) (ts : List Token) : Prop := ∃ t us, ts = t :: us ∧ P t

/-- The first token stays the first one, whatever comes behind. -/
lemma Begins.append {P : Token → Prop} {ts : List Token} (h : Begins P ts) (us : List Token) :
    Begins P (ts ++ us) := by
  obtain ⟨t, vs, rfl, ht⟩ := h
  exact ⟨t, vs ++ us, rfl, ht⟩

/-- The token closes no bracket. -/
def ClosesNothing (t : Token) : Prop := ∀ b : Bracket, t ≠ b.close

variable {limit d : ℕ} {ts : List Token} {e : Expr}

/-- An operand without signs begins with no minus sign, and with nothing that closes. -/
lemma Primary.begins (h : Primary limit d ts e) :
    Begins (fun t => t ≠ .minus ∧ ClosesNothing t) ts := by
  cases h <;> refine ⟨_, _, rfl, nofun, fun b => ?_⟩ <;> cases b <;> nofun

/-- Nor does it with its calls. -/
lemma Applied.begins (h : Applied limit d ts e) :
    Begins (fun t => t ≠ .minus ∧ ClosesNothing t) ts := by
  obtain ⟨hp, -⟩ := h
  exact hp.begins.append _

/-- No signed operand begins with a token that closes. -/
lemma Signed.begins (h : Signed limit d ts e) : Begins ClosesNothing ts := by
  cases h with
  | minus => exact ⟨_, _, rfl, fun b => by cases b <;> nofun⟩
  | applied h =>
      obtain ⟨t, us, hts, ht⟩ := h.begins
      exact ⟨t, us, hts, ht.2⟩

/-- A chain begins as its first operand does. -/
lemma Chain.begins_of_operand {level : Level}
    (hop : ∀ ts e, Operand limit level d ts e → Begins ClosesNothing ts)
    (h : Chain limit level d ts e) : Begins ClosesNothing ts := by
  obtain ⟨hfirst, -⟩ := h
  exact (hop _ _ hfirst).append _

/-- No operand begins with a token that closes. -/
lemma Operand.begins {level : Level} (h : Operand limit level d ts e) :
    Begins ClosesNothing ts := by
  cases h with
  | product h => exact h.begins_of_operand fun _ _ hop => by cases hop; exact Signed.begins ‹_›
  | signed h => exact h.begins

/-- An expression does not begin with a closing bracket. -/
lemma Expression.begins (h : Expression limit d ts e) : Begins ClosesNothing ts := by
  cases h with
  | single _ h => exact h.begins_of_operand fun _ _ => Operand.begins
  | compare _ _ h => exact (h.begins_of_operand fun _ _ => Operand.begins).append _

/-- Items begin as the first of them does. -/
lemma Items.begins {es : List Expr} (h : Items limit d ts es) : Begins ClosesNothing ts := by
  cases h with
  | last h => exact h.begins
  | cons h => exact h.begins.append _

/-! ### The assignment sign -/

/-- No operator is written as the equals sign of an assignment. -/
lemma token_ne_assign (op : BinaryOp) : op.token ≠ .assign := by cases op <;> nofun

mutual

/-- No expression has an assignment sign. -/
lemma Expression.assign_notMem {d : ℕ} {ts : List Token} {e : Expr} :
    Expression limit d ts e → .assign ∉ ts
  | .single _ h => h.assign_notMem
  | .compare _ _ h h' => by
      simp [h.assign_notMem, h'.assign_notMem, (token_ne_assign _).symm]

lemma Chain.assign_notMem {level : Level} {d : ℕ} {ts : List Token} {e : Expr} :
    Chain limit level d ts e → .assign ∉ ts
  | .mk h h' => by simp [h.assign_notMem, h'.assign_notMem]

lemma Operand.assign_notMem {level : Level} {d : ℕ} {ts : List Token} {e : Expr} :
    Operand limit level d ts e → .assign ∉ ts
  | .product h => h.assign_notMem
  | .signed h => h.assign_notMem

lemma Operations.assign_notMem {level : Level} {d : ℕ} {ts : List Token}
    {steps : List (BinaryOp × Expr)} : Operations limit level d ts steps → .assign ∉ ts
  | .nil => by simp
  | .cons _ _ h h' => by simp [h.assign_notMem, h'.assign_notMem, (token_ne_assign _).symm]

lemma Signed.assign_notMem {d : ℕ} {ts : List Token} {e : Expr} :
    Signed limit d ts e → .assign ∉ ts
  | .minus _ h => by simp [h.assign_notMem]
  | .applied h => h.assign_notMem

lemma Applied.assign_notMem {d : ℕ} {ts : List Token} {e : Expr} :
    Applied limit d ts e → .assign ∉ ts
  | .mk h h' => by simp [h.assign_notMem, h'.assign_notMem]

lemma Applications.assign_notMem {d : ℕ} {ts : List Token} {arguments : List (List Expr)} :
    Applications limit d ts arguments → .assign ∉ ts
  | .nil => by simp
  | .cons _ h h' => by simp [h.assign_notMem, h'.assign_notMem]

lemma Arguments.assign_notMem {d : ℕ} {ts : List Token} {es : List Expr} :
    Arguments limit d ts es → .assign ∉ ts
  | .none => by simp
  | .some h => h.assign_notMem

lemma Items.assign_notMem {d : ℕ} {ts : List Token} {es : List Expr} :
    Items limit d ts es → .assign ∉ ts
  | .last h => h.assign_notMem
  | .cons h h' => by simp [h.assign_notMem, h'.assign_notMem]

lemma Primary.assign_notMem {d : ℕ} {ts : List Token} {e : Expr} :
    Primary limit d ts e → .assign ∉ ts
  | .int _ | .float _ | .str _ | .var _ => by simp
  | .parens h => by simp [h.assign_notMem]
  | .list h => by simp [h.assign_notMem]

end

end Grammar

end LineRepl.Calc
