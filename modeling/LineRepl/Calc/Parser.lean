/-
Recognising statements among tokens, by recursive descent.

    line    := IDENT '=' expr | expr
    expr    := sum (comparison sum)?
    sum     := product (('+' | '-') product)*
    product := unary (('*' | '/' | '%') unary)*
    unary   := '-' unary | applied
    applied := primary ('(' args? ')')*
    primary := INT | FLOAT | STRING | IDENT | '(' expr ')' | '[' args? ']'

Chains of operators and of calls lean to the left. The parser counts how deep the
tree under construction is nested and refuses more than `maxDepth` levels, so that trees
can be walked by recursion. Every function returns the tokens that are left, with the
fact that they are fewer, and the depth; the recursion ends because it goes down in the
pair of tokens left and rank of the grammar rule.
-/
import LineRepl.Calc.Expression

namespace LineRepl.Calc

/-- The greatest nesting of an expression. -/
def maxDepth : Nat := 256

/-- Where the parser stands: the tokens left, and the nesting of the tree it is
building. -/
structure Cursor where
  rest : List PlacedToken
  depth : Nat

/-- What a rule gives at a cursor: a tree and a later cursor, or an error. -/
abbrev Parsed (α : Type) (c : Cursor) :=
  Except SyntaxError { r : α × Cursor // r.2.rest.length < c.rest.length }

/-- What the rest of a chain gives at a cursor: a tree, and a cursor that may be
the same. -/
abbrev Continued (α : Type) (c : Cursor) :=
  Except SyntaxError { r : α × Cursor // r.2.rest.length ≤ c.rest.length }

/-- The two levels of operators that form chains. -/
inductive Level where
  | sum
  | product
  deriving DecidableEq, Repr

/-- The operator of a level that a token stands for. -/
def Level.operator? : Level → Token → Option BinaryOp
  | .sum, .plus => some .add
  | .sum, .minus => some .sub
  | .product, .star => some .mul
  | .product, .slash => some .div
  | .product, .percent => some .rem
  | _, _ => none

/-- The comparison that a token stands for. -/
def comparison? : Token → Option BinaryOp
  | .eq => some .eq
  | .ne => some .ne
  | .lt => some .lt
  | .le => some .le
  | .gt => some .gt
  | .ge => some .ge
  | _ => none

/-- The expression that a token is by itself. -/
def leaf? : Token → Option Expr
  | .int n => some (.int n)
  | .float x => some (.float x)
  | .str s => some (.str s)
  | .ident name => some (.var name)
  | .plus | .minus | .star | .slash | .percent | .openParen | .closeParen | .openBracket
  | .closeBracket | .comma | .assign | .eq | .ne | .lt | .le | .gt | .ge => none

namespace Parser

/-- The place of a level in the order of the grammar's rules. -/
@[simp] def rank : Level → Nat
  | .sum => 2
  | .product => 1

/-- The error of going deeper than the limit, at the next token; `stop` is the
column after the last token of the line. -/
def tooDeep (stop : Nat) (rest : List PlacedToken) : SyntaxError :=
  ⟨.nestedTooDeeply, (rest.head?.map (·.column)).getD stop⟩

/-- Requires the next token to close the bracket. -/
def close (stop : Nat) (b : Bracket) (c : Cursor) : Parsed Unit c :=
  match h : c.rest with
  | [] => .error ⟨.expectedClose b, stop⟩
  | t :: rest =>
    if t.token = b.close then .ok ⟨((), { c with rest }), by simp [h]⟩
    else .error ⟨.expectedClose b, t.column⟩

mutual

/-- One sum, or two with a comparison between them. -/
def expr (stop : Nat) (c : Cursor) : Parsed Expr c :=
  if c.depth < maxDepth then
    match chain stop .sum { c with depth := c.depth + 1 } with
    | .error e => .error e
    | .ok ⟨(left, c₁), h₁⟩ =>
      match h : c₁.rest with
      | [] => .ok ⟨(left, { c₁ with depth := c₁.depth - 1 }), h₁⟩
      | t :: rest =>
        match comparison? t.token with
        | none => .ok ⟨(left, { c₁ with depth := c₁.depth - 1 }), h₁⟩
        | some op =>
          have shorter : rest.length < c.rest.length :=
            Nat.lt_trans (by simp [h]) (h₁ : c₁.rest.length < c.rest.length)
          match chain stop .sum { c₁ with rest } with
          | .error e => .error e
          | .ok ⟨(right, c₂), h₂⟩ =>
            .ok ⟨(.binary op left right, { c₂ with depth := c₂.depth - 1 }),
              Nat.lt_trans h₂ shorter⟩
  else .error (tooDeep stop c.rest)
  termination_by (c.rest.length, 7)

/-- Operands of a level with its operators between them. -/
def chain (stop : Nat) (level : Level) (c : Cursor) : Parsed Expr c :=
  match operand stop level c with
  | .error e => .error e
  | .ok ⟨(left, c₁), h₁⟩ =>
    match chainTail stop level left 0 c₁ with
    | .error e => .error e
    | .ok ⟨r, h₂⟩ => .ok ⟨r, Nat.lt_of_le_of_lt h₂ h₁⟩
  termination_by (c.rest.length, 2 * rank level + 2)

/-- An operand of a level: a chain of products in a sum, a signed operand in a
product. -/
def operand (stop : Nat) (level : Level) (c : Cursor) : Parsed Expr c :=
  match level with
  | .sum => chain stop .product c
  | .product => unary stop c
  termination_by (c.rest.length, 2 * rank level + 1)

/-- The operators and operands that follow `left`. Each operator adds a level to the
tree, of which `levels` have been added so far. -/
def chainTail (stop : Nat) (level : Level) (left : Expr) (levels : Nat) (c : Cursor) :
    Continued Expr c :=
  match h : c.rest with
  | [] => .ok ⟨(left, { c with depth := c.depth - levels }), Nat.le_refl _⟩
  | t :: rest =>
    match level.operator? t.token with
    | none => .ok ⟨(left, { c with depth := c.depth - levels }), Nat.le_refl _⟩
    | some op =>
      if c.depth < maxDepth then
        have shorter : rest.length < c.rest.length := by simp [h]
        match operand stop level ⟨rest, c.depth + 1⟩ with
        | .error e => .error e
        | .ok ⟨(right, c₁), h₁⟩ =>
          have shorter₁ : c₁.rest.length < c.rest.length := Nat.lt_trans h₁ shorter
          match chainTail stop level (.binary op left right) (levels + 1) c₁ with
          | .error e => .error e
          | .ok ⟨r, h₂⟩ => .ok ⟨r, Nat.le_trans h₂ (Nat.le_of_lt shorter₁)⟩
      else .error (tooDeep stop c.rest)
  termination_by (c.rest.length, 0)

/-- An operand with its minus signs. -/
def unary (stop : Nat) (c : Cursor) : Parsed Expr c :=
  match h : c.rest with
  | [] => applied stop c
  | t :: rest =>
    if t.token = .minus then
      if c.depth < maxDepth then
        have shorter : rest.length < c.rest.length := by simp [h]
        match unary stop ⟨rest, c.depth + 1⟩ with
        | .error e => .error e
        | .ok ⟨(inner, c₁), h₁⟩ =>
          .ok ⟨(.neg inner, { c₁ with depth := c₁.depth - 1 }), Nat.lt_trans h₁ shorter⟩
      else .error (tooDeep stop rest)
    else applied stop c
  termination_by (c.rest.length, 2)

/-- A primary with the argument lists that follow it. -/
def applied (stop : Nat) (c : Cursor) : Parsed Expr c :=
  match primary stop c with
  | .error e => .error e
  | .ok ⟨(callee, c₁), h₁⟩ =>
    match appliedTail stop callee 0 c₁ with
    | .error e => .error e
    | .ok ⟨r, h₂⟩ => .ok ⟨r, Nat.lt_of_le_of_lt h₂ h₁⟩
  termination_by (c.rest.length, 1)

/-- The argument lists that follow `callee`. Each adds a level to the tree, of which
`levels` have been added so far. -/
def appliedTail (stop : Nat) (callee : Expr) (levels : Nat) (c : Cursor) : Continued Expr c :=
  match h : c.rest with
  | [] => .ok ⟨(callee, { c with depth := c.depth - levels }), Nat.le_refl _⟩
  | t :: rest =>
    if t.token = .openParen then
      if c.depth < maxDepth then
        have shorter : rest.length < c.rest.length := by simp [h]
        match args stop .paren ⟨rest, c.depth + 1⟩ with
        | .error e => .error e
        | .ok ⟨(arguments, c₁), h₁⟩ =>
          have shorter₁ : c₁.rest.length < c.rest.length := Nat.lt_trans h₁ shorter
          match appliedTail stop (.call callee arguments) (levels + 1) c₁ with
          | .error e => .error e
          | .ok ⟨r, h₂⟩ => .ok ⟨r, Nat.le_trans h₂ (Nat.le_of_lt shorter₁)⟩
      else .error (tooDeep stop c.rest)
    else .ok ⟨(callee, { c with depth := c.depth - levels }), Nat.le_refl _⟩
  termination_by (c.rest.length, 0)

/-- Expressions with commas between them up to the closing bracket, or none at all. -/
def args (stop : Nat) (b : Bracket) (c : Cursor) : Parsed (List Expr) c :=
  match h : c.rest with
  | [] => items stop b c
  | t :: rest =>
    if t.token = b.close then .ok ⟨([], { c with rest }), by simp [h]⟩
    else items stop b c
  termination_by (c.rest.length, 9)

/-- Expressions, at least one, with commas between them up to the closing bracket. -/
def items (stop : Nat) (b : Bracket) (c : Cursor) : Parsed (List Expr) c :=
  match expr stop c with
  | .error e => .error e
  | .ok ⟨(first, c₁), h₁⟩ =>
    match h : c₁.rest with
    | [] => .error ⟨.expectedClose b, stop⟩
    | t :: rest =>
      have shorter : rest.length < c.rest.length :=
        Nat.lt_trans (by simp [h]) (h₁ : c₁.rest.length < c.rest.length)
      if t.token = .comma then
        match items stop b { c₁ with rest } with
        | .error e => .error e
        | .ok ⟨(others, c₂), h₂⟩ => .ok ⟨(first :: others, c₂), Nat.lt_trans h₂ shorter⟩
      else if t.token = b.close then .ok ⟨([first], { c₁ with rest }), shorter⟩
      else .error ⟨.expectedClose b, t.column⟩
  termination_by (c.rest.length, 8)

/-- A literal, a name, an expression in parentheses or a list. -/
def primary (stop : Nat) (c : Cursor) : Parsed Expr c :=
  match h : c.rest with
  | [] => .error ⟨.unexpectedEnd, stop⟩
  | t :: rest =>
    have shorter : rest.length < c.rest.length := by simp [h]
    match leaf? t.token with
    | some e => .ok ⟨(e, { c with rest }), shorter⟩
    | none =>
      if t.token = .openParen then
        match expr stop { c with rest } with
        | .error e => .error e
        | .ok ⟨(inner, c₁), h₁⟩ =>
          match close stop .paren c₁ with
          | .error e => .error e
          | .ok ⟨(_, c₂), h₂⟩ => .ok ⟨(inner, c₂), Nat.lt_trans h₂ (Nat.lt_trans h₁ shorter)⟩
      else if t.token = .openBracket then
        match args stop .square { c with rest } with
        | .error e => .error e
        | .ok ⟨(members, c₁), h₁⟩ => .ok ⟨(.list members, c₁), Nat.lt_trans h₁ shorter⟩
      else .error ⟨.unexpectedToken t.token, t.column⟩
  termination_by (c.rest.length, 0)

end

end Parser

/-- The column after the last token; the first column for a line without tokens. -/
def endColumn (tokens : List PlacedToken) : Nat :=
  (tokens.getLast?.map (·.column + 1)).getD 1

/-- The expression that all of the tokens spell; `stop` is the column after the last
token of the line. -/
def parseExpr (stop : Nat) (tokens : List PlacedToken) : Except SyntaxError Expr :=
  match Parser.expr stop ⟨tokens, 0⟩ with
  | .error e => .error e
  | .ok ⟨(e, c), _⟩ =>
    match c.rest with
    | [] => .ok e
    | t :: _ => .error ⟨.unexpectedToken t.token, t.column⟩

/-- The statement that the tokens of a line spell. -/
def parse (tokens : List PlacedToken) : Except SyntaxError Statement :=
  match tokens with
  | ⟨.ident name, _⟩ :: ⟨.assign, _⟩ :: rest =>
    (parseExpr (endColumn tokens) rest).map (.assign name)
  | _ => (parseExpr (endColumn tokens) tokens).map .expr

end LineRepl.Calc
