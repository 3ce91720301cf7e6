/-
Writing statements as lines.

Every tree of a statement can be written: with its operators, signs and calls in parentheses nothing
is left to the grammar, and the tokens can be told apart in the text however they are spaced.

* `Expr.spelling`: the tokens of an expression in parentheses.
* `Expr.primary_spelling`: they are a primary of the grammar for trees that are low enough.
* `Written`: texts of tokens, with any blanks around them.
* `Written.exists_tokenizeFrom`: such a text is read as the tokens, where these keep apart.
* `parse_written`: statements are read back from their texts.
-/
import LineRepl.Proofs.Binary64.Reading
import LineRepl.Proofs.Calc.Height
import LineRepl.Proofs.Calc.Tokenization
import Mathlib.Data.List.Chain

namespace LineRepl.Calc

open Grammar (Arguments Applied Chain Expression Items Operand Operations Primary Signed comparisons
  words)
open Text (isBlank isNameContinue isNameStart)

/-! ### Trees as tokens -/

mutual

/-- The tokens of an expression, with every sign, operator and call in parentheses. -/
def Expr.spelling : Expr → List Token
  | .int n => [.int n]
  | .float x => [.float x]
  | .str s => [.str s]
  | .var name => [.ident name]
  | .list items => .openBracket :: (spellingAll items ++ [.closeBracket])
  | .neg e => .openParen :: .minus :: (e.spelling ++ [.closeParen])
  | .binary op left right =>
      .openParen :: (left.spelling ++ op.token :: right.spelling ++ [.closeParen])
  | .call callee args =>
      .openParen ::
        (callee.spelling ++ .openParen :: (spellingAll args ++ [.closeParen]) ++ [.closeParen])

/-- The tokens of expressions with commas between them. -/
def spellingAll : List Expr → List Token
  | [] => []
  | [e] => e.spelling
  | e :: e' :: es => e.spelling ++ .comma :: spellingAll (e' :: es)

end

/-- The tokens of a statement. -/
def Statement.spelling : Statement → List Token
  | .assign name e => .ident name :: .assign :: e.spelling
  | .expr e => e.spelling

mutual

/-- The expression has literals for its numbers: no number in it is negative or has a point. Its
names are names. -/
def Expr.Writable : Expr → Prop
  | .int n => 0 ≤ n.toInt
  | .float _ => False
  | .str _ => True
  | .var name => Identifier name
  | .list items => AllWritable items
  | .neg e => e.Writable
  | .binary _ left right => left.Writable ∧ right.Writable
  | .call callee args => callee.Writable ∧ AllWritable args

/-- So are all of the expressions. -/
def AllWritable : List Expr → Prop
  | [] => True
  | e :: es => e.Writable ∧ AllWritable es

end

/-- The name and the expression of a statement can be written. -/
def Statement.Writable : Statement → Prop
  | .assign name e => Identifier name ∧ e.Writable
  | .expr e => e.Writable

/-! ### The tokens are parsed -/

section

variable {d : ℕ} {ts us : List Token} {left right : Expr} {op : BinaryOp}

/-- A chain of either level is an expression. -/
lemma Chain.expression_of_level {level : Level} {e : Expr} (hd : d < maxDepth)
    (h : Chain maxDepth level (d + 1) ts e) : Expression maxDepth d ts e := by
  cases level with
  | sum => exact .single hd h
  | product => exact .single hd (Operand.product h).chain

/-- An operator compares or belongs to a level. -/
lemma mem_comparisons_or_operators (op : BinaryOp) :
    op ∈ comparisons ∨ ∃ level : Level, op ∈ level.operators := by
  cases op with
  | add | sub => exact .inr ⟨.sum, by decide⟩
  | mul | div | rem => exact .inr ⟨.product, by decide⟩
  | eq | ne | lt | le | gt | ge => exact .inl (by decide)

/-- Two primaries with an operator between them. The second is nested deeper by the operator, if
that is none of the comparisons. -/
lemma Primary.expression_binary (hd : d + 1 < maxDepth) (hleft : Primary maxDepth (d + 1) ts left)
    (hright : ∀ n ≤ d + 2, Primary maxDepth n us right) :
    Expression maxDepth d (ts ++ op.token :: us) (.binary op left right) := by
  rcases mem_comparisons_or_operators op with hop | ⟨level, hop⟩
  · exact .compare (by omega) hop (hleft.operand .sum).chain
      ((hright (d + 1) (by omega)).operand .sum).chain
  · have hsteps := Operations.cons hd hop ((hright (d + 2) le_rfl).operand level) .nil
    rw [List.append_nil] at hsteps
    exact Chain.expression_of_level (by omega) (.mk (hleft.operand level) hsteps)

/-- A primary with an argument list behind it. -/
lemma Primary.expression_call {callee : Expr} {args : List Expr} (hd : d + 1 < maxDepth)
    (hcallee : Primary maxDepth (d + 1) ts callee) (hargs : Arguments maxDepth (d + 2) us args) :
    Expression maxDepth d (ts ++ .openParen :: (us ++ [.closeParen])) (.call callee args) :=
  Signed.expression (by omega) (.applied (.mk hcallee (.cons hd hargs .nil)))

end

/-- Expressions between brackets, where they are some. -/
lemma arguments_of_items {d : ℕ} {es : List Expr}
    (h : es ≠ [] → Items maxDepth d (spellingAll es) es) :
    Arguments maxDepth d (spellingAll es) es := by
  rcases eq_or_ne es [] with rfl | hne
  · exact .none
  · exact .some (h hne)

mutual

/-- The tokens of an expression are a primary. A level of the tree takes three levels of nesting at
most: the parentheses, an argument list in them, and an argument. -/
lemma Expr.primary_spelling {d : ℕ} (e : Expr) (h : d + 3 * e.height ≤ maxDepth + 3) :
    Primary maxDepth d e.spelling e := by
  cases e with
  | int n => exact .int n
  | float x => exact .float x
  | str s => exact .str s
  | var name => exact .var name
  | list items =>
      rw [Expr.height] at h
      have hitems := arguments_of_items fun hne => items_spellingAll (d := d) items hne (by omega)
      exact .list hitems
  | neg e =>
      have hpos := Grammar.height_pos e
      rw [Expr.height] at h
      have hinner : Primary maxDepth (d + 2) e.spelling e := e.primary_spelling (by omega)
      exact .parens (Signed.expression (by omega) (.minus (by omega) hinner.signed))
  | binary op left right =>
      have hpos := Grammar.height_pos left
      rw [Expr.height] at h
      have hleft : Primary maxDepth (d + 1) left.spelling left := left.primary_spelling (by omega)
      have hright (n : ℕ) (hn : n ≤ d + 2) : Primary maxDepth n right.spelling right :=
        right.primary_spelling (by omega)
      exact .parens (Primary.expression_binary (by omega) hleft hright)
  | call callee args =>
      have hpos := Grammar.height_pos callee
      rw [Expr.height] at h
      have hcallee : Primary maxDepth (d + 1) callee.spelling callee :=
        callee.primary_spelling (by omega)
      have hargs := arguments_of_items fun hne => items_spellingAll (d := d + 2) args hne (by omega)
      exact .parens (Primary.expression_call (by omega) hcallee hargs)

/-- Spelled items are items of the grammar, if there is room for the highest of them. -/
lemma items_spellingAll {d : ℕ} (es : List Expr) (hne : es ≠ [])
    (h : d + 3 * highest es ≤ maxDepth + 2) : Items maxDepth d (spellingAll es) es := by
  match es with
  | [] => exact absurd rfl hne
  | [e] =>
      have hpos := Grammar.height_pos e
      rw [highest] at h
      have he : Primary maxDepth (d + 1) e.spelling e := e.primary_spelling (by omega)
      exact .last (he.expression (by omega))
  | e :: e' :: es =>
      have hpos := Grammar.height_pos e
      rw [highest] at h
      have he : Primary maxDepth (d + 1) e.spelling e := e.primary_spelling (by omega)
      exact .cons (he.expression (by omega))
        (items_spellingAll (e' :: es) (List.cons_ne_nil e' es) (by omega))

end

/-- The tokens of a statement spell it. -/
lemma Statement.line_spelling (s : Statement) (h : 3 * s.body.height ≤ maxDepth + 2) :
    Grammar.Line maxDepth s.spelling s := by
  have hpos := Grammar.height_pos s.body
  have hbody : Primary maxDepth 1 s.body.spelling s.body := s.body.primary_spelling (by omega)
  cases s with
  | assign name e => exact .assign name (hbody.expression (by decide))
  | expr e => exact .expr (hbody.expression (by decide))

/-! ### Tokens side by side -/

/-- The token is a name or a number. -/
def Token.isWord : Token → Bool
  | .int _ | .float _ | .ident _ => true
  | .str _ | .plus | .minus | .star | .slash | .percent | .openParen | .closeParen | .openBracket
  | .closeBracket | .comma | .assign | .eq | .ne | .lt | .le | .gt | .ge => false

/-- The token is an operator or the assignment sign. -/
def Token.isOperator : Token → Bool
  | .plus | .minus | .star | .slash | .percent | .assign | .eq | .ne | .lt | .le | .gt | .ge => true
  | .int _ | .float _ | .ident _ | .str _ | .openParen | .closeParen | .openBracket | .closeBracket
  | .comma => false

/-- The tokens are not both words and not both operators, so that no blank is needed to keep their
texts apart. -/
def Apart (t u : Token) : Prop :=
  (t.isWord = true → u.isWord = false) ∧ (t.isOperator = true → u.isOperator = false)

/-- Tokens that keep apart from one another, and from any token behind them that is no word. -/
def Fits (ts : List Token) : Prop :=
  ∀ rest, rest.IsChain Apart → (∀ u ∈ rest.head?, u.isWord = false) → (ts ++ rest).IsChain Apart

namespace Fits

variable {t : Token} {ts us : List Token}

/-- Tokens that fit keep apart from their neighbours. -/
lemma isChain (h : Fits ts) : ts.IsChain Apart := by
  have hchain := h [] .nil (by simp)
  rwa [List.append_nil] at hchain

lemma nil : Fits [] := fun _ hrest _ => hrest

/-- A token that is no operator fits. -/
lemma single (h : t.isOperator = false) : Fits [t] := by
  intro rest hrest hfirst
  refine hrest.cons fun u hu => ⟨fun _ => hfirst u hu, fun ht => ?_⟩
  rw [h] at ht
  cases ht

/-- Tokens that fit can be put behind others, if they begin with no word. -/
lemma append (hts : Fits ts) (hus : Fits us) (hfirst : ∀ u ∈ us.head?, u.isWord = false) :
    Fits (ts ++ us) := by
  intro rest hrest hrestFirst
  rw [List.append_assoc]
  refine hts _ (hus rest hrest hrestFirst) ?_
  cases us with
  | nil => exact hrestFirst
  | cons u us => exact hfirst

/-- An operator stands before what begins with none. -/
lemma cons (ht : t.isWord = false) (hts : Fits ts)
    (hfirst : Grammar.Begins (·.isOperator = false) ts) : Fits (t :: ts) := by
  obtain ⟨u, us, rfl, hu⟩ := hfirst
  intro rest hrest hrestFirst
  refine (hts rest hrest hrestFirst).cons ?_
  rintro _ ⟨⟩
  refine ⟨fun hword => ?_, fun _ => hu⟩
  rw [ht] at hword
  cases hword

/-- Brackets and commas stand beside anything. -/
lemma cons_mark (ht : t.isWord = false ∧ t.isOperator = false) (hts : Fits ts) :
    Fits (t :: ts) := by
  intro rest hrest hrestFirst
  refine (hts rest hrest hrestFirst).cons fun u _ => ⟨fun hword => ?_, fun hoperator => ?_⟩
  · rw [ht.1] at hword
    cases hword
  · rw [ht.2] at hoperator
    cases hoperator

/-- Tokens in brackets. -/
lemma enclose {opening closing : Token}
    (hopening : opening.isWord = false ∧ opening.isOperator = false)
    (hclosing : closing.isWord = false ∧ closing.isOperator = false) (hts : Fits ts) :
    Fits (opening :: (ts ++ [closing])) := by
  refine .cons_mark hopening (hts.append (.single hclosing.2) ?_)
  rintro _ ⟨⟩
  exact hclosing.1

end Fits

lemma isWord_token (op : BinaryOp) : op.token.isWord = false := by
  cases op <;> rfl

mutual

/-- An expression begins with no operator, and its tokens keep apart. -/
lemma Expr.fits_spelling (e : Expr) :
    Grammar.Begins (·.isOperator = false) e.spelling ∧ Fits e.spelling := by
  cases e with
  | int n | float x | str s | var name => exact ⟨⟨_, [], rfl, rfl⟩, .single rfl⟩
  | list items =>
      exact ⟨⟨_, _, rfl, rfl⟩, .enclose ⟨rfl, rfl⟩ ⟨rfl, rfl⟩ (fits_spellingAll items)⟩
  | neg e =>
      obtain ⟨hfirst, hfits⟩ := e.fits_spelling
      exact ⟨⟨_, _, rfl, rfl⟩,
        .enclose ⟨rfl, rfl⟩ ⟨rfl, rfl⟩ (.cons (t := .minus) rfl hfits hfirst)⟩
  | binary op left right =>
      obtain ⟨-, hleft⟩ := left.fits_spelling
      obtain ⟨hfirst, hright⟩ := right.fits_spelling
      have hoperation := Fits.cons (isWord_token op) hright hfirst
      have hinside : Fits (left.spelling ++ op.token :: right.spelling) := by
        refine hleft.append hoperation ?_
        rintro _ ⟨⟩
        exact isWord_token op
      exact ⟨⟨_, _, rfl, rfl⟩, .enclose ⟨rfl, rfl⟩ ⟨rfl, rfl⟩ hinside⟩
  | call callee args =>
      obtain ⟨-, hcallee⟩ := callee.fits_spelling
      have hargs : Fits (.openParen :: (spellingAll args ++ [.closeParen])) :=
        .enclose ⟨rfl, rfl⟩ ⟨rfl, rfl⟩ (fits_spellingAll args)
      have hinside :
          Fits (callee.spelling ++ .openParen :: (spellingAll args ++ [.closeParen])) := by
        refine hcallee.append hargs ?_
        rintro _ ⟨⟩
        rfl
      exact ⟨⟨_, _, rfl, rfl⟩, .enclose ⟨rfl, rfl⟩ ⟨rfl, rfl⟩ hinside⟩

/-- Spelled items fit. -/
lemma fits_spellingAll (es : List Expr) : Fits (spellingAll es) := by
  match es with
  | [] => exact .nil
  | [e] => exact e.fits_spelling.2
  | e :: e' :: es =>
      have hothers := Fits.cons_mark (t := .comma) ⟨rfl, rfl⟩ (fits_spellingAll (e' :: es))
      rw [spellingAll]
      refine e.fits_spelling.2.append hothers ?_
      rintro _ ⟨⟩
      rfl

end

/-- No two words and no two operators stand side by side in a statement. -/
lemma Statement.isChain_spelling (s : Statement) : s.spelling.IsChain Apart := by
  cases s with
  | assign name e =>
      obtain ⟨hfirst, hfits⟩ := e.fits_spelling
      have hvalue := Fits.cons (t := .assign) rfl hfits hfirst
      have hwhole : Fits ([.ident name] ++ .assign :: e.spelling) := by
        refine (Fits.single rfl).append hvalue ?_
        rintro _ ⟨⟩
        rfl
      exact hwhole.isChain
  | expr e => exact e.fits_spelling.2.isChain

/-! ### Texts of tokens -/

/-- A text as it stands between quotes: each quote and each backslash has a backslash before it. -/
def escape (text : List Char) : List Char :=
  text.flatMap fun c => if c = '"' ∨ c = '\\' then ['\\', c] else [c]

/-- The token as a text. -/
def Token.written : Token → List Char
  | .int n => (integerText n.toInt).toList
  | .float x => x.toDebugText.toList
  | .str s => '"' :: (escape s.toList ++ ['"'])
  | .ident name => name.toList
  | .plus => ['+']
  | .minus => ['-']
  | .star => ['*']
  | .slash => ['/']
  | .percent => ['%']
  | .openParen => ['(']
  | .closeParen => [')']
  | .openBracket => ['[']
  | .closeBracket => [']']
  | .comma => [',']
  | .assign => ['=']
  | .eq => ['=', '=']
  | .ne => ['!', '=']
  | .lt => ['<']
  | .le => ['<', '=']
  | .gt => ['>']
  | .ge => ['>', '=']

/-- The text is those of the tokens one after another, with any blanks before, between and behind
them, or none. -/
inductive Written : List Token → List Char → Prop where
  | gap {gap : List Char} : (∀ c ∈ gap, isBlank c = true) → Written [] gap
  | token {gap rest : List Char} {t : Token} {ts : List Token} :
      (∀ c ∈ gap, isBlank c = true) → Written ts rest →
      Written (t :: ts) (gap ++ (t.written ++ rest))

/-- The token has a lexeme for its text: it is no negative number and no number with a point, and if
it is a name, then by its characters. -/
def Token.Writable : Token → Prop
  | .int n => 0 ≤ n.toInt
  | .float _ => False
  | .ident name => Identifier name
  | .str _ | .plus | .minus | .star | .slash | .percent | .openParen | .closeParen | .openBracket
  | .closeBracket | .comma | .assign | .eq | .ne | .lt | .le | .gt | .ge => True

/-- A text is quoted by its escapes. -/
lemma quotes_escape (text : List Char) : Quotes (escape text) text := by
  induction text with
  | nil => exact .nil
  | cons c text ih =>
      rw [escape, List.flatMap_cons]
      split_ifs with hc
      · have hescape : Escape c c := by
          rcases hc with rfl | rfl <;> exact .itself (by decide) (by decide)
        exact .escaped hescape ih
      · obtain ⟨hquote, hbackslash⟩ := not_or.mp hc
        exact .plain hquote hbackslash ih

/-- The text of a token is a lexeme of it. -/
lemma Token.Writable.spells {t : Token} (h : t.Writable) : Spells t.written t := by
  cases t with
  | int n =>
      have hnonneg : 0 ≤ n.toInt := h
      rw [Token.written, Binary64.integerText_of_nonneg hnonneg]
      refine .int ⟨Binary64.toList_naturalText_ne_nil _,
        fun c hc => Binary64.isDigit_of_mem_naturalText hc⟩ ?_
      rw [← digitsValue_eq_decimalValue, Binary64.digitsValue_naturalText,
        Int.natAbs_of_nonneg hnonneg]
  | float x => exact h.elim
  | str s =>
      have hstr := Spells.str (quotes_escape s.toList)
      rwa [String.ofList_toList] at hstr
  | ident name =>
      obtain ⟨c, cs, htext, hstart, hcs⟩ := identifier_iff.mp h
      have hident := Spells.ident hstart hcs
      rwa [← htext, String.ofList_toList] at hident
  | plus | minus | star | slash | percent | openParen | closeParen | openBracket | closeBracket
  | comma | assign | lt | gt => exact .symbol (by decide)
  | eq | ne | le | ge => exact .equality (by decide)

/-- The first character of a token's text goes on with a word only if the token is a word, and it is
an equality sign only if the token is an operator. -/
lemma Token.Writable.head_written {t : Token} (h : t.Writable) {c : Char}
    (hc : c ∈ t.written.head?) :
    (t.isWord = false → c.isDigit = false ∧ isNameContinue c = false) ∧
      (t.isOperator = false → c ≠ '=') ∧ c ≠ '.' := by
  cases t with
  | int n =>
      have hnonneg : 0 ≤ n.toInt := h
      rw [Token.written, Binary64.integerText_of_nonneg hnonneg] at hc
      have hdigit := Binary64.isDigit_of_mem_naturalText (List.mem_of_mem_head? hc)
      refine ⟨fun hword => (by cases hword), fun _ => ?_, ?_⟩ <;> rintro rfl <;>
        exact absurd hdigit (by decide)
  | float x => exact h.elim
  | ident name =>
      obtain ⟨d, cs, htext, hstart, -⟩ := identifier_iff.mp h
      rw [Token.written, htext] at hc
      cases hc
      refine ⟨fun hword => (by cases hword), fun _ => ?_, ?_⟩ <;> rintro rfl <;>
        exact absurd hstart (by decide +kernel)
  | str s =>
      obtain rfl : '"' = c := Option.some.inj hc
      exact ⟨fun _ => by decide +kernel, fun _ => by decide, by decide⟩
  | plus | minus | star | slash | percent | openParen | closeParen | openBracket | closeBracket
  | comma | assign | eq | ne | lt | le | gt | ge =>
      cases hc
      decide +kernel

/-- A word goes on with digits and with the characters of names only, and an operator with an
equality sign. -/
lemma goesOn_eq_false {t : Token} {c : Char}
    (hword : t.isWord = true → c.isDigit = false ∧ isNameContinue c = false)
    (hoperator : t.isOperator = true → c ≠ '=') : t.goesOn c = false := by
  cases t with
  | int n | float x => exact (hword rfl).1
  | ident name => exact (hword rfl).2
  | assign | lt | gt => exact beq_eq_false_iff_ne.mpr (hoperator rfl)
  | str s | plus | minus | star | slash | percent | openParen | closeParen | openBracket
  | closeBracket | comma | eq | ne | le | ge => rfl

section

variable {t : Token} {ts : List Token} {cs rest : List Char}

/-- A token stops before the text of tokens that it keeps apart from. -/
lemma Written.stops (h : Written ts rest) (hts : ∀ u ∈ ts, u.Writable)
    (hapart : ∀ u ∈ ts.head?, Apart t u) : Stops t rest := by
  have hblank {b : Char} (hb : isBlank b = true) (more : List Char) : Stops t (b :: more) :=
    (Stops.nil t).append_blank hb more
  cases h with
  | gap hgap =>
      cases rest with
      | nil => exact .nil t
      | cons b gap => exact hblank (hgap b List.mem_cons_self) gap
  | @token gap rest u us hgap hrest =>
      cases gap with
      | cons b gap => exact hblank (hgap b List.mem_cons_self) (gap ++ (u.written ++ rest))
      | nil =>
          have hu : u.Writable := hts u List.mem_cons_self
          obtain ⟨hword, hoperator⟩ := hapart u rfl
          obtain ⟨c, tail, htext, -⟩ := hu.spells.exists_cons
          have hhead : c ∈ u.written.head? := by
            rw [htext]
            rfl
          obtain ⟨hnoWord, hnoOperator, hpoint⟩ := hu.head_written hhead
          rw [htext, List.nil_append, List.cons_append]
          constructor
          · rintro _ ⟨⟩
            exact goesOn_eq_false (fun ht => hnoWord (hword ht))
              fun ht => hnoOperator (hoperator ht)
          · rintro n d more - hpoint'
            obtain ⟨rfl, -⟩ := List.cons.inj hpoint'
            exact absurd rfl hpoint

/-- Texts are read as the tokens that they were written for, where these keep apart. -/
lemma Written.exists_tokenizeFrom (h : Written ts cs) (hchain : ts.IsChain Apart)
    (hts : ∀ t ∈ ts, t.Writable) (column : ℕ) :
    ∃ tokens, tokenizeFrom column cs = .ok tokens ∧ words tokens = ts := by
  induction h generalizing column with
  | gap hgap => exact ⟨[], tokenizeFrom_of_blank hgap, rfl⟩
  | @token gap rest t ts hgap hrest ih =>
      obtain ⟨ht, hts⟩ := List.forall_mem_cons.mp hts
      obtain ⟨hfirst, hchain⟩ := List.isChain_cons.mp hchain
      obtain ⟨tokens, htokens, rfl⟩ := ih hchain hts (column + gap.length + t.written.length)
      refine ⟨⟨t, column + gap.length⟩ :: tokens, ?_, rfl⟩
      rw [tokenizeFrom_gap hgap, tokenizeFrom_lexeme ht.spells (hrest.stops hts hfirst), htokens]
      rfl

end

/-! ### Statements -/

lemma Token.writable_token (op : BinaryOp) : op.token.Writable := by
  cases op <;> trivial

mutual

/-- The tokens of a writable expression are writable. -/
lemma Expr.Writable.mem_spelling {e : Expr} (h : e.Writable) : ∀ t ∈ e.spelling, t.Writable := by
  cases e with
  | int n | str s | var name => exact List.forall_mem_singleton.mpr h
  | float x => exact h.elim
  | list items =>
      have hitems : ∀ t ∈ spellingAll items, t.Writable := AllWritable.mem_spellingAll h
      simp only [Expr.spelling, List.forall_mem_cons, List.forall_mem_append]
      exact ⟨trivial, hitems, trivial, List.forall_mem_nil _⟩
  | neg e =>
      have hinner : ∀ t ∈ e.spelling, t.Writable := Expr.Writable.mem_spelling h
      simp only [Expr.spelling, List.forall_mem_cons, List.forall_mem_append]
      exact ⟨trivial, trivial, hinner, trivial, List.forall_mem_nil _⟩
  | binary op left right =>
      obtain ⟨hl, hr⟩ := h
      have hleft : ∀ t ∈ left.spelling, t.Writable := hl.mem_spelling
      have hright : ∀ t ∈ right.spelling, t.Writable := hr.mem_spelling
      simp only [Expr.spelling, List.forall_mem_cons, List.forall_mem_append]
      exact ⟨trivial, ⟨hleft, Token.writable_token op, hright⟩, trivial, List.forall_mem_nil _⟩
  | call callee args =>
      obtain ⟨hc, ha⟩ := h
      have hcallee : ∀ t ∈ callee.spelling, t.Writable := hc.mem_spelling
      have hargs : ∀ t ∈ spellingAll args, t.Writable := AllWritable.mem_spellingAll ha
      simp only [Expr.spelling, List.forall_mem_cons, List.forall_mem_append]
      exact ⟨trivial, ⟨hcallee, trivial, hargs, trivial, List.forall_mem_nil _⟩, trivial,
        List.forall_mem_nil _⟩

lemma AllWritable.mem_spellingAll {es : List Expr} (h : AllWritable es) :
    ∀ t ∈ spellingAll es, t.Writable := by
  match es with
  | [] => exact List.forall_mem_nil _
  | [e] => exact h.1.mem_spelling
  | e :: e' :: es =>
      obtain ⟨he, hes⟩ := h
      have hfirst : ∀ t ∈ e.spelling, t.Writable := he.mem_spelling
      have hothers : ∀ t ∈ spellingAll (e' :: es), t.Writable := AllWritable.mem_spellingAll hes
      simp only [spellingAll, List.forall_mem_cons, List.forall_mem_append]
      exact ⟨hfirst, trivial, hothers⟩

end

/-- So are those of a writable statement. -/
lemma Statement.Writable.mem_spelling {s : Statement} (h : s.Writable) :
    ∀ t ∈ s.spelling, t.Writable := by
  cases s with
  | assign name e =>
      exact List.forall_mem_cons.mpr ⟨h.1, List.forall_mem_cons.mpr ⟨trivial, h.2.mem_spelling⟩⟩
  | expr e => exact Expr.Writable.mem_spelling h

/-- **Every tree can be written.** A statement with literals for its numbers and names for its
names is read back from its tokens as a text, whatever blanks stand between them. A level of the
tree takes three levels of nesting at most, so that 86 levels are within the limit. -/
theorem parse_written {s : Statement} {line : String} (hheight : s.body.height ≤ 86)
    (hs : s.Writable) (hline : Written s.spelling line.toList) :
    (tokenize line).bind parse = .ok s := by
  obtain ⟨tokens, htokens, hwords⟩ :=
    hline.exists_tokenizeFrom s.isChain_spelling hs.mem_spelling 1
  have hlow : 3 * s.body.height ≤ maxDepth + 2 := by
    rw [maxDepth]
    omega
  have hparsed : parse tokens = .ok s :=
    Grammar.parse_eq_ok_iff.mpr (hwords ▸ s.line_spelling hlow)
  rw [tokenize, htokens]
  exact hparsed

/-- The quote and the backslash of a text have backslashes before them in the line. -/
theorem parse_written_quotes :
    (tokenize "x= (1<\"\\\"\\\\\") ").bind parse =
      .ok (.assign "x" (.binary .lt (.int 1) (.str "\"\\"))) := by
  have hname : Identifier "x" := by decide +kernel
  have hone : (0 : ℤ) ≤ (1 : Int64).toInt := by decide
  have hnone : ∀ c ∈ [], isBlank c = true := List.forall_mem_nil _
  have hblank : ∀ c ∈ [' '], isBlank c = true := List.forall_mem_singleton.mpr (by decide)
  have htokens := Written.token (t := .ident "x") hnone <| .token (t := .assign) hnone <|
    .token (t := .openParen) hblank <| .token (t := .int 1) hnone <| .token (t := .lt) hnone <|
    .token (t := .str "\"\\") hnone <| .token (t := .closeParen) hnone <| .gap hblank
  have hline : Written (Statement.assign "x" (.binary .lt (.int 1) (.str "\"\\"))).spelling
      "x= (1<\"\\\"\\\\\") ".toList := by
    convert htokens using 1 <;> decide +kernel
  exact parse_written (by decide) ⟨hname, hone, trivial⟩ hline

end LineRepl.Calc
