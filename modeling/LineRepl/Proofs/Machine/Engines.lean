/-
Lines evaluated by a machine.

Both engines are programs of the machine: expression lines are split, parsed and evaluated, and the
words of postfix lines work on a stack one after another. Errors are answers, and a panic would be
none.

* `Machine.evalExpressionLine`, `Machine.evalPostfixLine`: the programs.
* `Machine.runWord_eq`: words do what they should do.
* `Machine.evalLine_never_panics`: the programs answer what the engines answer.
-/
import LineRepl.Proofs.Calc.Assignment
import LineRepl.Proofs.Columns
import LineRepl.Proofs.Machine.Evaluation
import LineRepl.Proofs.Machine.Lexer
import LineRepl.Proofs.Machine.Parser

namespace LineRepl.Machine

open Calc (PlacedToken Statement malformed maxDepth)
open Rpn (Instruction answer pushed toValue)
open Run (caught given refuse)
open Text (Word byteLength words)

/-! ### The programs -/

/-- The answer to a statement. -/
def runStatement (s : Statement) (w : Workspace) : Run Empty (Reply × Workspace) := do
  match s with
  | .expr e =>
    match ← caught (eval w.bindings e w.store) with
    | .error fault => pure (.error (.runtime fault.message), w)
    | .ok (v, store) => pure (.value v, { w with store })
  | .assign name e =>
    match ← caught (eval w.bindings e w.store) with
    | .error fault => pure (.error (.runtime fault.message), w)
    | .ok (v, store) => pure (.nothing, { bindings := w.bindings.set name v, store })

section

variable (machine : Machine)

/-- The answer to an expression line. -/
def evalExpressionLine (line : String) (w : Workspace) : Run Empty (Reply × Workspace) := do
  match ← caught (tokenize machine line) with
  | .error e => pure (malformed e, w)
  | .ok [] => pure (.nothing, w)
  | .ok tokens =>
    match ← caught (parse machine tokens) with
    | .error e => pure (malformed e, w)
    | .ok statement => runStatement statement w

/-- The top of the stack and what is below it, for a word that needs it. -/
def pop (stack : List Binary64) (text : String) (column : ℕ) :
    Run EvalError (Binary64 × List Binary64) :=
  match stack with
  | x :: rest => pure (x, rest)
  | [] => refuse (.malformed ("stack underflow at '" ++ text ++ "'") column)

/-- The stack and the bindings after one word. -/
def runWord (word : Word) (stack : List Binary64) (b : Bindings) :
    Run EvalError (List Binary64 × Bindings) := do
  let text := word.text
  let distance ← subtract (machine.address + word.offset) machine.address
  let column ← add machine.index distance 1
  if text ∈ ["+", "-", "*", "/"] then
    let (y, stack) ← pop stack text column
    let (x, stack) ← pop stack text column
    if text = "+" then pure ((x + y) :: stack, b)
    else if text = "-" then pure ((x - y) :: stack, b)
    else if text = "*" then pure ((x * y) :: stack, b)
    else if y.isZero then refuse (.runtime "division by zero")
    else pure ((x / y) :: stack, b)
  else if text = "dup" then
    let (x, stack) ← pop stack text column
    pure (x :: x :: stack, b)
  else if text = "swap" then
    let (y, stack) ← pop stack text column
    let (x, stack) ← pop stack text column
    pure (x :: y :: stack, b)
  else if 1 < byteLength text.toList ∧ text.toList.head? = some '=' then
    let (x, stack) ← pop stack text column
    let name ← sliceFrom 1 text.toList
    pure (stack, b.set (String.ofList name) (toValue x))
  else
    let x ← given (pushed text b)
    pure (x :: stack, b)

/-- The stack after the words, or the first error, and the bindings as they are then. -/
def runWords (ws : List Word) (stack : List Binary64) (b : Bindings) :
    Run Empty (Except EvalError (List Binary64) × Bindings) := do
  match ws with
  | [] => pure (.ok stack, b)
  | word :: rest =>
    match ← caught (runWord machine word stack b) with
    | .error e => pure (.error e, b)
    | .ok (stack, b) => runWords rest stack b

/-- The answer to a postfix line. -/
def evalPostfixLine (line : String) (w : Workspace) : Run Empty (Reply × Workspace) := do
  let (outcome, bindings) ← runWords machine (words line) [] w.bindings
  pure (answer outcome, { w with bindings })

end

/-! ### Expression lines -/

/-- A statement is answered as it should be, and its evaluation does not panic. -/
lemma runStatement_eq (s : Statement) (w : Workspace) : runStatement s w = pure (s.run w) := by
  rcases s with ⟨name, e⟩ | e <;> rw [runStatement, Statement.run, eval_eq] <;>
    rcases heval : e.eval w.bindings w.store with (fault | p) | ⟨v, store⟩
  case assign.error.panic | expr.error.panic =>
    exact absurd heval (Calc.eval_ne_panic w.bindings e w.store p)
  all_goals rfl

variable {machine : Machine} {line : String}

/-- The tokens of a line can be counted where its characters can. -/
lemma holds_of_tokenize {tokens : List PlacedToken} (hline : line.length < machine.index)
    (hdepth : maxDepth < machine.depth) (h : Calc.tokenize line = .ok tokens) :
    Holds machine tokens := by
  have hlength := Calc.length_of_tokenizeFrom h
  have hcolumns := Calc.column_of_tokenizeFrom h
  rw [String.length_toList] at hlength hcolumns
  refine ⟨by omega, fun t ht => ?_, hdepth⟩
  have hcolumn := hcolumns t ht
  omega

/-- On a line that fits, the machine answers as the engine of expression lines. -/
lemma evalExpressionLine_eq (hline : line.length < machine.index)
    (hdepth : maxDepth < machine.depth) (w : Workspace) :
    evalExpressionLine machine line w = pure (Calc.evalLine line w) := by
  rw [evalExpressionLine, Calc.evalLine, tokenize_eq hline, Run.caught_given, pure_bind]
  rcases htokens : Calc.tokenize line with e | _ | ⟨t, rest⟩
  · rfl
  · rfl
  · have hholds := holds_of_tokenize hline hdepth htokens
    simp only [parse_eq hholds, Run.caught_given, pure_bind]
    rcases Calc.parse (t :: rest) with e | s
    · rfl
    · exact runStatement_eq s w

/-! ### Postfix lines -/

/-- A word binds a name where it has more than one byte and starts with an equals sign. -/
lemma stores_iff {text : String} :
    1 < byteLength text.toList ∧ text.toList.head? = some '=' ↔ Rpn.Stores text := by
  rw [Rpn.stores_iff]
  constructor
  · rintro ⟨hlength, hhead⟩
    obtain ⟨_ | ⟨c, cs⟩, htext⟩ := List.head?_eq_some_iff.mp hhead
    · rw [htext] at hlength
      exact absurd hlength (by decide)
    · exact ⟨c, cs, htext⟩
  · rintro ⟨c, cs, htext⟩
    have hle := Text.length_le_byteLength text.toList
    rw [htext, List.length_cons, List.length_cons] at hle
    rw [htext]
    exact ⟨by omega, rfl⟩

/-- Words do what they should do. -/
lemma runWord_eq {word : Word} (hword : word.offset < machine.index) (stack : List Binary64)
    (b : Bindings) : runWord machine word stack b = given (Rpn.runWord word stack b) := by
  have hdistance : (subtract (machine.address + word.offset) machine.address : Run EvalError ℕ) =
      pure word.offset := by
    rw [subtract_eq (Nat.le_add_right _ _), Nat.add_sub_cancel_left]
  have hcolumn : (add machine.index word.offset 1 : Run EvalError ℕ) = pure (word.offset + 1) :=
    add_eq hword
  rw [Rpn.runWord.eq_def]
  simp only [runWord, hdistance, hcolumn, pure_bind]
  by_cases hfixed : word.text ∈ Rpn.fixedWords
  · simp only [Rpn.fixedWords, List.mem_cons, List.not_mem_nil, or_false] at hfixed
    rcases hfixed with htext | htext | htext | htext | htext | htext <;>
      rcases stack with _ | ⟨y, _ | ⟨x, stack⟩⟩ <;>
      simp [htext, pop, Rpn.underflow, Instruction.ofText]
    split <;> rfl
  have hother := hfixed
  simp only [Rpn.fixedWords, List.mem_cons, List.not_mem_nil, or_false, not_or] at hother
  by_cases hstores : Rpn.Stores word.text
  · obtain ⟨c, cs, htext⟩ := Rpn.stores_iff.mp hstores
    have hslice : (sliceFrom 1 word.text.toList : Run EvalError (List Char)) = pure (c :: cs) := by
      rw [htext, sliceFrom_cons rfl]
    rw [Rpn.ofText_eq_store htext]
    rcases stack with _ | ⟨x, stack⟩ <;>
      simp [hother, stores_iff, hstores, pop, hslice, Rpn.underflow]
  · rw [Rpn.ofText_of_not_stores hfixed hstores]
    simp only [List.mem_cons, List.not_mem_nil, hother, or_false, if_false, stores_iff, hstores]
    rcases pushed word.text b with e | x <;> rfl

/-- Words at offsets that fit are run as by the engine. -/
lemma runWords_eq {ws : List Word} (hws : ∀ word ∈ ws, word.offset < machine.index)
    (stack : List Binary64) (b : Bindings) :
    runWords machine ws stack b = pure (Rpn.runWords ws stack b) := by
  induction ws generalizing stack b with
  | nil => rfl
  | cons word ws ih =>
      obtain ⟨hword, hws⟩ := List.forall_mem_cons.mp hws
      rw [runWords, runWord_eq hword, Run.caught_given, pure_bind, Rpn.runWords]
      rcases Rpn.runWord word stack b with e | ⟨stack, b⟩
      · rfl
      · exact ih hws stack b

/-- On a line that fits, the machine answers as the engine of postfix lines. -/
lemma evalPostfixLine_eq (hline : byteLength line.toList < machine.index) (w : Workspace) :
    evalPostfixLine machine line w = pure (Rpn.evalLine line w) := by
  have hwords : ∀ word ∈ words line, word.offset < machine.index := fun word hword =>
    (Text.offset_lt_of_mem_words hword).trans hline
  rw [evalPostfixLine, runWords_eq hwords, pure_bind, Rpn.evalLine_of_runWords rfl]

/-! ### No panics -/

/-- No statement panics. -/
lemma run_ne_panicked (s : Statement) (w : Workspace) (p : Panic) : (s.run w).1 ≠ .panicked p := by
  rcases s with ⟨name, e⟩ | e <;>
    rcases heval : e.eval w.bindings w.store with stop | ⟨v, store⟩ <;>
    simp only [Statement.run, heval]
  case assign.error | expr.error =>
    obtain ⟨error, hstopped⟩ := Calc.exists_stopped_eq heval
    rw [hstopped]
    rintro ⟨⟩
  all_goals rintro ⟨⟩

/-- No expression line does. -/
lemma expression_ne_panicked (line : String) (w : Workspace) (p : Panic) :
    (Calc.evalLine line w).1 ≠ .panicked p := by
  rw [Calc.evalLine]
  split
  next => rintro ⟨⟩
  next => rintro ⟨⟩
  next tokens _ _ =>
    rcases Calc.parse tokens with e | s
    · rintro ⟨⟩
    · exact run_ne_panicked s w p

/-- Nor does a postfix line. -/
lemma postfix_ne_panicked (line : String) (w : Workspace) (p : Panic) :
    (Rpn.evalLine line w).1 ≠ .panicked p := by
  rcases hrun : Rpn.runWords (words line) [] w.bindings with ⟨outcome, b⟩
  rw [Rpn.evalLine_of_runWords hrun]
  rcases outcome with e | _ | ⟨x, stack⟩ <;> rintro ⟨⟩

/-- **No line panics.** On every machine that can count the bytes of a line, and the levels that
expressions nest in, the programs end and answer what the engines answer, whatever names are bound.
So each index is within bounds and each sum and difference has a result. The answer itself is a
value, nothing or an error. -/
theorem evalLine_never_panics (machine : Machine) (line : String) (w : Workspace)
    (hline : byteLength line.toList < machine.index) (hdepth : maxDepth < machine.depth) :
    evalExpressionLine machine line w = pure (Calc.evalLine line w) ∧
      evalPostfixLine machine line w = pure (Rpn.evalLine line w) ∧
      ∀ p, (Calc.evalLine line w).1 ≠ .panicked p ∧ (Rpn.evalLine line w).1 ≠ .panicked p := by
  have hlength : line.length < machine.index := by
    rw [← String.length_toList]
    exact (Text.length_le_byteLength line.toList).trans_lt hline
  exact ⟨evalExpressionLine_eq hlength hdepth w, evalPostfixLine_eq hline w,
    fun p => ⟨expression_ne_panicked line w p, postfix_ne_panicked line w p⟩⟩

/-- A machine that counts in 64 bits answers a line that ends within a text. -/
theorem evalLine_unclosed_never_panics :
    byteLength "=ä . \"\\".toList < 2 ^ 64 - 1 ∧ maxDepth < 2 ^ 64 - 1 ∧
      evalExpressionLine ⟨2 ^ 64 - 1, 2 ^ 64 - 1, 4096⟩ "=ä . \"\\" .empty =
        pure (Calc.evalLine "=ä . \"\\" .empty) ∧
      evalPostfixLine ⟨2 ^ 64 - 1, 2 ^ 64 - 1, 4096⟩ "=ä . \"\\" .empty =
        pure (Rpn.evalLine "=ä . \"\\" .empty) := by
  have hline : byteLength "=ä . \"\\".toList < 2 ^ 64 - 1 := by decide
  have hdepth : maxDepth < 2 ^ 64 - 1 := by decide
  obtain ⟨hexpression, hpostfix, -⟩ :=
    evalLine_never_panics ⟨2 ^ 64 - 1, 2 ^ 64 - 1, 4096⟩ "=ä . \"\\" .empty hline hdepth
  exact ⟨hline, hdepth, hexpression, hpostfix⟩

end LineRepl.Machine
