/-
The engine of postfix lines: words that work on a stack of floats.

Numbers and names push, operators replace operands by their result, and a word `=name` moves
the top of the stack into a binding. What a failing line bound before the failing word
stays bound.

* `Word.run`: the effect of one word on the stack and the bindings.
* `toValue`: a float as a value, an integer where it is a whole number of 64 bits.
-/
import LineRepl.Binary64.Arithmetic
import LineRepl.Engine
import LineRepl.Text.Blank

namespace LineRepl.Rpn

open Text (Word words)

/-- The number as a value: an integer if it is whole and has 64 bits. -/
def toValue (x : Binary64) : Value :=
  match x.toInt? with
  | some n => if n.natAbs < 1 <<< 63 then .int (Int64.ofInt n) else .float x
  | none => .float x

/-- What a word asks for. -/
inductive Instruction where
  | add
  | sub
  | mul
  | div
  | dup
  | swap
  | store (name : String)
  | push (text : String)
  deriving DecidableEq, Repr

/-- What a word asks for; an equals sign alone is a name to push. -/
def Instruction.ofText (text : String) : Instruction :=
  if text == "+" then .add
  else if text == "-" then .sub
  else if text == "*" then .mul
  else if text == "/" then .div
  else if text == "dup" then .dup
  else if text == "swap" then .swap
  else
    match text.toList with
    | '=' :: c :: rest => .store (String.ofList (c :: rest))
    | _ => .push text

/-- The error of a word that needs more operands than there are. Its column is
counted in bytes. -/
def underflow (word : Word) : EvalError :=
  .malformed ("stack underflow at '" ++ word.text ++ "'") (word.offset + 1)

/-- The number that a word pushes: the one it spells, or else the one that it is
bound to. -/
def pushed (text : String) (b : Bindings) : Except EvalError Binary64 :=
  match Binary64.ofText? text with
  | some x => .ok x
  | none =>
    match b.get? text with
    | none => .error (.runtime ("undefined name '" ++ text ++ "'"))
    | some v =>
      match v.toBinary64? with
      | some x => .ok x
      | none => .error (.runtime ("'" ++ text ++ "' is a " ++ v.kind.name ++ ", not a number"))

/-- The stack and the bindings after one word. The top of the stack is its
head. -/
def runWord (word : Word) (stack : List Binary64) (b : Bindings) :
    Except EvalError (List Binary64 × Bindings) :=
  match Instruction.ofText word.text, stack with
  | .add, y :: x :: rest => .ok ((x + y) :: rest, b)
  | .sub, y :: x :: rest => .ok ((x - y) :: rest, b)
  | .mul, y :: x :: rest => .ok ((x * y) :: rest, b)
  | .div, y :: x :: rest =>
    if y.isZero then .error (.runtime "division by zero") else .ok ((x / y) :: rest, b)
  | .dup, x :: rest => .ok (x :: x :: rest, b)
  | .swap, y :: x :: rest => .ok (x :: y :: rest, b)
  | .store name, x :: rest => .ok (rest, b.set name (toValue x))
  | .push text, stack => (pushed text b).map fun x => (x :: stack, b)
  | _, _ => .error (underflow word)

/-- The stack after the words, or the first error, and the bindings as they are
then. -/
def runWords (ws : List Word) (stack : List Binary64) (b : Bindings) :
    Except EvalError (List Binary64) × Bindings :=
  match ws with
  | [] => (.ok stack, b)
  | word :: rest =>
    match runWord word stack b with
    | .error e => (.error e, b)
    | .ok (stack, b) => runWords rest stack b

/-- The answer to a line: the number on top of the stack, if there is one. -/
def evalLine (line : String) (w : Workspace) : Reply × Workspace :=
  let (outcome, bindings) := runWords (words line) [] w.bindings
  let reply : Reply := match outcome with
    | .error e => .error e
    | .ok [] => .nothing
    | .ok (x :: _) => .value (toValue x)
  (reply, { w with bindings })

/-- The engine of postfix lines. -/
def engine : Engine where
  info := ⟨"Stack Calculator", "rpn", ["rpn", "stack"]⟩
  eval := evalLine

end LineRepl.Rpn
