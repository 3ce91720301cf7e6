/-
The engine of expression lines.

* `Expr.eval`: the value of an expression under bindings, or why it has none.
* `evalLine`: the answer to a line; an assignment is the only line that changes a
  binding.
* `engine`: the engine as it is registered.
-/
import LineRepl.Calc.Lexer
import LineRepl.Calc.Operator
import LineRepl.Calc.Parser
import LineRepl.Engine
import LineRepl.NativeFunction.Call

namespace LineRepl.Calc

/-- The value of a name: what it is bound to, or else what it always means. -/
def lookup (b : Bindings) (name : String) : Except RuntimeFault Value :=
  match b.get? name with
  | some v => .ok v
  | none =>
    if name == "true" then .ok (.bool true)
    else if name == "false" then .ok (.bool false)
    else
      match NativeFunction.ofName? name with
      | some f => .ok (.function f)
      | none => .error (.undefinedName name)

/-- A value or a fault, with the store as it was. -/
def withStore (store : Store) (r : Except RuntimeFault Value) :
    Except (Stop RuntimeFault) (Value × Store) :=
  match r with
  | .ok v => .ok (v, store)
  | .error fault => .error (.fault fault)

/-- The value of a call, its failure told under the function's name. -/
def callFunction (f : NativeFunction) (args : List Value) (store : Store) :
    Except (Stop RuntimeFault) (Value × Store) :=
  match f.call args store with
  | .ok r => .ok r
  | .error (.fault fault) => .error (.fault (.failedCall f fault.message))
  | .error (.panic p) => .error (.panic p)

/-- The function that a value is, when it is called with `count` arguments. -/
def callee (v : Value) (count : Nat) : Except RuntimeFault NativeFunction :=
  match v with
  | .function f => if count = f.arity then .ok f else .error (.wrongArgumentCount f count)
  | other => .error (.notCallable other.kind)

mutual

/-- The value of an expression. Operands are evaluated from left to right; a callee
is looked at before its arguments are. -/
def Expr.eval (b : Bindings) (e : Expr) (store : Store) :
    Except (Stop RuntimeFault) (Value × Store) :=
  match e with
  | .int n => .ok (.int n, store)
  | .float x => .ok (.float x, store)
  | .str s => .ok (.str s, store)
  | .var name => withStore store (lookup b name)
  | .list items =>
    match evalItems b items store with
    | .error stop => .error stop
    | .ok (values, store) => .ok (.list values, store)
  | .neg e =>
    match e.eval b store with
    | .error stop => .error stop
    | .ok (v, store) => withStore store (negate v)
  | .binary op left right =>
    match left.eval b store with
    | .error stop => .error stop
    | .ok (v, store) =>
      match right.eval b store with
      | .error stop => .error stop
      | .ok (w, store) => withStore store (binary op v w)
  | .call function args =>
    match function.eval b store with
    | .error stop => .error stop
    | .ok (v, store) =>
      match callee v args.length with
      | .error fault => .error (.fault fault)
      | .ok f =>
        match evalItems b args store with
        | .error stop => .error stop
        | .ok (values, store) => callFunction f values store

/-- The values of expressions, in order. -/
def evalItems (b : Bindings) (es : List Expr) (store : Store) :
    Except (Stop RuntimeFault) (List Value × Store) :=
  match es with
  | [] => .ok ([], store)
  | e :: rest =>
    match e.eval b store with
    | .error stop => .error stop
    | .ok (v, store) =>
      match evalItems b rest store with
      | .error stop => .error stop
      | .ok (values, store) => .ok (v :: values, store)

end

/-! ### Lines -/

/-- The answer to a line that is malformed. -/
def malformed (e : SyntaxError) : Reply := .error (.malformed e.fault.message e.column)

/-- The answer to a line whose expression has no value. -/
def stopped : Stop RuntimeFault → Reply
  | .fault fault => .error (.runtime fault.message)
  | .panic p => .panicked p

/-- The answer to a statement. -/
def Statement.run (s : Statement) (w : Workspace) : Reply × Workspace :=
  match s with
  | .expr e =>
    match e.eval w.bindings w.store with
    | .error stop => (stopped stop, w)
    | .ok (v, store) => (.value v, { w with store })
  | .assign name e =>
    match e.eval w.bindings w.store with
    | .error stop => (stopped stop, w)
    | .ok (v, store) => (.nothing, { bindings := w.bindings.set name v, store })

/-- The answer to a line. A line without tokens has none. -/
def evalLine (line : String) (w : Workspace) : Reply × Workspace :=
  match tokenize line with
  | .error e => (malformed e, w)
  | .ok [] => (.nothing, w)
  | .ok tokens =>
    match parse tokens with
    | .error e => (malformed e, w)
    | .ok statement => statement.run w

/-- The engine of expression lines. -/
def engine : Engine where
  info := ⟨"Calc Interpreter", "calc", ["calc"]⟩
  eval := evalLine

end LineRepl.Calc
