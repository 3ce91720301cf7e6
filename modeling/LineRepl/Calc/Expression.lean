/-
Expressions and statements as trees.
-/
import LineRepl.Calc.Token

namespace LineRepl.Calc

/-- The operators between two operands. -/
inductive BinaryOp where
  | add
  | sub
  | mul
  | div
  | rem
  | eq
  | ne
  | lt
  | le
  | gt
  | ge
  deriving DecidableEq, Repr

/-- The name of an operator in messages. -/
def BinaryOp.name : BinaryOp → String
  | .add => "Add"
  | .sub => "Sub"
  | .mul => "Mul"
  | .div => "Div"
  | .rem => "Rem"
  | .eq => "Eq"
  | .ne => "Ne"
  | .lt => "Lt"
  | .le => "Le"
  | .gt => "Gt"
  | .ge => "Ge"

/-- An expression. -/
inductive Expr where
  | int (n : Int64)
  | float (x : Binary64)
  | str (s : String)
  | var (name : String)
  | list (items : List Expr)
  | neg (e : Expr)
  | binary (op : BinaryOp) (left right : Expr)
  | call (callee : Expr) (args : List Expr)
  deriving Repr

instance : Inhabited Expr := ⟨.list []⟩

/-- A line: an expression to evaluate, or a name to bind to the value of one. -/
inductive Statement where
  | assign (name : String) (e : Expr)
  | expr (e : Expr)
  deriving Repr

end LineRepl.Calc
