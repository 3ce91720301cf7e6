/-
What the operators of expressions do to values.

* `intBinary`: integers are computed exactly or not at all.
* `floatBinary`: floats follow binary64 arithmetic, except that division by zero
  fails.
* `binary`: texts and lists are joined, any two values are compared for equality, and
  numbers of mixed kinds are computed as floats.
-/
import LineRepl.Binary64.Arithmetic
import LineRepl.Calc.Expression

namespace LineRepl.Calc

/-- Why an expression has no value. -/
inductive RuntimeFault where
  | undefinedName (name : String)
  | integerOverflow
  | divisionByZero
  | cannotNegate (kind : Kind)
  | unsupportedOperands (op : BinaryOp) (left right : Kind)
  | notCallable (kind : Kind)
  | wrongArgumentCount (f : NativeFunction) (got : Nat)
  | failedCall (f : NativeFunction) (message : String)
  deriving DecidableEq, Repr

/-- The wording of a fault. -/
def RuntimeFault.message : RuntimeFault → String
  | .undefinedName name => "undefined name '" ++ name ++ "'"
  | .integerOverflow => "integer overflow"
  | .divisionByZero => "division by zero"
  | .cannotNegate kind => "cannot negate " ++ kind.name
  | .unsupportedOperands op left right =>
    "unsupported operand types for " ++ op.name ++ ": " ++ left.name ++ " and " ++ right.name
  | .notCallable kind => kind.name ++ " is not callable"
  | .wrongArgumentCount f got =>
    f.name ++ "() takes " ++ naturalText f.arity ++ " argument(s), got " ++ naturalText got
  | .failedCall f message => f.name ++ ": " ++ message

/-! ### Numbers -/

/-- The integer as a value, if it has 64 bits. -/
def exactInt (n : Int) : Except RuntimeFault Value :=
  if Int64.minValue.toInt ≤ n ∧ n ≤ Int64.maxValue.toInt then .ok (.int (Int64.ofInt n))
  else .error .integerOverflow

/-- The remainder of a division rounded toward zero, if the division has a divisor and a
quotient of 64 bits. The only quotient of more bits is that of the least integer and minus
one. -/
def remainder? (a b : Int64) : Option Int :=
  if b = 0 ∨ (a = Int64.minValue ∧ b = -1) then none else some (a.toInt.tmod b.toInt)

/-- The value of an operator on two integers. A quotient is an integer if the remainder
exists and is zero, and a float otherwise; a remainder that does not exist is an
overflow. -/
def intBinary (op : BinaryOp) (a b : Int64) : Except RuntimeFault Value :=
  match op with
  | .add => exactInt (a.toInt + b.toInt)
  | .sub => exactInt (a.toInt - b.toInt)
  | .mul => exactInt (a.toInt * b.toInt)
  | .div =>
    if b = 0 then .error .divisionByZero
    else if remainder? a b = some 0 then exactInt (a.toInt.tdiv b.toInt)
    else .ok (.float (.div (.ofInt a.toInt) (.ofInt b.toInt)))
  | .rem =>
    if b = 0 then .error .divisionByZero
    else
      match remainder? a b with
      | some r => exactInt r
      | none => .error .integerOverflow
  | .eq => .ok (.bool (a == b))
  | .ne => .ok (.bool (a != b))
  | .lt => .ok (.bool (decide (a < b)))
  | .le => .ok (.bool (decide (a ≤ b)))
  | .gt => .ok (.bool (decide (b < a)))
  | .ge => .ok (.bool (decide (b ≤ a)))

/-- The value of an operator on two floats. -/
def floatBinary (op : BinaryOp) (a b : Binary64) : Except RuntimeFault Value :=
  match op with
  | .add => .ok (.float (a + b))
  | .sub => .ok (.float (a - b))
  | .mul => .ok (.float (a * b))
  | .div => if b.isZero then .error .divisionByZero else .ok (.float (a / b))
  | .rem => if b.isZero then .error .divisionByZero else .ok (.float (a % b))
  | .eq => .ok (.bool (a.eq b))
  | .ne => .ok (.bool (!a.eq b))
  | .lt => .ok (.bool (a.lt b))
  | .le => .ok (.bool (a.le b))
  | .gt => .ok (.bool (b.lt a))
  | .ge => .ok (.bool (b.le a))

/-! ### Values -/

/-- Equality as expressions see it: numbers of either kind are compared as
floats. -/
def looselyEqual (a b : Value) : Bool :=
  match a.toBinary64?, b.toBinary64? with
  | some x, some y => x.eq y
  | _, _ => a.same b

/-- The value of an operator on two numbers, one of which at least is a float;
other values are refused. -/
def mixedBinary (op : BinaryOp) (a b : Value) : Except RuntimeFault Value :=
  match a.toBinary64?, b.toBinary64? with
  | some x, some y => floatBinary op x y
  | _, _ => .error (.unsupportedOperands op a.kind b.kind)

/-- The value of an operator on two values. -/
def binary (op : BinaryOp) (a b : Value) : Except RuntimeFault Value :=
  match op, a, b with
  | .add, .str s, b => .ok (.str (s ++ b.text))
  | .add, a, .str t => .ok (.str (a.text ++ t))
  | .add, .list xs, .list ys => .ok (.list (xs ++ ys))
  | .eq, a, b => .ok (.bool (looselyEqual a b))
  | .ne, a, b => .ok (.bool (!looselyEqual a b))
  | op, .int m, .int n => intBinary op m n
  | op, a, b => mixedBinary op a b

/-- The value of a minus sign before a value. -/
def negate (v : Value) : Except RuntimeFault Value :=
  match v with
  | .int n => exactInt (-n.toInt)
  | .float x => .ok (.float (-x))
  | other => .error (.cannotNegate other.kind)

end LineRepl.Calc
