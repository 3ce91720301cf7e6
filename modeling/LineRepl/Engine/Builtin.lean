/-
The engines that are always there: the calculator with infix operators and the one with a stack.
-/
import LineRepl.Calc.Eval
import LineRepl.Rpn

namespace LineRepl

/-- The two calculators, the infix one first. -/
def EngineTable.builtin : EngineTable := (empty.register Calc.engine).register Rpn.engine

end LineRepl
