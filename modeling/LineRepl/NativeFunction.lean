/-
The functions that expressions can call by name, apart from what a call of them
does.
-/
import LineRepl.Binary64.Text
import LineRepl.Text.Quoted

namespace LineRepl

/-- A function that every session knows. -/
inductive NativeFunction where
  /-- `range(a, b)`: the integers from `a` on, below `b`. -/
  | range
  /-- `naturals()`: all natural numbers. -/
  | naturals
  /-- `len(x)`: characters of a text, items of a list. -/
  | len
  /-- `str(x)`: the displayed text of a value. -/
  | str
  deriving DecidableEq, Repr

namespace NativeFunction

/-- The functions, in the order in which names are looked up. -/
def all : List NativeFunction := [.range, .naturals, .len, .str]

/-- The name the function is called by. -/
def name : NativeFunction → String
  | .range => "range"
  | .naturals => "naturals"
  | .len => "len"
  | .str => "str"

/-- How many arguments a call takes. -/
def arity : NativeFunction → Nat
  | .range => 2
  | .naturals => 0
  | .len | .str => 1

/-- The function as it is shown inside other structures. -/
def debugText (f : NativeFunction) : String :=
  "NativeFn \x7b name: " ++ Text.quoted f.name ++ ", arity: " ++ naturalText f.arity ++ " \x7d"

/-- The function of a name. -/
def ofName? (name : String) : Option NativeFunction := all.find? (·.name == name)

end NativeFunction

end LineRepl
