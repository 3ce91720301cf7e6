/-
Reading a count of 64 bits.

* `Count.ofText`: the number that a text spells, or why it spells none.
-/

namespace LineRepl.Count

/-- Why a text is no count. -/
inductive Fault where
  | empty
  | invalidDigit
  | tooLarge
  deriving DecidableEq, Repr

/-- The wording of a fault. -/
def Fault.message : Fault → String
  | .empty => "cannot parse integer from empty string"
  | .invalidDigit => "invalid digit found in string"
  | .tooLarge => "number too large to fit in target type"

/-- Reads digits behind a number that is already read. Of two faults the one further left
counts. -/
def ofDigits (n : Nat) : List Char → Except Fault Nat
  | [] => .ok n
  | c :: rest =>
    if c.isDigit then
      let n := 10 * n + (c.toNat - 48)
      if n < UInt64.size then ofDigits n rest else .error .tooLarge
    else .error .invalidDigit

/-- Reads a count: decimal digits after an optional plus sign. -/
def ofText (text : String) : Except Fault Nat :=
  match text.toList with
  | [] => .error .empty
  | '+' :: c :: rest => ofDigits 0 (c :: rest)
  | cs => ofDigits 0 cs

end LineRepl.Count
