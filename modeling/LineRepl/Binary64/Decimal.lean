/-
Decimal numbers `digits * 10 ^ exponent`, and the way from binary64 to decimal
and back.

* `Decimal.toBinary64`: the nearest binary64 number.
* `shortest`: for a positive finite number, the decimal with the fewest digits
  that reads back as it; of two such the nearer, and of two equally near the
  greater.
-/
import LineRepl.Binary64.Basic

namespace LineRepl

/-- The decimal number `digits * 10 ^ exponent`. -/
structure Decimal where
  digits : Nat
  exponent : Int
  deriving DecidableEq, Repr

/-- How many decimal digits a positive number is written with; none for zero. -/
def decimalLength (n : Nat) : Nat :=
  if _ : n = 0 then 0 else decimalLength (n / 10) + 1
  termination_by n
  decreasing_by omega

/-- The decimal digits of a number, most significant first; none for zero. -/
def decimalDigits (n : Nat) : List Char :=
  if _ : n = 0 then [] else decimalDigits (n / 10) ++ [Char.ofNat (48 + n % 10)]
  termination_by n
  decreasing_by omega

namespace Decimal

/-- Numerator and denominator of the decimal. -/
def fraction (d : Decimal) : Nat × Nat :=
  (d.digits * Nat.pow 10 d.exponent.toNat, Nat.pow 10 (-d.exponent).toNat)

/-- The binary64 number nearest to the decimal. Below `10 ^ (-324)` that is
zero and from `10 ^ 309` on it is infinite, whatever the digits are. -/
def toBinary64 (negative : Bool) (d : Decimal) : Binary64 :=
  let top := d.exponent + decimalLength d.digits
  if d.digits = 0 ∨ top ≤ -324 then .zero negative
  else if 310 ≤ top then .infinite negative
  else .round negative d.fraction.1 d.fraction.2

end Decimal

namespace Binary64

/-- The decimals on the grid of multiples of `10 ^ exponent` that enclose the
fraction `num / den`, the nearer one first; of two equally near, the greater
first. -/
def gridNeighbours (num den : Nat) (exponent : Int) : List Decimal :=
  let up := num * Nat.pow 10 (-exponent).toNat
  let down := den * Nat.pow 10 exponent.toNat
  let low := up / down
  if 2 * (up % down) < down then [⟨low, exponent⟩, ⟨low + 1, exponent⟩]
  else [⟨low + 1, exponent⟩, ⟨low, exponent⟩]

/-- The first decimal that reads back as `x`, on the grids of `10 ^ exponent`,
`10 ^ (exponent - 1)` and so on, `count` of them; failing all, the nearest decimal
on the grid after the last. -/
def firstReadingBack (x : Binary64) (num den : Nat) : (count : Nat) → (exponent : Int) → Decimal
  | 0, exponent => (gridNeighbours num den exponent).head (by
      unfold gridNeighbours; simp only; split <;> simp)
  | count + 1, exponent =>
    match (gridNeighbours num den exponent).find? fun d => d.toBinary64 false == x with
    | some d => d
    | none => firstReadingBack x num den count (exponent - 1)

/-- The shortest decimal that reads back as the positive number
`mantissa * 2 ^ exponent`. Sixteen grids are tried; the seventeenth always has such a
decimal. -/
def shortest (mantissa : Nat) (exponent : Int) (h : Canonical mantissa exponent) : Decimal :=
  let num := mantissa <<< exponent.toNat
  let den := 1 <<< (-exponent).toNat
  let top : Int := (decimalLength num : Int) - decimalLength den
  -- the leading digit of the number stands at `10 ^ top` or at `10 ^ (top - 1)`
  let lead := if den * Nat.pow 10 top.toNat ≤ num * Nat.pow 10 (-top).toNat then top else top - 1
  firstReadingBack (.finite false mantissa exponent h) num den 16 lead

end Binary64

end LineRepl
