/-
Numbers of the IEEE 754 format binary64, held by what they mean: a sign, a
mantissa below `2 ^ 53` and a power of two, or one of the infinities, or "not a
number". Every finite number has exactly one form here (`Canonical`), so two
finite numbers with the same sign are equal in value exactly when they are
equal.

* `round`: the number nearest to a fraction of natural numbers, a tie going to
  the even mantissa, a value beyond the finite range going to infinity.
* `ofInt`: the number nearest to an integer.
* `toInt?`: the integer a number is equal to, if there is one.
* `compare?`: the order of two numbers, none when one is not a number; the two
  zeros are equal.
-/

namespace LineRepl

namespace Binary64

/-- The pair stands for `mantissa * 2 ^ exponent` in the form that binary64
stores: the mantissa has 53 binary digits, or fewer at the least exponent. -/
def Canonical (mantissa : Nat) (exponent : Int) : Prop :=
  mantissa < 1 <<< 53 ∧ -1074 ≤ exponent ∧ exponent ≤ 971 ∧
    (1 <<< 52 ≤ mantissa ∨ exponent = -1074)

instance (mantissa : Nat) (exponent : Int) : Decidable (Canonical mantissa exponent) := by
  unfold Canonical; infer_instance

end Binary64

/-- A binary64 number. -/
inductive Binary64 where
  | nan
  | infinite (negative : Bool)
  | finite (negative : Bool) (mantissa : Nat) (exponent : Int)
      (canonical : Binary64.Canonical mantissa exponent)
  deriving DecidableEq, Repr

namespace Binary64

/-- The zero of either sign. -/
def zero (negative : Bool) : Binary64 := .finite negative 0 (-1074) (by decide)

instance : Inhabited Binary64 := ⟨zero false⟩

/-- The integer with the given sign and magnitude. -/
def signed (negative : Bool) (magnitude : Nat) : Int :=
  if negative then -(magnitude : Int) else magnitude

/-! ### Rounding -/

/-- The quotient rounded to the nearest natural number, a tie going to the even
one. -/
def roundQuotient (num den : Nat) : Nat :=
  let low := num / den
  let rest := 2 * (num % den)
  if rest < den then low
  else if den < rest then low + 1
  else if low % 2 = 0 then low
  else low + 1

/-- Numerator and denominator of `num / den / 2 ^ exponent`. -/
def unscale (num den : Nat) (exponent : Int) : Nat × Nat :=
  (num <<< (-exponent).toNat, den <<< exponent.toNat)

/-- The power of two that `num / den` is counted in: the one that leaves 53
binary digits before the point, and never less than `2 ^ (-1074)`. -/
def unitExponent (num den : Nat) : Int :=
  let guess : Int := (num.log2 : Int) - den.log2 - 53
  let scaled := unscale num den guess
  max (if 1 <<< 53 ≤ scaled.1 / scaled.2 then guess + 1 else guess) (-1074)

/-- The number nearest to the fraction `num / den` with the given sign. A tie
goes to the even mantissa; a mantissa that rounds up to `2 ^ 53` moves to the next
power of two; what is then too large for a finite number is infinite. -/
def round (negative : Bool) (num den : Nat) : Binary64 :=
  if num = 0 then zero negative else
  let exponent := unitExponent num den
  let scaled := unscale num den exponent
  let mantissa := roundQuotient scaled.1 scaled.2
  let carried : Nat × Int :=
    if mantissa = 1 <<< 53 then (1 <<< 52, exponent + 1) else (mantissa, exponent)
  if h : Canonical carried.1 carried.2 then .finite negative carried.1 carried.2 h
  else .infinite negative

/-- The number nearest to `magnitude * 2 ^ exponent` with the given sign. -/
def roundScaled (negative : Bool) (magnitude : Nat) (exponent : Int) : Binary64 :=
  round negative (magnitude <<< exponent.toNat) (1 <<< (-exponent).toNat)

/-- The number nearest to an integer. -/
def ofInt (n : Int) : Binary64 := round (decide (n < 0)) n.natAbs 1

/-! ### Exact values -/

/-- The integer that the number is equal to, if it is whole. -/
def toInt? : Binary64 → Option Int
  | .nan | .infinite _ => none
  | .finite negative mantissa exponent _ =>
    let unit := 1 <<< (-exponent).toNat
    if mantissa % unit = 0 then some (signed negative ((mantissa / unit) <<< exponent.toNat))
    else none

/-- The mantissa with its sign, counted in units of `2 ^ unit`; `unit` is at
most the exponent. -/
def units (negative : Bool) (mantissa : Nat) (exponent unit : Int) : Int :=
  signed negative (mantissa <<< (exponent - unit).toNat)

/-- The order of two numbers; none when one of them is not a number. -/
def compare? : Binary64 → Binary64 → Option Ordering
  | .nan, _ | _, .nan => none
  | .infinite s, .infinite t => some (compare t.toNat s.toNat)
  | .infinite s, .finite .. => some (if s then .lt else .gt)
  | .finite .., .infinite t => some (if t then .gt else .lt)
  | .finite s m e _, .finite t n f _ =>
    let unit := min e f
    some (compare (units s m e unit) (units t n f unit))

/-- Equality of value: zeros of either sign are equal, and what is not a number
is equal to nothing. -/
def eq (a b : Binary64) : Bool := a.compare? b == some .eq

/-- The first number is below the second. -/
def lt (a b : Binary64) : Bool := a.compare? b == some .lt

/-- The first number is below the second or equal to it. -/
def le (a b : Binary64) : Bool := a.lt b || a.eq b

/-- The number is one of the two zeros. -/
def isZero (a : Binary64) : Bool := a.eq (zero false)

end Binary64

end LineRepl
