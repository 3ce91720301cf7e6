/-
Arithmetic on binary64 numbers: every finite result is the exact one, rounded
once. The rules for zeros, infinities and "not a number" are those of the
standard.

* `add`, `sub`, `mul`, `div`: rounded exact results.
* `rem`: the remainder of the division rounded toward zero, which is exact and
  has the sign of the dividend.
-/
import LineRepl.Binary64.Basic

namespace LineRepl.Binary64

/-- The number with the other sign. -/
def neg : Binary64 → Binary64
  | .nan => .nan
  | .infinite s => .infinite (!s)
  | .finite s m e h => .finite (!s) m e h

/-- The sum. Two numbers that cancel leave the positive zero. -/
def add : Binary64 → Binary64 → Binary64
  | .nan, _ | _, .nan => .nan
  | .infinite s, .infinite t => if s = t then .infinite s else .nan
  | .infinite s, .finite .. => .infinite s
  | .finite .., .infinite t => .infinite t
  | .finite s m e _, .finite t n f _ =>
    let unit := min e f
    let total := units s m e unit + units t n f unit
    if total = 0 then zero (s && t) else roundScaled (decide (total < 0)) total.natAbs unit

/-- The difference. -/
def sub (a b : Binary64) : Binary64 := add a b.neg

/-- The product. -/
def mul : Binary64 → Binary64 → Binary64
  | .nan, _ | _, .nan => .nan
  | .infinite s, .infinite t => .infinite (s != t)
  | .infinite s, .finite t n _ _ => if n = 0 then .nan else .infinite (s != t)
  | .finite s m _ _, .infinite t => if m = 0 then .nan else .infinite (s != t)
  | .finite s m e _, .finite t n f _ =>
    if m * n = 0 then zero (s != t) else roundScaled (s != t) (m * n) (e + f)

/-- The quotient. -/
def div : Binary64 → Binary64 → Binary64
  | .nan, _ | _, .nan => .nan
  | .infinite _, .infinite _ => .nan
  | .infinite s, .finite t _ _ _ => .infinite (s != t)
  | .finite s _ _ _, .infinite t => zero (s != t)
  | .finite s m e _, .finite t n f _ =>
    if n = 0 then (if m = 0 then .nan else .infinite (s != t))
    else if m = 0 then zero (s != t)
    else
      let unit := min e f
      round (s != t) (m <<< (e - unit).toNat) (n <<< (f - unit).toNat)

/-- The remainder of the division rounded toward zero. -/
def rem : Binary64 → Binary64 → Binary64
  | .nan, _ | _, .nan | .infinite _, _ => .nan
  | x, .infinite _ => x
  | .finite s m e _, .finite _ n f _ =>
    if n = 0 then .nan
    else
      let unit := min e f
      let rest := m <<< (e - unit).toNat % (n <<< (f - unit).toNat)
      if rest = 0 then zero s else roundScaled s rest unit

instance : Neg Binary64 := ⟨neg⟩
instance : Add Binary64 := ⟨add⟩
instance : Sub Binary64 := ⟨sub⟩
instance : Mul Binary64 := ⟨mul⟩
instance : Div Binary64 := ⟨div⟩
instance : Mod Binary64 := ⟨rem⟩

end LineRepl.Binary64
