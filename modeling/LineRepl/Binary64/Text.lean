/-
How a binary64 number is written and read.

* `toText`: the shortest digits that read back, always positional; whole numbers
  have no point.
* `toDebugText`: the same digits with a point in every number, and with an
  exponent from `1e16` on and below `1e-4`.
* `ofText?`: reads an optional sign, digits with an optional point and an optional
  exponent, or a name of infinity or of "not a number" in any case.
-/
import LineRepl.Binary64.Decimal

namespace LineRepl

/-- The decimal digits of a natural number, `0` for zero. -/
def naturalText (n : Nat) : String :=
  if n = 0 then "0" else String.ofList (decimalDigits n)

/-- The decimal digits of an integer after its sign, if it has one. -/
def integerText (n : Int) : String :=
  if n < 0 then "-" ++ naturalText n.natAbs else naturalText n.natAbs

/-- The text with zeros in front to the width of three. -/
def paddedText (n : Nat) : String :=
  let text := naturalText n
  String.ofList (List.replicate (3 - text.length) '0') ++ text

namespace Decimal

/-- The digits without zeros at the end, and the place of the point: the number is
`0.digits * 10 ^ point`. -/
def significant (d : Decimal) : List Char × Int :=
  let all := decimalDigits d.digits
  ((all.reverse.dropWhile (· == '0')).reverse, d.exponent + all.length)

/-- The decimal written with a point at its place and no exponent. `whole` is
put after a number that has no digits after the point. -/
def positional (whole : String) (d : Decimal) : String :=
  let (digits, point) := d.significant
  if point ≤ 0 then
    "0." ++ String.ofList (List.replicate (-point).toNat '0') ++ String.ofList digits
  else if (digits.length : Int) ≤ point then
    let zeros := List.replicate (point - digits.length).toNat '0'
    String.ofList (digits ++ zeros) ++ whole
  else
    String.ofList (digits.take point.toNat) ++ "." ++ String.ofList (digits.drop point.toNat)

/-- The decimal written with one digit before the point and an exponent. -/
def scientific (d : Decimal) : String :=
  let (digits, point) := d.significant
  let fraction := digits.drop 1
  String.ofList (digits.take 1) ++ (if fraction.isEmpty then "" else "." ++ String.ofList fraction)
    ++ "e" ++ integerText (point - 1)

end Decimal

namespace Binary64

/-- The minus sign of a negative number. -/
def signText (negative : Bool) : String := if negative then "-" else ""

/-- The number written positionally, with the fewest digits that read back. -/
def toText : Binary64 → String
  | .nan => "NaN"
  | .infinite s => signText s ++ "inf"
  | .finite s m e h => signText s ++ if m = 0 then "0" else (shortest m e h).positional ""

/-- The number as it is shown inside other structures: always with a point or an
exponent. -/
def toDebugText : Binary64 → String
  | .nan => "NaN"
  | .infinite s => signText s ++ "inf"
  | .finite s m e h =>
    signText s ++
      if m = 0 then "0.0"
      else
        let d := shortest m e h
        let lead := d.significant.2 - 1
        if lead < -4 ∨ 16 ≤ lead then d.scientific else d.positional ".0"

/-! ### Reading -/

/-- The number that a list of decimal digits spells. -/
def digitsValue (digits : List Char) : Nat :=
  digits.foldl (fun n c => 10 * n + (c.toNat - 48)) 0

/-- Reads an integer of decimal digits with an optional sign. -/
def signedDigits? (cs : List Char) : Option Int :=
  let (negative, digits) := match cs with
    | '-' :: rest => (true, rest)
    | '+' :: rest => (false, rest)
    | rest => (false, rest)
  if digits.isEmpty || !digits.all Char.isDigit then none
  else some (signed negative (digitsValue digits))

/-- Reads a decimal without sign: digits with at most one point among them, and an
exponent after them. -/
def decimal? (cs : List Char) : Option Decimal :=
  let whole := cs.takeWhile Char.isDigit
  let rest := cs.dropWhile Char.isDigit
  let (fraction, rest) := match rest with
    | '.' :: rest => (rest.takeWhile Char.isDigit, rest.dropWhile Char.isDigit)
    | rest => ([], rest)
  if whole.isEmpty && fraction.isEmpty then none
  else
    let digits := digitsValue (whole ++ fraction)
    match rest with
    | [] => some ⟨digits, -fraction.length⟩
    | c :: rest =>
      if c == 'e' || c == 'E' then
        (signedDigits? rest).map fun exponent => ⟨digits, exponent - fraction.length⟩
      else none

/-- Reads a number: a decimal, or a name of infinity or of "not a number", after an
optional sign. -/
def ofText? (text : String) : Option Binary64 :=
  let (negative, cs) := match text.toList with
    | '-' :: rest => (true, rest)
    | '+' :: rest => (false, rest)
    | rest => (false, rest)
  let name := String.ofList (cs.map Char.toLower)
  if name == "inf" || name == "infinity" then some (.infinite negative)
  else if name == "nan" then some .nan
  else (decimal? cs).map fun d => d.toBinary64 negative

end Binary64

end LineRepl
