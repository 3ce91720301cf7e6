/-
Sets of characters given by closed ranges of code points, the form in which
Unicode properties are published.
-/

namespace LineRepl.Text

/-- A set of characters: the closed ranges of the code points it holds. -/
abbrev Ranges := List (Nat × Nat)

/-- Membership of a character: some range holds its code point. -/
def Ranges.contains (ranges : Ranges) (c : Char) : Bool :=
  ranges.any fun range => range.1 ≤ c.toNat && c.toNat ≤ range.2

/-- A character is a member exactly when one of the ranges holds its code
point. -/
theorem Ranges.contains_iff {ranges : Ranges} {c : Char} :
    ranges.contains c = true ↔ ∃ range ∈ ranges, range.1 ≤ c.toNat ∧ c.toNat ≤ range.2 := by
  simp [Ranges.contains]

end LineRepl.Text
