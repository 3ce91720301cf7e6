/-
Lines that name a command: a marker, the name of the command and, after the first space, its
argument as it stands.

* `CommandLine.parse?`: splits such a line.
* `CommandLine.argument_shorter`: what follows the name is shorter than the line.
-/

namespace LineRepl

/-- The name that a line gives after the marker, and what stands after the first
space. -/
structure CommandLine where
  name : String
  argument : Option String
  deriving DecidableEq, Repr

namespace CommandLine

/-- Splits what follows the marker at the first space. -/
def ofChars (cs : List Char) : CommandLine where
  name := String.ofList (cs.takeWhile (· != ' '))
  argument :=
    match cs.dropWhile (· != ' ') with
    | [] => none
    | _ :: argument => some (String.ofList argument)

/-- What is left of characters after the marker, if they start with it. -/
def dropMarker? : (marker cs : List Char) → Option (List Char)
  | [], cs => some cs
  | _ :: _, [] => none
  | m :: marker, c :: cs => if m = c then dropMarker? marker cs else none

/-- Splits a line that starts with the marker; any other line names no command. -/
def parse? (marker line : String) : Option CommandLine :=
  (dropMarker? marker.toList line.toList).map ofChars

/-- The argument as a line of its own; the empty line if there is none. -/
def argumentLine (c : CommandLine) : String := c.argument.getD ""

/-- The argument is part of what it was split from. -/
theorem length_argumentLine_ofChars (cs : List Char) :
    (ofChars cs).argumentLine.length ≤ cs.length := by
  have h := (List.dropWhile_suffix (l := cs) (· != ' ')).length_le
  unfold argumentLine ofChars
  split <;> simp_all
  omega

/-- The marker and what is left after it make up the characters. -/
theorem eq_append_of_dropMarker? {marker cs rest : List Char}
    (h : dropMarker? marker cs = some rest) : cs = marker ++ rest := by
  fun_induction dropMarker? marker cs with
  | case1 cs =>
    cases h
    rfl
  | case2 => cases h
  | case3 marker c cs ih => rw [ih h, List.cons_append]
  | case4 => cases h

/-- Behind a marker that is not empty the argument is shorter than the line. -/
theorem argument_shorter {marker line : String} {c : CommandLine} (hm : marker ≠ "")
    (h : parse? marker line = some c) : c.argumentLine.length < line.length := by
  obtain ⟨rest, hrest, rfl⟩ := Option.map_eq_some_iff.1 h
  have hlen := congrArg List.length (eq_append_of_dropMarker? hrest)
  have hpos : marker.length ≠ 0 := by simpa using hm
  have hsub := length_argumentLine_ofChars rest
  simp only [List.length_append, String.length_toList] at hlen
  omega

end CommandLine

end LineRepl
