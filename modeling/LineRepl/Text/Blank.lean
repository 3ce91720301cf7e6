/-
Blank characters (the Unicode property `White_Space`) and the two ways a line
is cut at them: trimmed at both ends, and split into words.

* `Word`: a maximal run of characters that are not blank, with the number of
  bytes of the line before it.
* `trim`: the text without the blanks at its ends.
-/
import LineRepl.Text.Ranges

namespace LineRepl.Text

/-- The code points of the property `White_Space`. -/
def blankRanges : Ranges :=
  [(0x9, 0xd), (0x20, 0x20), (0x85, 0x85), (0xa0, 0xa0), (0x1680, 0x1680), (0x2000, 0x200a),
   (0x2028, 0x2029), (0x202f, 0x202f), (0x205f, 0x205f), (0x3000, 0x3000)]

/-- The character separates words and tokens. -/
def isBlank (c : Char) : Bool := blankRanges.contains c

/-- The characters without the blanks at either end. -/
def trimChars (cs : List Char) : List Char :=
  ((cs.dropWhile isBlank).reverse.dropWhile isBlank).reverse

/-- The text without the blanks at either end. -/
def trim (s : String) : String := String.ofList (trimChars s.toList)

/-! ### Words -/

/-- A word of a line and the number of bytes of the line that come before
it. -/
structure Word where
  offset : Nat
  text : String
  deriving DecidableEq, Repr

/-- The number of bytes that the characters take up in UTF-8. -/
def byteLength (cs : List Char) : Nat := cs.foldl (fun n c => n + c.utf8Size) 0

/-- The words of the characters, the first of which stands `offset` bytes into
the line. -/
def wordsFrom (offset : Nat) (cs : List Char) : List Word :=
  match cs with
  | [] => []
  | c :: rest =>
    if isBlank c then wordsFrom (offset + c.utf8Size) rest
    else
      let tail := rest.takeWhile (fun d => !isBlank d)
      let after := rest.dropWhile (fun d => !isBlank d)
      ⟨offset, String.ofList (c :: tail)⟩ ::
        wordsFrom (offset + byteLength (c :: tail)) after
  termination_by cs.length
  decreasing_by
  · simp
  · exact Nat.lt_succ_of_le (List.dropWhile_suffix _).length_le

/-- The words of a line, in order. -/
def words (line : String) : List Word := wordsFrom 0 line.toList

end LineRepl.Text
