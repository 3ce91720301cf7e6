/-
A console over bytes: input is a sequence of bytes in UTF-8, prompts and text go to one output.

A line ends with a line feed, and a carriage return before it belongs to the line end. A line that
is not UTF-8 fails the read and is used up. Writing can be made to fail: `fault` gives the
error of the k-th text that is not empty.
-/
import LineRepl.Console

namespace LineRepl

/-- Bytes that wait to be read, what was written so far and in how many texts, and which of the
texts cannot be written. -/
structure ByteConsole where
  input : List UInt8
  output : String
  writes : Nat
  fault : Nat → Option IoError

namespace ByteConsole

/-- The console that reads the bytes and whose output never fails. -/
def ofBytes (input : List UInt8) : ByteConsole := ⟨input, "", 0, fun _ => none⟩

/-- Writes a text. The empty text is never refused and not counted. -/
def write (text : String) (c : ByteConsole) : Except IoError Unit × ByteConsole :=
  if text = "" then (.ok (), c)
  else
    let c := { c with writes := c.writes + 1 }
    match c.fault c.writes with
    | some e => (.error e, c)
    | none => (.ok (), { c with output := c.output ++ text })

/-- The text that bytes spell in UTF-8. -/
def decode? (bytes : List UInt8) : Option String := String.fromUTF8? ⟨bytes.toArray⟩

/-- The bytes of a line before its line feed, without a carriage return at the end. -/
def chomp (bytes : List UInt8) : List UInt8 :=
  if bytes.getLast? = some 13 then bytes.dropLast else bytes

/-- The first line of the bytes, without its line end, and the bytes after it. -/
def firstLine (bytes : List UInt8) : List UInt8 × List UInt8 :=
  match bytes.dropWhile (· != 10) with
  | [] => (bytes, [])
  | _ :: rest => (chomp (bytes.takeWhile (· != 10)), rest)

/-- The error of input that is not UTF-8. -/
def notText : IoError := ⟨.invalidData, "stream did not contain valid UTF-8"⟩

/-- Shows the prompt and reads the next line. -/
def readLine (prompt : String) (c : ByteConsole) : Except IoError (Option String) × ByteConsole :=
  match write prompt c with
  | (.error e, c) => (.error e, c)
  | (.ok (), c) =>
    match c.input with
    | [] => (.ok none, c)
    | _ :: _ =>
      let (line, rest) := firstLine c.input
      match decode? line with
      | some text => (.ok (some text), { c with input := rest })
      | none => (.error notText, { c with input := rest })

/-- Writing leaves the input alone. -/
theorem input_write (text : String) (c : ByteConsole) : (write text c).2.input = c.input := by
  unfold write
  split
  · rfl
  · simp only
    split <;> rfl

/-- A line takes at least one byte. -/
theorem length_firstLine {bytes : List UInt8} (h : bytes ≠ []) :
    (firstLine bytes).2.length < bytes.length := by
  have hs := (List.dropWhile_suffix (l := bytes) (· != 10)).length_le
  unfold firstLine
  split
  next => exact List.length_pos_iff.2 h
  next hrest =>
    rw [hrest] at hs
    exact hs

/-- Reading either leaves the input as it was, without giving a line, or makes it
shorter. -/
theorem input_readLine (prompt : String) (c : ByteConsole) :
    ((readLine prompt c).2.input = c.input ∧ ∀ line, (readLine prompt c).1 ≠ .ok (some line)) ∨
      (readLine prompt c).2.input.length < c.input.length := by
  have hw := input_write prompt c
  unfold readLine
  split
  next e c' h => left; rw [h] at hw; exact ⟨hw, by simp⟩
  next c' h =>
    rw [h] at hw
    simp only at hw
    split
    next hi => left; exact ⟨hw, by simp⟩
    next b bs hi =>
      right
      have hlt : (firstLine c'.input).2.length < c'.input.length :=
        length_firstLine (by simp [hi])
      rw [hw] at hlt
      simp only [hw]
      split <;> exact hlt

instance : Console ByteConsole where
  readLine := readLine
  write := write
  remaining c := c.input.length
  readLine_le prompt c := by
    rcases input_readLine prompt c with ⟨h, _⟩ | h
    · simp [h]
    · exact Nat.le_of_lt h
  readLine_lt prompt c line hl := by
    rcases input_readLine prompt c with ⟨_, h⟩ | h
    · exact absurd hl (h line)
    · exact h
  write_le text c := by simp [input_write]

end ByteConsole

end LineRepl
