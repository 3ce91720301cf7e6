/-
Consoles: where a session reads lines from and writes text to.

A console answers every request and may fail at it. It has only finitely many lines to give:
`Console.remaining` bounds their number, goes down with every line that is read and never goes
up. That is why a session that reads until the end comes to an end.
-/
import LineRepl.Failure

namespace LineRepl

/-- A source of lines and a place for text. -/
class Console (κ : Type) where
  /-- Shows a prompt and reads a line; none at the end of input. -/
  readLine : (prompt : String) → κ → Except IoError (Option String) × κ
  /-- Writes a text as it stands. -/
  write : (text : String) → κ → Except IoError Unit × κ
  /-- A bound on the number of lines that can still be read. -/
  remaining : κ → Nat
  readLine_le : ∀ prompt c, remaining (readLine prompt c).2 ≤ remaining c
  readLine_lt : ∀ prompt c line, (readLine prompt c).1 = .ok (some line) →
    remaining (readLine prompt c).2 < remaining c
  write_le : ∀ text c, remaining (write text c).2 ≤ remaining c

end LineRepl
