/-
Conversations with a console, as data. A renderer shows a value by such a conversation, whatever
console it is held at.

* `Dialogue.run`: holds the conversation; it may end well, with an error or in a panic.
* `remaining_run_le`: a conversation adds no input.
-/
import LineRepl.Console

namespace LineRepl

/-- A conversation: it ends, or it asks the console for something and goes on with the
answer. -/
inductive Dialogue where
  | done
  | fail (e : IoError)
  | panic (p : Panic)
  | write (text : String) (next : Except IoError Unit → Dialogue)
  | readLine (prompt : String) (next : Except IoError (Option String) → Dialogue)

namespace Dialogue

/-- Writes a text and ends, with the console's error if there is one. -/
def say (text : String) : Dialogue :=
  .write text fun
    | .ok () => .done
    | .error e => .fail e

variable {κ : Type} [Console κ]

/-- Holds the conversation at a console. -/
def run : Dialogue → κ → Except (Stop IoError) Unit × κ
  | .done, c => (.ok (), c)
  | .fail e, c => (.error (.fault e), c)
  | .panic p, c => (.error (.panic p), c)
  | .write text next, c =>
    match Console.write text c with
    | (answer, c) => run (next answer) c
  | .readLine prompt next, c =>
    match Console.readLine prompt c with
    | (answer, c) => run (next answer) c

/-- A conversation adds no input. -/
theorem remaining_run_le : ∀ (d : Dialogue) (c : κ),
    Console.remaining (d.run c).2 ≤ Console.remaining c
  | .done, _ | .fail _, _ | .panic _, _ => Nat.le_refl _
  | .write text next, c =>
    Nat.le_trans (remaining_run_le (next (Console.write text c).1) (Console.write text c).2)
      (Console.write_le text c)
  | .readLine prompt next, c =>
    Nat.le_trans
      (remaining_run_le (next (Console.readLine prompt c).1) (Console.readLine prompt c).2)
      (Console.readLine_le prompt c)

end Dialogue

end LineRepl
