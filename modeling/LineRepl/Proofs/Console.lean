/-
What is asked of a console, one request after another.

* `Console.after`: the console that a list of requests leads to.
* `Console.NeverFails`: whatever was asked before, the next request is answered.
* `QueueConsole.neverFails`: a console in memory never fails.
* `QueueConsole.after_eq`: it keeps all requests, and gives a line for each prompt.
-/
import LineRepl.Console.Queue
import Mathlib.Tactic.Common

namespace LineRepl

namespace ConsoleEvent

/-- The text that was shown. -/
def text : ConsoleEvent → String
  | .prompt text => text
  | .written text => text

/-- The prompt that was shown, if it was one. -/
def prompt? : ConsoleEvent → Option String
  | .prompt text => some text
  | .written _ => none

lemma prompt?_prompt (text : String) : prompt? (.prompt text) = some text := rfl

lemma prompt?_written (text : String) : prompt? (.written text) = none := rfl

end ConsoleEvent

namespace Console

variable {κ : Type} [Console κ]

/-- The console after a request for which the event stands. -/
def afterEvent (c : κ) : ConsoleEvent → κ
  | .prompt text => (readLine text c).2
  | .written text => (write text c).2

/-- The console after requests, made one after another. -/
def after (c : κ) (events : List ConsoleEvent) : κ := events.foldl afterEvent c

@[simp] lemma after_nil (c : κ) : after c [] = c := rfl

@[simp] lemma after_prompt (c : κ) (text : String) (events : List ConsoleEvent) :
    after c (.prompt text :: events) = after (readLine text c).2 events := rfl

@[simp] lemma after_written (c : κ) (text : String) (events : List ConsoleEvent) :
    after c (.written text :: events) = after (write text c).2 events := rfl

/-- Requests are made one after another. -/
lemma after_append (c : κ) (events more : List ConsoleEvent) :
    after c (events ++ more) = after (after c events) more :=
  List.foldl_append

/-- The console answers the next request. -/
structure Answers (c : κ) : Prop where
  readLine : ∀ prompt, ∃ line, (Console.readLine prompt c).1 = .ok line
  write : ∀ text, (Console.write text c).1 = .ok ()

/-- Whatever was asked of the console before, it answers the next request. -/
def NeverFails (c : κ) : Prop := ∀ events, Answers (after c events)

namespace NeverFails

variable {c : κ}

lemma answers (h : NeverFails c) : Answers c := h []

lemma after (h : NeverFails c) (events : List ConsoleEvent) : NeverFails (Console.after c events) :=
  fun more => Console.after_append c events more ▸ h (events ++ more)

/-- A console that never fails does not fail after a read. -/
lemma of_readLine (h : NeverFails c) {prompt : String} {line : Except IoError (Option String)}
    {c' : κ} (hread : readLine prompt c = (line, c')) : NeverFails c' := by
  have hafter := h.after [.prompt prompt]
  rwa [Console.after_prompt, hread] at hafter

/-- At such a console every read gets a line or the end of input. -/
lemma exists_readLine_eq (h : NeverFails c) (prompt : String) :
    ∃ line c', readLine prompt c = (.ok line, c') ∧ NeverFails c' := by
  obtain ⟨line, hline⟩ := h.answers.readLine prompt
  exact ⟨line, _, Prod.ext hline rfl, h.after [.prompt prompt]⟩

/-- Every text is written. -/
lemma exists_write_eq (h : NeverFails c) (text : String) :
    ∃ c', write text c = (.ok (), c') ∧ NeverFails c' :=
  ⟨_, Prod.ext (h.answers.write text) rfl, h.after [.written text]⟩

end NeverFails

end Console

namespace QueueConsole

/-- Requests take a line from the queue for each prompt, and are kept. -/
lemma after_eq (c : QueueConsole) (events : List ConsoleEvent) :
    Console.after c events =
      ⟨c.queue.drop (events.filterMap ConsoleEvent.prompt?).length,
        c.events ++ events.toArray⟩ := by
  induction events generalizing c with
  | nil => simp
  | cons e events ih =>
      cases e with
      | prompt text =>
          have hprompts := List.filterMap_cons_some (l := events) (ConsoleEvent.prompt?_prompt text)
          rw [Console.after_prompt, ih, hprompts]
          simp [Console.readLine, readLine]
      | written text =>
          have hprompts :=
            List.filterMap_cons_none (l := events) (ConsoleEvent.prompt?_written text)
          rw [Console.after_written, ih, hprompts]
          simp [Console.write, write]

lemma prompts_eq (c : QueueConsole) :
    c.prompts = c.events.toList.filterMap ConsoleEvent.prompt? := rfl

/-- A console in memory never fails. -/
lemma neverFails (c : QueueConsole) : Console.NeverFails c :=
  fun events => ⟨fun _ => ⟨(Console.after c events).queue.head?, rfl⟩, fun _ => rfl⟩

end QueueConsole

end LineRepl
