/-
A console in memory: the lines to read are queued, and what happens is kept.

It never fails. Prompts are kept apart from what is written, yet in one sequence with it, so that
the order of both can be told.
-/
import LineRepl.Console

namespace LineRepl

/-- What was shown at a console. -/
inductive ConsoleEvent where
  | prompt (text : String)
  | written (text : String)
  deriving DecidableEq, Repr

/-- Lines that wait to be read, and what was shown so far. -/
structure QueueConsole where
  queue : List String
  events : Array ConsoleEvent
  deriving Repr

namespace QueueConsole

/-- The console that will give the lines in order. -/
def ofLines (lines : List String) : QueueConsole := ⟨lines, #[]⟩

/-- Takes the first line of the queue. -/
def readLine (prompt : String) (c : QueueConsole) :
    Except IoError (Option String) × QueueConsole :=
  (.ok c.queue.head?, ⟨c.queue.tail, c.events.push (.prompt prompt)⟩)

/-- Keeps the text. -/
def write (text : String) (c : QueueConsole) : Except IoError Unit × QueueConsole :=
  (.ok (), { c with events := c.events.push (.written text) })

instance : Console QueueConsole where
  readLine := readLine
  write := write
  remaining c := c.queue.length
  readLine_le _ c := by simp [readLine]
  readLine_lt _ c line h := by
    cases hq : c.queue with
    | nil => simp [readLine, hq] at h
    | cons _ _ => simp [readLine, hq]
  write_le _ c := Nat.le_refl _

/-- Queues further lines behind those that wait. -/
def pushLines (c : QueueConsole) (lines : List String) : QueueConsole :=
  { c with queue := c.queue ++ lines }

/-- Forgets what was shown. -/
def clear (c : QueueConsole) : QueueConsole := { c with events := #[] }

/-- The prompts that were shown, in order. -/
def prompts (c : QueueConsole) : List String :=
  c.events.toList.filterMap fun
    | .prompt text => some text
    | .written _ => none

/-- Everything that was written, without the prompts. -/
def output (c : QueueConsole) : String :=
  String.join (c.events.toList.filterMap fun
    | .prompt _ => none
    | .written text => some text)

/-- A line without the carriage return at its end. -/
def dropReturn (line : List Char) : List Char :=
  if line.getLast? = some '\r' then line.dropLast else line

/-- The lines of a text whose last piece has no line end: that piece is a line unless it is
empty, and a carriage return at its end belongs to it. -/
def linesOf : (pieces : List (List Char)) → List (List Char)
  | [] => []
  | [last] => if last.isEmpty then [] else [last]
  | line :: next :: rest => dropReturn line :: linesOf (next :: rest)

/-- What was written, line by line, without the line ends. -/
def outputLines (c : QueueConsole) : List String :=
  (linesOf (splitLines c.output.toList)).map String.ofList

end QueueConsole

end LineRepl
