/-
Running a session: lines are read and handled until the input ends, a command ends the session or
the console fails.
-/
import LineRepl.Session.Step

namespace LineRepl.Session

variable {κ : Type} [Console κ]

/-- Reads and handles lines while the session is running. -/
def loop (s : Session κ) : Except Failure Unit × Session κ :=
  if s.running then
    match _read : Console.readLine s.renderPrompt s.console with
    | (.error e, console) => (.error (.io e), { s with console })
    | (.ok none, console) => (.ok (), note { s with console } .debug "end of input")
    | (.ok (some line), console) =>
      match _handled : step line { s with console } with
      | (.error f, s) => (.error f, s)
      | (.ok (), s') => loop s'
  else (.ok (), s)
  termination_by Console.remaining s.console
  decreasing_by
    have hread := Console.readLine_lt s.renderPrompt s.console line (by rw [_read])
    have hstep := remaining_step_le line { s with console }
    rw [_read] at hread
    rw [_handled] at hstep
    exact Nat.lt_of_le_of_lt hstep hread

/-- The record that closes a session. -/
def closing (s : Session κ) : String :=
  "session finished after " ++ naturalText s.inputCount ++ " inputs, " ++
    naturalText s.printer.outputCount ++ " outputs"

/-- Runs the session. Only an error of the console is passed on, and a session that ends in one is
left as it was then. -/
def run (s : Session κ) : Except Failure Unit × Session κ :=
  let s := { s with running := true }
  match loop (s.note .debug ("session started with engine " ++ s.engine.info.engineName)) with
  | (.error f, s) => (.error f, s)
  | (.ok (), s) =>
    let s := s.stop
    (.ok (), s.note .debug s.closing)

end LineRepl.Session
