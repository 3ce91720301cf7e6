/-
Handling one line: a line that starts with the command prefix names a command, any other is
evaluated and its result printed. What goes wrong is reported and kept; only errors of the console
are passed on.

* `Session.evaluate`: evaluates a line and prints the result.
* `Session.perform`: does what the script of a command asks for.
* `Session.step`: handles a line.
* `remaining_step_le`: handling a line adds no input.
-/
import LineRepl.Session.Basic

namespace LineRepl.Session

variable {κ : Type} [Console κ]

/-! ### Parts of a line's handling -/

/-- Writes a text to the console. -/
def write (s : Session κ) (text : String) : Except Failure Unit × Session κ :=
  match Console.write text s.console with
  | (.error e, console) => (.error (.io e), { s with console })
  | (.ok (), console) => (.ok (), { s with console })

/-- Keeps in the log that a listing ended at a pause. -/
def noteListing (s : Session κ) (listing : Option Listing) : Session κ :=
  match listing with
  | some ⟨lines, true⟩ =>
    s.note .debug
      ("end of input while paginating, stopping after " ++ naturalText lines ++ " lines")
  | _ => s

/-- The failure of what stopped while it was shown. -/
def printerFailure : Stop IoError → Failure
  | .fault e => .io e
  | .panic p => .ofMessage ("printer panicked: " ++ p.message)

/-- Lists lines page by page. -/
def list (s : Session κ) (lines : List String) : Except Failure Unit × Session κ :=
  match s.printer.paginator.listing (.ofList (lines.map .str)) s.console with
  | (.error stop, _, console) => (.error (printerFailure stop), { s with console })
  | (.ok listing, _, console) => (.ok (), noteListing { s with console } (some listing))

/-- The session after something was printed. -/
def afterPrinting (s : Session κ) (printer : Printer) (around : Surroundings κ) : Session κ :=
  { s with
    printer
    console := around.console
    workspace := { s.workspace with store := around.store } }

/-- Prints a result and binds it to the name of the last result. -/
def printResult (s : Session κ) (result : Option Value) : Except Failure Unit × Session κ :=
  match s.printer.print result ⟨s.workspace.store, s.console⟩ with
  | (.error stop, printer, around) =>
    (.error (printerFailure stop), s.afterPrinting printer around)
  | (.ok printing, printer, around) =>
    let s := (s.afterPrinting printer around).noteListing printing.listing
    match result with
    | none => (.ok (), s)
    | some v => (.ok (), { s with workspace := s.workspace.bind lastResult v })

/-- Evaluates a line by the active engine and prints the result. -/
def evaluate (s : Session κ) (line : String) : Except Failure Unit × Session κ :=
  match s.engine.eval line s.workspace with
  | (.error e, workspace) => (.error (.ofEvalError e), { s with workspace })
  | (.panicked p, workspace) =>
    (.error (.ofMessage ("evaluator panicked: " ++ p.message)), { s with workspace })
  | (.nothing, workspace) => printResult { s with workspace } none
  | (.value v, workspace) => printResult { s with workspace } (some v)

/-- The log record of a failure. -/
def failureRecord : Failure → LogRecord
  | .unexpected causes => ⟨.warn, "unexpected failure: " ++ causes.detail⟩
  | f => ⟨.debug, "line failed: " ++ f.message⟩

/-- Reports a failure and keeps it. An error of the console is passed on, as nothing can be reported
then. -/
def fail (s : Session κ) (f : Failure) : Except Failure Unit × Session κ :=
  match f with
  | .io e => (.error (.io e), s)
  | f =>
    match write { s with log := s.log.push (failureRecord f) } (f.report ++ "\n") with
    | (.error f, s) => (.error f, s)
    | (.ok (), s) => (.ok (), { s with lastError := some f })

/-- Reports a failure, if there is one. -/
def settle : Except Failure Unit × Session κ → Except Failure Unit × Session κ
  | (.ok (), s) => (.ok (), s)
  | (.error f, s) => s.fail f

/-! ### Commands and lines -/

/-- Does what a script asks for; `again` handles the argument of the command as a line of its
own. -/
def perform (again : Session κ → Except Failure Unit × Session κ) :
    Script → Session κ → Except Failure Unit × Session κ
  | .done, s => (.ok (), s)
  | .fail f, s => (.error f, s)
  | .view next, s => perform again (next s.view) s
  | .write text next, s =>
    match s.write text with
    | (.error f, s) => (.error f, s)
    | (.ok (), s) => perform again next s
  | .readLine prompt next, s =>
    match Console.readLine prompt s.console with
    | (.error e, console) => (.error (.io e), { s with console })
    | (.ok line, console) => perform again (next line) { s with console }
  | .list lines next, s =>
    match s.list lines with
    | (.error f, s) => (.error f, s)
    | (.ok (), s) => perform again next s
  | .bind name v next, s => perform again next { s with workspace := s.workspace.bind name v }
  | .setPrompt prompt next, s => perform again next { s with prompt }
  | .setLimit limit next, s => perform again next (s.setLimit limit)
  | .toggleNumbers next, s =>
    let on := !s.printer.paginator.numbered
    perform again (next on) (s.setNumbered on)
  | .swapEngine id next, s =>
    match s.swapEngine id with
    | (.error f, s) => (.error f, s)
    | (.ok (), s) => perform again next s
  | .quit next, s => perform again next s.stop
  | .runArgument next, s =>
    match again s with
    | (.error f, s) => (.error f, s)
    | (.ok (), s) => perform again next s

/-- Handles a line. -/
def step (line : String) (s : Session κ) : Except Failure Unit × Session κ :=
  let s := { s with inputCount := s.inputCount + 1 }
  match h : CommandLine.parse? s.commandPrefix.text line with
  | none => settle (s.evaluate line)
  | some named =>
    match s.commands.find? named.name with
    | none => s.fail (.unknownCommand named.name)
    | some command =>
      have _shorter : named.argumentLine.length < line.length :=
        CommandLine.argument_shorter s.commandPrefix.nonempty h
      settle (perform (fun s => step named.argumentLine s) (command.script named.argument)
        (s.note .debug ("dispatching command '" ++ named.name ++ "'")))
  termination_by line.length

/-! ### Input is only used up -/

/-- Writing adds no input. -/
theorem remaining_write_le (s : Session κ) (text : String) :
    Console.remaining (s.write text).2.console ≤ Console.remaining s.console := by
  have h := Console.write_le text s.console
  unfold write
  split <;> simp_all

omit [Console κ] in
/-- A note in the log leaves the console alone. -/
@[simp] theorem console_noteListing (s : Session κ) (listing : Option Listing) :
    (s.noteListing listing).console = s.console := by
  unfold noteListing
  split <;> rfl

/-- Listing lines adds no input. -/
theorem remaining_list_le (s : Session κ) (lines : List String) :
    Console.remaining (s.list lines).2.console ≤ Console.remaining s.console := by
  have h := s.printer.paginator.remaining_listingFrom_le 0 s.printer.paginator.limit
    (.ofList (lines.map .str)) s.console
  unfold list Paginator.listing
  split <;> simp_all

/-- Printing a result adds no input. -/
theorem remaining_printResult_le (s : Session κ) (result : Option Value) :
    Console.remaining (s.printResult result).2.console ≤ Console.remaining s.console := by
  have h := s.printer.remaining_print_le result ⟨s.workspace.store, s.console⟩
  unfold printResult
  split
  next hp => rw [hp] at h; exact h
  next hp =>
    rw [hp] at h
    cases result <;> simpa [afterPrinting] using h

/-- Evaluating a line adds no input. -/
theorem remaining_evaluate_le (s : Session κ) (line : String) :
    Console.remaining (s.evaluate line).2.console ≤ Console.remaining s.console := by
  unfold evaluate
  split
  · exact Nat.le_refl _
  · exact Nat.le_refl _
  · exact remaining_printResult_le _ _
  · exact remaining_printResult_le _ _

/-- Reporting a failure adds no input. -/
theorem remaining_fail_le (s : Session κ) (f : Failure) :
    Console.remaining (s.fail f).2.console ≤ Console.remaining s.console := by
  unfold fail
  split
  · exact Nat.le_refl _
  · have h := remaining_write_le { s with log := s.log.push (failureRecord f) } (f.report ++ "\n")
    split <;> simp_all

/-- Settling adds no input to what was handled. -/
theorem remaining_settle_le (r : Except Failure Unit × Session κ) :
    Console.remaining (settle r).2.console ≤ Console.remaining r.2.console := by
  unfold settle
  split
  · exact Nat.le_refl _
  · exact remaining_fail_le _ _

omit [Console κ] in
/-- Changing the engine leaves the console alone. -/
theorem console_swapEngine (s : Session κ) (id : String) :
    (s.swapEngine id).2.console = s.console := by
  unfold swapEngine
  split <;> rfl

/-- A script adds no input, if handling the argument adds none. -/
theorem remaining_perform_le {again : Session κ → Except Failure Unit × Session κ}
    (hagain : ∀ s, Console.remaining (again s).2.console ≤ Console.remaining s.console)
    (script : Script) (s : Session κ) :
    Console.remaining (perform again script s).2.console ≤ Console.remaining s.console := by
  induction script generalizing s with
  | done | fail => exact Nat.le_refl _
  | view next ih => exact ih _ s
  | write text next ih =>
    have h := remaining_write_le s text
    unfold perform
    split
    next hw => rw [hw] at h; exact h
    next hw => rw [hw] at h; exact Nat.le_trans (ih _) h
  | readLine prompt next ih =>
    have h := Console.readLine_le prompt s.console
    unfold perform
    split
    next hr => rw [hr] at h; exact h
    next line console hr =>
      rw [hr] at h; exact Nat.le_trans (ih line { s with console }) h
  | list lines next ih =>
    have h := remaining_list_le s lines
    unfold perform
    split
    next hl => rw [hl] at h; exact h
    next hl => rw [hl] at h; exact Nat.le_trans (ih _) h
  | bind name v next ih => exact ih { s with workspace := s.workspace.bind name v }
  | setPrompt prompt next ih => exact ih { s with prompt }
  | setLimit limit next ih => exact ih (s.setLimit limit)
  | toggleNumbers next ih => exact ih _ (s.setNumbered !s.printer.paginator.numbered)
  | swapEngine id next ih =>
    have h := Nat.le_of_eq (congrArg Console.remaining (console_swapEngine s id))
    unfold perform
    split
    next hs => rw [hs] at h; exact h
    next hs => rw [hs] at h; exact Nat.le_trans (ih _) h
  | quit next ih => exact ih s.stop
  | runArgument next ih =>
    have h := hagain s
    unfold perform
    split
    next ha => rw [ha] at h; exact h
    next ha => rw [ha] at h; exact Nat.le_trans (ih _) h

/-- Handling a line adds no input. -/
theorem remaining_step_le (line : String) (s : Session κ) :
    Console.remaining (step line s).2.console ≤ Console.remaining s.console := by
  induction hn : line.length using Nat.strongRecOn generalizing line s with
  | ind n ih =>
    rw [step]
    split
    · exact Nat.le_trans (remaining_settle_le _) (remaining_evaluate_le _ _)
    next named h =>
      split
      · exact remaining_fail_le _ _
      next command _ =>
        have shorter := CommandLine.argument_shorter s.commandPrefix.nonempty h
        exact Nat.le_trans (remaining_settle_le _)
          (remaining_perform_le
            (fun s' => ih _ (hn ▸ shorter) named.argumentLine s' rfl) _ _)

end LineRepl.Session
