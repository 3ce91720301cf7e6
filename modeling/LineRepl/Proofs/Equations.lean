/-
One equation for each way that a listing, a print, a report, a line or the loop of a session can go.
What is proved about these functions elsewhere rests on the equations.

* `Paginator.listingFrom_of_none`, `Paginator.listingFrom_of_broken`,
  `Paginator.listingFrom_of_value`: by what the stream has next.
* `Printer.printBody_of_ne_stream`: a value that is no stream.
* `Session.fail_of_ne_io`: a failure that is reported.
* `Session.swapEngine_of_find?_eq_some`: an engine that there is.
* `Session.evaluate_of_value`, `Session.evaluate_of_nothing`, `Session.evaluate_of_error`,
  `Session.evaluate_of_panicked`: by the reply of the engine.
* `Session.exists_evaluate_eq`: what an evaluation can change of the session.
* `Session.step_eq`: a line is handled, and the failure reported if there is one.
* `Session.attempt_of_parse?_eq_none`, `Session.attempt_of_find?_eq_none`,
  `Session.attempt_of_find?_eq_some`: by what the line is.
* `Session.loop_of_running`, `Session.run_eq`.
* `Paginator.console_turnPage`, `Printer.console_print`, `Session.console_list` and the like:
  through which request a function takes its console.
-/
import LineRepl.Session.Run
import Mathlib.Tactic.Common

namespace LineRepl

variable {κ : Type}

/-- The session after a line was counted. -/
def Session.counted (s : Session κ) : Session κ := { s with inputCount := s.inputCount + 1 }

/-- The session as a command of the name is begun. -/
def Session.dispatching (s : Session κ) (name : String) : Session κ :=
  s.note .debug ("dispatching command '" ++ name ++ "'")

/-- The session as its run begins. -/
def Session.started (s : Session κ) : Session κ :=
  { s with running := true }.note .debug
    ("session started with engine " ++ s.engine.info.engineName)

variable [Console κ]

/-- A line's handling, before its failure is reported. -/
def Session.attempt (line : String) (s : Session κ) : Except Failure Unit × Session κ :=
  match CommandLine.parse? s.commandPrefix.text line with
  | none => s.counted.evaluate line
  | some named =>
    match s.commands.find? named.name with
    | none => (.error (.unknownCommand named.name), s.counted)
    | some command =>
      perform (fun s => step named.argumentLine s) (command.script named.argument)
        (s.counted.dispatching named.name)

namespace Paginator

variable (p : Paginator) (lines room : ℕ) {s s' : Stream} (c : κ)

/-- A stream that has ended ends the listing. -/
lemma listingFrom_of_none (h : s.pull = none) :
    listingFrom p lines room s c = (.ok ⟨lines, false⟩, s, c) := by
  rw [listingFrom, h]

/-- A stream that breaks ends it in a panic. -/
lemma listingFrom_of_broken {panic : Panic} (h : s.pull = some (.broken panic, s')) :
    listingFrom p lines room s c = (.error (.panic panic), s', c) := by
  rw [listingFrom, h]

/-- A value is pulled before the page is turned for it. -/
lemma listingFrom_of_value {v : Value} (h : s.pull = some (.value v, s')) :
    listingFrom p lines room s c =
      match turnPage p lines room c with
      | (.error e, c) => (.error (.fault e), s', c)
      | (.ok none, c) => (.ok ⟨lines, true⟩, s', c)
      | (.ok (some room), c) =>
        match Console.write (p.lineText lines v) c with
        | (.error e, c) => (.error (.fault e), s', c)
        | (.ok (), c) => listingFrom p (lines + 1) room s' c := by
  rw [listingFrom, h]
  simp only
  split
  · simp_all
  · simp_all
  · split <;> simp_all

/-- A full page takes its console through one read. -/
lemma console_turnPage (p : Paginator) (lines : ℕ) (c : κ) :
    (turnPage p lines 0 c).2 = (Console.readLine (pausePrompt lines) c).2 := by
  rw [turnPage]
  rcases Console.readLine (pausePrompt lines) c with ⟨_ | _ | _, _⟩ <;> rfl

end Paginator

/-- A value that is no stream is shown by a conversation. -/
lemma Printer.printBody_of_ne_stream (p : Printer) {v : Value} (h : ∀ handle, v ≠ .stream handle)
    (s : Surroundings κ) :
    p.printBody v s =
      match (p.dialogue v).run s.console with
      | (.ok (), console) => (.ok none, { s with console })
      | (.error stop, console) => (.error stop, { s with console }) := by
  cases v with
  | stream handle => exact absurd rfl (h handle)
  | bool | int | float | str | list | function | object => rfl

namespace Printer

lemma console_printBody_of_ne_stream (p : Printer) {v : Value} (h : ∀ handle, v ≠ .stream handle)
    (s : Surroundings κ) :
    (p.printBody v s).2.console = ((p.dialogue v).run s.console).2 := by
  rw [printBody_of_ne_stream p h]
  rcases (p.dialogue v).run s.console with ⟨_ | _, _⟩ <;> rfl

lemma console_printBody_stream (p : Printer) (handle : ℕ) (s : Surroundings κ) :
    (p.printBody (.stream handle) s).2.console =
      (p.paginator.listing (s.store.stream handle) s.console).2.2 := by
  rw [printBody]
  rcases p.paginator.listing (s.store.stream handle) s.console with ⟨_ | _, _, _⟩ <;> rfl

/-- Printing changes nothing of the printer but the count of results. -/
lemma exists_print_eq (p : Printer) (v : Value) (around : Surroundings κ) :
    ∃ outputCount, (p.print (some v) around).2.1 = { p with outputCount } := by
  rw [print]
  rcases Console.write p.header around.console with ⟨_ | _, c⟩
  · exact ⟨p.outputCount, rfl⟩
  · simp only
    rcases p.printBody v { around with console := c } with ⟨_ | _, _⟩
    · exact ⟨p.outputCount, rfl⟩
    · exact ⟨p.outputCount + 1, rfl⟩

lemma console_print (p : Printer) (v : Value) (store : Store) {c c' : κ}
    (h : Console.write p.header c = (.ok (), c')) :
    (p.print (some v) ⟨store, c⟩).2.2.console = (p.printBody v ⟨store, c'⟩).2.console := by
  simp only [print, h]
  rcases p.printBody v ⟨store, c'⟩ with ⟨_ | _, _⟩ <;> rfl

end Printer

namespace Session

lemma console_write (s : Session κ) (text : String) :
    (s.write text).2.console = (Console.write text s.console).2 := by
  rw [write]
  rcases Console.write text s.console with ⟨_ | _, _⟩ <;> rfl

lemma console_list (s : Session κ) (lines : List String) :
    (s.list lines).2.console =
      (s.printer.paginator.listing (.ofList (lines.map .str)) s.console).2.2 := by
  rw [list]
  rcases s.printer.paginator.listing (.ofList (lines.map .str)) s.console with ⟨_ | _, _, _⟩
  · rfl
  · exact console_noteListing _ _

lemma console_printResult (s : Session κ) (result : Option Value) :
    (s.printResult result).2.console =
      (s.printer.print result ⟨s.workspace.store, s.console⟩).2.2.console := by
  rw [printResult]
  rcases s.printer.print result ⟨s.workspace.store, s.console⟩ with ⟨_ | printing, _, _⟩
  · rfl
  · cases result <;> exact console_noteListing _ _

/-- A failure that is none of the console is logged before it is reported, and kept once it is. -/
lemma fail_of_ne_io (s : Session κ) {f : Failure} (hf : ∀ e, f ≠ .io e) :
    s.fail f =
      match write { s with log := s.log.push (failureRecord f) } (f.report ++ "\n") with
      | (.error f, s) => (.error f, s)
      | (.ok (), s) => (.ok (), { s with lastError := some f }) := by
  cases f with
  | io e => exact absurd rfl (hf e)
  | invalidTemplate | unknownCommand | unknownEngine | evaluation | unexpected => rfl

omit [Console κ] in
/-- At most a record is added to the log. -/
lemma exists_noteListing_eq (s : Session κ) (listing : Option Listing) :
    ∃ log, s.noteListing listing = { s with log } := by
  rcases listing with _ | ⟨_, _ | _⟩ <;> exact ⟨_, rfl⟩

/-- Printing a value fails as its printer does. -/
lemma printResult_some_fst (s : Session κ) (v : Value) :
    (s.printResult (some v)).1 =
      match (s.printer.print (some v) ⟨s.workspace.store, s.console⟩).1 with
      | .error stop => .error (printerFailure stop)
      | .ok _ => .ok () := by
  rw [printResult]
  rcases s.printer.print (some v) ⟨s.workspace.store, s.console⟩ with ⟨_ | _, _, _⟩ <;> rfl

variable {s : Session κ} {line : String}

section

variable {id : String}

omit [Console κ] in
/-- A change of engines is logged. -/
lemma swapEngine_of_find?_eq_some {e : Engine} (h : s.engines.find? id = some e) :
    s.swapEngine id =
      (.ok (), { s.note .info ("switching engine: " ++ s.engine.info.engineName ++ " -> " ++
        e.info.engineName) with engine := e }) := by
  rw [swapEngine, h]

end

section

variable {w : Workspace}

lemma evaluate_of_value {v : Value} (h : s.engine.eval line s.workspace = (.value v, w)) :
    s.evaluate line = printResult { s with workspace := w } (some v) := by
  rw [evaluate, h]

lemma evaluate_of_nothing (h : s.engine.eval line s.workspace = (.nothing, w)) :
    s.evaluate line = (.ok (), { s with workspace := w }) := by
  rw [evaluate, h]
  rfl

lemma evaluate_of_error {e : EvalError} (h : s.engine.eval line s.workspace = (.error e, w)) :
    s.evaluate line = (.error (.ofEvalError e), { s with workspace := w }) := by
  rw [evaluate, h]

lemma evaluate_of_panicked {p : Panic} (h : s.engine.eval line s.workspace = (.panicked p, w)) :
    s.evaluate line =
      (.error (.ofMessage ("evaluator panicked: " ++ p.message)), { s with workspace := w }) := by
  rw [evaluate, h]

end

/-- Whatever the engine replies, and however the printing ends. -/
lemma exists_evaluate_eq (s : Session κ) (line : String) :
    ∃ outputCount workspace console log, (s.evaluate line).2 =
      { s with printer := { s.printer with outputCount }, workspace, console, log } := by
  rcases heval : s.engine.eval line s.workspace with ⟨v | _ | e | p, w⟩
  · rw [evaluate_of_value heval, printResult]
    obtain ⟨outputCount, hprinter⟩ := s.printer.exists_print_eq v ⟨w.store, s.console⟩
    simp only
    rcases hresult : s.printer.print (some v) ⟨w.store, s.console⟩ with
      ⟨_ | printing, printer, around⟩
    all_goals
      rw [hresult] at hprinter
      obtain rfl : printer = { s.printer with outputCount } := hprinter
    · exact ⟨_, _, _, _, rfl⟩
    · obtain ⟨log, hlog⟩ := exists_noteListing_eq
        (afterPrinting { s with workspace := w } { s.printer with outputCount } around)
        printing.listing
      simp only [hlog]
      exact ⟨_, _, _, _, rfl⟩
  · rw [evaluate_of_nothing heval]
    exact ⟨_, _, _, _, rfl⟩
  · rw [evaluate_of_error heval]
    exact ⟨_, _, _, _, rfl⟩
  · rw [evaluate_of_panicked heval]
    exact ⟨_, _, _, _, rfl⟩

/-- A line that names no command is evaluated. -/
lemma attempt_of_parse?_eq_none (h : CommandLine.parse? s.commandPrefix.text line = none) :
    attempt line s = s.counted.evaluate line := by
  rw [attempt, h]

lemma attempt_fst_of_value {v : Value} {w : Workspace}
    (h : CommandLine.parse? s.commandPrefix.text line = none)
    (heval : s.engine.eval line s.workspace = (.value v, w)) :
    (attempt line s).1 =
      match (s.printer.print (some v) ⟨w.store, s.console⟩).1 with
      | .error stop => .error (printerFailure stop)
      | .ok _ => .ok () := by
  rw [attempt_of_parse?_eq_none h, evaluate_of_value (s := s.counted) heval, printResult_some_fst]
  rfl

/-- A name without a command is counted and fails. -/
lemma attempt_of_find?_eq_none {named : CommandLine}
    (h : CommandLine.parse? s.commandPrefix.text line = some named)
    (hfind : s.commands.find? named.name = none) :
    attempt line s = (.error (.unknownCommand named.name), s.counted) := by
  rw [attempt, h]
  simp only [hfind]

/-- The script of a command is performed. -/
lemma attempt_of_find?_eq_some {named : CommandLine} {command : Command}
    (h : CommandLine.parse? s.commandPrefix.text line = some named)
    (hfind : s.commands.find? named.name = some command) :
    attempt line s =
      perform (fun s => step named.argumentLine s) (command.script named.argument)
        (s.counted.dispatching named.name) := by
  rw [attempt, h]
  simp only [hfind]

/-- A line is tried, and its failure settled if there is one. -/
lemma step_eq (line : String) (s : Session κ) : step line s = settle (attempt line s) := by
  rw [step]
  simp only
  split
  next hnone => rw [attempt_of_parse?_eq_none hnone, counted]
  next named hnamed =>
    cases hfind : s.commands.find? named.name with
    | none => rw [attempt_of_find?_eq_none hnamed hfind, settle, counted]
    | some command =>
        rw [attempt_of_find?_eq_some hnamed hfind]
        rfl

/-- A loop that is running reads a line, handles it and goes on. -/
lemma loop_of_running (h : s.running = true) :
    s.loop =
      match Console.readLine s.renderPrompt s.console with
      | (.error e, console) => (.error (.io e), { s with console })
      | (.ok none, console) => (.ok (), note { s with console } .debug "end of input")
      | (.ok (some line), console) =>
        match step line { s with console } with
        | (.error f, s) => (.error f, s)
        | (.ok (), s') => loop s' := by
  rw [loop, if_pos h]
  split
  · simp_all
  · simp_all
  · split <;> simp_all

lemma run_eq (s : Session κ) :
    s.run =
      match s.started.loop with
      | (.error f, s) => (.error f, s)
      | (.ok (), s) => (.ok (), s.stop.note .debug s.stop.closing) := rfl

end Session

end LineRepl
