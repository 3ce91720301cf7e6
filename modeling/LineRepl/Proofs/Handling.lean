/-
What handling a line can change in a session with the built-in commands.

* `Session.Steady`: lines change neither the tables nor the marks of a session, and lead its console
  on by requests alone.
* `Session.Kept`: commands and reports do not change the counts and the workspace either.
* `Session.performed_perform`: what comes of a plain script.
* `Session.printed?`, `Session.evaluated`: the value whose printing a line completes, and the
  workspace that the engine leaves.
* `Session.attempted_attempt`, `Session.handled_step`: these two determine the counts and the
  bindings after the line.
-/
import LineRepl.Proofs.Printing

namespace LineRepl.Session

variable {κ : Type}

/-- The value that is printed to the end as the line is handled. -/
def printed? [Console κ] (line : String) (s : Session κ) : Option Value :=
  match CommandLine.parse? s.commandPrefix.text line, s.engine.eval line s.workspace with
  | none, (.value v, w) =>
    match (s.printer.print (some v) ⟨w.store, s.console⟩).1 with
    | .ok _ => some v
    | .error _ => none
  | _, _ => none

/-- The workspace that the engine leaves. A line that names a command is not evaluated. -/
def evaluated (line : String) (s : Session κ) : Workspace :=
  match CommandLine.parse? s.commandPrefix.text line with
  | none => (s.engine.eval line s.workspace).2
  | some _ => s.workspace

variable [Console κ]

/-- What no line changes; the console was asked for one thing after another. -/
structure Steady (s s' : Session κ) : Prop where
  commandPrefix : s'.commandPrefix = s.commandPrefix
  commands : s'.commands = s.commands
  engines : s'.engines = s.engines
  outputPrefix : s'.printer.outputPrefix = s.printer.outputPrefix
  renderer? : s'.printer.renderer? = s.printer.renderer?
  console : ∃ events, s'.console = Console.after s.console events

/-- What no command and no report changes. -/
structure Kept (s s' : Session κ) : Prop extends Steady s s' where
  inputCount : s'.inputCount = s.inputCount
  workspace : s'.workspace = s.workspace
  outputCount : s'.printer.outputCount = s.printer.outputCount

lemma Steady.trans {s s' s'' : Session κ} (h : Steady s s') (h' : Steady s' s'') :
    Steady s s'' := by
  obtain ⟨events, hevents⟩ := h.console
  obtain ⟨more, hmore⟩ := h'.console
  exact ⟨h'.commandPrefix.trans h.commandPrefix, h'.commands.trans h.commands,
    h'.engines.trans h.engines, h'.outputPrefix.trans h.outputPrefix,
    h'.renderer?.trans h.renderer?, events ++ more, by rw [hmore, hevents, Console.after_append]⟩

/-- What stays steady keeps a console that never fails. -/
lemma Steady.neverFails {s s' : Session κ} (h : Steady s s') (hc : Console.NeverFails s.console) :
    Console.NeverFails s'.console := by
  obtain ⟨events, hevents⟩ := h.console
  exact hevents ▸ hc.after events

namespace Kept

lemma of_console (s : Session κ) (events : List ConsoleEvent) {c : κ}
    (h : c = Console.after s.console events) : Kept s { s with console := c } :=
  ⟨⟨rfl, rfl, rfl, rfl, rfl, events, h⟩, rfl, rfl, rfl⟩

lemma refl (s : Session κ) : Kept s s := of_console s [] rfl

lemma trans {s s' s'' : Session κ} (h : Kept s s') (h' : Kept s' s'') : Kept s s'' :=
  ⟨h.toSteady.trans h'.toSteady, h'.inputCount.trans h.inputCount, h'.workspace.trans h.workspace,
    h'.outputCount.trans h.outputCount⟩

/-- Everything else can change. -/
lemma of_rest (s : Session κ) (running : Bool) (prompt : Prompt) (paginator : Paginator)
    (engine : Engine) (log : Array LogRecord) :
    Kept s { s with
      running, prompt, engine, log
      printer := { s.printer with paginator } } :=
  ⟨⟨rfl, rfl, rfl, rfl, rfl, [], rfl⟩, rfl, rfl, rfl⟩

lemma noteListing (s : Session κ) (listing : Option Listing) : Kept s (s.noteListing listing) := by
  rcases listing with _ | ⟨lines, _ | _⟩ <;> exact of_rest s _ _ _ _ _

end Kept

/-! ### Commands -/

/-- What comes of a script that may end in the failures `F`. -/
structure Performed (F : Failure → Prop) (s : Session κ) (r : Except Failure Unit × Session κ) :
    Prop extends Kept s r.2 where
  lastError : r.2.lastError = s.lastError
  failure : Console.NeverFails s.console → ∀ f, r.1 = .error f → F f

namespace Performed

variable {F : Failure → Prop} {s s' : Session κ} {r : Except Failure Unit × Session κ}

lemma done (s : Session κ) : Performed F s (.ok (), s) := ⟨.refl s, rfl, fun _ _ h => nomatch h⟩

/-- The part of a script that comes first, and the rest of it. -/
lemma of_kept (h : Kept s s') (hlast : s'.lastError = s.lastError) (hr : Performed F s' r) :
    Performed F s r :=
  ⟨h.trans hr.toKept, hr.lastError.trans hlast, fun hc => hr.failure (h.neverFails hc)⟩

/-- What does not happen at a console that never fails. -/
lemma of_not_neverFails {f : Failure} (h : Kept s s') (hlast : s'.lastError = s.lastError)
    (hc : ¬ Console.NeverFails s.console) : Performed F s (.error f, s') :=
  ⟨h, hlast, fun hn => absurd hn hc⟩

end Performed

/-- A plain script keeps the counts and the workspace. At a console that never fails it fails only
as it says. -/
lemma performed_perform (again : Session κ → Except Failure Unit × Session κ) {script : Script}
    {F : Failure → Prop} {s : Session κ} (h : script.Plain s.engines F) :
    Performed F s (perform again script s) := by
  induction script generalizing s with
  | done => exact .done s
  | fail f => exact ⟨.refl s, rfl, fun _ _ hf => by cases hf; exact h⟩
  | view next ih => exact ih s.view (h s.view)
  | write text next ih =>
      rw [perform, write]
      rcases hwrite : Console.write text s.console with ⟨_ | _, c⟩
      all_goals
        have hkept : Kept s { s with console := c } :=
          .of_console s [.written text] (congrArg Prod.snd hwrite).symm
      · refine .of_not_neverFails hkept rfl fun hc => ?_
        obtain ⟨_, hok, -⟩ := hc.exists_write_eq text
        cases hwrite.symm.trans hok
      · exact .of_kept hkept rfl (ih h)
  | readLine prompt next ih =>
      rw [perform]
      rcases hread : Console.readLine prompt s.console with ⟨_ | line, c⟩
      all_goals
        have hkept : Kept s { s with console := c } :=
          .of_console s [.prompt prompt] (congrArg Prod.snd hread).symm
      · refine .of_not_neverFails hkept rfl fun hc => ?_
        obtain ⟨_, _, hok, -⟩ := hc.exists_readLine_eq prompt
        cases hread.symm.trans hok
      · exact .of_kept hkept rfl (ih line (h line))
  | list lines next ih =>
      have hbroken := Stream.unbrokenAhead_ofList (lines.map .str)
      obtain ⟨events, hevents⟩ :=
        s.printer.paginator.exists_after_listing (.ofList (lines.map .str)) s.console
      have hkept := Kept.of_console s events hevents
      rw [perform, list]
      rcases hlisting : s.printer.paginator.listing (.ofList (lines.map .str)) s.console with
        ⟨_ | listing, _, c⟩
      all_goals rw [hlisting] at hkept
      · refine .of_not_neverFails hkept rfl fun hc => ?_
        rcases s.printer.paginator.listing_outcome (.ofList (lines.map .str)) hc with
          ⟨l, hok⟩ | ⟨panic, i, -, hi, hitem⟩
        · cases (congrArg Prod.fst hlisting).symm.trans hok
        · exact hbroken i hi panic hitem
      · have hnote := Kept.noteListing { s with console := c } (some listing)
        refine .of_kept (hkept.trans hnote) ?_ (ih (by rw [hnote.engines]; exact h))
        rcases listing with ⟨_, _ | _⟩ <;> rfl
  | bind name v next ih => exact h.elim
  | setPrompt prompt next ih | setLimit limit next ih | quit next ih =>
      rw [perform]
      refine .of_kept ?_ ?_ (ih ?_)
      exacts [.of_rest s _ _ _ _ _, rfl, h]
  | toggleNumbers next ih =>
      rw [perform]
      refine .of_kept ?_ ?_ (ih _ ?_)
      exacts [.of_rest s _ _ _ _ _, rfl, h _]
  | swapEngine id next ih =>
      rw [perform, swapEngine]
      cases hfind : s.engines.find? id with
      | none => exact ⟨.refl s, rfl, fun _ _ hf => by cases hf; exact h.1 hfind⟩
      | some engine =>
          refine .of_kept ?_ ?_ (ih ?_)
          exacts [.of_rest s _ _ _ _ _, rfl, h.2]
  | runArgument next ih => exact h.elim

/-- A built-in command keeps the counts and the workspace. At a console that never fails it fails
only as it refuses. -/
lemma performed_builtin {s : Session κ} {named : CommandLine} {command : Command}
    (h : CommandTable.builtin.find? named.name = some command) :
    Performed (Builtin.Refused s.engines named) s.counted
      (perform (fun s => step named.argumentLine s) (command.script named.argument)
        (s.counted.dispatching named.name)) := by
  obtain ⟨hmem, hname⟩ := CommandTable.find?_builtin_eq_some_iff.mp h
  have hplain := Builtin.plain_script s.engines hmem named.argument
  rw [hname] at hplain
  have hdispatching : Kept s.counted (s.counted.dispatching named.name) := .of_rest _ _ _ _ _ _
  exact .of_kept hdispatching rfl (performed_perform _ hplain)

/-! ### Reports -/

/-- A report keeps all but what it shows and records. -/
lemma kept_fail (s : Session κ) (f : Failure) : Kept s (s.fail f).2 := by
  by_cases hf : ∃ e, f = .io e
  · obtain ⟨e, rfl⟩ := hf
    exact .refl s
  · rw [not_exists] at hf
    rw [fail_of_ne_io s hf, write]
    rcases hwrite : Console.write (f.report ++ "\n") s.console with ⟨_ | _, c⟩ <;>
      exact ⟨⟨rfl, rfl, rfl, rfl, rfl, [.written (f.report ++ "\n")],
        (congrArg Prod.snd hwrite).symm⟩, rfl, rfl, rfl⟩

/-- So does settling an outcome. -/
lemma kept_settle (r : Except Failure Unit × Session κ) : Kept r.2 (settle r).2 := by
  obtain ⟨_ | _, s⟩ := r
  · exact kept_fail s _
  · exact .refl s

/-! ### Lines -/

/-- The session after a line: one line more was counted, and one result more if one was printed. The
engine alone changes bindings, but for the name of the last result. -/
structure Handled (line : String) (s s' : Session κ) : Prop extends Steady s s' where
  inputCount : s'.inputCount = s.inputCount + 1
  outputCount : s'.printer.outputCount = s.printer.outputCount + (s.printed? line).toList.length
  bindings : s'.workspace.bindings =
    (s.printed? line).elim (s.evaluated line).bindings ((s.evaluated line).bindings.set lastResult)

section

variable {line : String} {s s' : Session κ}

/-- What is kept afterwards changes nothing of how a line was handled. -/
lemma Handled.of_kept {s'' : Session κ} (h : Handled line s s') (h' : Kept s' s'') :
    Handled line s s'' :=
  ⟨h.toSteady.trans h'.toSteady, h'.inputCount.trans h.inputCount,
    h'.outputCount.trans h.outputCount, (congrArg _ h'.workspace).trans h.bindings⟩

/-- A command prints no value. -/
lemma printed?_of_parse?_eq_some {named : CommandLine}
    (h : CommandLine.parse? s.commandPrefix.text line = some named) : s.printed? line = none := by
  rw [printed?, h]

/-- Nor does a line that has none. -/
lemma printed?_of_ne_value (h : ∀ v w, s.engine.eval line s.workspace ≠ (.value v, w)) :
    s.printed? line = none := by
  rw [printed?]
  split
  next v w _ heval => exact absurd heval (h v w)
  next => rfl

/-- A value counts as printed if its printing comes to the end. -/
lemma printed?_of_value {v : Value} {w : Workspace}
    (h : CommandLine.parse? s.commandPrefix.text line = none)
    (heval : s.engine.eval line s.workspace = (.value v, w)) :
    s.printed? line =
      match (s.printer.print (some v) ⟨w.store, s.console⟩).1 with
      | .ok _ => some v
      | .error _ => none := by
  rw [printed?, h, heval]

omit [Console κ] in
/-- A command is not evaluated. -/
lemma evaluated_of_parse?_eq_some {named : CommandLine}
    (h : CommandLine.parse? s.commandPrefix.text line = some named) :
    s.evaluated line = s.workspace := by
  rw [evaluated, h]

omit [Console κ] in
lemma evaluated_of_parse?_eq_none {reply : Reply} {w : Workspace}
    (h : CommandLine.parse? s.commandPrefix.text line = none)
    (heval : s.engine.eval line s.workspace = (reply, w)) : s.evaluated line = w := by
  rw [evaluated, h, heval]

/-- The session before a failure of the line is reported. -/
structure Attempted (line : String) (s s' : Session κ) : Prop extends Handled line s s' where
  lastError : s'.lastError = s.lastError

/-- By the value that is printed and the workspace that the engine leaves. -/
lemma Attempted.of_printed {result : Option Value} {w : Workspace}
    (hprinted : s.printed? line = result) (hevaluated : s.evaluated line = w)
    (hsteady : Steady s s')
    (hinput : s'.inputCount = s.inputCount + 1)
    (houtput : s'.printer.outputCount = s.printer.outputCount + result.toList.length)
    (hbindings : s'.workspace.bindings = result.elim w.bindings (w.bindings.set lastResult))
    (hlast : s'.lastError = s.lastError) : Attempted line s s' := by
  refine ⟨⟨hsteady, hinput, ?_, ?_⟩, hlast⟩
  · rw [hprinted]
    exact houtput
  · rw [hprinted, hevaluated]
    exact hbindings

/-- A command books no result. -/
lemma Attempted.of_command {named : CommandLine}
    (h : CommandLine.parse? s.commandPrefix.text line = some named) (hkept : Kept s.counted s')
    (hlast : s'.lastError = s.lastError) : Attempted line s s' := by
  have hcounted : Steady s s.counted := ⟨rfl, rfl, rfl, rfl, rfl, [], rfl⟩
  exact .of_printed (printed?_of_parse?_eq_some h) (evaluated_of_parse?_eq_some h)
    (hcounted.trans hkept.toSteady) hkept.inputCount hkept.outputCount
    (congrArg _ hkept.workspace) hlast

/-- Nor does a line without a value. -/
lemma Attempted.of_ne_value {reply : Reply} {w : Workspace}
    (h : CommandLine.parse? s.commandPrefix.text line = none)
    (heval : s.engine.eval line s.workspace = (reply, w)) (hreply : ∀ v, reply ≠ .value v) :
    Attempted line s { s.counted with workspace := w } := by
  have hprinted : s.printed? line = none :=
    printed?_of_ne_value fun v w' hvalue => hreply v (congrArg Prod.fst (heval.symm.trans hvalue))
  exact .of_printed hprinted (evaluated_of_parse?_eq_none h heval)
    ⟨rfl, rfl, rfl, rfl, rfl, [], rfl⟩ rfl rfl rfl rfl

/-- A value is booked if its printing comes to the end. -/
lemma attempted_printResult {v : Value} {w : Workspace}
    (h : CommandLine.parse? s.commandPrefix.text line = none)
    (heval : s.engine.eval line s.workspace = (.value v, w)) :
    Attempted line s (printResult { s.counted with workspace := w } (some v)).2 := by
  have hprinted := printed?_of_value h heval
  have hevaluated := evaluated_of_parse?_eq_none h heval
  obtain ⟨⟨events, hconsole⟩, hcompleted, hstopped⟩ :=
    s.printer.printed_print v ⟨w.store, s.console⟩
  rw [printResult, show s.counted.printer = s.printer from rfl,
    show s.counted.console = s.console from rfl]
  simp only
  generalize s.printer.print (some v) ⟨w.store, s.console⟩ = r at *
  obtain ⟨_ | printing, printer, around⟩ := r
  · obtain rfl := hstopped _ rfl
    exact .of_printed hprinted hevaluated ⟨rfl, rfl, rfl, rfl, rfl, _, hconsole⟩ rfl rfl rfl rfl
  · obtain rfl := hcompleted _ rfl
    rcases printing with ⟨_, _ | ⟨_, _ | _⟩⟩ <;>
      exact .of_printed hprinted hevaluated ⟨rfl, rfl, rfl, rfl, rfl, _, hconsole⟩ rfl rfl rfl rfl

/-- Every line is tried so. -/
lemma attempted_attempt (line : String) (hcommands : s.commands = .builtin) :
    Attempted line s (attempt line s).2 := by
  cases h : CommandLine.parse? s.commandPrefix.text line with
  | none =>
      rw [attempt_of_parse?_eq_none h]
      rcases heval : s.engine.eval line s.workspace with ⟨v | _ | e | p, w⟩
      · rw [evaluate_of_value (s := s.counted) heval]
        exact attempted_printResult h heval
      · rw [evaluate_of_nothing (s := s.counted) heval]
        exact .of_ne_value h heval nofun
      · rw [evaluate_of_error (s := s.counted) heval]
        exact .of_ne_value h heval nofun
      · rw [evaluate_of_panicked (s := s.counted) heval]
        exact .of_ne_value h heval nofun
  | some named =>
      cases hfind : s.commands.find? named.name with
      | none =>
          rw [attempt_of_find?_eq_none h hfind]
          exact .of_command h (.refl _) rfl
      | some command =>
          have hperformed := performed_builtin (s := s) (hcommands ▸ hfind)
          rw [attempt_of_find?_eq_some h hfind]
          exact .of_command h hperformed.toKept hperformed.lastError

/-- How a line is handled. -/
lemma handled_step (line : String) (hcommands : s.commands = .builtin) :
    Handled line s (step line s).2 := by
  rw [step_eq]
  exact (attempted_attempt line hcommands).toHandled.of_kept (kept_settle _)

/-- What is written for a value begins with the header, however the printing ends. -/
lemma exists_after_header {v : Value} {w : Workspace}
    (h : CommandLine.parse? s.commandPrefix.text line = none)
    (heval : s.engine.eval line s.workspace = (.value v, w)) :
    ∃ events, (step line s).2.console =
      Console.after s.console (.written s.printer.header :: events) := by
  rw [step_eq, attempt_of_parse?_eq_none h, evaluate_of_value (s := s.counted) heval]
  obtain ⟨more, hmore⟩ :=
    (kept_settle (printResult { s.counted with workspace := w } (some v))).console
  obtain ⟨events, hevents⟩ := (s.printer.printed_print v ⟨w.store, s.console⟩).console
  refine ⟨events ++ more, ?_⟩
  rw [hmore, console_printResult, ← List.cons_append, Console.after_append, ← hevents]
  rfl

/-- A line without a value is counted, and nothing else comes of it but what the engine did. -/
lemma step_of_nothing {w : Workspace} (h : CommandLine.parse? s.commandPrefix.text line = none)
    (heval : s.engine.eval line s.workspace = (.nothing, w)) :
    step line s = (.ok (), { s.counted with workspace := w }) := by
  rw [step_eq, attempt_of_parse?_eq_none h, evaluate_of_nothing (s := s.counted) heval]
  rfl

end

end LineRepl.Session
