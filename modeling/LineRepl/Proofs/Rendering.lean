/-
What can break a run at a console that never fails: a renderer that ends in an error of its own. It
cannot be told from an error of the console, and is passed on like one.

* `Printer.Refuses`: the renderer of a value ends in an error.
* `Printer.print_eq_fault_iff`: printing a value fails exactly if its renderer does.
* `Session.Unshown`: the line has a value, which its renderer refuses to show.
* `Session.step_eq_error_iff`: these are the lines whose handling fails.
* `Session.ComesToUnshown`: a session comes to such a line.
* `Session.run_eq_error_iff`: a run fails exactly if its session does. With renderers that end well
  or panic it never does.
* `Session.run_closed`: a run that fails at a renderer, with a line left to read.
-/
import LineRepl.Proofs.Containment
import LineRepl.Proofs.Running

namespace LineRepl

variable {κ : Type} [Console κ]

namespace Printer

/-- The value is no stream and has a renderer, which ends in an error after the header was
written. -/
def Refuses (p : Printer) (v : Value) (c : κ) (e : IoError) : Prop :=
  (∀ handle, v ≠ .stream handle) ∧ ∃ render, p.renderer? v.kind = some render ∧
    ((render v).run (Console.write p.header c).2).1 = .error (.fault e)

/-- Sound renderers refuse nothing. -/
lemma Sound.not_refuses {p : Printer} (h : p.Sound) {c : κ} (hc : Console.NeverFails c) (v : Value)
    (e : IoError) : ¬ p.Refuses v c e := by
  rintro ⟨-, render, hrender, hrun⟩
  rcases Dialogue.run_outcome (h _ _ hrender v) (hc.after [.written p.header]) with hok | ⟨_, hpanic⟩
  · cases hrun.symm.trans hok
  · cases hrun.symm.trans hpanic

/-- At a console that never fails, only a renderer can fail with an error of input or output. -/
lemma printBody_eq_fault_iff {p : Printer} {v : Value} {s : Surroundings κ} {e : IoError}
    (hc : Console.NeverFails s.console) :
    (p.printBody v s).1 = .error (.fault e) ↔
      (∀ handle, v ≠ .stream handle) ∧ ∃ render, p.renderer? v.kind = some render ∧
        ((render v).run s.console).1 = .error (.fault e) := by
  by_cases hv : ∃ handle, v = .stream handle
  · obtain ⟨handle, rfl⟩ := hv
    have houtcome := p.paginator.listing_outcome (s.store.stream handle) hc
    rw [printBody]
    generalize p.paginator.listing (s.store.stream handle) s.console = r at houtcome ⊢
    obtain ⟨outcome, _, _⟩ := r
    rcases houtcome with ⟨l, rfl⟩ | ⟨panic, _, rfl, -⟩ <;> simp
  · have hbody : (p.printBody v s).1 = .error (.fault e) ↔
        ((p.dialogue v).run s.console).1 = .error (.fault e) := by
      rw [printBody_of_ne_stream p (not_exists.mp hv)]
      rcases (p.dialogue v).run s.console with ⟨_ | _, _⟩ <;> simp
    rw [hbody, and_iff_right (not_exists.mp hv), dialogue]
    cases p.renderer? v.kind with
    | some render => simp
    | none =>
        -- without a renderer the text of the value is written, which the console does not fail at
        obtain ⟨c, hwrite, -⟩ := hc.exists_write_eq (v.text ++ "\n")
        simp [Dialogue.say, Dialogue.run, hwrite]

/-- Printing a value at a console that never fails ends in an error exactly if its renderer does. -/
lemma print_eq_fault_iff {p : Printer} {v : Value} {s : Surroundings κ} {e : IoError}
    (hc : Console.NeverFails s.console) :
    (p.print (some v) s).1 = .error (.fault e) ↔ p.Refuses v s.console e := by
  obtain ⟨c, hwrite, hc'⟩ := hc.exists_write_eq p.header
  have hbody := printBody_eq_fault_iff (p := p) (v := v) (s := { s with console := c }) (e := e) hc'
  rw [Refuses, hwrite, ← hbody, print, hwrite]
  simp only
  rcases p.printBody v { s with console := c } with ⟨_ | _, _⟩ <;> simp

end Printer

namespace Session

variable {s : Session κ} {line : String}

/-! ### Lines -/

/-- The line is evaluated to a value that its renderer refuses to show. -/
def Unshown (s : Session κ) (line : String) (e : IoError) : Prop :=
  CommandLine.parse? s.commandPrefix.text line = none ∧
    ∃ v w, s.engine.eval line s.workspace = (.value v, w) ∧ s.printer.Refuses v s.console e

/-- So a line comes to such an error exactly if its value is not shown. -/
lemma attempt_eq_io_iff (hcommands : s.commands = .builtin) (hconsole : Console.NeverFails s.console)
    {e : IoError} : (attempt line s).1 = .error (.io e) ↔ Unshown s line e := by
  cases hline : CommandLine.parse? s.commandPrefix.text line with
  | some named =>
      rw [Unshown, hline]
      simp only [reduceCtorEq, false_and, iff_false]
      intro h
      cases hfind : s.commands.find? named.name with
      | none =>
          rw [attempt_of_find?_eq_none hline hfind] at h
          cases h
      | some command =>
          rw [attempt_of_find?_eq_some hline hfind] at h
          exact ((performed_builtin (hcommands ▸ hfind)).failure hconsole _ h).ne_io e rfl
  | none =>
      rw [Unshown, and_iff_right hline]
      rcases heval : s.engine.eval line s.workspace with ⟨v | _ | e' | p, w⟩
      · have hprint := s.printer.print_eq_fault_iff (v := v) (s := ⟨w.store, s.console⟩) (e := e)
          hconsole
        rw [attempt_fst_of_value hline heval]
        rcases hr : (s.printer.print (some v) ⟨w.store, s.console⟩).1 with (e' | p) | _ <;>
          simp_all [printerFailure, Failure.ofMessage]
      · rw [attempt_of_parse?_eq_none hline, evaluate_of_nothing (s := s.counted) heval]
        simp
      · rw [attempt_of_parse?_eq_none hline, evaluate_of_error (s := s.counted) heval]
        cases e' <;> simp [Failure.ofEvalError]
      · rw [attempt_of_parse?_eq_none hline, evaluate_of_panicked (s := s.counted) heval]
        simp [Failure.ofMessage]

/-- At a console that never fails, handling a line fails exactly if its value is not shown. -/
lemma step_eq_error_iff (hcommands : s.commands = .builtin) (hconsole : Console.NeverFails s.console)
    {f : Failure} : (step line s).1 = .error f ↔ ∃ e, f = .io e ∧ Unshown s line e := by
  have hneverFails := (attempted_attempt line hcommands).neverFails hconsole
  simp only [← attempt_eq_io_iff hcommands hconsole]
  rw [step_eq]
  generalize attempt line s = r at hneverFails
  obtain ⟨f' | _, s'⟩ := r
  · by_cases hf : ∃ e, f' = .io e
    · obtain ⟨e, rfl⟩ := hf
      simp [settle, fail, eq_comm]
    · rw [settle, fail_of_neverFails (not_exists.mp hf) hneverFails]
      simp only [not_exists] at hf
      simp [hf]
  · simp [settle]

/-! ### Runs -/

/-- The session comes to a line whose value is not shown. -/
def ComesToUnshown (s : Session κ) (e : IoError) : Prop :=
  ∃ top line c, Returns s top ∧ top.running = true ∧
    Console.readLine top.renderPrompt top.console = (.ok (some line), c) ∧
      Unshown { top with console := c } line e

/-- The loop ends in an error exactly if it comes to such a line. -/
lemma loop_fst_eq_error_iff (hcommands : s.commands = .builtin)
    (hconsole : Console.NeverFails s.console) {f : Failure} :
    s.loop.1 = .error f ↔ ∃ e, f = .io e ∧ ComesToUnshown s e := by
  have hread {top : Session κ} {line : Option String} {c : κ} (hreturns : Returns s top)
      (hread : Console.readLine top.renderPrompt top.console = (.ok line, c)) :
      top.commands = .builtin ∧ Console.NeverFails c := by
    have hsteady := steady_of_returns hcommands hreturns
    exact ⟨hsteady.commands.trans hcommands, (hsteady.neverFails hconsole).of_readLine hread⟩
  constructor
  · intro h
    rcases hloop : s.loop with ⟨_, s'⟩
    rw [hloop] at h
    subst h
    obtain ⟨top, hreturns, hbreaks⟩ := loop_eq_error_iff.mp hloop
    cases hbreaks with
    | read hrunning hfailed =>
        obtain ⟨_, _, hok, -⟩ :=
          ((steady_of_returns hcommands hreturns).neverFails hconsole).exists_readLine_eq
            top.renderPrompt
        cases hfailed.symm.trans hok
    | @line line c _ _ hrunning hline hstep =>
        obtain ⟨hbuiltin, hc⟩ := hread hreturns hline
        obtain ⟨e, rfl, hunshown⟩ := (step_eq_error_iff (s := { top with console := c })
          hbuiltin hc).mp (congrArg Prod.fst hstep)
        exact ⟨e, rfl, top, line, c, hreturns, hrunning, hline, hunshown⟩
  · rintro ⟨e, rfl, top, line, c, hreturns, hrunning, hline, hunshown⟩
    obtain ⟨hbuiltin, hc⟩ := hread hreturns hline
    have hstep := (step_eq_error_iff (s := { top with console := c }) hbuiltin hc).mpr
      ⟨e, rfl, hunshown⟩
    rw [loop_eq_error_iff.mpr ⟨top, hreturns, .line hrunning hline (Prod.ext hstep rfl)⟩]

/-- Renderers that end well or panic leave no value unshown. -/
lemma not_comesToUnshown_of_sound (hcommands : s.commands = .builtin)
    (hconsole : Console.NeverFails s.console) (hprinter : s.printer.Sound) (e : IoError) :
    ¬ ComesToUnshown s e := by
  rintro ⟨top, line, c, hreturns, -, hline, -, v, w, -, hrefuses⟩
  have hsteady := steady_of_returns hcommands hreturns
  have hc := (hsteady.neverFails hconsole).of_readLine hline
  have hsound : top.printer.Sound := by
    rw [Printer.Sound, hsteady.renderer?]
    exact hprinter
  exact hsound.not_refuses hc v e hrefuses

/-- **What a run fails at**, if its console never fails: it comes to a line whose value the renderer
refuses to show, and passes on the renderer's error. So no run fails whose renderers end well or
panic. -/
theorem run_eq_error_iff (hcommands : s.commands = .builtin)
    (hconsole : Console.NeverFails s.console) :
    (∀ f, s.run.1 = .error f ↔ ∃ e, f = .io e ∧ ComesToUnshown s.started e) ∧
      (s.printer.Sound → s.run.1 = .ok ()) := by
  have hrun : s.run.1 = s.started.loop.1 := by
    rw [run_eq]
    rcases s.started.loop with ⟨_ | _, _⟩ <;> rfl
  have hfails (f : Failure) : s.run.1 = .error f ↔ ∃ e, f = .io e ∧ ComesToUnshown s.started e := by
    rw [hrun]
    exact loop_fst_eq_error_iff (s := s.started) hcommands hconsole
  refine ⟨hfails, fun hprinter => ?_⟩
  cases houtcome : s.run.1 with
  | ok => rfl
  | error f =>
      obtain ⟨e, -, hunshown⟩ := (hfails f).mp houtcome
      exact absurd hunshown
        (not_comesToUnshown_of_sound (s := s.started) hcommands hconsole hprinter e)

/-- A session in memory whose integers have a renderer that is closed. -/
def closed : Session QueueConsole :=
  (start .builtin Rpn.engine (.ofLines ["1", "2"])).setRenderer .int
    fun _ => .fail ⟨.other, "printer closed"⟩

/-- The first line of the run comes to a renderer that fails. -/
theorem comesToUnshown_closed :
    closed.commands = .builtin ∧ Console.NeverFails closed.console ∧
      ComesToUnshown closed.started ⟨.other, "printer closed"⟩ := by
  have hneverFails := QueueConsole.neverFails closed.console
  have hrun : closed.run.1 = .error (.io ⟨.other, "printer closed"⟩) := by decide +kernel
  obtain ⟨_, heq, hunshown⟩ := ((run_eq_error_iff rfl hneverFails).1 _).mp hrun
  cases heq
  exact ⟨rfl, hneverFails, hunshown⟩

/-- A run that fails although its console never does, with a line left to read. -/
theorem run_closed :
    Console.NeverFails closed.console ∧
      closed.run.1 = .error (.io ⟨.other, "printer closed"⟩) ∧
      closed.run.2.console.queue = ["2"] ∧ closed.run.2.lastError = none := by
  refine ⟨QueueConsole.neverFails _, ?_⟩
  decide +kernel

end Session

end LineRepl
