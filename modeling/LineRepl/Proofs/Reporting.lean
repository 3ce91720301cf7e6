/-
A line that fails is reported in one line.

* `Dialogue.NeverPanics`, `Printer.NeverPanics`: renderers that end, well or in an error of their
  own.
* `Printer.print_ne_panic`: with these, homemade values are printed without a panic.
* `Session.Records`: a line records a failure, whatever was recorded before.
* `Session.records_iff_fails`: the failures that are recorded are those that lines end in.
* `Session.reported_in_one_line`: nothing but the report is written for them.
-/
import LineRepl.Proofs.Containment
import LineRepl.Proofs.Message

namespace LineRepl

/-! ### Renderers -/

/-- A conversation that does not panic, as long as the console answers. -/
def Dialogue.NeverPanics : Dialogue → Prop
  | .done => True
  | .fail _ => True
  | .panic _ => False
  | .write _ next => (next (.ok ())).NeverPanics
  | .readLine _ next => ∀ line, (next (.ok line)).NeverPanics

/-- No renderer panics, as long as the console answers. -/
def Printer.NeverPanics (p : Printer) : Prop :=
  ∀ kind render, p.renderer? kind = some render → ∀ v, (render v).NeverPanics

section

variable {κ : Type} [Console κ]

lemma Dialogue.run_ne_panic {d : Dialogue} (hd : d.NeverPanics) {c : κ}
    (hc : Console.NeverFails c) (panic : Panic) : (d.run c).1 ≠ .error (.panic panic) := by
  induction d generalizing c with
  | done => exact nofun
  | fail e => exact nofun
  | panic panic' => exact hd.elim
  | write text next ih =>
      obtain ⟨c', h, hc'⟩ := hc.exists_write_eq text
      rw [run, h]
      exact ih _ hd hc'
  | readLine prompt next ih =>
      obtain ⟨line, c', h, hc'⟩ := hc.exists_readLine_eq prompt
      rw [run, h]
      exact ih _ (hd line) hc'

namespace Printer

variable {p : Printer} {v : Value} {s : Surroundings κ}

lemma neverPanics_default : Printer.default.NeverPanics := nofun

lemma NeverPanics.dialogue (h : p.NeverPanics) (v : Value) : (p.dialogue v).NeverPanics := by
  rw [Printer.dialogue]
  split
  next render hrender => exact h _ _ hrender v
  next => exact trivial

lemma printBody_ne_panic (hp : p.NeverPanics) (hv : v.Homemade s.store)
    (hc : Console.NeverFails s.console) (panic : Panic) :
    (p.printBody v s).1 ≠ .error (.panic panic) := by
  by_cases hstream : ∃ handle, v = .stream handle
  · obtain ⟨handle, rfl⟩ := hstream
    have hbroken : ∀ i panic, (s.store.stream handle).item i ≠ some (.broken panic) := by
      cases hv with
      | stream _ hhomemade => exact hhomemade.ne_broken
    have houtcome := p.paginator.listing_outcome (s.store.stream handle) hc
    rw [printBody]
    generalize p.paginator.listing (s.store.stream handle) s.console = r at houtcome ⊢
    obtain ⟨outcome, _, _⟩ := r
    rcases houtcome with ⟨l, rfl⟩ | ⟨panic', i, -, -, hitem⟩
    · rintro ⟨⟩
    · exact absurd hitem (hbroken i panic')
  · rw [not_exists] at hstream
    have hrun := Dialogue.run_ne_panic (hp.dialogue v) hc panic
    rw [printBody_of_ne_stream p hstream]
    generalize (p.dialogue v).run s.console = r at hrun ⊢
    obtain ⟨stop | _, _⟩ := r
    · exact fun h => hrun (congrArg Except.error (Except.error.inj h))
    · rintro ⟨⟩

/-- A homemade value is printed without a panic. -/
lemma print_ne_panic (hp : p.NeverPanics) (hv : v.Homemade s.store)
    (hc : Console.NeverFails s.console) (panic : Panic) :
    (p.print (some v) s).1 ≠ .error (.panic panic) := by
  obtain ⟨c, h, hc'⟩ := hc.exists_write_eq p.header
  have hbody := printBody_ne_panic (s := { s with console := c }) hp hv hc' panic
  rw [print, h]
  simp only
  generalize p.printBody v { s with console := c } = r at hbody ⊢
  obtain ⟨stop | _, _⟩ := r
  · exact fun h => hbody (congrArg Except.error (Except.error.inj h))
  · rintro ⟨⟩

end Printer

end

namespace Session

/-- The line records the failure, whatever was recorded before. -/
def Records {κ : Type} [Console κ] (s : Session κ) (line : String) (f : Failure) : Prop :=
  ∀ last, (step line { s with lastError := last }).2.lastError = some f

variable {κ : Type} [Console κ] {s : Session κ} {line : String} {f : Failure}

/-! ### What is recorded -/

/-- Whether a line fails does not depend on what was recorded before. -/
lemma Fails.of_lastError (last : Option Failure) (h : Fails { s with lastError := last } line f) :
    Fails s line f := by
  cases h with
  | malformed hline heval => exact .malformed hline heval
  | runtime hline heval => exact .runtime hline heval
  | internal hline heval => exact .internal hline heval
  | evaluatorPanicked hline heval => exact .evaluatorPanicked hline heval
  | printerPanicked hline heval hprint => exact .printerPanicked hline heval hprint
  | unknownCommand hline hnone => exact .unknownCommand hline hnone
  | refused hline hrefused => exact .refused hline hrefused

/-- What becomes of a line that fails. -/
lemma Fails.exists_step_eq (h : Fails s line f) (hcommands : s.commands = .builtin)
    (hconsole : Console.NeverFails s.console) :
    ∃ s', step line s = (.ok (), s') ∧ s'.lastError = some f ∧
      s'.console = Console.after (attempt line s).2.console [.written (f.report ++ "\n")] := by
  have hattempted := attempted_attempt line hcommands
  have herror := attempt_of_fails hcommands h
  rw [step_eq]
  generalize attempt line s = r at hattempted herror ⊢
  obtain ⟨_, s₁⟩ := r
  cases herror
  exact ⟨_, fail_of_neverFails h.ne_io (hattempted.neverFails hconsole), rfl, rfl⟩

/-- A line records the failure that it ends in, and no other. Errors of renderers are not
recorded. -/
lemma records_iff_fails (hcommands : s.commands = .builtin)
    (hconsole : Console.NeverFails s.console) : Records s line f ↔ Fails s line f := by
  constructor
  · intro h
    have hnone := h none
    have hattempted := attempted_attempt (s := { s with lastError := none }) line hcommands
    rcases hattempt : attempt line { s with lastError := none } with ⟨f' | _, s₁⟩
    all_goals
      rw [hattempt] at hattempted
      rw [step_eq, hattempt] at hnone
    · rcases fails_or_exists_of_attempt (s := { s with lastError := none }) hcommands hconsole
        (congrArg Prod.fst hattempt) with hfails | ⟨v, w, e, -, -, rfl⟩
      · rw [settle, fail_of_neverFails hfails.ne_io (hattempted.neverFails hconsole)] at hnone
        obtain rfl := Option.some.inj hnone
        exact hfails.of_lastError none
      · cases hattempted.lastError.symm.trans hnone
    · cases hattempted.lastError.symm.trans hnone
  · intro h last
    have hfails : Fails { s with lastError := last } line f := h.of_lastError s.lastError
    obtain ⟨s', hstep, hlast, -⟩ := hfails.exists_step_eq hcommands hconsole
    rw [hstep]
    exact hlast

/-! ### Reports -/

section

variable (hengine : s.engine ∈ EngineTable.builtin.engines)
  (hconsole : Console.NeverFails s.console) (hbindings : s.workspace.Homemade)
  (hprinter : s.printer.NeverPanics)

include hengine hconsole hbindings hprinter

/-- The value of the line is printed without a panic. -/
lemma print_evaluated_ne_panic {v : Value} {w : Workspace}
    (heval : s.engine.eval line s.workspace = (.value v, w)) (panic : Panic) :
    (s.printer.print (some v) ⟨w.store, s.console⟩).1 ≠ .error (.panic panic) :=
  Printer.print_ne_panic hprinter ((EngineTable.homemade_eval hengine line hbindings).1 v w heval)
    hconsole panic

/-- A line that fails does so before anything is shown. -/
lemma Fails.console_attempt (hcommands : s.commands = .builtin) (h : Fails s line f) :
    (attempt line s).2.console = s.console := by
  cases h with
  | malformed hline heval | runtime hline heval | internal hline heval =>
      rw [attempt_of_parse?_eq_none hline, evaluate_of_error (s := s.counted) heval]
      rfl
  | evaluatorPanicked hline heval =>
      rw [attempt_of_parse?_eq_none hline, evaluate_of_panicked (s := s.counted) heval]
      rfl
  | printerPanicked _ heval hprint =>
      exact absurd hprint
        (print_evaluated_ne_panic hengine hconsole hbindings hprinter heval _)
  | unknownCommand hline hnone =>
      rw [attempt_of_find?_eq_none hline
        (hcommands ▸ CommandTable.find?_builtin_eq_none_iff.mpr hnone)]
      rfl
  | refused hline hrefused =>
      rw [attempt_of_refused hcommands hline hrefused]
      rfl

/-- What is said of a line that fails. -/
lemma Fails.oneLine_report (hline : OneLine line) (h : Fails s line f) : OneLine f.report := by
  cases h with
  | malformed _ heval | runtime _ heval => exact EngineTable.oneLine_of_eval hengine hbindings heval
  | internal _ heval =>
      exact .append (by decide) (EngineTable.oneLine_of_eval hengine hbindings heval)
  | evaluatorPanicked _ heval =>
      exact absurd (congrArg Prod.fst heval) (EngineTable.eval_ne_panicked hengine _ _ _)
  | printerPanicked _ heval hprint =>
      exact absurd hprint
        (print_evaluated_ne_panic hengine hconsole hbindings hprinter heval _)
  | unknownCommand hnamed => exact .append (by decide) (hline.of_parse? hnamed).1
  | refused hnamed hrefused => exact hrefused.oneLine (hline.of_parse? hnamed).2

end

/-- **One line for a line that fails**: with the engines and commands that are always there, values
that these engines make, a console that never fails and renderers that do not panic, a line without
a line feed that records a failure writes the report of it, a line feed, and nothing else. The
report itself has no line feed. -/
theorem reported_in_one_line (hcommands : s.commands = .builtin)
    (hengine : s.engine ∈ EngineTable.builtin.engines) (hconsole : Console.NeverFails s.console)
    (hbindings : s.workspace.Homemade) (hprinter : s.printer.NeverPanics) (hline : OneLine line)
    (hrecords : Records s line f) :
    OneLine f.report ∧ ∃ s', step line s = (.ok (), s') ∧ s'.lastError = some f ∧
      s'.console = Console.after s.console [.written (f.report ++ "\n")] := by
  have hfails := (records_iff_fails hcommands hconsole).mp hrecords
  obtain ⟨s', hstep, hlast, hwritten⟩ := hfails.exists_step_eq hcommands hconsole
  rw [hfails.console_attempt hengine hconsole hbindings hprinter hcommands] at hwritten
  exact ⟨hfails.oneLine_report hengine hconsole hbindings hprinter hline,
    s', hstep, hlast, hwritten⟩

/-- A session of the stack calculator in which a name has a text of two lines. -/
def versed : Session QueueConsole :=
  { start .builtin Rpn.engine (.ofLines []) with
    workspace := Workspace.empty.bind "x" (.str "a\nb") }

lemma fails_versed : Fails versed "x" (.evaluation (.runtime "'x' is a Str, not a number")) := by
  have herror : (match (Rpn.evalLine "x" versed.workspace).1 with
      | .error e => some e
      | _ => none) = some (.runtime "'x' is a Str, not a number") := by
    decide +kernel
  rcases heval : Rpn.evalLine "x" versed.workspace with ⟨_ | _ | e | _, w⟩
  all_goals
    rw [heval] at herror
    cases herror
  exact .runtime (by decide +kernel) heval

/-- The text is not shown. -/
theorem versed_reported_in_one_line :
    versed.commands = .builtin ∧ versed.engine ∈ EngineTable.builtin.engines ∧
      Console.NeverFails versed.console ∧ versed.workspace.Homemade ∧
      versed.printer.NeverPanics ∧ OneLine "x" ∧
      Records versed "x" (.evaluation (.runtime "'x' is a Str, not a number")) ∧
      ∃ s', step "x" versed = (.ok (), s') ∧
        s'.console = Console.after versed.console [.written "'x' is a Str, not a number\n"] := by
  have hengine : Rpn.engine ∈ EngineTable.builtin.engines := .tail _ (.head _)
  have hconsole := QueueConsole.neverFails (.ofLines [])
  have hbindings : versed.workspace.Homemade :=
    Workspace.Homemade.bind (w := .empty) (fun _ _ h => nomatch h) "x" (.str _)
  have hrecords := (records_iff_fails rfl hconsole).mpr fails_versed
  obtain ⟨-, s', hstep, -, hwritten⟩ := reported_in_one_line rfl hengine hconsole hbindings
    Printer.neverPanics_default (by decide) hrecords
  exact ⟨rfl, hengine, hconsole, hbindings, Printer.neverPanics_default, by decide, hrecords,
    s', hstep, hwritten⟩

/-- A session of the stack calculator with a renderer that panics. -/
def unrendered : Session QueueConsole :=
  { start .builtin Rpn.engine (.ofLines []) with
    printer := Printer.default.setRenderer .int fun _ => .panic ⟨some "cannot render"⟩ }

lemma fails_unrendered :
    Fails unrendered "1" (.ofMessage "printer panicked: cannot render") := by
  have hline : CommandLine.parse? unrendered.commandPrefix.text "1" = none := by decide +kernel
  have hinteger : (match (Rpn.evalLine "1" unrendered.workspace).1 with
      | .value v => v.kind == .int
      | .nothing => false
      | .error _ => false
      | .panicked _ => false) = true := by
    decide +kernel
  rcases heval : Rpn.evalLine "1" unrendered.workspace with ⟨v | _ | _ | _, w⟩
  all_goals rw [heval] at hinteger
  · cases v with
    | int n => exact .printerPanicked hline heval rfl
    | bool | float | str | list | stream | function | object => cases hinteger
  all_goals cases hinteger

/-- A renderer that panics does so behind the header of the result. The report then stands behind
the header. -/
theorem not_reported_in_one_line :
    ¬ ∀ (s : Session QueueConsole) (line : String) (f : Failure), s.commands = .builtin →
      s.engine ∈ EngineTable.builtin.engines → Console.NeverFails s.console →
      s.workspace.Homemade → OneLine line → Records s line f →
        OneLine f.report ∧ ∃ s', step line s = (.ok (), s') ∧ s'.lastError = some f ∧
          s'.console = Console.after s.console [.written (f.report ++ "\n")] := by
  intro h
  have hconsole := QueueConsole.neverFails (.ofLines [])
  have hrecords := (records_iff_fails rfl hconsole).mpr fails_unrendered
  obtain ⟨-, s', hstep, -, hwritten⟩ := h unrendered "1" _ rfl (.tail _ (.head _)) hconsole
    (fun _ _ h => nomatch h) (by decide) hrecords
  have hevents : (step "1" unrendered).2.console.events =
      #[.written "Caught exception: printer panicked: cannot render\n"] := by
    rw [hstep, hwritten]
    rfl
  revert hevents
  decide +kernel

end Session

end LineRepl
