/-
How the loop of a session goes, and what a run leaves of it.

* `Session.Returns`, `Session.Breaks`: the loop comes back to its top after every line that was
  handled, and it breaks at a line that cannot be read or whose handling fails.
* `Session.loop_eq_error_iff`: a loop that fails is one that came back to where it breaks.
* `Script.QuitsLast`: scripts that do nothing after they ended the session, as those of all built-in
  commands.
* `Session.running_run_iff`: a run that ends well leaves its session stopped, and one that ends in
  an error leaves it running.
* `Session.running_run_refused`: a run whose first prompt cannot be shown.
-/
import LineRepl.Console.Bytes
import LineRepl.Console.Queue
import LineRepl.Engine.Builtin
import LineRepl.Proofs.Handling

namespace LineRepl

/-! ### Scripts that end the session -/

/-- The script does nothing after it ended the session. -/
def Script.QuitsLast : Script → Prop
  | .done | .fail _ => True
  | .view next => ∀ view, (next view).QuitsLast
  | .write _ next => next.QuitsLast
  | .readLine _ next => ∀ line, (next line).QuitsLast
  | .list _ next => next.QuitsLast
  | .bind _ _ next => next.QuitsLast
  | .setPrompt _ next => next.QuitsLast
  | .setLimit _ next => next.QuitsLast
  | .toggleNumbers next => ∀ on, (next on).QuitsLast
  | .swapEngine _ next => next.QuitsLast
  | .quit next => next = .done
  | .runArgument _ => False

lemma Script.closed_quitsLast : Closed QuitsLast where
  done := trivial
  fail _ := trivial
  view h := h
  write h := h
  list h := h
  setPrompt _ := trivial
  setLimit := trivial
  toggleNumbers h := h
  swapEngine := trivial
  quit := rfl

namespace Session

variable {κ : Type} [Console κ]

/-! ### What a failing line leaves -/

section

variable {s s' : Session κ} {f : Failure} {line : String}

lemma running_evaluate (s : Session κ) (line : String) :
    (s.evaluate line).2.running = s.running := by
  obtain ⟨_, _, _, _, h⟩ := exists_evaluate_eq s line
  rw [h]

/-- A script that fails has not ended the session, if it would do nothing after that. -/
lemma running_of_perform_eq_error {again : Session κ → Except Failure Unit × Session κ}
    {script : Script} (hscript : script.QuitsLast) (h : perform again script s = (.error f, s')) :
    s'.running = s.running := by
  induction script generalizing s with
  | done => cases h
  | fail =>
      cases h
      rfl
  | view next ih => exact ih _ (hscript s.view) h
  | write text next ih =>
      rw [perform, write] at h
      rcases hwrite : Console.write text s.console with ⟨_ | _, c⟩ <;> rw [hwrite] at h
      · cases h
        rfl
      · exact (ih hscript h).trans rfl
  | readLine prompt next ih =>
      rw [perform] at h
      rcases hread : Console.readLine prompt s.console with ⟨_ | line, c⟩ <;> rw [hread] at h
      · cases h
        rfl
      · exact (ih line (hscript line) h).trans rfl
  | list lines next ih =>
      rw [perform, list] at h
      rcases hlisting : s.printer.paginator.listing (.ofList (lines.map .str)) s.console with
        ⟨_ | listing, _, c⟩ <;> rw [hlisting] at h
      · cases h
        rfl
      · obtain ⟨log, hlog⟩ := exists_noteListing_eq { s with console := c } (some listing)
        simp only [hlog] at h
        exact (ih hscript h).trans rfl
  | bind name v next ih | setPrompt prompt next ih | setLimit limit next ih =>
      rw [perform] at h
      exact (ih hscript h).trans rfl
  | toggleNumbers next ih =>
      rw [perform] at h
      exact (ih _ (hscript _) h).trans rfl
  | swapEngine id next ih =>
      rw [perform, swapEngine] at h
      cases hfind : s.engines.find? id <;> rw [hfind] at h
      · cases h
        rfl
      · exact (ih hscript h).trans rfl
  | quit next =>
      rw [hscript] at h
      cases h
  | runArgument => exact hscript.elim

lemma running_of_attempt_eq_error (hcommands : s.commands = .builtin)
    (h : attempt line s = (.error f, s')) : s'.running = s.running := by
  cases hline : CommandLine.parse? s.commandPrefix.text line with
  | none =>
      rw [attempt_of_parse?_eq_none hline] at h
      exact (congrArg (·.2.running) h).symm.trans (running_evaluate s.counted line)
  | some named =>
      cases hfind : s.commands.find? named.name with
      | none =>
          rw [attempt_of_find?_eq_none hline hfind] at h
          cases h
          rfl
      | some command =>
          rw [attempt_of_find?_eq_some hline hfind] at h
          obtain ⟨hmem, -⟩ := CommandTable.find?_builtin_eq_some_iff.mp (hcommands ▸ hfind)
          have hscript := Builtin.closed_script Script.closed_quitsLast hmem named.argument
          exact (running_of_perform_eq_error hscript h).trans rfl

/-- What is passed on is an error of the console, and a report neither ends the session nor brings
it back. -/
lemma exists_of_fail_eq_error (h : s.fail f = (.error f', s')) :
    (∃ e, f' = .io e) ∧ s'.running = s.running := by
  by_cases hf : ∃ e, f = .io e
  · obtain ⟨e, rfl⟩ := hf
    cases h
    exact ⟨⟨e, rfl⟩, rfl⟩
  · rw [fail_of_ne_io s (not_exists.mp hf), write] at h
    rcases hwrite : Console.write (f.report ++ "\n") s.console with ⟨e | _, c⟩ <;>
      rw [hwrite] at h <;> cases h
    exact ⟨⟨e, rfl⟩, rfl⟩

/-- A line whose handling fails is not one that ends the session. -/
lemma exists_of_step_eq_error (hcommands : s.commands = .builtin)
    (h : step line s = (.error f, s')) : (∃ e, f = .io e) ∧ s'.running = s.running := by
  rw [step_eq] at h
  rcases hattempt : attempt line s with ⟨f' | _, s₁⟩ <;> rw [hattempt] at h
  · obtain ⟨hio, hrunning⟩ := exists_of_fail_eq_error h
    exact ⟨hio, hrunning.trans (running_of_attempt_eq_error hcommands hattempt)⟩
  · cases h

end

/-! ### The loop -/

/-- The loop comes back to its top: lines are read and handled, one after another. -/
inductive Returns : Session κ → Session κ → Prop
  | refl (s : Session κ) : Returns s s
  | line {s s' s'' : Session κ} {line : String} {c : κ} : s.running = true →
      Console.readLine s.renderPrompt s.console = (.ok (some line), c) →
      step line { s with console := c } = (.ok (), s') → Returns s' s'' → Returns s s''

/-- The loop ends in a failure here: a line cannot be read, or its handling fails. -/
inductive Breaks (s : Session κ) : Failure → Session κ → Prop
  | read {e : IoError} {c : κ} : s.running = true →
      Console.readLine s.renderPrompt s.console = (.error e, c) →
      Breaks s (.io e) { s with console := c }
  | line {line : String} {c : κ} {f : Failure} {s' : Session κ} : s.running = true →
      Console.readLine s.renderPrompt s.console = (.ok (some line), c) →
      step line { s with console := c } = (.error f, s') → Breaks s f s'

variable {s s' : Session κ} {f : Failure}

lemma steady_of_returns (hcommands : s.commands = .builtin) (h : Returns s s') : Steady s s' := by
  induction h with
  | refl s => exact (Kept.refl s).toSteady
  | @line s s₁ s₂ line c _ hread hstep _ ih =>
      have hprompt : Steady s { s with console := c } :=
        (Kept.of_console s [.prompt s.renderPrompt] (congrArg Prod.snd hread).symm).toSteady
      have hline := (handled_step (s := { s with console := c }) line hcommands).toSteady
      rw [hstep] at hline
      exact (hprompt.trans hline).trans (ih (hline.commands.trans hcommands))

lemma loop_of_breaks (h : Breaks s f s') : s.loop = (.error f, s') := by
  cases h with
  | read hrunning hread => rw [loop_of_running hrunning, hread]
  | line hrunning hread hstep =>
      rw [loop_of_running hrunning, hread]
      simp only [hstep]

lemma loop_of_returns (h : Returns s s') : s.loop = s'.loop := by
  induction h with
  | refl => rfl
  | line hrunning hread hstep _ ih =>
      rw [loop_of_running hrunning, hread]
      simp only [hstep]
      exact ih

/-- A loop that fails came back to a session at which it breaks. -/
lemma loop_eq_error_iff : s.loop = (.error f, s') ↔ ∃ top, Returns s top ∧ Breaks top f s' := by
  constructor
  · intro h
    fun_induction loop s with
    | case1 s hrunning e c hread =>
        cases h
        exact ⟨s, .refl s, .read hrunning hread⟩
    | case2 => cases h
    | case3 s hrunning line c hread f' s₁ hstep =>
        cases h
        exact ⟨s, .refl s, .line hrunning hread hstep⟩
    | case4 s hrunning line c hread s₁ hstep ih =>
        obtain ⟨top, hreturns, hbreaks⟩ := ih h
        exact ⟨top, .line hrunning hread hstep hreturns, hbreaks⟩
    | case5 => cases h
  · rintro ⟨top, hreturns, hbreaks⟩
    rw [loop_of_returns hreturns, loop_of_breaks hbreaks]

/-! ### Runs -/

/-- A loop that fails does so in an error of the console, while the session is running. -/
lemma exists_of_loop_eq_error (hcommands : s.commands = .builtin) (h : s.loop = (.error f, s')) :
    (∃ e, f = .io e) ∧ s'.running = true := by
  obtain ⟨top, hreturns, hbreaks⟩ := loop_eq_error_iff.mp h
  have hsteady := steady_of_returns hcommands hreturns
  cases hbreaks with
  | read hrunning => exact ⟨⟨_, rfl⟩, hrunning⟩
  | @line line c _ _ hrunning _ hstep =>
      obtain ⟨hio, hkept⟩ := exists_of_step_eq_error (s := { top with console := c })
        (hsteady.commands.trans hcommands) hstep
      exact ⟨hio, hkept.trans hrunning⟩

/-- **A run leaves its session stopped** if and only if it ends well. The other runs end in an error
of the console, and leave it running. -/
theorem running_run_iff (hcommands : s.commands = .builtin) :
    (s.run.2.running = false ↔ s.run.1 = .ok ()) ∧
      (s.run.2.running = true ↔ ∃ e, s.run.1 = .error (.io e)) := by
  rcases hloop : s.started.loop with ⟨f | _, s'⟩
  · obtain ⟨⟨e, rfl⟩, hrunning⟩ := exists_of_loop_eq_error (s := s.started) hcommands hloop
    have hrun : s.run = (.error (.io e), s') := by rw [run_eq, hloop]
    simp [hrun, hrunning]
  · have hrun : s.run = (.ok (), s'.stop.note .debug s'.stop.closing) := by rw [run_eq, hloop]
    have hstopped : (s'.stop.note .debug s'.stop.closing).running = false := rfl
    simp [hrun, hstopped]

/-- A session that is asked to end before its lines are read to the end. -/
theorem running_run_quit :
    (start .builtin Calc.engine (QueueConsole.ofLines ["::quit", "1"])).commands = .builtin ∧
      (start .builtin Calc.engine (QueueConsole.ofLines ["::quit", "1"])).run.1 = .ok () ∧
      (start .builtin Calc.engine
        (QueueConsole.ofLines ["::quit", "1"])).run.2.running = false := by
  have hok : (start .builtin Calc.engine (QueueConsole.ofLines ["::quit", "1"])).run.1 = .ok () := by
    decide +kernel
  exact ⟨rfl, hok, (running_run_iff rfl).1.mpr hok⟩

/-- A session at a console where the line `1` waits and the first text cannot be shown. -/
def refused : Session ByteConsole :=
  start .builtin Calc.engine
    { ByteConsole.ofBytes [49, 10] with
      fault := fun k => if k = 1 then some ⟨.brokenPipe, "closed"⟩ else none }

/-- A run whose first prompt cannot be shown leaves its session running. -/
theorem running_run_refused :
    refused.run.1 = .error (.io ⟨.brokenPipe, "closed"⟩) ∧ refused.run.2.running = true := by
  decide +kernel

end Session

end LineRepl
