/-
What is true of a session whatever was asked of it.

* `Failure.Recordable`: the failures that are kept as the last one.
* `Script.Careful`: scripts that install only prompts that were read, as those of all built-in
  commands.
* `Session.Request`, `Session.serve`: what is asked of a session from outside, and what it does.
* `Session.InOrder`: the limit, the command prefix, the prompt, the counts and the last failure of a
  session are as they have to be.
* `Session.InOrder.step`: a line keeps a session in order.
* `Session.inOrder_serveAll`: a session that was made is in order after all requests.
-/
import LineRepl.Proofs.Bookkeeping
import LineRepl.Proofs.Course

namespace LineRepl

/-! ### Failures -/

namespace Failure

/-- The failure can be kept: it is neither one of the console nor an engine's own one, told as one
of the line. -/
def Recordable (f : Failure) : Prop :=
  (∀ e, f ≠ .io e) ∧ ∀ causes, f ≠ .evaluation (.internal causes)

lemma Sorted.ne_internal {f : Failure} (h : f.Sorted) (causes : Causes) :
    f ≠ .evaluation (.internal causes) := by
  rintro rfl
  exact h

lemma sorted_ofEvalError (e : EvalError) : (ofEvalError e).Sorted := by
  cases e <;> exact trivial

end Failure

/-! ### Scripts -/

/-- The script installs only prompts that were read from their texts, and fails only in failures
that are sorted. It does not handle its argument as a line of its own. -/
def Script.Careful : Script → Prop
  | .done => True
  | .fail f => f.Sorted
  | .view next => ∀ view, (next view).Careful
  | .write _ next => next.Careful
  | .readLine _ next => ∀ line, (next line).Careful
  | .list _ next => next.Careful
  | .bind _ _ next => next.Careful
  | .setPrompt prompt next => prompt.WellRead ∧ next.Careful
  | .setLimit _ next => next.Careful
  | .toggleNumbers next => ∀ on, (next on).Careful
  | .swapEngine _ next => next.Careful
  | .quit next => next.Careful
  | .runArgument _ => False

lemma Script.closed_careful : Closed Careful where
  done := trivial
  fail h := h
  view h := h
  write h := h
  list h := h
  setPrompt h := ⟨h, trivial⟩
  setLimit := trivial
  toggleNumbers h := h
  swapEngine := trivial
  quit := trivial

namespace Session

variable {κ : Type}

/-- What came of a line or a part of it: a prompt that was read from its text, and no failure that
is not sorted. -/
structure Careful (r : Except Failure Unit × Session κ) : Prop where
  prompt : r.2.prompt.WellRead
  failure : ∀ f, r.1 = .error f → f.Sorted

lemma Careful.ok {s : Session κ} (h : s.prompt.WellRead) : Careful (.ok (), s) := ⟨h, nofun⟩

lemma Careful.error {s : Session κ} {f : Failure} (h : s.prompt.WellRead) (hf : f.Sorted) :
    Careful (.error f, s) := by
  refine ⟨h, ?_⟩
  rintro _ ⟨⟩
  exact hf

variable [Console κ] {s : Session κ} {line : String}

/-! ### Lines -/

lemma sorted_printerFailure (stop : Stop IoError) : (printerFailure stop).Sorted := by
  cases stop <;> exact trivial

/-- A careful script keeps the prompt one that was read. -/
lemma careful_perform (again : Session κ → Except Failure Unit × Session κ) {script : Script}
    (hscript : script.Careful) (h : s.prompt.WellRead) : Careful (perform again script s) := by
  -- a console may fail at any request, so each of them can end the script early
  induction script generalizing s with
  | done => exact .ok h
  | fail f => exact .error h hscript
  | view next ih => exact ih s.view (hscript s.view) h
  | write text next ih =>
      rw [perform, write]
      rcases Console.write text s.console with ⟨_ | _, c⟩
      · exact .error h trivial
      · exact ih hscript h
  | readLine prompt next ih =>
      rw [perform]
      rcases Console.readLine prompt s.console with ⟨_ | line, c⟩
      · exact .error h trivial
      · exact ih line (hscript line) h
  | list lines next ih =>
      rw [perform, list]
      rcases s.printer.paginator.listing (.ofList (lines.map .str)) s.console with
        ⟨stop | listing, _, c⟩
      · exact .error h (sorted_printerFailure stop)
      · obtain ⟨log, hlog⟩ := exists_noteListing_eq { s with console := c } (some listing)
        simp only [hlog]
        exact ih hscript h
  | bind name v next ih | setLimit limit next ih | quit next ih =>
      rw [perform]
      exact ih hscript h
  | setPrompt prompt next ih =>
      rw [perform]
      exact ih hscript.2 hscript.1
  | toggleNumbers next ih =>
      rw [perform]
      exact ih _ (hscript _) h
  | swapEngine id next ih =>
      rw [perform, swapEngine]
      cases s.engines.find? id with
      | none => exact .error h trivial
      | some engine => exact ih hscript h
  | runArgument => exact hscript.elim

/-- An evaluation fails in sorted failures, and the prompt stays. -/
lemma careful_evaluate (line : String) (h : s.prompt.WellRead) : Careful (s.evaluate line) where
  prompt := by
    obtain ⟨_, _, _, _, hevaluate⟩ := exists_evaluate_eq s line
    rw [hevaluate]
    exact h
  failure f hf := by
    rcases heval : s.engine.eval line s.workspace with ⟨v | _ | e | p, w⟩
    · rw [evaluate_of_value heval, printResult_some_fst] at hf
      split at hf <;> cases hf
      exact sorted_printerFailure _
    · rw [evaluate_of_nothing heval] at hf
      cases hf
    · rw [evaluate_of_error heval] at hf
      cases hf
      exact Failure.sorted_ofEvalError e
    · rw [evaluate_of_panicked heval] at hf
      cases hf
      exact trivial

lemma careful_attempt (line : String) (hcommands : s.commands = .builtin)
    (h : s.prompt.WellRead) : Careful (attempt line s) := by
  cases hline : CommandLine.parse? s.commandPrefix.text line with
  | none =>
      rw [attempt_of_parse?_eq_none hline]
      exact careful_evaluate line h
  | some named =>
      cases hfind : s.commands.find? named.name with
      | none =>
          rw [attempt_of_find?_eq_none hline hfind]
          exact .error h trivial
      | some command =>
          rw [attempt_of_find?_eq_some hline hfind]
          obtain ⟨hmem, -⟩ := CommandTable.find?_builtin_eq_some_iff.mp (hcommands ▸ hfind)
          exact careful_perform _ (Builtin.closed_script Script.closed_careful hmem _) h

/-- What was kept is the failure that was reported, and errors of the console are not. -/
lemma lastError_settle (r : Except Failure Unit × Session κ) :
    (settle r).2.prompt = r.2.prompt ∧
      ((settle r).2.lastError = r.2.lastError ∨
        ∃ f, r.1 = .error f ∧ (∀ e, f ≠ .io e) ∧ (settle r).2.lastError = some f) := by
  obtain ⟨f | _, s⟩ := r
  · rw [settle]
    by_cases hf : ∃ e, f = .io e
    · obtain ⟨e, rfl⟩ := hf
      exact ⟨rfl, .inl rfl⟩
    · have hne := not_exists.mp hf
      rw [fail_of_ne_io s hne, write]
      rcases Console.write (f.report ++ "\n") s.console with ⟨_ | _, c⟩
      · exact ⟨rfl, .inl rfl⟩
      · exact ⟨rfl, .inr ⟨f, rfl, hne, rfl⟩⟩
  · exact ⟨rfl, .inl rfl⟩

/-! ### Sessions in order -/

/-- The settings and counts of the session are as they have to be, and what it keeps as the last
failure is one that was reported. -/
structure InOrder (s : Session κ) : Prop where
  commands : s.commands = .builtin
  limit : 1 ≤ s.printer.paginator.limit
  commandPrefix : s.commandPrefix.text ≠ ""
  prompt : Prompt.compile s.prompt.source = .ok s.prompt
  counts : s.printer.outputCount ≤ s.inputCount
  lastError : ∀ f, s.lastError = some f → f.Recordable

namespace InOrder

variable {s' : Session κ}

omit [Console κ] in
/-- The limit and the command prefix are right by themselves. -/
lemma of_parts (hcommands : s.commands = .builtin) (hprompt : s.prompt.WellRead)
    (hcounts : s.printer.outputCount ≤ s.inputCount)
    (hlast : ∀ f, s.lastError = some f → f.Recordable) : s.InOrder where
  commands := hcommands
  limit := s.printer.paginator.limit_pos
  commandPrefix := s.commandPrefix.nonempty
  prompt := hprompt
  counts := hcounts
  lastError := hlast

omit [Console κ] in
/-- Everything else can change. -/
lemma of_rest (h : s.InOrder) (hcommands : s'.commands = s.commands)
    (hprompt : s'.prompt = s.prompt) (hinput : s'.inputCount = s.inputCount)
    (houtput : s'.printer.outputCount = s.printer.outputCount)
    (hlast : s'.lastError = s.lastError) : s'.InOrder := by
  refine of_parts (hcommands.trans h.commands) ?_ ?_ ?_
  · rw [hprompt]
    exact h.prompt
  · rw [hinput, houtput]
    exact h.counts
  · rw [hlast]
    exact h.lastError

/-- Whatever a line is, and however its handling ends. -/
lemma step (h : s.InOrder) (line : String) : (step line s).2.InOrder := by
  have hhandled := handled_step line h.commands
  have hattempted := attempted_attempt line h.commands
  have hcareful := careful_attempt line h.commands h.prompt
  obtain ⟨hprompt, hlast⟩ := lastError_settle (attempt line s)
  rw [← step_eq] at hprompt hlast
  refine of_parts (hhandled.commands.trans h.commands) ?_ ?_ ?_
  · rw [hprompt]
    exact hcareful.prompt
  · have hcounts := h.counts
    have hone : (s.printed? line).toList.length ≤ 1 := by
      cases s.printed? line <;> simp
    rw [hhandled.inputCount, hhandled.outputCount]
    omega
  · intro f hf
    rcases hlast with hkept | ⟨f', herror, hne, hsome⟩
    · -- nothing was reported, or the report was not shown
      rw [hkept, hattempted.lastError] at hf
      exact h.lastError f hf
    · obtain rfl : f' = f := Option.some.inj (hsome.symm.trans hf)
      exact ⟨hne, (hcareful.failure f' herror).ne_internal⟩

/-- By the lines that the loop reads. -/
lemma loopAlong (h : s.InOrder) (course : Course) : (s.loopAlong course).2.InOrder := by
  fun_induction Session.loopAlong course s with
  | case1 s hrunning e c hread => exact h.of_rest rfl rfl rfl rfl rfl
  | case2 s hrunning c hread => exact h.of_rest rfl rfl rfl rfl rfl
  | case3 s hrunning line c hread f s' hstep =>
      have hread' : InOrder { s with console := c } := h.of_rest rfl rfl rfl rfl rfl
      have hline := hread'.step line
      rw [hstep] at hline
      exact hline
  | case4 s hrunning line c hread s' hstep ih =>
      have hread' : InOrder { s with console := c } := h.of_rest rfl rfl rfl rfl rfl
      have hline := hread'.step line
      rw [hstep] at hline
      exact ih (hline.of_rest rfl rfl rfl rfl rfl)
  | case5 => exact h

lemma runAlong (h : s.InOrder) (course : Course) : (s.runAlong course).2.InOrder := by
  have hstarted : s.started.InOrder := h.of_rest rfl rfl rfl rfl rfl
  have hloop := hstarted.loopAlong course
  rw [Session.runAlong]
  rcases hresult : s.started.loopAlong course with ⟨_ | _, s'⟩
  all_goals rw [hresult] at hloop
  · exact hloop
  · exact hloop.of_rest rfl rfl rfl rfl rfl

end InOrder

/-! ### Requests -/

/-- What is asked of a session from outside. -/
inductive Request where
  /-- A line is handled, by what the active engine has become. -/
  | line (t : Turn)
  /-- The session runs until its input ends, or a line ends it. -/
  | run (course : Course)
  | setPrompt (text : String)
  | setCommandPrefix (text : String)
  | setOutputPrefix (text : String)
  | setLimit (limit : ℕ)
  | setNumbered (on : Bool)
  | toggleNumbers
  | setRenderer (kind : Kind) (render : Renderer)
  | registerEngine (engine : Engine)
  | swapEngine (id : String)
  | stop

/-- The session after a request. What fails leaves its failure to who asked. -/
def serve (s : Session κ) : Request → Session κ
  | .line t => s.take t
  | .run course => (s.runAlong course).2
  | .setPrompt text =>
    match s.setPrompt text with
    | .ok s => s
    | .error _ => s
  | .setCommandPrefix text => s.setCommandPrefix text
  | .setOutputPrefix text => s.setOutputPrefix text
  | .setLimit limit => s.setLimit limit
  | .setNumbered on => s.setNumbered on
  | .toggleNumbers => s.setNumbered !s.printer.paginator.numbered
  | .setRenderer kind render => s.setRenderer kind render
  | .registerEngine engine => s.registerEngine engine
  | .swapEngine id => (s.swapEngine id).2
  | .stop => s.stop

/-- The session after requests, one after another. -/
def serveAll (s : Session κ) (requests : List Request) : Session κ := requests.foldl serve s

/-- The session was just made, with default settings or with chosen ones. -/
inductive Made : Session κ → Prop
  | start (engines : EngineTable) (engine : Engine) (console : κ) :
      Made (start engines engine console)
  | ofSettings {engines : EngineTable} {settings : Settings} {console : κ} {s : Session κ} :
      ofSettings? engines settings console = .ok s → Made s

omit [Console κ] in
/-- How chosen settings make a session of a new one. -/
lemma exists_of_ofSettings? {engines : EngineTable} {settings : Settings} {console : κ}
    (h : ofSettings? engines settings console = .ok s) :
    ∃ engine s', engines.find? settings.defaultEngine = some engine ∧
      (start engines engine console).setPrompt settings.prompt = .ok s' ∧
      s = (((s'.setOutputPrefix settings.outputPrefix).setCommandPrefix
        settings.commandPrefix).setLimit settings.streamLimit).setNumbered settings.numberLines := by
  rw [ofSettings?] at h
  cases hfind : engines.find? settings.defaultEngine with
  | none => simp [hfind] at h
  | some engine =>
      simp only [hfind] at h
      cases hprompt : (start engines engine console).setPrompt settings.prompt with
      | error f => simp [hprompt] at h
      | ok s' =>
          simp only [hprompt] at h
          cases h
          exact ⟨engine, s', rfl, hprompt, rfl⟩

namespace InOrder

omit [Console κ] in
lemma setPrompt {s' : Session κ} {text : String} (h : s.InOrder)
    (hprompt : s.setPrompt text = .ok s') : s'.InOrder := by
  rw [Session.setPrompt] at hprompt
  cases hcompile : Prompt.compile text with
  | error e => simp [hcompile] at hprompt
  | ok p =>
      rw [hcompile] at hprompt
      cases hprompt
      exact of_parts h.commands (Prompt.wellRead_of_compile hcompile) h.counts h.lastError

omit [Console κ] in
lemma setCommandPrefix (h : s.InOrder) (text : String) : (s.setCommandPrefix text).InOrder := by
  rw [Session.setCommandPrefix]
  split
  · exact h.of_rest rfl rfl rfl rfl rfl
  · exact h.of_rest rfl rfl rfl rfl rfl

omit [Console κ] in
lemma swapEngine (h : s.InOrder) (id : String) : (s.swapEngine id).2.InOrder := by
  rw [Session.swapEngine]
  cases s.engines.find? id with
  | none => exact h
  | some engine => exact h.of_rest rfl rfl rfl rfl rfl

omit [Console κ] in
lemma start (engines : EngineTable) (engine : Engine) (console : κ) :
    (start engines engine console).InOrder :=
  of_parts rfl Prompt.wellRead_default (Nat.le_refl _) nofun

omit [Console κ] in
lemma of_made (h : Made s) : s.InOrder := by
  cases h with
  | start engines engine console => exact .start engines engine console
  | @ofSettings engines settings console s hmade =>
      obtain ⟨engine, s', -, hprompt, rfl⟩ := exists_of_ofSettings? hmade
      have hset := (InOrder.start engines engine console).setPrompt hprompt
      have houtput : (s'.setOutputPrefix settings.outputPrefix).InOrder :=
        hset.of_rest rfl rfl rfl rfl rfl
      exact (houtput.setCommandPrefix settings.commandPrefix).of_rest rfl rfl rfl rfl rfl

/-- A request keeps a session in order. -/
lemma serve (h : s.InOrder) (request : Request) : (s.serve request).InOrder := by
  cases request with
  | line t =>
      have hturn : (s.atTurn t).InOrder := h.of_rest rfl rfl rfl rfl rfl
      exact hturn.step t.line
  | run course => exact h.runAlong course
  | setPrompt text =>
      rw [Session.serve]
      split
      next s' hprompt => exact h.setPrompt hprompt
      next => exact h
  | setCommandPrefix text => exact h.setCommandPrefix text
  | swapEngine id => exact h.swapEngine id
  | setOutputPrefix | setLimit | setNumbered | toggleNumbers | setRenderer | registerEngine
  | stop =>
      exact h.of_rest rfl rfl rfl rfl rfl

end InOrder

/-- **A session is always in order**: the limit is positive, the command prefix is not empty, the
prompt is the one that its source spells, no more results than lines are counted, and the last
failure is neither one of the console nor an engine's own failure told as one of the line. -/
theorem inOrder_serveAll (h : Made s) (requests : List Request) :
    (s.serveAll requests).InOrder := by
  induction requests using List.reverseRecOn with
  | nil => exact .of_made h
  | append_singleton requests request ih =>
      rw [serveAll, List.foldl_concat]
      exact ih.serve request

/-- Settings with a limit of zero and without a command prefix. -/
def bareSettings : Settings where
  defaultEngine := "rpn"
  streamLimit := 0
  commandPrefix := ""

/-- A line that fails, a template that is none, and a limit and a prefix that are refused. -/
def troubles : List Request :=
  [.line ⟨"1 0 /", id⟩, .setPrompt "$", .setLimit 0, .setCommandPrefix "", .toggleNumbers]

/-- Bare settings make a session in order, and it stays so under all these requests. -/
theorem inOrder_bareSettings :
    ∃ s, ofSettings? .builtin bareSettings (QueueConsole.ofLines []) = .ok s ∧ Made s ∧
      (s.serveAll troubles).InOrder ∧
      (s.serveAll troubles).lastError = some (.evaluation (.runtime "division by zero")) := by
  have hlast : (ofSettings? .builtin bareSettings (QueueConsole.ofLines [])).toOption.map
      (fun s => (s.serveAll troubles).lastError) =
        some (some (.evaluation (.runtime "division by zero"))) := by
    decide +kernel
  cases hmade : ofSettings? .builtin bareSettings (QueueConsole.ofLines []) with
  | error f => simp [hmade, Except.toOption] at hlast
  | ok s =>
      have hs := Made.ofSettings hmade
      rw [hmade] at hlast
      exact ⟨s, rfl, hs, inOrder_serveAll hs troubles, Option.some.inj hlast⟩

end Session

end LineRepl
