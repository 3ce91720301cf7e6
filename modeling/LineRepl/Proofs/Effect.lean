/-
The built-in commands have exactly their own effect.

* `Controls`: the settings of a session that its commands turn.
* `CommandLine.turn`: what a command line makes of them.
* `Script.Turns`: scripts that turn the controls and do nothing else but show something.
* `Builtin.refused_or_turns`: a built-in command refuses at once, or its script turns the controls
  as the command line says.
* `Session.Commanded`: the session after a line that names a command.
* `Session.step_commanded`: at a console that never fails, every such line has this effect.
-/
import LineRepl.Engine.Builtin
import LineRepl.Proofs.Containment

namespace LineRepl

/-! ### Controls -/

/-- The settings of a session that its commands turn. -/
structure Controls where
  running : Bool
  prompt : Prompt
  engine : Engine
  paginator : Paginator

namespace CommandLine

/-- The template that the line chooses: a `prompt` whose argument, as it stands, is one. -/
def template? (named : CommandLine) : Option Prompt :=
  if named.name = "prompt" then
    named.argument.bind fun text => (Prompt.compile text).toOption
  else none

/-- The engine that the line chooses: a `setEngine` whose argument is, without blanks around it, an
identifier that an engine answers to. -/
def engine? (engines : EngineTable) (named : CommandLine) : Option Engine :=
  if named.name = "setEngine" then
    named.argument.bind fun text =>
      if Text.trim text = "" then none else engines.find? (Text.trim text)
  else none

/-- The limit that the line chooses: a `stream.limit` whose argument is, without blanks around it, a
positive number of 64 bits. -/
def limit? (named : CommandLine) : Option ℕ :=
  if named.name = "stream.limit" then
    named.argument.bind fun text => (Count.ofText (Text.trim text)).toOption.filter (0 < ·)
  else none

/-- What the line makes of the controls. The session is ended by `quit` alone, and numbering is
turned on or off by `stream.toggleNumLines` alone. -/
def turn (engines : EngineTable) (named : CommandLine) (controls : Controls) : Controls where
  running := if named.name = "quit" then false else controls.running
  prompt := named.template?.getD controls.prompt
  engine := (named.engine? engines).getD controls.engine
  paginator :=
    { named.limit?.elim controls.paginator controls.paginator.setLimit with
      numbered :=
        if named.name = "stream.toggleNumLines" then !controls.paginator.numbered
        else controls.paginator.numbered }

section

variable {engines : EngineTable} {controls : Controls} {name : String} {argument : Option String}

/-- A line that chooses nothing leaves the controls alone. -/
lemma turn_eq_self (hquit : name ≠ "quit") (htoggle : name ≠ "stream.toggleNumLines")
    (htemplate : template? ⟨name, argument⟩ = none)
    (hengine : engine? engines ⟨name, argument⟩ = none) (hlimit : limit? ⟨name, argument⟩ = none) :
    turn engines ⟨name, argument⟩ controls = controls := by
  rw [turn, if_neg hquit, if_neg htoggle, htemplate, hengine, hlimit]
  rfl

/-- A line that names no built-in command turns nothing. -/
lemma turn_of_not_builtin (h : ∀ c ∈ Builtin.all, c.info.name ≠ name) :
    turn engines ⟨name, argument⟩ controls = controls := by
  have hname (c : Command) (hc : c ∈ Builtin.all) : name ≠ c.info.name := (h c hc).symm
  refine turn_eq_self (hname Builtin.quit (by simp [Builtin.all]))
    (hname Builtin.toggleNumLines (by simp [Builtin.all])) ?_ ?_ ?_
  · exact if_neg (hname Builtin.prompt (by simp [Builtin.all]))
  · exact if_neg (hname Builtin.setEngine (by simp [Builtin.all]))
  · exact if_neg (hname Builtin.streamLimit (by simp [Builtin.all]))

/-- A line whose command refuses turns nothing. -/
lemma turn_of_refused {named : CommandLine} {f : Failure} (h : Builtin.Refused engines named f) :
    named.turn engines controls = controls := by
  cases h with
  | template htext =>
      refine turn_eq_self (by decide) (by decide) ?_ rfl rfl
      simp [template?, htext, Except.toOption]
  | @noEngine argument hblank =>
      refine turn_eq_self (by decide) (by decide) rfl ?_ rfl
      cases argument with
      | none => rfl
      | some text => simp [engine?, hblank text rfl]
  | unknownEngine htext hfind =>
      refine turn_eq_self (by decide) (by decide) rfl ?_ rfl
      simp [engine?, hfind]
  | noName hblank => exact turn_eq_self (by decide) (by decide) rfl rfl rfl
  | malformedLimit htext | zeroLimit htext =>
      refine turn_eq_self (by decide) (by decide) rfl rfl ?_
      simp [limit?, htext, Except.toOption]

/-- A template becomes the prompt. -/
lemma turn_prompt {text : String} {p : Prompt} (h : Prompt.compile text = .ok p) :
    turn engines ⟨"prompt", some text⟩ controls = { controls with prompt := p } := by
  have htemplate : template? ⟨"prompt", some text⟩ = some p := by
    simp [template?, h, Except.toOption]
  rw [turn, htemplate]
  rfl

/-- An engine that is found becomes the active one. -/
lemma turn_setEngine {text : String} {e : Engine} (hne : Text.trim text ≠ "")
    (hfind : engines.find? (Text.trim text) = some e) :
    turn engines ⟨"setEngine", some text⟩ controls = { controls with engine := e } := by
  have hengine : engine? engines ⟨"setEngine", some text⟩ = some e := by simp [engine?, hne, hfind]
  rw [turn, hengine]
  rfl

/-- A positive count becomes the limit. -/
lemma turn_streamLimit {text : String} {limit : ℕ} (h : Count.ofText (Text.trim text) = .ok limit)
    (hpos : 0 < limit) :
    turn engines ⟨"stream.limit", some text⟩ controls =
      { controls with paginator := controls.paginator.setLimit limit } := by
  have hlimit : limit? ⟨"stream.limit", some text⟩ = some limit := by
    simp [limit?, h, hpos, Except.toOption]
  rw [turn, hlimit]
  rfl

end

end CommandLine

/-! ### Scripts -/

/-- The script turns the first controls to the second. It comes to its end if the console answers;
it binds no name, reads no line and handles none. -/
def Script.Turns (engines : EngineTable) : Script → Controls → Controls → Prop
  | .done, c, c' => c' = c
  | .fail _, _, _ => False
  | .view next, c, c' => ∀ view, (next view).Turns engines c c'
  | .write _ next, c, c' => next.Turns engines c c'
  | .readLine .., _, _ => False
  | .list _ next, c, c' => next.Turns engines c c'
  | .bind .., _, _ => False
  | .setPrompt prompt next, c, c' => next.Turns engines { c with prompt } c'
  | .setLimit limit next, c, c' =>
    next.Turns engines { c with paginator := c.paginator.setLimit limit } c'
  | .toggleNumbers next, c, c' =>
    (next !c.paginator.numbered).Turns engines
      { c with paginator := { c.paginator with numbered := !c.paginator.numbered } } c'
  | .swapEngine id next, c, c' =>
    ∃ engine, engines.find? id = some engine ∧ next.Turns engines { c with engine } c'
  | .quit next, c, c' => next.Turns engines { c with running := false } c'
  | .runArgument _, _, _ => False

/-- What is only said turns nothing. -/
lemma Script.turns_sayAll {engines : EngineTable} {c c' : Controls} (h : c' = c)
    (lines : List String) : (sayAll lines .done).Turns engines c c' :=
  of_sayAll (P := fun script => script.Turns engines c c') (fun _ _ => id) lines h

namespace Builtin

variable {engines : EngineTable} {controls : Controls}

/-- A prompt is refused or set. -/
lemma refused_or_turns_prompt (argument : Option String) :
    (∃ f, Refused engines ⟨"prompt", argument⟩ f) ∨
      (prompt.script argument).Turns engines controls
        (CommandLine.turn engines ⟨"prompt", argument⟩ controls) := by
  cases argument with
  | none => exact .inr fun _ => CommandLine.turn_eq_self (by decide) (by decide) rfl rfl rfl
  | some text =>
      cases htext : Prompt.compile text with
      | error e => exact .inl ⟨_, .template htext⟩
      | ok p =>
          right
          simp only [prompt, htext]
          exact CommandLine.turn_prompt htext

/-- An engine is refused or changed to. -/
lemma refused_or_turns_setEngine (argument : Option String) :
    (∃ f, Refused engines ⟨"setEngine", argument⟩ f) ∨
      (setEngine.script argument).Turns engines controls
        (CommandLine.turn engines ⟨"setEngine", argument⟩ controls) := by
  rcases blank_or_exists argument with hblank | ⟨text, rfl, htext⟩
  · exact .inl ⟨_, .noEngine hblank⟩
  · cases hfind : engines.find? (Text.trim text) with
    | none => exact .inl ⟨_, .unknownEngine htext hfind⟩
    | some e =>
        right
        simp only [setEngine, withArgument_some, if_neg htext]
        exact ⟨e, hfind, CommandLine.turn_setEngine htext hfind⟩

lemma refused_or_turns_describe (argument : Option String) :
    (∃ f, Refused engines ⟨"describe", argument⟩ f) ∨
      (describe.script argument).Turns engines controls
        (CommandLine.turn engines ⟨"describe", argument⟩ controls) := by
  rcases blank_or_exists argument with hblank | ⟨text, rfl, htext⟩
  · exact .inl ⟨_, .noName hblank⟩
  · right
    simp only [describe, withArgument_some, if_neg htext]
    intro view
    exact Script.turns_sayAll (CommandLine.turn_eq_self (by decide) (by decide) rfl rfl rfl) _

/-- A limit is refused or set. -/
lemma refused_or_turns_streamLimit (argument : Option String) :
    (∃ f, Refused engines ⟨"stream.limit", argument⟩ f) ∨
      (streamLimit.script argument).Turns engines controls
        (CommandLine.turn engines ⟨"stream.limit", argument⟩ controls) := by
  cases argument with
  | none => exact .inr fun _ => CommandLine.turn_eq_self (by decide) (by decide) rfl rfl rfl
  | some text =>
      rcases htext : Count.ofText (Text.trim text) with fault | _ | limit
      · exact .inl ⟨_, .malformedLimit htext⟩
      · exact .inl ⟨_, .zeroLimit htext⟩
      · right
        simp only [streamLimit, htext]
        exact CommandLine.turn_streamLimit htext (Nat.succ_pos limit)

/-- A built-in command refuses, or its script turns the controls as the line says. -/
lemma refused_or_turns {c : Command} (h : c ∈ all) (argument : Option String) :
    (∃ f, Refused engines ⟨c.info.name, argument⟩ f) ∨
      (c.script argument).Turns engines controls
        (CommandLine.turn engines ⟨c.info.name, argument⟩ controls) := by
  simp only [all, List.mem_cons, List.not_mem_nil, or_false] at h
  rcases h with rfl | rfl | rfl | rfl | rfl | rfl | rfl | rfl | rfl | rfl
  · exact .inr rfl
  · right
    intro view
    simp only
    split <;> exact CommandLine.turn_eq_self (by decide) (by decide) rfl rfl rfl
  · exact refused_or_turns_prompt argument
  · refine .inr fun _ => Script.turns_sayAll ?_ _
    exact CommandLine.turn_eq_self (by decide) (by decide) rfl rfl rfl
  · exact refused_or_turns_setEngine argument
  · exact refused_or_turns_describe argument
  · exact refused_or_turns_streamLimit argument
  · exact .inr rfl
  · exact .inr fun _ => CommandLine.turn_eq_self (by decide) (by decide) rfl rfl rfl
  · right
    intro view
    simp only
    split <;> exact CommandLine.turn_eq_self (by decide) (by decide) rfl rfl rfl

end Builtin

/-! ### Lines -/

namespace Session

variable {κ : Type}

/-- The settings that commands turn. -/
def controls (s : Session κ) : Controls := ⟨s.running, s.prompt, s.engine, s.printer.paginator⟩

variable [Console κ] {s : Session κ} {line : String} {named : CommandLine}

/-- Lines are listed to the end or to a pause, at a console that never fails. -/
lemma exists_list_eq (hconsole : Console.NeverFails s.console) (lines : List String) :
    ∃ events log,
      s.list lines = (.ok (), { s with console := Console.after s.console events, log }) := by
  have houtcome := s.printer.paginator.listing_outcome (.ofList (lines.map .str)) hconsole
  obtain ⟨events, hevents⟩ :=
    s.printer.paginator.exists_after_listing (.ofList (lines.map .str)) s.console
  rw [list]
  rcases hlisting : s.printer.paginator.listing (.ofList (lines.map .str)) s.console with
    ⟨_ | listing, _, c⟩
  all_goals rw [hlisting] at hevents houtcome
  · rcases houtcome with ⟨_, hok⟩ | ⟨panic, i, -, hi, hitem⟩
    · cases hok
    · exact absurd hitem (Stream.unbrokenAhead_ofList _ i hi panic)
  · obtain rfl : c = Console.after s.console events := hevents
    rcases listing with ⟨_, _ | _⟩ <;> exact ⟨events, _, rfl⟩

/-- A script that turns the controls comes to its end and turns them, at a console that never
fails. -/
lemma exists_perform_of_turns (again : Session κ → Except Failure Unit × Session κ)
    {script : Script} {c : Controls} (hconsole : Console.NeverFails s.console)
    (h : script.Turns s.engines s.controls c) :
    ∃ s', perform again script s = (.ok (), s') ∧ s'.controls = c := by
  -- the controls that are left to be turned are those of the session as it is at each request
  induction script generalizing s with
  | done => exact ⟨s, rfl, h.symm⟩
  | view next ih => exact ih s.view hconsole (h s.view)
  | write text next ih =>
      obtain ⟨c', hwrite, hc'⟩ := hconsole.exists_write_eq text
      rw [perform, write, hwrite]
      exact ih (s := { s with console := c' }) hc' h
  | list lines next ih =>
      obtain ⟨events, log, hlist⟩ := exists_list_eq hconsole lines
      rw [perform, hlist]
      exact ih (s := { s with console := Console.after s.console events, log })
        (hconsole.after events) h
  | setPrompt prompt next ih => exact ih (s := { s with prompt }) hconsole h
  | setLimit limit next ih => exact ih (s := s.setLimit limit) hconsole h
  | toggleNumbers next ih => exact ih _ (s := s.setNumbered _) hconsole h
  | swapEngine id next ih =>
      obtain ⟨e, hfind, hnext⟩ := h
      rw [perform, swapEngine_of_find?_eq_some hfind]
      exact ih (s := { s.note .info _ with engine := e }) hconsole hnext
  | quit next ih => exact ih (s := s.stop) hconsole h
  | fail | readLine | bind | runArgument => exact h.elim

/-- The session after a line that names a command. The workspace, with all bindings and streams, is
kept, and so are the count of results, the marks, the tables and the renderers. -/
structure Commanded (line : String) (named : CommandLine) (s s' : Session κ) : Prop
    extends Kept s.counted s' where
  /-- The session was ended, and got another prompt, engine, limit or numbering, just if the line
  says so. -/
  controls : s'.controls = named.turn s.engines s.controls
  /-- Of a line that fails nothing comes but its report. -/
  failed : ∀ f, Fails s line f → s' =
    { s with
      inputCount := s.inputCount + 1
      lastError := some f
      console := Console.after s.console [.written (f.report ++ "\n")]
      log := s'.log }
  succeeded : (∀ f, ¬ Fails s line f) → s'.lastError = s.lastError

/-- A line whose command fails, if it has kept the session. -/
lemma commanded_of_error {f : Failure} {log : Array LogRecord} (hcommands : s.commands = .builtin)
    (hconsole : Console.NeverFails s.console) (hfails : Fails s line f)
    (hturn : named.turn s.engines s.controls = s.controls)
    (h : attempt line s = (.error f, { s.counted with log })) :
    ∃ s', step line s = (.ok (), s') ∧ Commanded line named s s' := by
  have hfail := fail_of_neverFails (s := { s.counted with log }) hfails.ne_io hconsole
  have hlogged : Kept s.counted { s.counted with log } := .of_rest _ _ _ _ _ _
  have hkept := hlogged.trans (kept_fail { s.counted with log } f)
  rw [hfail] at hkept
  rw [step_eq, h, settle, hfail]
  refine ⟨_, rfl, hkept, hturn.symm, fun f' hfails' => ?_,
    fun hnone => absurd hfails (hnone f)⟩
  -- the line fails in no other way
  have hf := attempt_of_fails hcommands hfails'
  rw [h] at hf
  cases hf
  rfl

/-- A line whose command comes to its end and has turned the controls. -/
lemma commanded_of_turns {command : Command} (hcommands : s.commands = .builtin)
    (hconsole : Console.NeverFails s.console)
    (hline : CommandLine.parse? s.commandPrefix.text line = some named)
    (hfind : s.commands.find? named.name = some command)
    (hturns : (command.script named.argument).Turns s.engines s.controls
      (named.turn s.engines s.controls)) :
    ∃ s', step line s = (.ok (), s') ∧ Commanded line named s s' := by
  have hperformed := performed_builtin (s := s) (hcommands ▸ hfind)
  have hattempt := attempt_of_find?_eq_some hline hfind
  obtain ⟨s', hperform, hcontrols⟩ := exists_perform_of_turns
    (s := s.counted.dispatching named.name) (fun s => step named.argumentLine s) hconsole hturns
  rw [hperform] at hattempt hperformed
  rw [step_eq, hattempt]
  refine ⟨s', rfl, hperformed.toKept, hcontrols, fun f hfails => ?_,
    fun _ => hperformed.lastError⟩
  have hf := attempt_of_fails hcommands hfails
  rw [hattempt] at hf
  cases hf

/-- **Commands have exactly their own effect**: at a console that never fails, every line that
starts with the command prefix is handled, and changes what its command is for and nothing else. -/
theorem step_commanded (hcommands : s.commands = .builtin)
    (hconsole : Console.NeverFails s.console) (rest : String) :
    ∃ s', step (s.commandPrefix.text ++ rest) s = (.ok (), s') ∧
      Commanded (s.commandPrefix.text ++ rest) (.ofChars rest.toList) s s' := by
  have hline := CommandLine.parse?_marker_append s.commandPrefix.text rest
  generalize s.commandPrefix.text ++ rest = line at hline ⊢
  generalize CommandLine.ofChars rest.toList = named at hline ⊢
  cases hfind : s.commands.find? named.name with
  | none =>
      have hnone := CommandTable.find?_builtin_eq_none_iff.mp (hcommands ▸ hfind)
      exact commanded_of_error hcommands hconsole (.unknownCommand hline hnone)
        (CommandLine.turn_of_not_builtin hnone) (attempt_of_find?_eq_none hline hfind)
  | some command =>
      obtain ⟨hmem, hname⟩ := CommandTable.find?_builtin_eq_some_iff.mp (hcommands ▸ hfind)
      obtain ⟨name, argument⟩ := named
      subst hname
      rcases Builtin.refused_or_turns hmem argument with ⟨f, hrefused⟩ | hturns
      · exact commanded_of_error hcommands hconsole (.refused hline hrefused)
          (CommandLine.turn_of_refused hrefused) (attempt_of_refused hcommands hline hrefused)
      · exact commanded_of_turns hcommands hconsole hline hfind hturns

/-- A session that has read no line. -/
def unread : Session QueueConsole := start .builtin Calc.engine (.ofLines [])

/-- After `::stream.limit 7` seven lines make a page. -/
theorem step_limit_seven :
    unread.commands = .builtin ∧ Console.NeverFails unread.console ∧
      ∃ s', step (unread.commandPrefix.text ++ "stream.limit 7") unread = (.ok (), s') ∧
        Commanded (unread.commandPrefix.text ++ "stream.limit 7")
          (.ofChars "stream.limit 7".toList) unread s' ∧
        s'.printer.paginator.limit = 7 := by
  obtain ⟨s', hstep, hcommanded⟩ :=
    step_commanded (s := unread) rfl (QueueConsole.neverFails _) "stream.limit 7"
  have hlimit : (CommandLine.turn unread.engines (.ofChars "stream.limit 7".toList)
      unread.controls).paginator.limit = 7 := by decide +kernel
  refine ⟨rfl, QueueConsole.neverFails _, s', hstep, hcommanded, ?_⟩
  exact (congrArg (·.paginator.limit) hcommanded.controls).trans hlimit

end Session

end LineRepl
