/-
A run can be split where its input ends at the top of its loop.

* `QueueConsole.demand`: how many lines were asked for and how many wait. It is kept as long as
  every read gets a line.
* `WatchedConsole`: a console in memory that keeps in mind whether a read got no line.
* `Session.step_queueing`: a line that is handled without such a read is handled alike when further
  lines are queued.
* `Session.Rejoined`: how the second part of a split run ends.
* `Session.runAlong_split`: a run that is gone on with after further lines were queued ends as the
  run over all the lines does; and a run that is ended by a command reads no line after it.
-/
import LineRepl.Console.Queue
import LineRepl.Engine.Builtin
import LineRepl.Proofs.CommandListing
import LineRepl.Proofs.Handling

namespace LineRepl

/-! ### Lines that were asked for -/

namespace QueueConsole

variable {c c' : QueueConsole} {prompt : String}

/-- How many lines were asked for and how many wait. A read that gets a line keeps the sum, and one
that meets the end of input adds one to it. -/
def demand (c : QueueConsole) : ℕ := c.prompts.length + c.queue.length

lemma readLine_of_queue_eq_nil (h : c.queue = []) (prompt : String) :
    Console.readLine prompt c = (.ok none, ⟨[], c.events.push (.prompt prompt)⟩) := by
  change readLine prompt c = _
  rw [readLine, h]
  rfl

lemma readLine_of_queue_eq_cons {line : String} {rest : List String} (h : c.queue = line :: rest)
    (prompt : String) :
    Console.readLine prompt c = (.ok (some line), ⟨rest, c.events.push (.prompt prompt)⟩) := by
  change readLine prompt c = _
  rw [readLine, h]
  rfl

lemma prompts_readLine (prompt : String) (c : QueueConsole) :
    (readLine prompt c).2.prompts = c.prompts ++ [prompt] := by
  rw [prompts_eq, readLine, Array.toList_push, List.filterMap_append]
  rfl

lemma prompts_write (text : String) (c : QueueConsole) : (write text c).2.prompts = c.prompts := by
  rw [prompts_eq, write, Array.toList_push, List.filterMap_append]
  exact List.append_nil _

lemma demand_write (text : String) (c : QueueConsole) : (write text c).2.demand = c.demand := by
  rw [demand, prompts_write]
  rfl

/-- A read that meets the end of input adds one to the demand. -/
lemma demand_readLine (prompt : String) (c : QueueConsole) :
    (readLine prompt c).2.demand = c.demand + c.queue.isEmpty.toNat := by
  rw [demand, prompts_readLine, readLine, demand]
  cases c.queue with
  | nil => simp
  | cons =>
      simp only [List.length_append, List.length_cons, List.length_nil, List.tail_cons,
        List.isEmpty_cons, Bool.toNat_false]
      omega

/-- A read that gets a line keeps the demand, and gets that line too if others are queued behind. -/
lemma readLine_pushLines {line : String} (h : Console.readLine prompt c = (.ok (some line), c')) :
    c'.demand = c.demand ∧ ∀ more,
      Console.readLine prompt (c.pushLines more) = (.ok (some line), c'.pushLines more) := by
  have hdemand := demand_readLine prompt c
  obtain ⟨queue, events⟩ := c
  cases queue with
  | nil => cases h
  | cons head rest =>
      cases h
      exact ⟨hdemand, fun _ => rfl⟩

end QueueConsole

/-- A console in memory that keeps in mind whether a read got no line. No line waits then. -/
structure WatchedConsole where
  console : QueueConsole
  starved : Bool
  queue_of_starved : starved = true → console.queue = []

namespace WatchedConsole

/-- What can still be asked for without being refused: the lines, and then the end of input. -/
def remaining (c : WatchedConsole) : ℕ := if c.starved then 0 else c.console.queue.length + 1

/-- Reads a line. -/
def readLine (prompt : String) (c : WatchedConsole) :
    Except IoError (Option String) × WatchedConsole :=
  ((c.console.readLine prompt).1,
    { console := (c.console.readLine prompt).2
      starved := c.console.queue.isEmpty
      queue_of_starved := fun h => congrArg List.tail (List.isEmpty_iff.mp h) })

/-- Writes a text. -/
def write (text : String) (c : WatchedConsole) : Except IoError Unit × WatchedConsole :=
  ((c.console.write text).1, { c with console := (c.console.write text).2 })

lemma remaining_readLine_le (prompt : String) (c : WatchedConsole) :
    (readLine prompt c).2.remaining ≤ c.remaining := by
  obtain ⟨⟨_ | ⟨line, rest⟩, events⟩, _ | _, hqueue⟩ := c
  · exact Nat.zero_le _
  · exact Nat.le_refl _
  · exact Nat.le_succ _
  · cases hqueue rfl

lemma remaining_readLine_lt (prompt : String) (c : WatchedConsole) (line : String)
    (h : (readLine prompt c).1 = .ok (some line)) :
    (readLine prompt c).2.remaining < c.remaining := by
  obtain ⟨⟨_ | ⟨line, rest⟩, events⟩, _ | _, hqueue⟩ := c
  · cases h
  · cases h
  · exact Nat.lt_succ_self _
  · cases hqueue rfl

lemma starved_of_remaining_le {c c' : WatchedConsole} (h : c'.remaining ≤ c.remaining)
    (hstarved : c.starved = true) : c'.starved = true := by
  rw [remaining, remaining, if_pos hstarved] at h
  cases hstarved' : c'.starved with
  | true => rfl
  | false =>
      rw [if_neg (by simp [hstarved'])] at h
      omega

instance : Console WatchedConsole where
  readLine := readLine
  write := write
  remaining := remaining
  readLine_le := remaining_readLine_le
  readLine_lt := remaining_readLine_lt
  write_le _ _ := Nat.le_refl _

/-- The console, watched from the time when its demand was `d`. It has been starved since only if
the demand has risen. -/
def Watches (d : ℕ) (c : QueueConsole) (w : WatchedConsole) : Prop :=
  c = w.console ∧ d + w.starved.toNat ≤ c.demand

lemma similar_watches (d : ℕ) : Console.Similar (Watches d) where
  readLine prompt c w h := by
    obtain ⟨rfl, hd⟩ := h
    refine ⟨_, _, _, rfl, rfl, rfl, ?_⟩
    have hdemand := QueueConsole.demand_readLine prompt w.console
    have hstarved : (readLine prompt w).2.starved = w.console.queue.isEmpty := rfl
    change d + (readLine prompt w).2.starved.toNat ≤
      (QueueConsole.readLine prompt w.console).2.demand
    rw [hdemand, hstarved]
    omega
  write text c w h := by
    obtain ⟨rfl, hd⟩ := h
    refine ⟨_, _, _, rfl, rfl, rfl, ?_⟩
    exact (QueueConsole.demand_write text w.console).symm ▸ hd

end WatchedConsole

/-- Sessions that are alike but for further lines that wait behind those of the first one. It is
spent when it gets no line where the other one gets one of these. -/
def Likeness.queueing (more : List String) : Likeness WatchedConsole QueueConsole where
  Spent c := c.starved = true
  Consoles c₁ c₂ := c₂ = c₁.console.pushLines more
  Engines := Eq
  Counts := Eq
  Logs := Eq
  spent_of_le := WatchedConsole.starved_of_remaining_le
  readLine prompt c₁ c₂ h := by
    obtain rfl := h
    obtain ⟨⟨_ | ⟨line, rest⟩, events⟩, starved, hqueue⟩ := c₁
    · exact .inl rfl
    · exact .inr ⟨_, _, _, rfl, rfl, rfl⟩
  write text c₁ c₂ h := by
    obtain rfl := h
    exact .inr ⟨_, _, _, rfl, rfl, rfl⟩
  counts_succ := congrArg _
  logs_push := push_eq

/-- Sessions that are alike but for the log and for what the consoles had shown before. -/
def Likeness.shown (before before' : List ConsoleEvent) : Likeness QueueConsole QueueConsole where
  Spent _ := False
  Consoles c₁ c₂ := ∃ queue events,
    c₁ = ⟨queue, (before ++ events).toArray⟩ ∧ c₂ = ⟨queue, (before' ++ events).toArray⟩
  Engines := Eq
  Counts := Eq
  Logs _ _ := True
  spent_of_le _ := id
  readLine prompt c₁ c₂ h := by
    obtain ⟨queue, events, rfl, rfl⟩ := h
    refine .inr ⟨_, _, _, rfl, rfl, queue.tail, events ++ [.prompt prompt], ?_, ?_⟩
    all_goals simp
  write text c₁ c₂ h := by
    obtain ⟨queue, events, rfl, rfl⟩ := h
    refine .inr ⟨_, _, _, rfl, rfl, queue, events ++ [.written text], ?_, ?_⟩
    all_goals simp
  counts_succ := congrArg _
  logs_push _ _ _ := id

namespace Session

/-- The session, with further lines queued at its console. -/
def queueing (s : Session QueueConsole) (more : List String) : Session QueueConsole :=
  { s with console := s.console.pushLines more }

/-! ### Further lines behind -/

section

variable {s s' : Session QueueConsole} {line : String} {outcome : Except Failure Unit}

/-- The demand never falls as a line is handled. If it is kept, every read got a line, and the line
is handled alike when further lines are queued. -/
lemma step_queueing (h : step line s = (outcome, s')) :
    s.console.demand ≤ s'.console.demand ∧
      (s'.console.demand = s.console.demand →
        ∀ more, step line (s.queueing more) = (outcome, s'.queueing more)) := by
  -- the watched console stands between the two: it follows the one console, and tells when the other
  -- one may part from it
  have htwin : Twin Eq (WatchedConsole.Watches s.console.demand) s
      (s.become s.engine (⟨s.console, false, nofun⟩ : WatchedConsole)) :=
    ⟨_, _, rfl, rfl, rfl, Nat.le_refl _⟩
  obtain ⟨_, _, _, h₁, hwatched, e, w, rfl, rfl, hw, hdemand⟩ :=
    step_similar (WatchedConsole.similar_watches s.console.demand) line htwin
  cases h.symm.trans h₁
  refine ⟨by omega, fun hkept more => ?_⟩
  have hlike : Like (.queueing more)
      (s.become s.engine (⟨s.console, false, nofun⟩ : WatchedConsole)) (s.queueing more) :=
    ⟨_, _, _, _, rfl, rfl, rfl, rfl, rfl⟩
  rcases step_like rfl line hlike with
    hstarved | ⟨_, _, _, h₁, h₂, _, _, _, _, rfl, rfl, rfl, rfl, rfl⟩
  · rw [hwatched] at hstarved
    have hone : w.starved.toNat = 1 := congrArg Bool.toNat hstarved
    omega
  · cases hwatched.symm.trans h₁
    rw [h₂, queueing, hw]
    rfl

end

section

variable {course : Course} {s s' : Session QueueConsole} {tops : List (Session QueueConsole)}

lemma demand_le_of_reads (h : Reads course s tops s') : s.console.demand ≤ s'.console.demand := by
  induction h with
  | nil s => exact Nat.le_refl _
  | @cons s s₁ _ _ line c _ hread hstep _ ih =>
      have hline := (step_queueing hstep).1
      have hkept := (QueueConsole.readLine_pushLines hread).1
      change c.demand ≤ _ at hline
      change s₁.console.demand ≤ _ at ih
      omega

/-- If every read got a line, the same lines are read when further lines are queued. -/
lemma Reads.queueing (h : Reads course s tops s') (hkept : s'.console.demand = s.console.demand)
    (more : List String) :
    Reads course (s.queueing more) (tops.map (·.queueing more)) (s'.queueing more) := by
  induction h with
  | nil s => exact .nil _
  | @cons s s₁ s₂ tops line c hrunning hread hstep hrest ih =>
      obtain ⟨hdemand, hread'⟩ := QueueConsole.readLine_pushLines hread
      obtain ⟨hle, hstep'⟩ := step_queueing hstep
      have hle' := demand_le_of_reads hrest
      change c.demand ≤ _ at hle
      change s₁.console.demand ≤ _ at hle'
      -- the demand never falls, so it was kept at this line and at all that come after it
      have hline : s₁.console.demand = c.demand := by omega
      exact .cons hrunning (hread' more) (hstep' hline more)
        (ih (show s₂.console.demand = s₁.console.demand by omega))

end

/-! ### What a loop shows first -/

section

variable {κ : Type} [Console κ]

lemma exists_after_step (line : String) (s : Session κ) :
    ∃ events, (step line s).2.console = Console.after s.console events := by
  have htwin : Twin Eq (fun c₁ c₂ => c₁ = c₂ ∧ ∃ events, c₁ = Console.after s.console events) s s :=
    ⟨_, _, rfl, rfl, rfl, [], rfl⟩
  obtain ⟨_, _, _, h, -, _, _, -, -, -, events, hevents⟩ :=
    step_similar (Console.similar_after s.console) line htwin
  exact ⟨events, (congrArg (·.2.console) h).trans hevents⟩

lemma exists_after_loopAlong (course : Course) (s : Session κ) :
    ∃ events, (s.loopAlong course).2.console = Console.after s.console events := by
  have hlike : Like (.twin Eq (Console.similar_after s.console)) s s :=
    ⟨_, _, _, _, rfl, rfl, ⟨rfl, [], rfl⟩, rfl, rfl⟩
  obtain ⟨_, _, _, h, -, _, _, _, _, -, -, ⟨-, events, hevents⟩, -⟩ :=
    loopAlong_like rfl rfl (fun _ => id) course hlike
  exact ⟨events, (congrArg (·.2.console) h).trans hevents⟩

/-- A session that is running shows its prompt first. -/
lemma exists_after_prompt (course : Course) {s : Session κ} (hrunning : s.running = true) :
    ∃ events, (s.loopAlong course).2.console =
      Console.after s.console (.prompt s.renderPrompt :: events) := by
  rw [loopAlong_of_running course hrunning]
  simp only [Console.after_prompt]
  rcases Console.readLine s.renderPrompt s.console with ⟨_ | _ | line, c⟩
  · exact ⟨[], rfl⟩
  · exact ⟨[], rfl⟩
  · obtain ⟨events, hevents⟩ := exists_after_step line { s with console := c }
    simp only
    rcases hstep : step line { s with console := c } with ⟨_ | _, s'⟩ <;> rw [hstep] at hevents
    · exact ⟨events, hevents⟩
    · obtain ⟨more, hmore⟩ := exists_after_loopAlong course (s'.goOn course line s.workspace)
      have hgone : (s'.goOn course line s.workspace).console = Console.after c events := hevents
      exact ⟨events ++ more, by rw [Console.after_append, ← hgone, ← hmore]⟩

omit [Console κ] in
lemma console_concluded (r : Except Failure Unit × Session κ) :
    (concluded r).2.console = r.2.console := by
  rcases r with ⟨_ | _, _⟩ <;> rfl

end

/-! ### Split runs -/

/-- The second part of a split run has ended as the run over all lines did, but for the log, and for
the last prompt of the first part, which was shown once more. -/
structure Rejoined (first second whole : Session QueueConsole) : Prop where
  rest : second = { whole with console := second.console, log := second.log }
  queue : second.console.queue = whole.console.queue
  output : second.console.output = whole.console.output
  prompts : ∃ before last after, first.console.prompts = before ++ [last] ∧
    whole.console.prompts = before ++ last :: after ∧
    second.console.prompts = before ++ last :: last :: after

section

variable {course : Course} {s top : Session QueueConsole} {tops : List (Session QueueConsole)}

lemma runAlong_of_reads (h : Reads course s.started tops top) :
    s.runAlong course = concluded (top.loopAlong course) := by
  rw [runAlong, loopAlong_of_reads h]

/-- The session where its input has ended, at the top of its loop. -/
lemma loopAlong_of_queue_eq_nil (course : Course) (hrunning : top.running = true)
    (hqueue : top.console.queue = []) :
    top.loopAlong course =
      (.ok (), note
        { top with console := ⟨[], top.console.events.push (.prompt top.renderPrompt)⟩ }
        .debug "end of input") := by
  rw [loopAlong_of_running course hrunning, QueueConsole.readLine_of_queue_eq_nil hqueue]

/-- A run whose input ends at the top of its loop. -/
lemma exists_runAlong_of_reads (hreads : Reads course s.started tops top)
    (hrunning : top.running = true) (hqueue : top.console.queue = []) :
    ∃ log, s.runAlong course = (.ok (), { top with
      running := false
      console := ⟨[], top.console.events.push (.prompt top.renderPrompt)⟩
      log }) := by
  rw [runAlong_of_reads hreads, loopAlong_of_queue_eq_nil course hrunning hqueue]
  exact ⟨_, rfl⟩

/-- When the run is gone on with, the session is as it was at the top of its loop, but for the log
and for the prompt that was shown. -/
lemma like_started (hrunning : top.running = true) (hqueue : top.console.queue = [])
    (more : List String) (log : Array LogRecord) :
    Like (.shown top.console.events.toList
        (top.console.events.toList ++ [.prompt top.renderPrompt]))
      (top.queueing more) (started (queueing { top with
        running := false
        console := ⟨[], top.console.events.push (.prompt top.renderPrompt)⟩
        log } more)) := by
  have hstarted : ∃ log', started (queueing { top with
      running := false
      console := ⟨[], top.console.events.push (.prompt top.renderPrompt)⟩
      log } more) = (top.queueing more).recast top.engine
        ⟨more, top.console.events.push (.prompt top.renderPrompt)⟩ top.inputCount log' := by
    rw [started, ← hrunning]
    exact ⟨_, rfl⟩
  obtain ⟨log', hlog'⟩ := hstarted
  refine ⟨_, _, _, log', hlog', rfl, ⟨more, [], ?_, ?_⟩, rfl, trivial⟩
  · simp [queueing, QueueConsole.pushLines, hqueue]
  · rw [List.append_nil, ← Array.toList_push, Array.toArray_toList]

/-- A run that is gone on with after its input had ended, at the top of its loop. -/
lemma rejoined_of_reads (hreads : Reads course s.started tops top) (hrunning : top.running = true)
    (hqueue : top.console.queue = []) (hkept : top.console.demand = s.console.demand)
    (more : List String) :
    ∃ outcome first second whole, s.runAlong course = (.ok (), first) ∧
      (first.queueing more).runAlong course = (outcome, second) ∧
      (s.queueing more).runAlong course = (outcome, whole) ∧ Rejoined first second whole := by
  obtain ⟨log, hfirst⟩ := exists_runAlong_of_reads hreads hrunning hqueue
  have hwhole : (s.queueing more).runAlong course =
      concluded ((top.queueing more).loopAlong course) :=
    runAlong_of_reads (s := s.queueing more) (hreads.queueing hkept more)
  obtain ⟨shown, hshown⟩ := exists_after_prompt course (s := top.queueing more) hrunning
  rw [← console_concluded, ← hwhole, QueueConsole.after_eq] at hshown
  -- both runs go on from the same session, of which one has shown its prompt before
  obtain ⟨outcome, whole, second, h₁, h₂, _, _, _, _, rfl, rfl, ⟨queue, events, hc, rfl⟩, rfl, -⟩ :=
    concluded_like rfl
      (loopAlong_like rfl rfl (fun _ => id) course (like_started hrunning hqueue more log))
  rw [← hwhole] at h₁
  rw [h₁, hc] at hshown
  have hevents : events = .prompt top.renderPrompt :: shown := by
    have happend := congrArg (·.events.toList) hshown
    simp only [Array.toList_append] at happend
    exact List.append_cancel_left happend
  refine ⟨outcome, _, _, whole, hfirst, h₂, h₁, rfl, (congrArg QueueConsole.queue hc).symm, ?_,
    top.console.prompts, top.renderPrompt, shown.filterMap ConsoleEvent.prompt?, ?_, ?_, ?_⟩
  · rw [hc]
    simp [recast, QueueConsole.output, List.filterMap_append]
  · exact QueueConsole.prompts_readLine top.renderPrompt top.console
  · rw [hc, hevents]
    simp [QueueConsole.prompts_eq, ConsoleEvent.prompt?_prompt, List.filterMap_append]
  · rw [hevents]
    simp [recast, QueueConsole.prompts_eq, ConsoleEvent.prompt?_prompt, List.filterMap_append]

/-! ### Runs that a command ends -/

lemma commands_of_reads {s : Session QueueConsole} (hcommands : s.commands = .builtin)
    (h : Reads course s tops top) : top.commands = .builtin := by
  induction h with
  | nil s => exact hcommands
  | @cons s s₁ _ _ line c _ _ hstep _ ih =>
      have hhandled := handled_step (s := { s with console := c }) line hcommands
      rw [hstep] at hhandled
      exact ih (hhandled.commands.trans hcommands)

/-- The session is ended by `quit`, whatever the argument. -/
lemma exists_step_of_quit {κ : Type} [Console κ] {s : Session κ} {line : String}
    {named : CommandLine} (hcommands : s.commands = .builtin)
    (hline : CommandLine.parse? s.commandPrefix.text line = some named)
    (hname : named.name = "quit") :
    ∃ log, step line s = (.ok (), { s.counted with running := false, log }) := by
  have hfind : s.commands.find? named.name = some Builtin.quit := by
    rw [hcommands, hname]
    exact CommandTable.find?_builtin_eq_some_iff.mpr ⟨by simp [Builtin.all], rfl⟩
  rw [step_eq, attempt_of_find?_eq_some hline hfind]
  exact ⟨_, rfl⟩

/-- After a line that ends the session no line is read. -/
lemma runAlong_of_quit (hcommands : s.commands = .builtin)
    (hreads : Reads course s.started tops top) (hrunning : top.running = true) {line : String}
    {rest : List String} {named : CommandLine} (hqueue : top.console.queue = line :: rest)
    (hline : CommandLine.parse? top.commandPrefix.text line = some named)
    (hname : named.name = "quit") :
    ∃ last, s.runAlong course = (.ok (), last) ∧
      last.console = ⟨rest, top.console.events.push (.prompt top.renderPrompt)⟩ := by
  have hread := QueueConsole.readLine_of_queue_eq_cons hqueue top.renderPrompt
  have htop : top.commands = .builtin := commands_of_reads (s := s.started) hcommands hreads
  obtain ⟨log, hstep⟩ := exists_step_of_quit
    (s := { top with
      console := QueueConsole.mk rest (top.console.events.push (.prompt top.renderPrompt)) })
    htop hline hname
  rw [runAlong_of_reads hreads, loopAlong_of_running course hrunning, hread]
  simp only [hstep]
  rw [loopAlong_of_not_running]
  · exact ⟨_, rfl, rfl⟩
  · rfl

/-- **Runs can be split**: if a run has come to the end of its input at the top of its loop, and
every read before that got a line, then queueing further lines and running again ends as one run
over all the lines does, but for one copy of the prompt that the first run showed last. A run that
is ended by `quit` reads no line after it. -/
theorem runAlong_split (hcommands : s.commands = .builtin)
    (hreads : Reads course s.started tops top) (hrunning : top.running = true)
    (more : List String) :
    (top.console.queue = [] → top.console.demand = s.console.demand →
      ∃ outcome first second whole, s.runAlong course = (.ok (), first) ∧
        (first.queueing more).runAlong course = (outcome, second) ∧
        (s.queueing more).runAlong course = (outcome, whole) ∧ Rejoined first second whole) ∧
    ∀ line rest named, top.console.queue = line :: rest →
      CommandLine.parse? top.commandPrefix.text line = some named → named.name = "quit" →
        ∃ last, s.runAlong course = (.ok (), last) ∧
          last.console = ⟨rest, top.console.events.push (.prompt top.renderPrompt)⟩ := by
  refine ⟨fun hqueue hkept => rejoined_of_reads hreads hrunning hqueue hkept more, ?_⟩
  intro line rest named hqueue hline hname
  exact runAlong_of_quit hcommands hreads hrunning hqueue hline hname

end

/-! ### A pause within the first part -/

/-- A session with a line to evaluate, a line that asks for the commands, and one that answers the
pause between the two pages of these. -/
def paging : Session QueueConsole :=
  { start .builtin Rpn.engine (.ofLines ["1", "::listCommands", ""]) with
    printer := { Printer.default with paginator := .ofLimit 8 } }

/-- The session with its first line read. -/
def beforeResult : Session QueueConsole :=
  { paging.started with
    console := ⟨["::listCommands", ""], #[.prompt paging.renderPrompt]⟩ }

/-- What is left of it once the line was handled. -/
def afterResult : Session QueueConsole := (step "1" beforeResult).2

/-- The same with the second line read. -/
def beforeCommands : Session QueueConsole :=
  { afterResult with
    console := (QueueConsole.readLine afterResult.renderPrompt afterResult.console).2 }

/-- What is left of it once the commands were listed. -/
def afterCommands : Session QueueConsole := (step "::listCommands" beforeCommands).2

lemma parse?_beforeCommands :
    CommandLine.parse? beforeCommands.commandPrefix.text "::listCommands" =
      some ⟨"listCommands", none⟩ := by decide +kernel

/-- The first line keeps the commands. -/
lemma find?_beforeCommands :
    beforeCommands.commands.find? "listCommands" = some Builtin.listCommands := by
  have hcommands : beforeCommands.commands = .builtin :=
    (handled_step (s := beforeResult) "1" rfl).commands
  rw [hcommands]
  exact CommandTable.find?_builtin_eq_some_iff.mpr ⟨by simp [Builtin.all], rfl⟩

/-- The commands are shown page by page, and the pause gets the last line. -/
lemma listsCommands_beforeCommands : ListsCommands "::listCommands" beforeCommands :=
  listsCommands_of_find? parse?_beforeCommands find?_beforeCommands

lemma console_afterCommands :
    afterCommands.console = (Console.follow beforeCommands.commandPages beforeCommands.console).2 :=
  listsCommands_beforeCommands.console

lemma reads_paging : Reads .still paging.started [paging.started, afterResult] afterCommands := by
  have hresult : (step "1" beforeResult).1 = .ok () := by decide +kernel
  have hlisted : (step "::listCommands" beforeCommands).1 = .ok () :=
    listsCommands_beforeCommands.outcome.trans (by decide +kernel)
  have hwaiting : afterResult.console.queue = ["::listCommands", ""] := by decide +kernel
  have hread : (Console.readLine afterResult.renderPrompt afterResult.console).1 =
      .ok (some "::listCommands") := by
    rw [QueueConsole.readLine_of_queue_eq_cons hwaiting]
  exact .cons rfl rfl (Prod.ext hresult rfl)
    (.cons (by decide +kernel) (Prod.ext hread rfl) (Prod.ext hlisted rfl) (.nil _))

lemma running_afterCommands : afterCommands.running = true := by
  rw [afterCommands, step_eq_list parse?_beforeCommands find?_beforeCommands, running_list]
  decide +kernel

/-- A session that is ended before its last line. -/
def quitting : Session QueueConsole := start .builtin Rpn.engine (.ofLines ["::quit", "1"])

/-- The run over a result and two pages of commands and then over another line, and the run that
reads no line after `::quit`. -/
theorem runAlong_paging_split :
    (paging.commands = .builtin ∧
      Reads .still paging.started [paging.started, afterResult] afterCommands ∧
      afterCommands.running = true ∧ afterCommands.console.queue = [] ∧
      afterCommands.console.prompts =
        ["rpn:000> ", "rpn:001> ", "Line 8. Press enter key to continue."] ∧
      afterCommands.console.demand = paging.console.demand ∧
      ∃ outcome first second whole, paging.runAlong .still = (.ok (), first) ∧
        (first.queueing ["2"]).runAlong .still = (outcome, second) ∧
        (paging.queueing ["2"]).runAlong .still = (outcome, whole) ∧
        Rejoined first second whole) ∧
    ∃ last, quitting.runAlong .still = (.ok (), last) ∧
      last.console = ⟨["1"], #[.prompt quitting.renderPrompt]⟩ := by
  have hqueue : afterCommands.console.queue = [] := by
    rw [console_afterCommands]
    decide +kernel
  have hprompts : afterCommands.console.prompts =
      ["rpn:000> ", "rpn:001> ", "Line 8. Press enter key to continue."] := by
    rw [console_afterCommands]
    decide +kernel
  have hkept : afterCommands.console.demand = paging.console.demand := by
    rw [QueueConsole.demand, hprompts, hqueue]
    rfl
  have hnone : Reads .still quitting.started [] quitting.started := .nil _
  have hquit := (runAlong_split (s := quitting) rfl hnone rfl []).2 "::quit" ["1"] ⟨"quit", none⟩
    rfl (by decide +kernel) rfl
  exact ⟨⟨rfl, reads_paging, running_afterCommands, hqueue, hprompts, hkept,
    (runAlong_split rfl reads_paging running_afterCommands ["2"]).1 hqueue hkept⟩, hquit⟩

end Session

end LineRepl
