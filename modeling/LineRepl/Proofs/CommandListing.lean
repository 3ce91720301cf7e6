/-
What is shown when the commands of a session are listed.

* `Console.follow`: requests that are made in turn, up to a prompt that the input does not answer.
* `Console.NeverFails.exists_follow_eq`: if none of them fails, a prompt is all that can cut them.
* `Paginator.follows_listingFrom`: a listing makes the requests of its pages.
* `Session.commandPages`: the pages of the commands of a session.
* `Session.listsCommands_of_find?`: a line that asks for the commands shows these pages.
* `Session.registered_commands_listed`: what is found, named and listed after registrations.
-/
import LineRepl.Calc.Eval
import LineRepl.Proofs.CommandTable
import LineRepl.Proofs.Pagination

namespace LineRepl

variable {κ : Type} [Console κ]

/-! ### Requests -/

/-- The requests are made in turn. A prompt that the input does not answer is the last of them, and
so is a request that fails. -/
def Console.follow : List ConsoleEvent → κ → Except IoError Unit × κ
  | [], c => (.ok (), c)
  | .prompt text :: events, c =>
    match readLine text c with
    | (.error e, c) => (.error e, c)
    | (.ok none, c) => (.ok (), c)
    | (.ok (some _), c) => follow events c
  | .written text :: events, c =>
    match write text c with
    | (.error e, c) => (.error e, c)
    | (.ok (), c) => follow events c

/-- These of the requests are made: all, or all up to a prompt that the input does not answer. -/
structure Console.Made (c : κ) (events made : List ConsoleEvent) : Prop where
  first : made <+: events
  cut : made ≠ events → ∃ before text, made = before ++ [.prompt text] ∧
    (readLine text (Console.after c before)).1 = .ok none

/-- What is made of the requests behind the first one is made behind it. -/
lemma Console.Made.cons {c : κ} {event : ConsoleEvent} {events made : List ConsoleEvent}
    (h : Made (afterEvent c event) events made) : Made c (event :: events) (event :: made) where
  first := List.cons_prefix_cons.mpr ⟨rfl, h.first⟩
  cut hne := by
    obtain ⟨before, text, hmade, hnone⟩ := h.cut fun heq => hne (congrArg (event :: ·) heq)
    exact ⟨event :: before, text, congrArg (event :: ·) hmade, hnone⟩

/-- At a console that never fails, requests are made up to a prompt that is not answered. -/
lemma Console.NeverFails.exists_follow_eq {c : κ} (h : NeverFails c) (events : List ConsoleEvent) :
    ∃ made, Made c events made ∧ follow events c = (.ok (), Console.after c made) := by
  induction events generalizing c with
  | nil => exact ⟨[], ⟨List.prefix_rfl, fun hne => absurd rfl hne⟩, rfl⟩
  | cons event events ih =>
      obtain ⟨made, hmade, hfollow⟩ := ih (c := afterEvent c event) (h.after [event])
      cases event with
      | written text =>
          obtain ⟨c', hwrite, -⟩ := h.exists_write_eq text
          obtain rfl : afterEvent c (.written text) = c' := congrArg Prod.snd hwrite
          refine ⟨.written text :: made, hmade.cons, ?_⟩
          rw [follow, hwrite]
          exact hfollow
      | prompt text =>
          obtain ⟨_ | line, c', hread, -⟩ := h.exists_readLine_eq text
          all_goals
            obtain rfl : afterEvent c (.prompt text) = c' := congrArg Prod.snd hread
            rw [follow, hread]
          · exact ⟨[.prompt text], ⟨List.prefix_append [_] events, fun _ =>
              ⟨[], text, rfl, congrArg Prod.fst hread⟩⟩, rfl⟩
          · exact ⟨.prompt text :: made, hmade.cons, hfollow⟩

/-! ### Listings -/

namespace Stream

lemma position_ofList (values : List Value) : (ofList values).position = 0 := rfl

/-- The items of such a stream are the values of the list. -/
lemma item_ofList (values : List Value) (i : ℕ) :
    (ofList values).item i = values[i]?.map .value := by
  simp [ofList, start]

end Stream

namespace Paginator

/-- The pause that is due is what turning the page asks for. -/
lemma follow_pauseBefore {p : Paginator} {lines room : ℕ} (h : p.OnPage lines room)
    (events : List ConsoleEvent) (c : κ) :
    Console.follow (p.pauseBefore lines ++ events) c =
      match turnPage p lines room c with
      | (.error e, c) => (.error e, c)
      | (.ok none, c) => (.ok (), c)
      | (.ok (some _), c) => Console.follow events c := by
  cases room with
  | succ room => rw [h.pauseBefore_of_room, List.nil_append, turnPage]
  | zero =>
      rw [h.pauseBefore_of_full, List.singleton_append, Console.follow, turnPage]
      rcases Console.readLine (pausePrompt lines) c with ⟨_ | _ | _, c₁⟩ <;> rfl

/-- The listing ends as the requests do, and makes no others. -/
structure Follows (r : Except (Stop IoError) Listing × Stream × κ) (f : Except IoError Unit × κ) :
    Prop where
  outcome : r.1.map (fun _ => ()) = f.1.mapError .fault
  console : r.2.2 = f.2

/-- A stream with so many values, and nothing behind them, is listed by making the requests of its
pages. -/
lemma follows_listingFrom {p : Paginator} {lines room count : ℕ} {s : Stream}
    (h : p.OnPage lines room)
    (hvalues : ∀ i < count, ∃ v, s.item (s.position + i) = some (.value v))
    (hend : s.item (s.position + count) = none) (c : κ) :
    Follows (listingFrom p lines room s c) (Console.follow (p.pages s lines count) c) := by
  induction count generalizing lines room s c with
  | zero =>
      rw [listingFrom_of_none p lines room c (Option.map_eq_none_iff.mpr hend)]
      exact ⟨rfl, rfl⟩
  | succ count ih =>
      obtain ⟨v, hv⟩ := hvalues 0 (Nat.succ_pos count)
      rw [Nat.add_zero] at hv
      have hpull : s.pull = some (.value v, s.skip 1) := Option.map_eq_some_iff.mpr ⟨_, hv, rfl⟩
      have hitem (i : ℕ) : (s.skip 1).item ((s.skip 1).position + i) =
          s.item (s.position + (i + 1)) := by
        rw [Nat.add_comm i, ← Nat.add_assoc]
        rfl
      have hvalues' (i : ℕ) (hi : i < count) := hitem i ▸ hvalues (i + 1) (Nat.succ_lt_succ hi)
      have hend' := (hitem count).trans hend
      rw [listingFrom_of_value p lines room c hpull, pages_succ, lineEvents, Stream.value_eq hv,
        List.append_assoc, follow_pauseBefore h]
      rcases hturn : turnPage p lines room c with ⟨_ | _ | room', c₁⟩
      · exact ⟨rfl, rfl⟩
      · exact ⟨rfl, rfl⟩
      · have hroom := (turnPage_onPage h c).2 room' (by rw [hturn])
        simp only [List.singleton_append, Console.follow]
        rcases Console.write (p.lineText lines v) c₁ with ⟨_ | _, c₂⟩
        · exact ⟨rfl, rfl⟩
        · exact ih hroom hvalues' hend' c₂

/-- The pages of a list. -/
lemma pages_ofList (p : Paginator) (values : List Value) :
    p.pages (.ofList values) 0 values.length = values.zipIdx.flatMap fun (v, shown) =>
      p.pauseBefore shown ++ [.written (p.lineText shown v)] := by
  have hzip : values.zipIdx = (List.range values.length).map fun i =>
      ((Stream.ofList values).value i, i) := by
    refine List.ext_getElem (by simp) fun i hi _ => ?_
    rw [List.length_zipIdx] at hi
    have hitem : (Stream.ofList values).item i = some (.value values[i]) := by
      rw [Stream.item_ofList, List.getElem?_eq_getElem hi, Option.map_some]
    simp [Stream.value_eq hitem]
  rw [hzip, List.flatMap_map, pages]
  refine List.flatMap_congr fun i _ => ?_
  rw [lineEvents, Nat.zero_add, Stream.position_ofList, Nat.zero_add]

/-- All values of a list are shown from the top of a page. -/
lemma follows_listing_ofList (p : Paginator) (values : List Value) (c : κ) :
    Follows (p.listing (.ofList values) c)
      (Console.follow (p.pages (.ofList values) 0 values.length) c) := by
  have hitem (i : ℕ) : (Stream.ofList values).item ((Stream.ofList values).position + i) =
      values[i]?.map .value := by
    rw [Stream.position_ofList, Nat.zero_add, Stream.item_ofList]
  refine follows_listingFrom p.onPage_zero (fun i hi => ⟨values[i], ?_⟩) ?_ c
  · rw [hitem, List.getElem?_eq_getElem hi, Option.map_some]
  · rw [hitem, List.getElem?_eq_none (Nat.le_refl _), Option.map_none]

end Paginator

/-! ### Sessions -/

namespace Session

/-- The lines that present the commands of the session, in the order of their names. -/
def commandLines (s : Session κ) : List String :=
  s.commands.commands.map fun c =>
    s.commandPrefix.text ++ c.info.usage ++ " - " ++ c.info.description

/-- These lines, each behind the pause that is due before it. -/
def commandPages (s : Session κ) : List ConsoleEvent :=
  s.commandLines.zipIdx.flatMap fun (line, shown) =>
    s.printer.paginator.pauseBefore shown ++
      [.written (s.printer.paginator.lineText shown (.str line))]

/-- Lines are listed as their stream is. -/
lemma list_of_follows {s : Session κ} {lines : List String} {f : Except IoError Unit × κ}
    (h : Paginator.Follows
      (s.printer.paginator.listing (.ofList (lines.map .str)) s.console) f) :
    (s.list lines).1 = f.1.mapError .io ∧ (s.list lines).2.console = f.2 := by
  refine ⟨?_, (console_list s lines).trans h.console⟩
  have houtcome := h.outcome
  rw [list]
  generalize s.printer.paginator.listing (.ofList (lines.map .str)) s.console = r at *
  obtain ⟨_ | _, _, _⟩ := r <;> obtain ⟨_ | _, _⟩ := f <;> cases houtcome <;> rfl

/-- The lines of the commands are listed page by page. -/
lemma list_commandLines (s : Session κ) :
    (s.list s.commandLines).1 = (Console.follow s.commandPages s.console).1.mapError .io ∧
      (s.list s.commandLines).2.console = (Console.follow s.commandPages s.console).2 := by
  have hpages : s.commandPages = s.printer.paginator.pages
      (.ofList (s.commandLines.map .str)) 0 (s.commandLines.map Value.str).length := by
    rw [Paginator.pages_ofList, List.zipIdx_map, List.flatMap_map]
    rfl
  rw [hpages]
  exact list_of_follows (Paginator.follows_listing_ofList _ _ _)

/-- Listing ends no session. -/
lemma running_list (s : Session κ) (lines : List String) :
    (s.list lines).2.running = s.running := by
  rw [list]
  rcases s.printer.paginator.listing (.ofList (lines.map .str)) s.console with
    ⟨_ | ⟨_, _ | _⟩, _, _⟩ <;> rfl

/-- An error of the console is not reported. -/
lemma settle_of_io {r : Except Failure Unit × Session κ} {result : Except IoError Unit}
    (h : r.1 = result.mapError .io) : settle r = r := by
  obtain ⟨_ | _, s⟩ := r
  · cases result with
    | error e =>
        cases h
        rfl
    | ok => cases h
  · rfl

variable {s : Session κ} {line : String}

/-- The script that lists the commands lists these lines, whatever its argument. -/
lemma perform_listCommands (again : Session κ → Except Failure Unit × Session κ)
    (argument : Option String) :
    perform again (Builtin.listCommands.script argument) s = s.list s.commandLines := by
  have hlines : (s.view.commands.map fun c =>
      s.view.commandPrefix ++ c.usage ++ " - " ++ c.description) = s.commandLines := List.map_map
  simp only [Builtin.listCommands, perform, hlines]
  rcases s.list s.commandLines with ⟨_ | _, _⟩ <;> rfl

/-- As the line is handled, the commands are listed. -/
structure ListsCommands (line : String) (s : Session κ) : Prop where
  outcome : (step line s).1 = (Console.follow s.commandPages s.console).1.mapError .io
  console : (step line s).2.console = (Console.follow s.commandPages s.console).2
  /-- If no request fails, nothing but the end of input at a pause cuts the listing. -/
  cut : Console.NeverFails s.console → ∃ made, Console.Made s.console s.commandPages made ∧
    (step line s).1 = .ok () ∧ (step line s).2.console = Console.after s.console made

section

variable {named : CommandLine} (hline : CommandLine.parse? s.commandPrefix.text line = some named)
  (hfind : s.commands.find? named.name = some Builtin.listCommands)

include hline hfind

/-- Such a line is counted and noted before the commands are listed. -/
lemma step_eq_list : step line s =
    (s.counted.dispatching named.name).list (s.counted.dispatching named.name).commandLines := by
  rw [step_eq, attempt_of_find?_eq_some hline hfind, perform_listCommands,
    settle_of_io (list_commandLines _).1]

/-- A line that asks for the commands lists them. -/
lemma listsCommands_of_find? : ListsCommands line s := by
  obtain ⟨houtcome, hconsole⟩ := (s.counted.dispatching named.name).list_commandLines
  rw [← step_eq_list hline hfind] at houtcome hconsole
  refine ⟨houtcome, hconsole, fun hc => ?_⟩
  obtain ⟨made, hmade, hfollow⟩ := hc.exists_follow_eq s.commandPages
  refine ⟨made, hmade, houtcome.trans ?_, hconsole.trans ?_⟩
  · exact congrArg (·.1.mapError Failure.io) hfollow
  · exact congrArg Prod.snd hfollow

end

/-- **Commands after any registrations.** Whether registrations begin with no commands or with the
built-in ones, each name stands for the last command that was registered under it, and the names
are listed without repetition in the order of their bytes. In a session with such a table the
command that lists the commands shows them in this order, page by page. -/
theorem registered_commands_listed :
    (∀ history, CommandTable.Records history (history.foldl CommandTable.register .empty)) ∧
    (∀ history, CommandTable.Records (Builtin.all ++ history)
      (history.foldl CommandTable.register .builtin)) ∧
    ∀ (κ : Type) [Console κ] (s : Session κ) (history : List Command),
      CommandTable.Records history s.commands →
      CommandTable.LastOfName history Builtin.listCommands →
      ∀ line argument,
        CommandLine.parse? s.commandPrefix.text line = some ⟨"listCommands", argument⟩ →
          ListsCommands line s :=
  ⟨CommandTable.records_foldl_register, CommandTable.records_foldl_register_builtin,
    fun _ _ _ _ hrecords hlast _ _ hline =>
      listsCommands_of_find? hline ((hrecords.found _ _).mpr ⟨rfl, hlast⟩)⟩

/-- The command that ends a session, in other words. -/
def leave : Command := { Builtin.quit with info := ⟨"quit", "quit now", "Leave"⟩ }

/-- A session with two commands, one of which was registered twice, and pages of one line. -/
def twoCommands : Session QueueConsole :=
  { start .empty Calc.engine (.ofLines []) with
    commands := [Builtin.quit, Builtin.listCommands, leave].foldl .register .empty
    printer := { Printer.default with paginator := .ofLimit 1 } }

/-- The commands are listed in the order of their names, and the input ends at the pause behind the
first of them. -/
theorem twoCommands_listed :
    CommandTable.Records [Builtin.quit, Builtin.listCommands, leave] twoCommands.commands ∧
      CommandTable.LastOfName [Builtin.quit, Builtin.listCommands, leave] Builtin.listCommands ∧
      ListsCommands "::listCommands" twoCommands ∧
      (step "::listCommands" twoCommands).2.console.events =
        #[.written "::listCommands - List all commands\n",
          .prompt "Line 1. Press enter key to continue."] := by
  obtain ⟨hempty, -, hlists⟩ := registered_commands_listed
  have hrecords := hempty [Builtin.quit, Builtin.listCommands, leave]
  have hlast : CommandTable.LastOfName [Builtin.quit, Builtin.listCommands, leave]
      Builtin.listCommands := ⟨[Builtin.quit], [leave], rfl, by simp [leave, Builtin.listCommands]⟩
  have hcommands :=
    hlists QueueConsole twoCommands _ hrecords hlast "::listCommands" none (by decide)
  refine ⟨hrecords, hlast, hcommands, ?_⟩
  rw [hcommands.console]
  decide +kernel

end Session

end LineRepl
