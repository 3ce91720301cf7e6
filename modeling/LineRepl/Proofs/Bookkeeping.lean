/-
The counts of a session and the name of the last result, over sequences of lines.

* `Session.Fresh`: sessions that were just made.
* `Session.play`: lines handled one after another, by engines that may change between them.
* `Session.results`: the values whose printing was completed, in order.
* `Session.BookedTurn`: what a line does to the counts, the console and the name of the last result.
* `Session.play_booked`: a fresh session counts its lines and its results, and every further line is
  booked under the number of results so far.
* `Session.not_lastResult_kept`: engines can change the name of the last result by themselves.
-/
import LineRepl.Console.Queue
import LineRepl.Engine.Builtin
import LineRepl.Proofs.Binary64.Reading
import LineRepl.Proofs.Handling
import Mathlib.Data.List.Induction

namespace LineRepl

namespace Session

variable {κ : Type}

/-- A line, and what the active engine has become by the time that the line is handled. An engine
may keep something between lines. -/
structure Turn where
  line : String
  evolve : Engine → Engine

/-- The session as the line of a turn is handled. -/
def atTurn (s : Session κ) (t : Turn) : Session κ := { s with engine := t.evolve s.engine }

/-- The session was just made, with the built-in commands. -/
structure Fresh (s : Session κ) : Prop where
  inputCount : s.inputCount = 0
  outputCount : s.printer.outputCount = 0
  commands : s.commands = .builtin

/-- A new session is fresh. -/
lemma fresh_start (engines : EngineTable) (engine : Engine) (console : κ) :
    (start engines engine console).Fresh := ⟨rfl, rfl, rfl⟩

variable [Console κ]

/-- The session after a turn. -/
def take (s : Session κ) (t : Turn) : Session κ := (step t.line (s.atTurn t)).2

/-- The session after turns, one after another. -/
def play (s : Session κ) (turns : List Turn) : Session κ := turns.foldl take s

/-- The values that were printed to the end, in order. -/
def results (s : Session κ) : List Turn → List Value
  | [] => []
  | t :: rest => ((s.atTurn t).printed? t.line).toList ++ (s.take t).results rest

/-- A value that was printed is the one that the line was evaluated to. -/
lemma exists_eval_of_printed? {s : Session κ} {line : String} {v : Value}
    (h : s.printed? line = some v) :
    CommandLine.parse? s.commandPrefix.text line = none ∧
      ∃ w, s.engine.eval line s.workspace = (.value v, w) := by
  rw [printed?] at h
  split at h
  next v' w hline heval =>
    split at h <;> cases h
    exact ⟨hline, w, heval⟩
  next => cases h

/-! ### Whole sequences -/

lemma play_concat (s : Session κ) (turns : List Turn) (t : Turn) :
    s.play (turns ++ [t]) = (s.play turns).take t :=
  List.foldl_concat _ _ _ _

/-- A further turn adds the value that it prints, if there is one. -/
lemma results_concat (s : Session κ) (turns : List Turn) (t : Turn) :
    s.results (turns ++ [t]) =
      s.results turns ++ (((s.play turns).atTurn t).printed? t.line).toList := by
  induction turns generalizing s with
  | nil => exact List.append_nil _
  | cons first rest ih =>
      rw [List.cons_append, results, ih, results, List.append_assoc]
      rfl

/-- What turns leave behind: the lines and the results are counted. -/
structure Played (s : Session κ) (turns : List Turn) (s' : Session κ) : Prop
    extends Steady s s' where
  inputCount : s'.inputCount = s.inputCount + turns.length
  outputCount : s'.printer.outputCount = s.printer.outputCount + (s.results turns).length

/-- Turns count lines and results, whatever the session has counted before. -/
lemma played_play {s : Session κ} (hcommands : s.commands = .builtin) (turns : List Turn) :
    Played s turns (s.play turns) := by
  induction turns using List.reverseRecOn with
  | nil => exact ⟨⟨rfl, rfl, rfl, rfl, rfl, [], rfl⟩, rfl, rfl⟩
  | append_singleton turns t ih =>
      have hturn := handled_step (s := (s.play turns).atTurn t) t.line (ih.commands.trans hcommands)
      have hsteady : Steady (s.play turns) ((s.play turns).atTurn t) :=
        ⟨rfl, rfl, rfl, rfl, rfl, [], rfl⟩
      rw [play_concat]
      refine ⟨ih.toSteady.trans (hsteady.trans hturn.toSteady), ?_, ?_⟩
      · rw [take, hturn.inputCount, List.length_append, ← Nat.add_assoc, ← ih.inputCount]
        rfl
      · rw [take, hturn.outputCount, results_concat, List.length_append, ← Nat.add_assoc,
          ← ih.outputCount]
        rfl

/-! ### One turn -/

/-- What a turn does, of which `number` results came before. -/
structure BookedTurn (number : ℕ) (outputPrefix line : String) (s s' : Session κ) : Prop where
  /-- A value is headed by its number, in three digits at least, and the output prefix. -/
  headed : ∀ v w, CommandLine.parse? s.commandPrefix.text line = none →
    s.engine.eval line s.workspace = (.value v, w) →
      ∃ events, s'.console =
        Console.after s.console
          (.written (String.ofList ((Nat.toDigits 10 number).leftpad 3 '0') ++ outputPrefix) ::
            events)
  /-- If its printing is completed, it uses up the number and is the last result. -/
  completed : ∀ v, s.printed? line = some v →
    s'.printer.outputCount = number + 1 ∧ s'.workspace.bindings.get? lastResult = some v
  /-- Otherwise the number is left for the next result. -/
  reused : s.printed? line = none → s'.printer.outputCount = number
  /-- Without a value nothing is written, and bindings are changed by the engine alone. -/
  silent : ∀ w, CommandLine.parse? s.commandPrefix.text line = none →
    s.engine.eval line s.workspace = (.nothing, w) →
      s'.console = s.console ∧ s'.printer.outputCount = number ∧ s'.workspace = w

/-- A line is booked under the number of the results before it. -/
lemma bookedTurn_step {s : Session κ} (hcommands : s.commands = .builtin) (line : String) :
    BookedTurn s.printer.outputCount s.printer.outputPrefix line s (step line s).2 where
  headed v w hline heval := by
    rw [← Binary64.paddedText_eq_leftpad]
    exact exists_after_header hline heval
  completed v hv := by
    have hhandled := handled_step line hcommands
    refine ⟨?_, ?_⟩
    · rw [hhandled.outputCount, hv]
      rfl
    · rw [hhandled.bindings, hv]
      exact Bindings.get?_set_self _ _ _
  reused hnone := by
    rw [(handled_step line hcommands).outputCount, hnone]
    rfl
  silent w hline heval := by
    rw [step_of_nothing hline heval]
    exact ⟨rfl, rfl, rfl⟩

/-- **Bookkeeping**: a fresh session counts the lines that it handled and the values that it printed
to the end. Every further line is booked under the number of these values. -/
theorem play_booked {s : Session κ} (h : s.Fresh) (turns : List Turn) :
    (s.play turns).inputCount = turns.length ∧
      (s.play turns).printer.outputCount = (s.results turns).length ∧
      ∀ t, BookedTurn (s.results turns).length s.printer.outputPrefix t.line
          ((s.play turns).atTurn t) (s.play (turns ++ [t])) ∧
        s.results (turns ++ [t]) =
          s.results turns ++ (((s.play turns).atTurn t).printed? t.line).toList := by
  have hplayed := played_play h.commands turns
  have houtput : (s.play turns).printer.outputCount = (s.results turns).length := by
    rw [hplayed.outputCount, h.outputCount, Nat.zero_add]
  refine ⟨by rw [hplayed.inputCount, h.inputCount, Nat.zero_add], houtput, fun t => ⟨?_, ?_⟩⟩
  · have hturn := bookedTurn_step (s := (s.play turns).atTurn t)
      (hplayed.commands.trans h.commands) t.line
    rw [play_concat, ← houtput, ← hplayed.outputPrefix]
    exact hturn
  · exact results_concat s turns t

/-- A session of the stack calculator. -/
def calculating : Session QueueConsole := start .builtin Rpn.engine (.ofLines [])

/-- A result, and then a line that fails. -/
def resultAndFailure : List Turn := [⟨"1", id⟩, ⟨"+", id⟩]

/-- The failure is counted among the lines alone, so that the next result is headed by number one.
It becomes the last result. -/
theorem play_rpn_booked :
    calculating.Fresh ∧ (calculating.play resultAndFailure).inputCount = 2 ∧
      (calculating.play resultAndFailure).printer.outputCount = 1 ∧
      (∃ events, (calculating.play (resultAndFailure ++ [⟨"2", id⟩])).console =
        Console.after (calculating.play resultAndFailure).console
          (.written "001 ==> " :: events)) ∧
      (calculating.play (resultAndFailure ++ [⟨"2", id⟩])).printer.outputCount = 2 ∧
      ((calculating.play (resultAndFailure ++ [⟨"2", id⟩])).workspace.bindings.get?
        lastResult).map Value.text = some "2" := by
  have hfresh : calculating.Fresh := fresh_start _ _ _
  obtain ⟨hinput, houtput, hnext⟩ := play_booked hfresh resultAndFailure
  have hresults : (calculating.results resultAndFailure).length = 1 := by decide +kernel
  rw [hresults] at houtput hnext
  obtain ⟨hturn, -⟩ := hnext ⟨"2", id⟩
  have hprinted : (((calculating.play resultAndFailure).atTurn ⟨"2", id⟩).printed? "2").map
      Value.text = some "2" := by decide +kernel
  obtain ⟨v, hv, htext⟩ := Option.map_eq_some_iff.mp hprinted
  obtain ⟨hline, w, heval⟩ := exists_eval_of_printed? hv
  obtain ⟨events, hevents⟩ := hturn.headed v w hline heval
  obtain ⟨hcount, hlast⟩ := hturn.completed v hv
  have hheader : String.ofList ((Nat.toDigits 10 1).leftpad 3 '0') ++
      calculating.printer.outputPrefix = "001 ==> " := by decide +kernel
  rw [hheader] at hevents
  exact ⟨hfresh, hinput, houtput, ⟨events, hevents⟩, hcount, by rw [hlast, Option.map_some, htext]⟩

/-- A line without a value can change the last result: the engine may bind its name. -/
theorem not_lastResult_kept :
    ¬ ∀ (s : Session QueueConsole) (turns : List Turn) (t : Turn), s.Fresh →
      CommandLine.parse? (s.play turns).commandPrefix.text t.line = none →
      (((s.play turns).atTurn t).engine.eval t.line (s.play turns).workspace).1 matches .nothing →
        (s.play (turns ++ [t])).workspace.bindings.get? lastResult =
          (s.play turns).workspace.bindings.get? lastResult := by
  intro h
  have hkept := congrArg (Option.map Value.text)
    (h (start .builtin Rpn.engine (.ofLines [])) [⟨"1", id⟩] ⟨"5 =_", id⟩ (fresh_start _ _ _)
      (by decide +kernel) (by decide +kernel))
  revert hkept
  decide +kernel

end Session

end LineRepl
