/-
Streams are pulled from by being printed, and by nothing else.

* `EngineTable.pullsNone_eval`: evaluation by the engines that are always there pulls from no
  stream.
* `Session.value?`: the value of a line.
* `Session.Passive`: lines that have no stream as their value, whatever streams they use.
* `Session.step_pulls`: a line pulls from no stream but the one that is its value.
-/
import LineRepl.Engine.Builtin
import LineRepl.Proofs.Calc.Identifier
import LineRepl.Proofs.Calc.Pulling
import LineRepl.Proofs.Handling

namespace LineRepl

open Store (PullsOnly PullsNone)

/-! ### Engines -/

namespace Rpn

/-- Postfix lines do not even reach the streams. -/
lemma pullsNone_evalLine (line : String) (w : Workspace) :
    PullsNone w.store (evalLine line w).2.store :=
  .refl w.store

lemma noStream_toValue (x : Binary64) : (toValue x).NoStream := by
  rw [toValue]
  split
  · split_ifs <;> exact nofun
  · exact nofun

/-- The value of a postfix line is a number. -/
lemma noStream_evalLine {line : String} {w w' : Workspace} {v : Value}
    (h : evalLine line w = (.value v, w')) : v.NoStream := by
  rw [evalLine] at h
  rcases hwords : runWords (Text.words line) [] w.bindings with
    ⟨_ | _ | ⟨x, rest⟩, bindings⟩ <;> rw [hwords] at h <;> cases h
  exact noStream_toValue x

end Rpn

/-- Engines that are always there pull from no stream. -/
lemma EngineTable.pullsNone_eval {e : Engine} (h : e ∈ builtin.engines) (line : String)
    (w : Workspace) : PullsNone w.store (e.eval line w).2.store := by
  simp only [builtin, register, empty, List.nil_append, List.cons_append, List.mem_cons,
    List.not_mem_nil, or_false] at h
  rcases h with rfl | rfl
  · exact Calc.pullsNone_evalLine line w
  · exact Rpn.pullsNone_evalLine line w

/-! ### Lines -/

namespace Session

variable {κ : Type} {s : Session κ} {line : String}

/-- The value of the line. A line that names a command has none. -/
def value? (line : String) (s : Session κ) : Option Value :=
  match CommandLine.parse? s.commandPrefix.text line, s.engine.eval line s.workspace with
  | none, (.value v, _) => some v
  | _, _ => none

/-- The line names a command, it is one of postfix words, or it is an inert statement. -/
inductive Passive (s : Session κ) (line : String) : Prop
  | command {named : CommandLine} :
      CommandLine.parse? s.commandPrefix.text line = some named → Passive s line
  | words : s.engine = Rpn.engine → Passive s line
  | statement {tokens : List Calc.PlacedToken} {statement : Calc.Statement} :
      s.engine = Calc.engine → Calc.tokenize line = .ok tokens →
      Calc.parse tokens = .ok statement → statement.Inert s.workspace.bindings → Passive s line

/-- A passive line has no stream as its value. -/
lemma Passive.value?_ne (h : Passive s line) (handle : ℕ) :
    s.value? line ≠ some (.stream handle) := by
  intro hvalue
  rw [value?] at hvalue
  split at hvalue
  next v w hline heval =>
    obtain rfl := Option.some.inj hvalue
    cases h with
    | command hnamed => cases hline.symm.trans hnamed
    | words hengine =>
        rw [hengine] at heval
        exact Rpn.noStream_evalLine heval handle rfl
    | @statement tokens statement hengine htokens hparse hinert =>
        rw [hengine] at heval
        exact Calc.noStream_evalLine hinert htokens hparse heval handle rfl
  next => cases hvalue

variable [Console κ]

lemma pullsOnly_printResult (s : Session κ) (v : Value) :
    PullsOnly (fun handle => v = .stream handle) s.workspace.store
      (s.printResult (some v)).2.workspace.store := by
  have hprint := s.printer.pullsOnly_print v ⟨s.workspace.store, s.console⟩
  rw [printResult]
  rcases hresult : s.printer.print (some v) ⟨s.workspace.store, s.console⟩ with
    ⟨_ | printing, printer, around⟩
  all_goals rw [hresult] at hprint
  · exact hprint
  · obtain ⟨log, hlog⟩ := exists_noteListing_eq (s.afterPrinting printer around) printing.listing
    simp only [hlog]
    exact hprint

/-- The evaluation of a line, and the printing of its value. -/
lemma pullsOnly_evaluate (hengine : s.engine ∈ EngineTable.builtin.engines) (line : String) :
    PullsOnly (fun handle => ∃ w, s.engine.eval line s.workspace = (.value (.stream handle), w))
      s.workspace.store (s.evaluate line).2.workspace.store := by
  have heval := EngineTable.pullsNone_eval hengine line s.workspace
  rcases hreply : s.engine.eval line s.workspace with ⟨v | _ | e | p, w⟩
  all_goals rw [hreply] at heval
  · rw [evaluate_of_value hreply]
    -- a stream that the evaluation adds can be the one that is printed
    refine heval.pullsOnly.trans ((pullsOnly_printResult { s with workspace := w } v).mono ?_)
    rintro handle rfl
    exact ⟨w, rfl⟩
  · rw [evaluate_of_nothing hreply]
    exact heval.pullsOnly
  · rw [evaluate_of_error hreply]
    exact heval.pullsOnly
  · rw [evaluate_of_panicked hreply]
    exact heval.pullsOnly

lemma pullsOnly_step (hcommands : s.commands = .builtin)
    (hengine : s.engine ∈ EngineTable.builtin.engines) (line : String) :
    PullsOnly (fun handle => s.value? line = some (.stream handle)) s.workspace.store
      (step line s).2.workspace.store := by
  rw [step_eq, (kept_settle _).workspace]
  cases hline : CommandLine.parse? s.commandPrefix.text line with
  | none =>
      rw [attempt_of_parse?_eq_none hline]
      refine (pullsOnly_evaluate (s := s.counted) hengine line).mono ?_
      rintro handle ⟨w, hvalue⟩
      have heval : s.engine.eval line s.workspace = (.value (.stream handle), w) := hvalue
      rw [value?, hline, heval]
  | some named =>
      cases hfind : s.commands.find? named.name with
      | none =>
          rw [attempt_of_find?_eq_none hline hfind]
          exact .refl s.workspace.store
      | some command =>
          rw [attempt_of_find?_eq_some hline hfind,
            (performed_builtin (s := s) (hcommands ▸ hfind)).workspace]
          exact .refl s.workspace.store

/-- **Streams are pulled from only by being printed**: a line pulls from no stream but the one that
is its value, so that commands, assignments, lists, operators and calls of `len` and `str` pull from
none. The evaluation of a line alone pulls from none either. -/
theorem step_pulls (hcommands : s.commands = .builtin)
    (hengine : s.engine ∈ EngineTable.builtin.engines) (line : String) :
    PullsOnly (fun handle => s.value? line = some (.stream handle)) s.workspace.store
        (step line s).2.workspace.store ∧
      (Passive s line → PullsNone s.workspace.store (step line s).2.workspace.store) ∧
      ∀ e ∈ EngineTable.builtin.engines, ∀ (text : String) (w : Workspace),
        PullsNone w.store (e.eval text w).2.store := by
  have hstep := pullsOnly_step hcommands hengine line
  refine ⟨hstep, fun hpassive => ?_, fun e he => EngineTable.pullsNone_eval he⟩
  exact hstep.mono hpassive.value?_ne

/-- Two streams that are shared by names and a list. -/
def sharing : Session QueueConsole :=
  { start .builtin Calc.engine (.ofLines []) with
    workspace :=
      ⟨⟨[("s", .stream 0), ("t", .stream 1), ("l", .list [.stream 0, .stream 1])]⟩,
        ⟨#[.range 0 5, .naturals], 0⟩⟩ }

/-- The list that holds both streams leaves them alone as it is printed, and a stream that is
printed leaves the other one alone. -/
theorem step_sharing_pulls :
    sharing.commands = .builtin ∧ sharing.engine ∈ EngineTable.builtin.engines ∧
      (∀ handle, ((step "l" sharing).2.workspace.store.stream handle).position = 0) ∧
      ((step "s" sharing).2.workspace.store.stream 1).position = 0 := by
  have hengine : sharing.engine ∈ EngineTable.builtin.engines := List.mem_cons_self
  have hs : sharing.engine.eval "s" sharing.workspace =
      (.value (.stream 0), sharing.workspace) :=
    Calc.evalLine_of_identifier (by decide) rfl
  have hl : sharing.engine.eval "l" sharing.workspace =
      (.value (.list [.stream 0, .stream 1]), sharing.workspace) :=
    Calc.evalLine_of_identifier (by decide) rfl
  have hline (line : String) (h : line = "s" ∨ line = "l") :
      CommandLine.parse? sharing.commandPrefix.text line = none := by
    rcases h with rfl | rfl <;> decide
  have hfresh (handle : ℕ) : (sharing.workspace.store.stream handle).position = 0 := by
    match handle with
    | 0 | 1 | _ + 2 => rfl
  refine ⟨rfl, hengine, fun handle => ?_, ?_⟩
  · have hvalue : sharing.value? "l" ≠ some (.stream handle) := by
      rw [value?, hline "l" (.inr rfl), hl]
      exact nofun
    exact ((step_pulls rfl hengine "l").1.position_eq handle hvalue).trans (hfresh handle)
  · have hvalue : sharing.value? "s" ≠ some (.stream 1) := by
      rw [value?, hline "s" (.inl rfl), hs]
      exact nofun
    exact ((step_pulls rfl hengine "s").1.position_eq 1 hvalue).trans (hfresh 1)

end Session

end LineRepl
