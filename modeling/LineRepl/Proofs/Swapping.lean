/-
Changing to another engine and back leaves no trace in what follows.

* `Session.swapLine`: the command line that changes to the engine of an identifier.
* `Session.exists_step_swapLine`: what it does, if there is such an engine.
* `Session.stepAll`: lines handled one after another.
* `Likeness.ahead`: sessions that differ in nothing but the log and the number of lines before.
* `Session.stepAll_swapped_back`: lines come to the same after a change of the engine and back, in a
  session that has counted two lines more.
-/
import LineRepl.Console.Queue
import LineRepl.Engine.Builtin
import LineRepl.Proofs.Calc.Identifier
import LineRepl.Proofs.Likeness

namespace LineRepl

/-! ### Identifiers -/

namespace EngineTable

lemma mem_of_find?_eq_some {table : EngineTable} {id : String} {e : Engine}
    (h : table.find? id = some e) :
    e ∈ table.engines ∧ id ∈ e.info.engineName :: e.info.extensions := by
  rw [find?] at h
  have hanswers := List.find?_some h
  rw [EngineInfo.answersTo, Bool.or_eq_true, beq_iff_eq, List.contains_iff_mem] at hanswers
  exact ⟨List.mem_reverse.mp (List.mem_of_find?_eq_some h),
    List.mem_cons.mpr (hanswers.imp_left Eq.symm)⟩

/-- The identifiers that the built-in engines answer to begin and end with no blank. -/
lemma trim_eq_self {id : String} {e : Engine} (h : builtin.find? id = some e) :
    Text.trim id = id ∧ id ≠ "" := by
  have hnames : ∀ e ∈ builtin.engines, ∀ id ∈ e.info.engineName :: e.info.extensions,
      Text.trim id = id ∧ id ≠ "" := by decide +kernel
  obtain ⟨hmem, hid⟩ := mem_of_find?_eq_some h
  exact hnames e hmem id hid

end EngineTable

/-- Sessions that differ in nothing but the log and the number of lines before, of which the second
one has counted `count` more. -/
def Likeness.ahead (κ : Type) [Console κ] (count : ℕ) : Likeness κ κ where
  Spent _ := False
  Consoles := Eq
  Engines := Eq
  Counts m n := n = m + count
  Logs _ _ := True
  spent_of_le _ := id
  readLine _ _ _ h := .inr (h ▸ ⟨_, _, _, rfl, rfl, rfl⟩)
  write _ _ _ h := .inr (h ▸ ⟨_, _, _, rfl, rfl, rfl⟩)
  counts_succ h := by omega
  logs_push _ _ _ := id

namespace Session

variable {κ : Type}

/-- The line that changes to the engine of an identifier. -/
def swapLine (s : Session κ) (id : String) : String := s.commandPrefix.text ++ "setEngine " ++ id

lemma parse?_swapLine (s : Session κ) (id : String) :
    CommandLine.parse? s.commandPrefix.text (s.swapLine id) = some ⟨"setEngine", some id⟩ := by
  have hline : s.swapLine id = s.commandPrefix.text ++ ("setEngine" ++ " " ++ id) := by
    rw [swapLine, String.append_assoc]
    rfl
  rw [hline]
  exact CommandLine.parse?_append (by decide) _ _

variable [Console κ]

/-- Changing to an engine that there is counts a line and keeps all else. -/
lemma exists_step_swapLine {s : Session κ} (hcommands : s.commands = .builtin) (id : String)
    {e : Engine} (hfind : s.engines.find? (Text.trim id) = some e) (hne : Text.trim id ≠ "") :
    ∃ log, step (s.swapLine id) s = (.ok (), { s.counted with engine := e, log }) := by
  have hcommand : s.commands.find? "setEngine" = some Builtin.setEngine := by
    rw [hcommands]
    exact CommandTable.find?_builtin_eq_some_iff.mpr ⟨by simp [Builtin.all], rfl⟩
  have hscript : Builtin.setEngine.script (some id) = .swapEngine (Text.trim id) .done := by
    simp only [Builtin.setEngine, Builtin.withArgument_some, if_neg hne]
  have hswap := swapEngine_of_find?_eq_some (s := s.counted.dispatching "setEngine") hfind
  rw [step_eq, attempt_of_find?_eq_some (parse?_swapLine s id) hcommand, hscript, perform, hswap]
  exact ⟨_, rfl⟩

/-- Handles lines one after another, whatever their outcomes. -/
def stepAll : List String → Session κ → List (Except Failure Unit) × Session κ
  | [], s => ([], s)
  | line :: rest, s =>
    let (outcome, s) := step line s
    let (outcomes, s) := stepAll rest s
    (outcome :: outcomes, s)

lemma stepAll_cons {line : String} {rest : List String} {s s' s'' : Session κ}
    {outcome : Except Failure Unit} {outcomes : List (Except Failure Unit)}
    (hline : step line s = (outcome, s')) (hrest : stepAll rest s' = (outcomes, s'')) :
    stepAll (line :: rest) s = (outcome :: outcomes, s'') := by
  rw [stepAll, hline]
  simp only [hrest]

/-- Like sessions handle all lines alike, if the first console is never spent. -/
lemma stepAll_like {κ₁ κ₂ : Type} [Console κ₁] [Console κ₂] {S : Likeness κ₁ κ₂}
    (hengines : S.Engines = Eq) (hspent : ∀ c, ¬ S.Spent c) (lines : List String)
    {s₁ : Session κ₁} {s₂ : Session κ₂} (h : Like S s₁ s₂) :
    Agree (Like S) (stepAll lines s₁) (stepAll lines s₂) := by
  induction lines generalizing s₁ s₂ with
  | nil => exact ⟨_, _, _, rfl, rfl, h⟩
  | cons line rest ih =>
      rcases step_like hengines line h with hleft | ⟨outcome, s₁', s₂', h₁, h₂, h'⟩
      · exact absurd hleft (hspent _)
      · obtain ⟨outcomes, s₁'', s₂'', hrest₁, hrest₂, h''⟩ := ih h'
        exact ⟨_, _, _, stepAll_cons h₁ hrest₁, stepAll_cons h₂ hrest₂, h''⟩

/-- **Changing the engine and changing back leaves no trace**: lines that are handled afterwards
have the outcomes that they would have had, and leave the session as they would have left it, but
for the log and for the two lines more that were counted. -/
theorem stepAll_swapped_back {s : Session κ} (hengines : s.engines = .builtin)
    (hcommands : s.commands = .builtin) {i j : String} {e : Engine}
    (hi : s.engines.find? i = some e) (hj : s.engines.find? j = some s.engine)
    (lines : List String) :
    ∃ outcomes s' log, stepAll lines s = (outcomes, s') ∧
      stepAll (s.swapLine i :: s.swapLine j :: lines) s =
        (.ok () :: .ok () :: outcomes, { s' with inputCount := s'.inputCount + 2, log }) := by
  obtain ⟨htrimi, hnei⟩ := EngineTable.trim_eq_self (hengines ▸ hi)
  obtain ⟨htrimj, hnej⟩ := EngineTable.trim_eq_self (hengines ▸ hj)
  obtain ⟨log₁, hfirst⟩ := exists_step_swapLine hcommands i (by rwa [htrimi])
    (by rwa [htrimi])
  -- the line is made of the command prefix, which the first change has left as it was
  obtain ⟨log₂, hsecond⟩ := exists_step_swapLine (s := { s.counted with engine := e, log := log₁ })
    hcommands j (e := s.engine) (by rwa [htrimj]) (by rwa [htrimj])
  have hback : Like (.ahead κ 2) s { s with inputCount := s.inputCount + 2, log := log₂ } :=
    ⟨_, _, _, _, rfl, rfl, rfl, rfl, trivial⟩
  obtain ⟨outcomes, s', _, hdirect, hswapped, _, _, _, log, rfl, rfl, rfl, rfl, -⟩ :=
    stepAll_like rfl (fun _ => id) lines hback
  exact ⟨outcomes, s', log, hdirect, stepAll_cons hfirst (stepAll_cons hsecond hswapped)⟩

/-- A workspace with a name for a stream of two numbers. -/
def ranged : Workspace := ⟨⟨[("s", .stream 0)]⟩, ⟨#[.range 0 2], 0⟩⟩

lemma evalLine_range : Calc.evalLine "s = range(0, 2)" .empty = (.nothing, ranged) := by
  have htokens : Calc.tokenize "s = range(0, 2)" =
      .ok [⟨.ident "s", 1⟩, ⟨.assign, 3⟩, ⟨.ident "range", 5⟩, ⟨.openParen, 10⟩, ⟨.int 0, 11⟩,
        ⟨.comma, 12⟩, ⟨.int 2, 14⟩, ⟨.closeParen, 15⟩] := by
    decide +kernel
  have hparse : Calc.parse [⟨.ident "s", 1⟩, ⟨.assign, 3⟩, ⟨.ident "range", 5⟩, ⟨.openParen, 10⟩,
      ⟨.int 0, 11⟩, ⟨.comma, 12⟩, ⟨.int 2, 14⟩, ⟨.closeParen, 15⟩] =
        .ok (.assign "s" (.call (.var "range") [.int 0, .int 2])) := by
    cbv
  rw [Calc.evalLine, htokens]
  simp only [hparse]
  rfl

/-- One line binds a stream and the next one asks for it, and both come to the same after the
calculators were changed twice. -/
theorem stepAll_swapped_to_rpn :
    Calc.evalLine "s = range(0, 2)" .empty = (.nothing, ranged) ∧
      Calc.evalLine "s" ranged = (.value (.stream 0), ranged) ∧
      ∃ outcomes s' log,
        stepAll ["s = range(0, 2)", "s"] (start .builtin Calc.engine (QueueConsole.ofLines [])) =
          (outcomes, s') ∧
        stepAll ["::setEngine rpn", "::setEngine calc", "s = range(0, 2)", "s"]
          (start .builtin Calc.engine (QueueConsole.ofLines [])) =
          (.ok () :: .ok () :: outcomes, { s' with inputCount := s'.inputCount + 2, log }) :=
  ⟨evalLine_range, Calc.evalLine_of_identifier (by decide) rfl,
    stepAll_swapped_back (s := start .builtin Calc.engine (QueueConsole.ofLines [])) rfl rfl
      (i := "rpn") (j := "calc") (e := Rpn.engine) rfl rfl _⟩

end Session

end LineRepl
