/-
Which engine an identifier stands for, after any registrations.

* `EngineInfo.Named`: the identifiers of an engine.
* `EngineTable.LastNamed`: the engine that was registered last of those with an identifier.
* `EngineTable.find?_register`: a registration takes over the identifiers of its engine, and no
  others.
* `EngineTable.Resolves`: what a table tells of its registrations.
* `EngineTable.registered_engines_resolved`: tables tell it of any registrations.
-/
import LineRepl.Engine.Builtin
import Mathlib.Tactic.Common

namespace LineRepl

/-- The identifier is the engine's own name or one of its extensions. -/
def EngineInfo.Named (info : EngineInfo) (id : String) : Prop :=
  id = info.engineName ∨ id ∈ info.extensions

namespace EngineTable

variable {history : List Engine} {id : String} {e : Engine}

/-- An engine answers to its name and to its extensions. -/
lemma answersTo_iff : e.info.answersTo id = true ↔ e.info.Named id := by
  rw [EngineInfo.answersTo, EngineInfo.Named, Bool.or_eq_true, beq_iff_eq, List.contains_iff_mem,
    eq_comm (a := id)]

lemma answersTo_eq_false_iff : e.info.answersTo id = false ↔ ¬ e.info.Named id := by
  rw [← answersTo_iff, Bool.not_eq_true]

/-! ### Registrations -/

/-- Engines are kept in the order in which they were registered, and none is dropped. -/
lemma engines_foldl_register (table : EngineTable) (history : List Engine) :
    (history.foldl register table).engines = table.engines ++ history := by
  induction history generalizing table with
  | nil => exact (List.append_nil _).symm
  | cons e history ih =>
      rw [List.foldl_cons, ih, register, List.append_assoc, List.singleton_append]

/-- An engine that is registered takes over its identifiers, and leaves all others alone. -/
lemma find?_register (table : EngineTable) (e : Engine) (id : String) :
    (table.register e).find? id = if e.info.answersTo id then some e else table.find? id := by
  rw [find?, register, List.reverse_append, List.reverse_singleton, List.singleton_append,
    List.find?_cons]
  cases e.info.answersTo id <;> rfl

/-- The engine has the identifier, and none that was registered after it does. -/
def LastNamed (history : List Engine) (id : String) (e : Engine) : Prop :=
  ∃ before after, history = before ++ e :: after ∧ e.info.Named id ∧
    ∀ d ∈ after, ¬ d.info.Named id

/-- The search goes from the last registration back to the first. -/
lemma find?_reverse_eq_some_iff :
    history.reverse.find? (·.info.answersTo id) = some e ↔ LastNamed history id e := by
  rw [List.find?_eq_some_iff_append, answersTo_iff]
  constructor
  · rintro ⟨hnamed, after, before, hhistory, hafter⟩
    refine ⟨before.reverse, after.reverse, ?_, hnamed, fun d hd => ?_⟩
    · rw [← List.reverse_reverse history, hhistory, List.reverse_append, List.reverse_cons,
        List.append_assoc, List.singleton_append]
    · have hfalse := hafter d (List.mem_reverse.mp hd)
      rwa [Bool.not_eq_true', answersTo_eq_false_iff] at hfalse
  · rintro ⟨before, after, rfl, hnamed, hafter⟩
    refine ⟨hnamed, after.reverse, before.reverse, ?_, fun d hd => ?_⟩
    · rw [List.reverse_append, List.reverse_cons, List.append_assoc, List.singleton_append]
    · rw [Bool.not_eq_true', answersTo_eq_false_iff]
      exact hafter d (List.mem_reverse.mp hd)

/-- What the table tells of the registrations that made it. -/
structure Resolves (history : List Engine) (table : EngineTable) : Prop where
  /-- The engines are listed in the order in which they were registered. -/
  infos : table.infos = history.map (·.info)
  /-- An identifier stands for the last engine that has it, -/
  found : ∀ id e, table.find? id = some e ↔ LastNamed history id e
  /-- and for nothing, if none has it. -/
  missing : ∀ id, table.find? id = none ↔ ∀ e ∈ history, ¬ e.info.Named id
  /-- A further registration changes what its own identifiers stand for, -/
  taken : ∀ e id, e.info.Named id → (table.register e).find? id = some e
  /-- and nothing else. -/
  left : ∀ e id, ¬ e.info.Named id → (table.register e).find? id = table.find? id

/-- A table resolves identifiers by the engines that it holds. -/
lemma resolves_engines (table : EngineTable) : Resolves table.engines table where
  infos := rfl
  found _ _ := find?_reverse_eq_some_iff
  missing id := by
    rw [find?, List.find?_eq_none]
    simp only [List.mem_reverse, answersTo_iff]
  taken e id h := by rw [find?_register, if_pos (answersTo_iff.mpr h)]
  left e id h := by rw [find?_register, if_neg (mt answersTo_iff.mp h)]

/-- **Engines after any registrations.** Whether registrations begin with no engines or with the
built-in ones, the engines are listed as they were registered, each identifier stands for the last
engine that has it as its name or as an extension, and one more engine changes what its own
identifiers stand for and nothing else. -/
theorem registered_engines_resolved (history : List Engine) :
    Resolves history (history.foldl register .empty) ∧
      Resolves ([Calc.engine, Rpn.engine] ++ history) (history.foldl register .builtin) := by
  have hempty := resolves_engines (history.foldl register .empty)
  have hbuiltin := resolves_engines (history.foldl register .builtin)
  rw [engines_foldl_register] at hempty hbuiltin
  exact ⟨hempty, hbuiltin⟩

/-- An engine with the built-in engine's extension and a name of its own takes over the extension
only. -/
example (e : Engine) (h : e.info = ⟨"Other", "calc", ["calc"]⟩) :
    (builtin.register e).find? "calc" = some e ∧
      (builtin.register e).find? "Calc Interpreter" = some Calc.engine := by
  rw [find?_register, find?_register, EngineInfo.answersTo, EngineInfo.answersTo, h]
  exact ⟨rfl, rfl⟩

end EngineTable

end LineRepl
