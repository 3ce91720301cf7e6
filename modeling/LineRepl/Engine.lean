/-
Engines: what evaluates a line, under which names it is found, and how it answers.

* `Engine.eval`: the answer to a line, and the workspace afterwards.
* `EngineTable.find?`: the engine of an identifier; the one registered last wins.
-/
import LineRepl.Bindings

namespace LineRepl

/-- A chain of causes: the message shown and what it was caused by, the root cause
last. -/
structure Causes where
  message : String
  causes : List String
  deriving DecidableEq, Repr

/-- Why an engine refused a line or failed on it. -/
inductive EvalError where
  /-- The line is malformed at a column. -/
  | malformed (message : String) (column : Nat)
  /-- The line is well-formed and has no value. -/
  | runtime (message : String)
  /-- The engine itself failed. -/
  | internal (causes : Causes)
  deriving DecidableEq, Repr

/-- The text of an error. -/
def EvalError.message : EvalError → String
  | .malformed message column => message ++ " (column " ++ naturalText column ++ ")"
  | .runtime message => message
  | .internal causes => causes.message

/-- How an engine answers a line. -/
inductive Reply where
  | value (v : Value)
  | nothing
  | error (e : EvalError)
  | panicked (p : Panic)

/-- How an engine presents itself. -/
structure EngineInfo where
  engineName : String
  languageName : String
  extensions : List String
  deriving DecidableEq, Repr

/-- The engine answers to an identifier: its own name or one of its
extensions. -/
def EngineInfo.answersTo (info : EngineInfo) (id : String) : Bool :=
  info.engineName == id || info.extensions.contains id

/-- The log record of an engine that is added. -/
def EngineInfo.registrationNote (info : EngineInfo) : String :=
  "registering engine " ++ info.engineName

/-- An engine. It keeps nothing between lines; what it changes are the bindings and
the store that it is lent. -/
structure Engine where
  info : EngineInfo
  eval : String → Workspace → Reply × Workspace

/-- The engines of a session, in the order of registration. -/
structure EngineTable where
  engines : List Engine

namespace EngineTable

/-- No engines. -/
def empty : EngineTable := ⟨[]⟩

/-- Adds an engine after those registered before. -/
def register (table : EngineTable) (engine : Engine) : EngineTable :=
  ⟨table.engines ++ [engine]⟩

/-- How the engines present themselves, in the order of registration. -/
def infos (table : EngineTable) : List EngineInfo := table.engines.map (·.info)

/-- The engine that an identifier stands for: of those that answer to it the one
registered last. -/
def find? (table : EngineTable) (id : String) : Option Engine :=
  table.engines.reverse.find? (·.info.answersTo id)

end EngineTable

end LineRepl
