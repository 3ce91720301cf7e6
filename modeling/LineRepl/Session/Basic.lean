/-
The state of a session, how it starts and how it is changed from outside.

* `Session.start`: a session with default settings.
* `Session.ofSettings?`: a session with chosen settings, or why there is none.
-/
import LineRepl.Command.Builtin
import LineRepl.CommandLine
import LineRepl.Log
import LineRepl.Printer
import LineRepl.Settings

namespace LineRepl

/-- What a line starts with that names a command. -/
structure CommandPrefix where
  text : String
  nonempty : text ≠ ""
  deriving DecidableEq

/-- Two colons. -/
def CommandPrefix.default : CommandPrefix := ⟨"::", by decide⟩

instance : Inhabited CommandPrefix := ⟨CommandPrefix.default⟩

/-- A session at a console of type `κ`. -/
structure Session (κ : Type) where
  /-- The session is running and has not been asked to stop. -/
  running : Bool
  /-- How many lines have been handled. -/
  inputCount : Nat
  prompt : Prompt
  commandPrefix : CommandPrefix
  /-- The last failure that was reported. -/
  lastError : Option Failure
  printer : Printer
  commands : CommandTable
  engines : EngineTable
  /-- The engine that lines are evaluated by. -/
  engine : Engine
  workspace : Workspace
  console : κ
  /-- What happened so far, for the log. -/
  log : Array LogRecord

namespace Session

variable {κ : Type}

/-- A session with default settings. -/
def start (engines : EngineTable) (engine : Engine) (console : κ) : Session κ where
  running := false
  inputCount := 0
  prompt := .default
  commandPrefix := .default
  lastError := none
  printer := .default
  commands := .builtin
  engines := engines
  engine := engine
  workspace := .empty
  console := console
  log := #[]

/-- Adds a record to the log. -/
def note (s : Session κ) (level : LogLevel) (message : String) : Session κ :=
  { s with log := s.log.push ⟨level, message⟩ }

/-! ### Changes from outside -/

/-- Changes the prompt to the template that a text spells. -/
def setPrompt (s : Session κ) (text : String) : Except Failure (Session κ) :=
  match Prompt.compile text with
  | .ok prompt => .ok { s with prompt }
  | .error e => .error (.invalidTemplate e)

/-- Changes what stands between the number of a result and its value. -/
def setOutputPrefix (s : Session κ) (text : String) : Session κ :=
  { s with printer := { s.printer with outputPrefix := text } }

/-- Changes what a line that names a command starts with. The empty text is refused. -/
def setCommandPrefix (s : Session κ) (text : String) : Session κ :=
  if h : text = "" then
    s.note .warn ("ignoring empty command prefix, keeping '" ++ s.commandPrefix.text ++ "'")
  else { s with commandPrefix := ⟨text, h⟩ }

/-- Changes how many lines of a stream make a page. -/
def setLimit (s : Session κ) (limit : Nat) : Session κ :=
  { s with printer := { s.printer with paginator := s.printer.paginator.setLimit limit } }

/-- Turns line numbers of streams on or off. -/
def setNumbered (s : Session κ) (on : Bool) : Session κ :=
  { s with
    printer := { s.printer with paginator := { s.printer.paginator with numbered := on } } }

/-- Changes to the engine that an identifier stands for; all bindings stay. -/
def swapEngine (s : Session κ) (id : String) : Except Failure Unit × Session κ :=
  match s.engines.find? id with
  | none => (.error (.unknownEngine id), s)
  | some engine =>
    let s := s.note .info ("switching engine: " ++ s.engine.info.engineName ++ " -> " ++
      engine.info.engineName)
    (.ok (), { s with engine })

/-- Adds an engine to those that the session can change to. -/
def registerEngine (s : Session κ) (engine : Engine) : Session κ :=
  let s := s.note .debug engine.info.registrationNote
  { s with engines := s.engines.register engine }

/-- Adds a command, in place of one of the same name. -/
def addCommand (s : Session κ) (c : Command) : Session κ :=
  let s := s.note .debug ("adding command '" ++ c.info.name ++ "'")
  { s with commands := s.commands.register c }

/-- Gives a kind of values a renderer. -/
def setRenderer (s : Session κ) (kind : Kind) (render : Renderer) : Session κ :=
  { s with printer := s.printer.setRenderer kind render }

/-- Ends the session after the line that is being handled. -/
def stop (s : Session κ) : Session κ := { s with running := false }

/-- A session with chosen settings. The default engine has to be among the engines, and the prompt
has to be a template. -/
def ofSettings? (engines : EngineTable) (settings : Settings) (console : κ) :
    Except Failure (Session κ) :=
  match engines.find? settings.defaultEngine with
  | none => .error (.unknownEngine settings.defaultEngine)
  | some engine =>
    match (start engines engine console).setPrompt settings.prompt with
    | .error f => .error f
    | .ok s =>
      let s := (s.setOutputPrefix settings.outputPrefix).setCommandPrefix settings.commandPrefix
      .ok ((s.setLimit settings.streamLimit).setNumbered settings.numberLines)

/-! ### Views -/

/-- The prompt that is shown next. -/
def renderPrompt (s : Session κ) : String :=
  s.prompt.render ⟨s.inputCount, s.engine.info.engineName, s.engine.info.languageName⟩

/-- What commands see of the session. -/
def view (s : Session κ) : View where
  lastError := s.lastError
  prompt := s.prompt
  commandPrefix := s.commandPrefix.text
  limit := s.printer.paginator.limit
  engines := s.engines.infos
  bindings := s.workspace.bindings
  commands := s.commands.infos

end Session

end LineRepl
