/-
The program around a session: its arguments, its configuration, the session over its input, and
what it leaves behind.

* `Request.read?`: what the arguments ask for.
* `Program.run`: the whole run, from the arguments, the environment, the files and the input to the
  exit status and the two outputs.
-/
import LineRepl.Configuration
import LineRepl.Console.Bytes
import LineRepl.Engine.Builtin
import LineRepl.Session.Run

namespace LineRepl

/-! ### Arguments -/

/-- What the arguments say about a session. -/
structure Invocation where
  /-- The engine to start with. -/
  engine : Option String := none
  /-- All log records are to be shown. -/
  verbose : Bool := false
  /-- The file to read settings from. -/
  configuration : Option String := none
  deriving DecidableEq, Repr

namespace Invocation

/-- The invocation with an engine; there can be one only. -/
def withEngine? (i : Invocation) (engine : String) : Option Invocation :=
  if i.engine.isSome then none else some { i with engine := some engine }

/-- The invocation that asks for all log records, which it may do once. -/
def withVerbose? (i : Invocation) : Option Invocation :=
  if i.verbose then none else some { i with verbose := true }

/-- The invocation with a configuration file; there can be one only, and its name is not
empty. -/
def withConfiguration? (i : Invocation) (path : String) : Option Invocation :=
  if i.configuration.isSome ∨ path.isEmpty then none
  else some { i with configuration := some path }

end Invocation

/-- What the arguments ask for. -/
inductive Request where
  | session (i : Invocation)
  | version
  deriving DecidableEq, Repr

namespace Request

/-- The argument names options: it starts with a hyphen and goes on. -/
def isOption (argument : String) : Bool :=
  match argument.toList with
  | '-' :: _ :: _ => true
  | _ => false

/-- Reads the letters of short options, up to one that ends all reading. -/
def readLetters? (i : Invocation) : List Char → Option Request
  | [] => some (.session i)
  | 'v' :: letters => i.withVerbose?.bind fun i => readLetters? i letters
  | 'V' :: _ => some .version
  | _ :: _ => none

/-- Reads the arguments after the end of the options. -/
def readPlain? (i : Invocation) : List String → Option Request
  | [] => some (.session i)
  | engine :: arguments => (i.withEngine? engine).bind fun i => readPlain? i arguments

/-- Reads arguments from left to right. The first one that is wrong ends the reading, and so does
the question for the version. -/
def readFrom? (i : Invocation) : List String → Option Request
  | [] => some (.session i)
  | "--" :: arguments => readPlain? i arguments
  | "--verbose" :: arguments => i.withVerbose?.bind fun i => readFrom? i arguments
  | "--version" :: _ => some .version
  | "--config" :: path :: arguments =>
    if isOption path then none
    else (i.withConfiguration? path).bind fun i => readFrom? i arguments
  | argument :: arguments =>
    match argument.toList with
    | '-' :: '-' :: 'c' :: 'o' :: 'n' :: 'f' :: 'i' :: 'g' :: '=' :: path =>
      (i.withConfiguration? (String.ofList path)).bind fun i => readFrom? i arguments
    | '-' :: '-' :: _ => none
    | '-' :: c :: letters =>
      match readLetters? i (c :: letters) with
      | some (.session i) => readFrom? i arguments
      | other => other
    | _ => (i.withEngine? argument).bind fun i => readFrom? i arguments

/-- What the arguments ask for, if they are well-formed. -/
def read? (arguments : List String) : Option Request := readFrom? {} arguments

end Request

/-! ### Runs -/

/-- How a run of the program ends. -/
inductive Ending where
  /-- The arguments are wrong, and nothing is done. -/
  | misused
  /-- The run ended with an exit status, its output and its messages. -/
  | finished (status : Nat) (output messages : String)
  deriving DecidableEq, Repr

namespace Program

/-- The name of the program. -/
def name : String := "evalloop"

/-- The version of the program. -/
def version : String := "0.1.0"

/-- How the program is called. -/
def usage : String := "Usage: " ++ name ++ " [--verbose] [--config FILE] [ENGINE]\n"

/-- Log records that are shown at a level, one after another. -/
def logText (level : LogLevel) (records : List LogRecord) : String :=
  String.join ((records.filter (·.shownAt level)).map LogRecord.line)

/-- The message of a failed run: what failed and the reasons for it, after a bold red word. -/
def errorText (chain : List String) : String :=
  "\x1b[1m\x1b[31merror:\x1b[39m\x1b[0m " ++ String.intercalate ": " chain ++ "\n"

/-- A failure followed by the reasons for it. -/
def failureChain : Failure → List String
  | .io e => [(Failure.io e).message, e.message]
  | f => [f.message]

/-- The run that failed, with the log records up to then. -/
def failed (level : LogLevel) (records : List LogRecord) (output : String) (chain : List String) :
    Ending :=
  .finished 1 output (logText level records ++ errorText chain)

/-- The settings that an invocation names, or those of the user. -/
def configuration (i : Invocation) (e : Environment) (files : Files) :
    Except (List String) Settings :=
  match i.configuration with
  | some path =>
    match Configuration.load files path with
    | .ok settings => .ok settings
    | .error f => .error (("Failed to load config: " ++ path) :: f.chain)
  | none =>
    match Configuration.loadUser files e with
    | .ok settings => .ok settings
    | .error f => .error ("Failed to load user config" :: f.chain)

/-- The settings with the engine of an invocation in place of the default one. -/
def withEngine (i : Invocation) (settings : Settings) : Settings :=
  { settings with defaultEngine := i.engine.getD settings.defaultEngine }

/-- The log records before a session starts. -/
def preamble (s : Settings) : List LogRecord :=
  ⟨.debug, "settings: " ++ s.debugText⟩ ::
    EngineTable.builtin.infos.map fun info => ⟨.debug, info.registrationNote⟩

/-- Runs a session over the input. -/
def runSession (level : LogLevel) (settings : Settings) (input : List UInt8) : Ending :=
  let before := preamble settings
  match Session.ofSettings? .builtin settings (ByteConsole.ofBytes input) with
  | .error f =>
    failed level before ""
      (("Cannot start engine '" ++ settings.defaultEngine ++ "'") :: failureChain f)
  | .ok session =>
    match session.run with
    | (.error f, s) =>
      failed level (before ++ s.log.toList) s.console.output ("Console failure" :: failureChain f)
    | (.ok (), s) => .finished 0 s.console.output (logText level (before ++ s.log.toList))

/-- Runs the program. -/
def run (arguments : List String) (e : Environment) (files : Files) (input : List UInt8) : Ending :=
  match Request.read? arguments with
  | none => .misused
  | some .version => .finished 0 (name ++ " " ++ version ++ "\n") ""
  | some (.session i) =>
    let level := LogLevel.resolve e.logLevel i.verbose
    match configuration i e files with
    | .error chain => failed level [] "" chain
    | .ok settings => runSession level (withEngine i settings) input

/-- The file that a run reads, if it reads one. -/
def configurationFile? (arguments : List String) (e : Environment) : Option String :=
  match Request.read? arguments with
  | some (.session i) => i.configuration.or (Configuration.path? e)
  | _ => none

/-- The run reads the input. -/
def readsInput (arguments : List String) : Bool :=
  match Request.read? arguments with
  | some (.session _) => true
  | _ => false

end Program

end LineRepl
