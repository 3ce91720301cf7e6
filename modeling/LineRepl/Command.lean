/-
Commands: what a session can be asked for by name.

A command does its work by a script, which is data: a script asks for one thing after another, and
the session does them. So a table of commands can be kept in the session that they work on.

* `Script`: what commands can ask for.
* `CommandTable.register`, `CommandTable.find?`: the table of commands, sorted by name.
-/
import LineRepl.Failure

namespace LineRepl

/-- How a command presents itself. -/
structure CommandInfo where
  name : String
  usage : String
  description : String
  deriving DecidableEq, Repr

/-- What a command can see of its session. -/
structure View where
  lastError : Option Failure
  prompt : Prompt
  commandPrefix : String
  limit : Nat
  engines : List EngineInfo
  bindings : Bindings
  commands : List CommandInfo

/-- What a command does, step by step. A step that fails ends the script with its failure. -/
inductive Script where
  | done
  | fail (f : Failure)
  /-- Looks at the session. -/
  | view (next : View → Script)
  /-- Writes a text to the console. -/
  | write (text : String) (next : Script)
  /-- Reads a line from the console; none at the end of input. -/
  | readLine (prompt : String) (next : Option String → Script)
  /-- Lists lines page by page. -/
  | list (lines : List String) (next : Script)
  /-- Binds a name to a value. -/
  | bind (name : String) (v : Value) (next : Script)
  /-- Changes the prompt. -/
  | setPrompt (p : Prompt) (next : Script)
  /-- Changes the number of lines of a page. -/
  | setLimit (limit : Nat) (next : Script)
  /-- Turns line numbers on or off, and goes on with whether they are on. -/
  | toggleNumbers (next : Bool → Script)
  /-- Changes to another engine. -/
  | swapEngine (id : String) (next : Script)
  /-- Ends the session after the line. -/
  | quit (next : Script)
  /-- Handles the argument of the command as a line of its own. -/
  | runArgument (next : Script)

namespace Script

/-- Writes a line. -/
def say (line : String) (next : Script) : Script := .write (line ++ "\n") next

/-- Writes lines, each by itself. -/
def sayAll (lines : List String) (next : Script) : Script := lines.foldr say next

end Script

/-- A command: how it presents itself, and what it does with its argument. -/
structure Command where
  info : CommandInfo
  script : Option String → Script

/-- The command as it is shown inside other structures. -/
def CommandInfo.debugText (c : CommandInfo) : String :=
  "Command \x7b name: " ++ Text.quoted c.name ++ ", usage: " ++ Text.quoted c.usage ++ ", .. \x7d"

/-- Commands, one for each name, in the order of their names. -/
structure CommandTable where
  commands : List Command

namespace CommandTable

/-- No commands. -/
def empty : CommandTable := ⟨[]⟩

/-- Puts a command among commands that are sorted by name, in place of one of the same
name. -/
def insertSorted (c : Command) : List Command → List Command
  | [] => [c]
  | d :: rest =>
    if c.info.name < d.info.name then c :: d :: rest
    else if c.info.name = d.info.name then c :: rest
    else d :: insertSorted c rest

/-- Adds a command, in place of one of the same name. -/
def register (table : CommandTable) (c : Command) : CommandTable :=
  ⟨insertSorted c table.commands⟩

/-- The command of a name. -/
def find? (table : CommandTable) (name : String) : Option Command :=
  table.commands.find? (·.info.name == name)

/-- How the commands present themselves, in the order of their names. -/
def infos (table : CommandTable) : List CommandInfo := table.commands.map (·.info)

/-- The number of commands. -/
def size (table : CommandTable) : Nat := table.commands.length

end CommandTable

end LineRepl
