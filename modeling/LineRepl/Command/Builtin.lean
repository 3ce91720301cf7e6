/-
The commands that every session has.
-/
import LineRepl.Command
import LineRepl.Count
import LineRepl.Text.Blank

namespace LineRepl.Builtin

/-- Goes on with the argument without blanks around it, and fails with the usage if nothing is
left. -/
def withArgument (usage : String) (argument : Option String) (next : String → Script) : Script :=
  match argument.map Text.trim with
  | none => .fail (.ofMessage ("missing argument, usage: " ++ usage))
  | some text =>
    if text = "" then .fail (.ofMessage ("missing argument, usage: " ++ usage)) else next text

/-- Ends the session. -/
def quit : Command where
  info := ⟨"quit", "quit", "Exit the session"⟩
  script _ := .quit .done

/-- Shows all that is known about the last failure. -/
def stacktrace : Command where
  info := ⟨"stacktrace", "stacktrace", "Show full detail of the last error"⟩
  script _ :=
    .view fun session =>
      match session.lastError with
      | some f => .say f.detail .done
      | none => .say "No stack trace available." .done

/-- Shows the prompt template, or changes it to the argument as it stands. -/
def prompt : Command where
  info :=
    ⟨"prompt", "prompt [template]",
      "Show or set the prompt ($i input count, $e engine, $l language, $S space, $$ dollar)"⟩
  script argument :=
    match argument with
    | none => .view fun session => .say session.prompt.source .done
    | some text =>
      match Prompt.compile text with
      | .ok p => .setPrompt p .done
      | .error e => .fail (.invalidTemplate e)

/-- An engine as it is listed. -/
def engineLine (info : EngineInfo) : String :=
  info.languageName ++ ": " ++ info.engineName ++ " [" ++ String.intercalate ", " info.extensions
    ++ "]"

/-- Lists the engines. -/
def engines : Command where
  info := ⟨"engines", "engines", "List available engines"⟩
  script _ := .view fun session => .sayAll (session.engines.map engineLine) .done

/-- Changes to the engine that the argument names. -/
def setEngine : Command where
  info := ⟨"setEngine", "setEngine <id>", "Switch to another engine, keeping all bindings"⟩
  script argument := withArgument "setEngine <id>" argument fun id => .swapEngine id .done

/-- The lines that describe what a name is bound to: its kind, and a line for each member. -/
def descriptionLines (name : String) : Option Value → List String
  | none => [name ++ " = null"]
  | some v =>
    ("type(" ++ name ++ ") = " ++ v.kind.name) ::
      v.members.map fun m => name ++ "." ++ m.name ++ "[" ++ naturalText m.arity ++ "]"

/-- Describes what the argument is bound to. -/
def describe : Command where
  info := ⟨"describe", "describe <name>", "Show the type and members of a binding"⟩
  script argument :=
    withArgument "describe <name>" argument fun name =>
      .view fun session => .sayAll (descriptionLines name (session.bindings.get? name)) .done

/-- Shows the number of lines of a page, or changes it to the argument. -/
def streamLimit : Command where
  info :=
    ⟨"stream.limit", "stream.limit [n]", "Show or set the number of stream lines between pauses"⟩
  script argument :=
    match argument with
    | none => .view fun session => .say ("stream.limit = " ++ naturalText session.limit) .done
    | some text =>
      match Count.ofText (Text.trim text) with
      | .error fault =>
        .fail (.unexpected ⟨"invalid stream.limit '" ++ text ++ "'", [fault.message]⟩)
      | .ok 0 => .fail (.ofMessage "stream.limit must be positive")
      | .ok limit => .setLimit limit .done

/-- Turns line numbers on or off. -/
def toggleNumLines : Command where
  info := ⟨"stream.toggleNumLines", "stream.toggleNumLines", "Toggle line numbers for streams"⟩
  script _ :=
    .toggleNumbers fun on => .say ("Line numbering " ++ if on then "on" else "off") .done

/-- Lists the commands, page by page. -/
def listCommands : Command where
  info := ⟨"listCommands", "listCommands", "List all commands"⟩
  script _ :=
    .view fun session =>
      .list (session.commands.map fun c =>
        session.commandPrefix ++ c.usage ++ " - " ++ c.description) .done

/-- Lists the names that are bound, with the kinds of their values, page by page. -/
def bindings : Command where
  info := ⟨"bindings", "bindings", "List all bindings with their types"⟩
  script _ :=
    .view fun session =>
      if session.bindings.size = 0 then .say "No bindings" .done
      else .list (session.bindings.kinds.map fun (name, kind) => name ++ ": " ++ kind.name) .done

/-- All of these commands. -/
def all : List Command :=
  [quit, stacktrace, prompt, engines, setEngine, describe, streamLimit, toggleNumLines,
    listCommands, bindings]

end LineRepl.Builtin

namespace LineRepl

/-- The table of the commands that every session has. -/
def CommandTable.builtin : CommandTable :=
  Builtin.all.foldl CommandTable.register .empty

end LineRepl
