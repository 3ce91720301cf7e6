/-
The configuration of the program: a document with settings, and where it lies.

* `Settings.ofTable?`: the settings in the table of a document.
* `Configuration.parse`: the settings that a text gives.
* `Configuration.load`: the settings in a file.
* `Configuration.loadUser`: the settings in the user's own file, which need not be there.
-/
import LineRepl.File
import LineRepl.Settings
import LineRepl.Toml.Document

namespace LineRepl

/-! ### Settings in a document -/

namespace Settings

/-- A text where settings want one. -/
def textOf? : Toml.Node → Option String
  | .string s => some s
  | _ => none

/-- A number of lines where settings want one. -/
def limitOf? : Toml.Node → Option Nat
  | .integer n => if 0 ≤ n then some n.toNat else none
  | _ => none

/-- A choice where settings want one. -/
def flagOf? : Toml.Node → Option Bool
  | .boolean b => some b
  | _ => none

/-- The value of a setting: read from its node, or the usual one if there is no node. Nothing if the
node is of the wrong kind. -/
def fieldOf? {α : Type} (read : Toml.Node → Option α) (usual : α) : Option Toml.Node → Option α
  | none => some usual
  | some node => read node

/-- The settings whose nodes are found by the names of the settings. -/
def ofFields? (find : String → Option Toml.Node) : Option Settings := do
  let usual : Settings := {}
  let prompt ← fieldOf? textOf? usual.prompt (find "prompt")
  let outputPrefix ← fieldOf? textOf? usual.outputPrefix (find "output_prefix")
  let commandPrefix ← fieldOf? textOf? usual.commandPrefix (find "command_prefix")
  let streamLimit ← fieldOf? limitOf? usual.streamLimit (find "stream_limit")
  let numberLines ← fieldOf? flagOf? usual.numberLines (find "number_lines")
  let defaultEngine ← fieldOf? textOf? usual.defaultEngine (find "default_engine")
  some { prompt, outputPrefix, commandPrefix, streamLimit, numberLines, defaultEngine }

/-- The names of the settings, in the order in which a list gives them. -/
def fieldNames : List String :=
  ["prompt", "output_prefix", "command_prefix", "stream_limit", "number_lines", "default_engine"]

/-- The settings in a node: a table by names or a list by places. A date names none of them, and so
all settings are the usual ones. -/
def ofNode? : Toml.Node → Option Settings
  | .table _ entries => ofFields? fun name => entries.lookup name
  | .array items => ofFields? fun name => (fieldNames.zip items).lookup name
  | .tables elements =>
    let items := elements.map (Toml.Node.table .header)
    ofFields? fun name => (fieldNames.zip items).lookup name
  | .datetime => some {}
  | .string _ | .integer _ | .float _ | .boolean _ => none

/-- The settings in a document, which stand under `repl`; what else is there does not matter. -/
def ofTable? (t : Toml.Table) : Option Settings := fieldOf? ofNode? {} (t.lookup "repl")

end Settings

/-! ### Configuration files -/

/-- What the environment of the program says. -/
structure Environment where
  /-- Where configurations lie. -/
  configHome : Option String := none
  /-- The home of the user. -/
  home : Option String := none
  /-- Where data of programs lie. -/
  appData : Option String := none
  /-- From which level on log records are shown. -/
  logLevel : Option String := none
  deriving DecidableEq, Repr

/-- Why there are no settings. -/
inductive ConfigurationError where
  | unreadable (path reason : String)
  | malformed
  deriving DecidableEq, Repr

namespace ConfigurationError

/-- The text of an error. -/
def message : ConfigurationError → String
  | .unreadable path reason => "Cannot read " ++ path ++ ": " ++ reason
  | .malformed => "Config parse error: the document is malformed or a setting has the wrong kind"

/-- The text of an error and the reasons for it. -/
def chain : ConfigurationError → List String
  | .unreadable path reason => [(unreadable path reason).message, reason]
  | .malformed => [malformed.message]

end ConfigurationError

namespace Configuration

/-- The directory for the program's configuration. -/
def directory? (e : Environment) : Option String :=
  ((e.configHome.map (joinPath · "evalloop")).or
    (e.home.map fun home => joinPath (joinPath home ".config") "evalloop")).or
    (e.appData.map (joinPath · "evalloop"))

/-- The path of the user's configuration file. -/
def path? (e : Environment) : Option String := (directory? e).map (joinPath · "config.toml")

/-- The settings that a text gives. -/
def parse (text : String) : Except ConfigurationError Settings :=
  match (Toml.Document.read? text).bind Settings.ofTable? with
  | some settings => .ok settings
  | none => .error .malformed

/-- The reason of bytes that are not UTF-8. -/
def notTextReason : String := "stream did not contain valid UTF-8"

/-- The settings in bytes that were read from a path. -/
def ofBytes (path : String) (bytes : List UInt8) : Except ConfigurationError Settings :=
  match String.fromUTF8? ⟨bytes.toArray⟩ with
  | some text => parse text
  | none => .error (.unreadable path notTextReason)

/-- The settings in a file, which has to be there. -/
def load (files : Files) (path : String) : Except ConfigurationError Settings :=
  match files path with
  | .ok bytes => ofBytes path bytes
  | .error e => .error (.unreadable path e.message)

/-- The settings in the user's file. They are the usual ones if there is no such file and no place
for it. -/
def loadUser (files : Files) (e : Environment) : Except ConfigurationError Settings :=
  match path? e with
  | none => .ok {}
  | some path =>
    match files path with
    | .ok bytes => ofBytes path bytes
    | .error f => if f.isAbsence then .ok {} else .error (.unreadable path f.message)

end Configuration

end LineRepl
