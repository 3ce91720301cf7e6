/-
Failures of a session, and the two texts that are made of them.

* `Failure.report`: the one line that is written when a line fails.
* `Failure.detail`: everything that is known, as shown on demand.
* `Causes.detail`: a message followed by its causes, indented and numbered.
-/
import LineRepl.Engine
import LineRepl.Prompt

namespace LineRepl

/-- The kinds of input and output errors. -/
inductive IoKind where
  | brokenPipe
  | invalidData
  | other
  deriving DecidableEq, Repr

/-- The name of a kind of error. -/
def IoKind.name : IoKind → String
  | .brokenPipe => "BrokenPipe"
  | .invalidData => "InvalidData"
  | .other => "Other"

/-- An error of the console. -/
structure IoError where
  kind : IoKind
  message : String
  deriving DecidableEq, Repr

/-- Why handling a line failed. -/
inductive Failure where
  | invalidTemplate (e : TemplateError)
  | unknownCommand (name : String)
  | unknownEngine (id : String)
  | evaluation (e : EvalError)
  | unexpected (causes : Causes)
  | io (e : IoError)
  deriving DecidableEq, Repr

namespace Failure

/-- The failure that an engine's error is: its own failures are unexpected. -/
def ofEvalError : EvalError → Failure
  | .internal causes => .unexpected causes
  | e => .evaluation e

/-- An unexpected failure without a cause of its own. -/
def ofMessage (message : String) : Failure := .unexpected ⟨message, []⟩

/-- The text of a failure. -/
def message : Failure → String
  | .invalidTemplate e =>
    "Invalid prompt template: " ++ e.fault.message ++ " at position " ++ naturalText e.position
  | .unknownCommand name => "No such command: " ++ name
  | .unknownEngine id => "No such engine: " ++ id
  | .evaluation e => e.message
  | .unexpected causes => causes.message
  | .io e => "IO error: " ++ e.message

/-- The line that reports a failure. -/
def report : Failure → String
  | .unexpected causes => "Caught exception: " ++ causes.message
  | f => f.message

end Failure

/-! ### Details -/

/-- The lines of a text, which has one more of them than line feeds. -/
def splitLines (text : List Char) : List (List Char) :=
  match text with
  | [] => [[]]
  | c :: rest =>
    if c = '\n' then [] :: splitLines rest
    else
      match splitLines rest with
      | line :: lines => (c :: line) :: lines
      | [] => [[c]]

/-- Text put after a label, with its further lines under the first. -/
def hanging (label indent text : String) : String :=
  label ++ String.intercalate ("\n" ++ indent) ((splitLines text.toList).map String.ofList)

/-- The number before a cause, right-aligned in five columns. -/
def causeLabel (index : Nat) : String :=
  let digits := naturalText index
  String.ofList (List.replicate (5 - digits.length) ' ') ++ digits ++ ": "

/-- Causes with their numbers, one after another. -/
def numberedCauses (index : Nat) : List String → List String
  | [] => []
  | cause :: rest =>
    hanging (causeLabel index) "       " cause :: numberedCauses (index + 1) rest

/-- A message and, below it, what caused it: a single cause is indented, several are
numbered from zero. -/
def Causes.detail (c : Causes) : String :=
  match c.causes with
  | [] => c.message
  | [cause] => c.message ++ "\n\nCaused by:\n" ++ hanging "    " "    " cause
  | causes =>
    c.message ++ "\n\nCaused by:\n" ++ String.intercalate "\n" (numberedCauses 0 causes)

/-- A structure with its fields laid out one to a line, as details show it. -/
inductive Layout where
  | atom (text : String)
  | tuple (name : String) (fields : List Layout)
  | record (name : String) (fields : List (String × Layout))

namespace Layout

/-- Four spaces for every level. -/
def indentText (level : Nat) : String := String.ofList (List.replicate (4 * level) ' ')

mutual

/-- The text of a structure whose first line stands at the given level. -/
def text (level : Nat) : Layout → String
  | .atom t => t
  | .tuple name fields => name ++ "(\n" ++ tupleText (level + 1) fields ++ indentText level ++ ")"
  | .record name fields =>
    name ++ " \x7b\n" ++ recordText (level + 1) fields ++ indentText level ++ "\x7d"

/-- The lines of fields without names. -/
def tupleText (level : Nat) : List Layout → String
  | [] => ""
  | field :: rest => indentText level ++ field.text level ++ ",\n" ++ tupleText level rest

/-- The lines of fields with names. -/
def recordText (level : Nat) : List (String × Layout) → String
  | [] => ""
  | (name, field) :: rest =>
    indentText level ++ name ++ ": " ++ field.text level ++ ",\n" ++ recordText level rest

end

/-- A quoted text. -/
def quoted (s : String) : Layout := .atom (Text.quoted s)

/-- The structure of a template fault. -/
def ofTemplateFault : TemplateFault → Layout
  | .unknownDirective c => .tuple "UnknownDirective" [.atom (Text.quotedChar c)]
  | .danglingEscape => .atom "DanglingEscape"

/-- The structure of an engine's error. -/
def ofEvalError : EvalError → Layout
  | .malformed message column =>
    .record "Syntax" [("message", quoted message), ("column", .atom (naturalText column))]
  | .runtime message => .tuple "Runtime" [quoted message]
  | .internal causes => .tuple "Internal" [.atom causes.detail]

/-- The structure of a failure. -/
def ofFailure : Failure → Layout
  | .invalidTemplate e =>
    .record "InvalidTemplate"
      [("reason", ofTemplateFault e.fault), ("position", .atom (naturalText e.position))]
  | .unknownCommand name => .tuple "UnknownCommand" [quoted name]
  | .unknownEngine id => .tuple "UnknownEvaluator" [quoted id]
  | .evaluation e => .tuple "Evaluation" [ofEvalError e]
  | .unexpected causes => .tuple "Unexpected" [.atom causes.detail]
  | .io e =>
    .tuple "Io" [.record "Custom" [("kind", .atom e.kind.name), ("error", quoted e.message)]]

end Layout

/-- The full detail of a failure: the causes of an unexpected one, the text and the structure
of any other. -/
def Failure.detail : Failure → String
  | .unexpected causes => causes.detail
  | .evaluation (.internal causes) => causes.detail
  | f => f.message ++ "\n" ++ (Layout.ofFailure f).text 0

end LineRepl
