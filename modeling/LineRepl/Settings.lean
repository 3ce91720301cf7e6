/-
Settings of a session.
-/
import LineRepl.Text.Quoted
import LineRepl.Binary64.Text

namespace LineRepl

/-- What a user can choose before a session starts. -/
structure Settings where
  prompt : String := "$l:$i> "
  outputPrefix : String := " ==> "
  commandPrefix : String := "::"
  streamLimit : Nat := 100
  numberLines : Bool := false
  defaultEngine : String := "calc"
  deriving DecidableEq, Repr

/-- The settings as they are shown in log records. -/
def Settings.debugText (s : Settings) : String :=
  "ReplSettings \x7b prompt: " ++ Text.quoted s.prompt ++
    ", output_prefix: " ++ Text.quoted s.outputPrefix ++
    ", command_prefix: " ++ Text.quoted s.commandPrefix ++
    ", stream_limit: " ++ naturalText s.streamLimit ++
    ", number_lines: " ++ (if s.numberLines then "true" else "false") ++
    ", default_engine: " ++ Text.quoted s.defaultEngine ++ " \x7d"

end LineRepl
