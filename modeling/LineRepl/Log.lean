/-
Log records and the level from which on they are shown.

* `LogLevel.ofText?`: the level that a word names.
* `LogLevel.resolve`: the level of a run: what the environment names, or else what was asked
  for on the command line.
* `LogRecord.line`: a record as it is shown.
-/
import LineRepl.Text.Blank

namespace LineRepl

/-- How important a record is, the least important first. -/
inductive LogLevel where
  | debug
  | info
  | warn
  | error
  deriving DecidableEq, Repr

namespace LogLevel

/-- The place of a level among the levels. -/
def rank : LogLevel → Nat
  | .debug => 0
  | .info => 1
  | .warn => 2
  | .error => 3

/-- The name of a level in records. -/
def name : LogLevel → String
  | .debug => "DEBUG"
  | .info => "INFO"
  | .warn => "WARN"
  | .error => "ERROR"

/-- The word without blanks around it and with small letters for the capitals from `A` to
`Z`. -/
def normalize (word : String) : String :=
  String.ofList ((Text.trim word).toList.map Char.toLower)

/-- The level that a word names; the case of letters and blanks around the word do not
matter. An unknown word is given back in the error. -/
def ofText? (word : String) : Except String LogLevel :=
  let w := normalize word
  if w == "debug" then .ok .debug
  else if w == "info" then .ok .info
  else if w == "warn" || w == "warning" then .ok .warn
  else if w == "error" then .ok .error
  else .error ("unknown log level '" ++ w ++ "'")

/-- The level of a run: the one that the environment names, if it names one; else all records
if they were asked for, and warnings and errors if not. -/
def resolve (environment : Option String) (verbose : Bool) : LogLevel :=
  match environment.map ofText? with
  | some (.ok level) => level
  | _ => if verbose then .debug else .warn

end LogLevel

/-- A record of what a session does. -/
structure LogRecord where
  level : LogLevel
  message : String
  deriving DecidableEq, Repr

namespace LogRecord

/-- The record is shown at a level. -/
def shownAt (r : LogRecord) (level : LogLevel) : Bool := level.rank ≤ r.level.rank

/-- The characters with which a terminal can be controlled, other than those that lay out
lines. -/
def isTerminalControl (c : Char) : Bool :=
  c == '\x07' || c == '\x08' || c == '\x0c' || c == '\x1b' || ('\x7f' ≤ c && c ≤ '\u009f')

/-- A character as records show it: the code of a control character is spelled out. -/
def visible (c : Char) : List Char :=
  if !isTerminalControl c then [c]
  else
    let digits := Nat.toDigits 16 c.toNat
    if c ≤ '\x7f' then ['\\', 'x'] ++ List.replicate (2 - digits.length) '0' ++ digits
    else ['\\', 'u', '\x7b'] ++ digits ++ ['\x7d']

/-- A record as a line: its level, right-aligned in five columns, and its message. -/
def line (r : LogRecord) : String :=
  String.ofList (List.replicate (5 - r.level.name.length) ' ') ++ r.level.name ++ " " ++
    String.ofList (r.message.toList.flatMap visible) ++ "\n"

end LogRecord

end LineRepl
