/-
Files by name: what reading one gives.
-/

namespace LineRepl

/-- Why a file cannot be read. -/
inductive FileError where
  | missing
  | notDirectory
  | isDirectory
  | other (reason : String)
  deriving DecidableEq, Repr

/-- The text of an error. -/
def FileError.message : FileError → String
  | .missing => "No such file or directory (os error 2)"
  | .notDirectory => "Not a directory (os error 20)"
  | .isDirectory => "Is a directory (os error 21)"
  | .other reason => reason

/-- Nothing is there under the name. -/
def FileError.isAbsence : FileError → Bool
  | .missing | .notDirectory => true
  | .isDirectory | .other _ => false

/-- What reading the file of a name gives: its bytes, or why there are none. -/
abbrev Files := String → Except FileError (List UInt8)

/-- The name of something in a directory. A name in the nameless directory stands alone, and a
slash that is already there is not doubled. -/
def joinPath (directory name : String) : String :=
  match directory.toList.getLast? with
  | none => name
  | some '/' => directory ++ name
  | some _ => directory ++ "/" ++ name

end LineRepl
