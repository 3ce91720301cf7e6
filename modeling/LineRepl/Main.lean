/-
The command line: arguments, environment, files and standard input go in, and the two outputs and
the exit status come out.
-/
import LineRepl.Program

namespace LineRepl.Program

/-- All bytes of a stream after those that were read before. -/
partial def readAll (stream : IO.FS.Stream) (before : ByteArray) : IO ByteArray := do
  let more ← stream.read 65536
  if more.isEmpty then return before
  readAll stream (before ++ more)

/-- What reading a file gives. An error of the wrong kind of file names the path if the file could
not be opened, which happens below a file, and names none if it could not be read, which happens to
directories. -/
def readFile (path : String) : IO (Except FileError (List UInt8)) := do
  try
    let bytes ← IO.FS.readBinFile path
    return .ok bytes.toList
  catch
    | .noFileOrDirectory .. => return .error .missing
    | .inappropriateType (some _) .. => return .error .notDirectory
    | .inappropriateType none .. => return .error .isDirectory
    | e => return .error (.other (toString e))

/-- What the environment says. -/
def readEnvironment : IO Environment := do
  return {
    configHome := ← IO.getEnv "XDG_CONFIG_HOME"
    home := ← IO.getEnv "HOME"
    appData := ← IO.getEnv "APPDATA"
    logLevel := ← IO.getEnv "EVALLOOP_LOG" }

end LineRepl.Program

open LineRepl

/-- Runs the program once. -/
def main (arguments : List String) : IO UInt32 := do
  let environment ← Program.readEnvironment
  let file ←
    match Program.configurationFile? arguments environment with
    | some path => Program.readFile path
    | none => pure (.error .missing)
  let input ←
    if Program.readsInput arguments then Program.readAll (← IO.getStdin) .empty else pure .empty
  match Program.run arguments environment (fun _ => file) input.toList with
  | .misused =>
    (← IO.getStderr).putStr Program.usage
    return 2
  | .finished status output messages =>
    (← IO.getStdout).putStr output
    (← IO.getStderr).putStr messages
    return status.toUInt32
