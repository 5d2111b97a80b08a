/-
The command line: reads the files, runs the program on them, and writes what it answers.
-/
import CssSurvey.Run

namespace CssSurvey

/-- The reason for a failed read, from what the system reports. -/
def ReadError.ofSystem : IO.Error → ReadError
  | .noFileOrDirectory .. => .notFound
  | .inappropriateType _ code _ => if code = 21 then .isDirectory else .notDirectory
  | error => .other (toString error).toList

/-- Reads the file at a path. -/
def readFile (path : Text) : BaseIO (Except ReadError Text) := do
  match ← (IO.FS.readBinFile (String.ofList path)).toBaseIO with
  | .ok bytes => return decodeText bytes
  | .error error => return .error (.ofSystem error)

/-- The width of the terminal that the program runs on: its columns, as the environment tells them. There
is none without a terminal, or where nothing is told. -/
def terminalWidth : BaseIO (Option Nat) := do
  let streams := [← IO.getStdout, ← IO.getStderr, ← IO.getStdin]
  if ← streams.anyM (·.isTty) then
    return Terminal.widthOf ((← IO.getEnv "COLUMNS").bind String.toNat?)
  else
    return none

/-- Reads every path that the options name, before the program runs on what was read. -/
def runCommand (arguments : List Text) : BaseIO Outcome := do
  let paths := ((Options.parse? arguments).map Options.paths).getD []
  let files ← paths.mapM fun path => return (path, ← readFile path)
  let read path := (files.lookup path).getD (.error .notFound)
  return Run.withArguments read (← terminalWidth) arguments

/-- The usage of the program. -/
def usage : String := "Usage: css-survey [-v LEVEL] [--dump] PATH..."

end CssSurvey

open CssSurvey in
/-- Runs the program and reports how it ended by its exit code. -/
def main (arguments : List String) : IO UInt32 := do
  let outcome ← runCommand (arguments.map String.toList)
  IO.print (String.ofList outcome.output)
  match outcome with
  | .misused => IO.eprintln usage
  | _ => IO.eprint (String.ofList (outcome.complaint?.getD []))
  return outcome.exitCode.toUInt32
