/-
A run of the program: all paths are read before anything is written, so that a path that cannot be
read leaves no output behind. Then come the reports on the stylesheets in the order of the paths,
and a summary of all of them.
-/
import CssSurvey.FileTree
import CssSurvey.Sheet.Dump
import CssSurvey.Sheet.Report
import CssSurvey.StyleElement
import CssSurvey.Summary
import CssSurvey.Terminal

namespace CssSurvey

/-- A path that could not be read. -/
structure ReadFailure where
  path : Text
  reason : ReadError
deriving DecidableEq

/-- What to tell about a path that could not be read. -/
def ReadFailure.message (failure : ReadFailure) : Text :=
  "Error: failed to read ".toList ++ failure.path ++ "\n\nCaused by:\n    ".toList ++
    failure.reason.message ++ ['\n']

/-- How a run ended. -/
inductive Outcome where
  /-- The command line is not well formed. -/
  | misused
  | failed (failure : ReadFailure)
  | finished (output : Text)
deriving DecidableEq

namespace Outcome

/-- The exit code of a run. -/
def exitCode : Outcome → Nat
  | finished _ => 0
  | failed _ => 1
  | misused => 2

/-- What a run writes to standard output. -/
def output : Outcome → Text
  | finished output => output
  | failed _ | misused => []

/-- What a run tells about the path that could not be read. -/
def complaint? : Outcome → Option Text
  | failed failure => some failure.message
  | finished _ | misused => none

end Outcome

namespace Run

/-- The stylesheets in a file: one for each `<style>` element of an HTML document, else the file
itself. -/
def sheetsOf (path text : Text) : List Sheet :=
  if Path.isHtml path then (StyleElement.contents text).map (Sheet.ofStyleElement · path)
  else [Sheet.parse ((Path.fileName? path).getD path) text path]

/-- Reads the stylesheets at one path. -/
def loadPath (read : Text → Except ReadError Text) (path : Text) :
    Except ReadFailure (List Sheet) :=
  match read path with
  | .ok text => .ok (sheetsOf path text)
  | .error reason => .error ⟨path, reason⟩

/-- Reads the stylesheets at all paths, up to the first that cannot be read. -/
def load (read : Text → Except ReadError Text) (paths : List Text) :
    Except ReadFailure (List Sheet) :=
  (paths.mapM (loadPath read)).map List.flatten

/-- The line between two reports. -/
def rule : Text := "\n===============\n\n".toList

/-- What is written for one stylesheet. A dump is never cut and has no rule after it. -/
def sheetOutput (width : Option Nat) (options : Options) (sheet : Sheet) : Text :=
  if options.dump then sheet.dump ++ ['\n']
  else Terminal.display width options.verbosity sheet.report ++ rule

/-- What is written for all stylesheets. -/
def output (width : Option Nat) (options : Options) (sheets : List Sheet) : Text :=
  sheets.flatMap (sheetOutput width options) ++
    Terminal.display width options.verbosity (Summary.ofSheets sheets).report

/-- Runs the program with its options. -/
def withOptions (read : Text → Except ReadError Text) (width : Option Nat) (options : Options) :
    Outcome :=
  match load read options.paths with
  | .error failure => .failed failure
  | .ok sheets => .finished (output width options sheets)

/-- Runs the program with the arguments of its command line. -/
def withArguments (read : Text → Except ReadError Text) (width : Option Nat)
    (arguments : List Text) : Outcome :=
  match Options.parse? arguments with
  | none => .misused
  | some options => withOptions read width options

end Run

end CssSurvey
