/-
The options of the command line. They may stand before, between and after the paths; `--` ends
them. Each may be given once, and at least one path must be.
-/
import CssSurvey.Text.Basic

namespace CssSurvey

/-- How much of each report is shown. -/
inductive Verbosity where
  | quiet
  | normal
  | verbose
deriving DecidableEq

/-- The verbosity of a name. -/
def Verbosity.ofName? (name : Text) : Option Verbosity :=
  if name = "quiet".toList then some quiet
  else if name = "normal".toList then some normal
  else if name = "verbose".toList then some verbose
  else none

/-- What the command line asks for. -/
structure Options where
  paths : List Text
  verbosity : Verbosity
  dump : Bool
deriving DecidableEq

namespace Options

/-- One argument, taken by itself. -/
inductive Argument where
  | path (path : Text)
  | dump
  | verbosity (name : Text)
  /-- The verbosity, named by the next argument. -/
  | verbosityNext
  | endOfOptions
  | unknown
deriving DecidableEq

/-- The kind of an argument. A lone hyphen is a path. -/
def Argument.ofText : Text → Argument
  | ['-', '-'] => endOfOptions
  | '-' :: '-' :: option =>
    if option = "dump".toList then dump
    else if option = "verbose".toList then verbosityNext
    else
      match "verbose=".toList.isPrefixOf? option with
      | some name => verbosity name
      | none => unknown
  | ['-'] => path ['-']
  | ['-', 'v'] => verbosityNext
  | '-' :: 'v' :: '=' :: name => verbosity name
  | '-' :: 'v' :: name => verbosity name
  | '-' :: _ => unknown
  | text => path text

/-- What the arguments so far ask for; the paths are in reverse. -/
structure Draft where
  paths : List Text := []
  verbosity : Option Verbosity := none
  dump : Bool := false

namespace Draft

/-- Adds a path, which must not be empty. -/
def addPath? (draft : Draft) (path : Text) : Option Draft :=
  if path.isEmpty then none else some { draft with paths := path :: draft.paths }

/-- Sets the verbosity by its name, once. -/
def setVerbosity? (draft : Draft) (name : Text) : Option Draft :=
  match draft.verbosity, Verbosity.ofName? name with
  | none, some level => some { draft with verbosity := some level }
  | _, _ => none

/-- Asks for a dump, once. -/
def setDump? (draft : Draft) : Option Draft :=
  if draft.dump then none else some { draft with dump := true }

/-- Reads the arguments that are left. -/
def read? (draft : Draft) : List Text → Option Draft
  | [] => some draft
  | argument :: rest =>
    match Argument.ofText argument with
    | .path path => (draft.addPath? path).bind (read? · rest)
    | .dump => draft.setDump?.bind (read? · rest)
    | .verbosity name => (draft.setVerbosity? name).bind (read? · rest)
    | .verbosityNext =>
      match rest with
      | [] => none
      | name :: rest => (draft.setVerbosity? name).bind (read? · rest)
    | .endOfOptions => rest.foldlM addPath? draft
    | .unknown => none

end Draft

/-- Reads the arguments of the command line; there are no options when it is not well formed. -/
def parse? (arguments : List Text) : Option Options :=
  (Draft.read? {} arguments).bind fun draft =>
    if draft.paths.isEmpty then none
    else some ⟨draft.paths.reverse, draft.verbosity.getD .quiet, draft.dump⟩

end Options

end CssSurvey
