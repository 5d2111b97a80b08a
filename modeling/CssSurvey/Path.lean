/-
Paths as given on the command line: the name of the file that a path leads to, its extension, and
whether that is one of HTML.
-/
import CssSurvey.Text.Caseless

namespace CssSurvey.Path

/-- The parts of a path between its slashes, empty ones included. -/
def parts (path : Text) : List Text := path.splitOnP (· = '/')

/-- Whether a part leads to where the path already is. -/
def isStay (part : Text) : Bool := part = [] || part = ['.']

/-- Whether a part leads one directory up. -/
def isUp (part : Text) : Bool := part = ['.', '.']

/-- The last part that leads somewhere, unless it leads up. -/
def fileName? (path : Text) : Option Text :=
  ((parts path).filter (!isStay ·)).getLast?.filter (!isUp ·)

/-- What follows the last dot of the file name. A dot at the start of the name does not count. -/
def extension? (path : Text) : Option Text :=
  (fileName? path).bind fun name =>
    match name.reverse.dropWhile (· ≠ '.') with
    | _ :: _ :: _ => some (name.reverse.takeWhile (· ≠ '.')).reverse
    | _ => none

/-- Whether a path leads to an HTML document: its extension is `html` or `htm` in any case. -/
def isHtml (path : Text) : Bool :=
  (extension? path).any fun ext => ext.sameName "html".toList || ext.sameName "htm".toList

end CssSurvey.Path
