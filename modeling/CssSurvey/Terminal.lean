/-
Reports on a terminal. When its width is known, each line of a report is cut to it, unless
everything is asked for.
-/
import CssSurvey.Options
import CssSurvey.Text.Lines

namespace CssSurvey.Terminal

/-- The mark at the end of a line that was cut. -/
def cutMark : Text := ['.', '.', '.']

/-- `line` as it is when it has at most `width` characters, else as much of its start as leaves room for
the mark, and the mark. The mark is never shortened: where the width is less than that of the mark, it
is written alone and takes up more than the width. -/
def cutLine (width : Nat) (line : Text) : Text :=
  if line.length ≤ width then line else line.take (width - cutMark.length) ++ cutMark

/-- The width of a terminal that has so many columns; a terminal without columns does not tell. -/
def widthOf (columns : Option Nat) : Option Nat := columns.filter (0 < ·)

/-- What is written for a report. -/
def display (width : Option Nat) (verbosity : Verbosity) (report : Text) : Text :=
  match verbosity, width with
  | .verbose, _ | _, none => report ++ ['\n']
  | _, some width => (Text.lines report).flatMap (cutLine width · ++ ['\n'])

end CssSurvey.Terminal
