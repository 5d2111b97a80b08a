/-
Lines, and the text of several lines joined into one. A line ends at a line feed, or at a carriage
return directly followed by one; any other carriage return belongs to its line.
-/
import CssSurvey.Text.Blank

namespace CssSurvey.Text

/-- The lines of a text, without their ends. A line end at the very end of the text starts no
further line. -/
def lines : Text → List Text
  | [] => []
  | '\n' :: rest => [] :: lines rest
  | '\r' :: '\n' :: rest => [] :: lines rest
  | c :: rest =>
    match lines rest with
    | [] => [[c]]
    | line :: others => (c :: line) :: others

/-- The trimmed lines of `text`, joined: line breaks and indentation go, white space inside a line
stays. -/
def minify (text : Text) : Text := (lines text).flatMap trim

end CssSurvey.Text
