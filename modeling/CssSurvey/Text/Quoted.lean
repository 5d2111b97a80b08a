/-
Quoted texts: a text between double quotes on one line, in which quotes, backslashes and characters
that do not show are escaped.
-/
import CssSurvey.Text.Basic
import CssSurvey.Unicode.Class

namespace CssSurvey.Text

/-- A character inside quotes. Those that do not show are written by their code point in
hexadecimal, unless there is a short form. -/
def escapeChar (c : Char) : Text :=
  if c = '\x00' then ['\\', '0']
  else if c = '\t' then ['\\', 't']
  else if c = '\n' then ['\\', 'n']
  else if c = '\r' then ['\\', 'r']
  else if c = '"' ∨ c = '\\' then ['\\', c]
  else if Unicode.isShown c then [c]
  else ['\\', 'u', '{'] ++ Nat.toDigits 16 c.toNat ++ ['}']

/-- `text` in quotes. -/
def quote (text : Text) : Text := ['"'] ++ text.flatMap escapeChar ++ ['"']

end CssSurvey.Text
