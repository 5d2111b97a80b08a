/-
White space in the sense of the Unicode property `White_Space`: trimming, words, and texts that
hold nothing else. The narrower ASCII class stands apart, because what decides whether an at-rule
may start looks back over that class only.
-/
import CssSurvey.Text.Basic

namespace CssSurvey

/-- White space: the twenty-five characters with the Unicode property `White_Space`. -/
def isBlank (c : Char) : Bool :=
  c = ' ' || ('\t' ≤ c && c ≤ '\r') || c = '\u0085' || c = '\u00a0' || c = '\u1680' ||
    ('\u2000' ≤ c && c ≤ '\u200a') || c = '\u2028' || c = '\u2029' || c = '\u202f' ||
    c = '\u205f' || c = '\u3000'

/-- ASCII white space: space, tab, line feed, form feed and carriage return. -/
def isAsciiBlank (c : Char) : Bool :=
  c = ' ' || c = '\t' || c = '\n' || c = '\x0c' || c = '\r'

namespace Text

/-- Whether a text holds nothing but white space. -/
def isBlank (text : Text) : Bool := text.all CssSurvey.isBlank

/-- `text` without the white space at its start. -/
def trimStart (text : Text) : Text := text.dropWhile CssSurvey.isBlank

/-- `text` without the white space at its end. -/
def trimEnd (text : Text) : Text := text.dropEndWhile CssSurvey.isBlank

/-- `text` without the white space at its two ends. -/
def trim (text : Text) : Text := trimEnd (trimStart text)

/-- The longest runs of characters other than white space, in order. -/
def words (text : Text) : List Text :=
  (text.splitOnP CssSurvey.isBlank).filter (!·.isEmpty)

/-- The words of `text` with one space between two of them. -/
def collapse (text : Text) : Text := List.intercalate [' '] (words text)

end Text

end CssSurvey
