/-
The three classes of characters that reading and printing ask for, each put together from the
tables: letters and digits of any script, the characters of a word, and the characters that a
quoted text shows as they are.
-/
import CssSurvey.Unicode.Alphabetic
import CssSurvey.Unicode.GraphemeExtend
import CssSurvey.Unicode.Mark
import CssSurvey.Unicode.Number
import CssSurvey.Unicode.Unprintable

namespace CssSurvey.Unicode

/-- Letters and numbers of any script: alphabetic, or of a number category. -/
def isAlphanumeric (c : Char) : Bool :=
  alphabetic.contains c.toNat || decimalNumber.contains c.toNat || otherNumber.contains c.toNat

/-- Connector punctuation, such as `_`: general category `Pc`. -/
def connectorPunctuation : Ranges :=
  [(0x5f, 0x5f), (0x203f, 0x2040), (0x2054, 0x2054), (0xfe33, 0xfe34), (0xfe4d, 0xfe4f),
   (0xff3f, 0xff3f)]

/-- The two joiners without width: property `Join_Control`. -/
def joinControl : Ranges := [(0x200c, 0x200d)]

/-- The characters of a word: alphabetic ones, marks, decimal digits, connectors and joiners. -/
def isWordChar (c : Char) : Bool :=
  alphabetic.contains c.toNat || mark.contains c.toNat || decimalNumber.contains c.toNat ||
    connectorPunctuation.contains c.toNat || joinControl.contains c.toNat

/-- The characters that show as themselves when they stand alone. -/
def isShown (c : Char) : Bool :=
  !graphemeExtend.contains c.toNat && !unprintable.contains c.toNat

end CssSurvey.Unicode
