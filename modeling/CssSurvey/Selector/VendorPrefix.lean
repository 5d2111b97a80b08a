/-
Vendor prefixes of property names, such as `-webkit-` and `-moz-`.
-/
import CssSurvey.Text.Basic

namespace CssSurvey

/-- Whether a name starts with a vendor prefix: a hyphen, ASCII letters or digits, at least one of
them, and a second hyphen. -/
def hasVendorPrefix : Text → Bool
  | '-' :: rest =>
    !(rest.takeWhile Char.isAlphanum).isEmpty && (rest.dropWhile Char.isAlphanum).head? = some '-'
  | _ => false

end CssSurvey
