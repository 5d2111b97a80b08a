/-
Rulesets: a selector list with the block of declarations for it. Missing or misplaced braces mark
a ruleset invalid; its selector and declarations are still read as well as they can be.
-/
import CssSurvey.Brace
import CssSurvey.Declaration
import CssSurvey.Selector.Specificity

namespace CssSurvey

/-- A selector list and its declaration block. -/
structure Ruleset where
  selector : Text
  block : DeclarationBlock
  isValid : Bool
deriving DecidableEq

namespace Ruleset

/-- Whether the braces of a text are those of a ruleset: there is one, an opening one comes first,
and every one is closed. -/
def wellBraced (text : Text) : Bool := text.any (· = '{') && bracesBalanced text

/-- Reads a ruleset. The selector ends at the first brace of either kind. In an invalid ruleset
every brace after it is dropped before the declarations are read. -/
def parse (text : Text) : Ruleset :=
  let text := text.trim
  let isValid := wellBraced text
  let rest := text.dropWhile (!isBrace ·)
  { selector := Text.trim (text.takeWhile (!isBrace ·))
    block := DeclarationBlock.parse (if isValid then rest else rest.filter (!isBrace ·))
    isValid }

/-- The written form on one line, each declaration with a semicolon. -/
def render (r : Ruleset) : Text :=
  r.selector ++ [' ', '{'] ++ r.block.declarations.flatMap (·.render ++ [';']) ++ ['}']

/-- The members of the selector list, trimmed, without the empty ones. -/
def selectors (r : Ruleset) : List Text :=
  ((splitTop ',' r.selector).map Text.trim).filter (!·.isEmpty)

/-- The specificity of the whole selector list. -/
def specificity (r : Ruleset) : Specificity := .ofSelector r.selector

/-- Whether a ruleset sets the colour of the text or of the background. -/
def setsColor (r : Ruleset) : Bool :=
  r.block.has "color".toList || r.block.has "background-color".toList

end Ruleset

end CssSurvey
