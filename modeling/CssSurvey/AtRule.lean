/-
At-rules that hold a block, such as `@media screen { ... }`, with the rulesets in it.
-/
import CssSurvey.AtRule.Outline
import CssSurvey.Comment
import CssSurvey.Fragment
import CssSurvey.Ruleset
import CssSurvey.Unicode.Class

namespace CssSurvey

/-- An at-rule with a block: its header, the text between its braces, and the rulesets in it. -/
structure AtRule where
  header : Text
  body : Text
  rulesets : List Ruleset
deriving DecidableEq

/-- Why no at-rule could be read. -/
inductive AtRule.Error where
  | notFound
deriving DecidableEq

/-- What to tell the reader. -/
def AtRule.Error.message : AtRule.Error → Text
  | notFound => "no nested at-rule found in the given CSS".toList

namespace AtRule

/-- The fragments of an at-rule's body that hold rulesets: those with an opening brace. The others
are declarations of the at-rule itself. -/
def bodyFragments (body : Text) : List Text :=
  (fragments body).filter (·.any (· = '{'))

/-- The at-rule of a source, if it is a block. -/
def ofSource? (source : AtSource) : Option AtRule :=
  match source with
  | .statement _ => none
  | .block _ body _ => some ⟨source.header, body, (bodyFragments body).map Ruleset.parse⟩

/-- Whether a source is a block. -/
def isBlock : AtSource → Bool
  | .statement _ => false
  | .block .. => true

/-- The source of the last at-rule with a block in a text. -/
def lastBlock? (text : Text) : Option AtSource :=
  (Outline.ofCode (separate text).code).sources.reverse.find? isBlock

/-- Reads the last at-rule with a block in a text. -/
def parse (text : Text) : Except Error AtRule :=
  match (lastBlock? text).bind ofSource? with
  | none => .error .notFound
  | some rule => .ok rule

/-- The characters of an at-keyword: letters and digits of any script, hyphen and underscore. -/
def isKeywordChar (c : Char) : Bool := Unicode.isAlphanumeric c || c = '-' || c = '_'

/-- The at-keyword without its `@`. -/
def name (rule : AtRule) : Text :=
  let keyword := match rule.header with
    | '@' :: rest => rest
    | header => header
  keyword.takeWhile isKeywordChar

end AtRule

end CssSurvey
