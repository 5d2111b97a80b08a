/-
Stylesheets: the text of one CSS source read into comments, at-rules and rulesets. Reading takes
the comments out first, then the at-rules; what is left is cut into rulesets.
-/
import CssSurvey.AtRule
import CssSurvey.Gradient
import CssSurvey.Selector.VendorPrefix
import CssSurvey.Text.Lines

namespace CssSurvey

/-- A stylesheet. `context` tells where the source came from, `atStatements` are the headers of
at-rules without a block, and `text` is the minified code outside of comments and at-rules. -/
structure Sheet where
  name : Text
  context : Text
  comments : List Text
  atRules : List AtRule
  atStatements : List Text
  rulesets : List Ruleset
  text : Text
deriving DecidableEq

namespace Sheet

/-- The header of a source, if it is a statement. -/
def statement? (source : AtSource) : Option Text :=
  match source with
  | .statement _ => some source.header
  | .block .. => none

/-- Reads a stylesheet. -/
def parse (name text context : Text) : Sheet :=
  let separated := separate text
  let outline := Outline.ofCode separated.code
  { name, context
    comments := separated.comments
    atRules := outline.sources.filterMap AtRule.ofSource?
    atStatements := outline.sources.filterMap statement?
    rulesets := (fragments outline.plain).map Ruleset.parse
    text := Text.minify outline.plain }

/-- The name of every stylesheet that comes from a `<style>` element. -/
def elementName : Text := "local".toList

/-- Reads the content of a `<style>` element of the document `context`. -/
def ofStyleElement (text context : Text) : Sheet := parse elementName text context

/-- Every selector of every top-level ruleset, in order, repeats included. -/
def selectors (sheet : Sheet) : List Text := sheet.rulesets.flatMap Ruleset.selectors

/-- The top-level rulesets that set a colour. -/
def colorRulesets (sheet : Sheet) : List Ruleset := sheet.rulesets.filter Ruleset.setsColor

/-- The top-level rulesets, then those inside at-rules. -/
def allRulesets (sheet : Sheet) : List Ruleset :=
  sheet.rulesets ++ sheet.atRules.flatMap AtRule.rulesets

/-- The declarations of all rulesets. -/
def declarations (sheet : Sheet) : List Declaration :=
  sheet.allRulesets.flatMap (·.block.declarations)

/-- The properties with a vendor prefix, in order of first use. -/
def vendorProperties (sheet : Sheet) : List Text :=
  ((sheet.declarations.map Declaration.property).filter hasVendorPrefix).eraseDups

/-- What the gradient calls in the values of all declarations show. -/
def gradientUse (sheet : Sheet) : GradientUse :=
  Gradient.use <| List.intercalate [',', '\n'] <|
    (sheet.declarations.map Declaration.value).filter Gradient.isGradient

/-! ## Reprinting -/

/-- All rulesets in written form, one a line. -/
def reprint (sheet : Sheet) : Text :=
  List.intercalate ['\n'] (sheet.allRulesets.map Ruleset.render)

/-- The sheets met when a text is read and its reprint is read again, so many times in all. -/
def reprints (name context : Text) : Nat → Text → List Sheet
  | 0, _ => []
  | rounds + 1, text =>
    let sheet := parse name text context
    sheet :: reprints name context rounds sheet.reprint

end Sheet

end CssSurvey
