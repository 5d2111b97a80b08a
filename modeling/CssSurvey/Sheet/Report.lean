/-
The report on a stylesheet: counts, selectors with their specificity, and what is worth a look.
-/
import CssSurvey.Sheet

namespace CssSurvey.Sheet

/-- The name, with the context when there is one. -/
def title (sheet : Sheet) : Text :=
  if sheet.context.isEmpty then sheet.name
  else sheet.name ++ " (".toList ++ sheet.context ++ [')']

/-- The column in which the specificity of a selector starts, counted from the selector. -/
def selectorWidth : Nat := 40

/-- The entry of an at-rule. -/
def atRuleEntry (rule : AtRule) : Text :=
  "    ".toList ++ rule.header ++ " [".toList ++ Text.ofNat rule.rulesets.length ++
    " ruleset(s)]".toList

/-- The entry of a selector. -/
def selectorEntry (selector : Text) : Text :=
  "    ".toList ++ selector.padEnd selectorWidth ++ [' '] ++
    (Specificity.ofSelector selector).render

/-- The report, entry by entry. -/
def reportEntries (sheet : Sheet) : List Text :=
  let invalid := sheet.rulesets.filter (!·.isValid)
  [sheet.title,
    "  comments: ".toList ++ Text.ofNat sheet.comments.length,
    "  rulesets: ".toList ++ Text.ofNat sheet.rulesets.length ++ " (".toList ++
      Text.ofNat invalid.length ++ " invalid)".toList] ++
  invalid.map ("    invalid: ".toList ++ Text.minify ·.selector) ++
  ["  nested at-rules: ".toList ++ Text.ofNat sheet.atRules.length] ++
  sheet.atRules.map atRuleEntry ++
  sheet.atStatements.map ("    ".toList ++ ·) ++
  ["  selectors: ".toList ++ Text.ofNat sheet.selectors.length] ++
  sheet.selectors.map selectorEntry ++
  ["  color rulesets: ".toList ++
      List.intercalate [',', ' '] (sheet.colorRulesets.map Ruleset.selector),
    "  vendor-prefixed properties: ".toList ++ List.intercalate [',', ' '] sheet.vendorProperties]

/-- The report on a stylesheet. -/
def report (sheet : Sheet) : Text := List.intercalate ['\n'] sheet.reportEntries

end CssSurvey.Sheet
