/-
The summary of several stylesheets: what they repeat, the fonts that they name, and whether one of
them sets the colours of the page.
-/
import CssSurvey.Sheet
import CssSurvey.Uses

namespace CssSurvey

/-- The selectors that are used more than once, each with the sorted names of the stylesheets that
use it. -/
def repeatedSelectors (sheets : List Sheet) : Uses :=
  (Uses.ofList (sheets.flatMap fun sheet =>
    sheet.selectors.map (·, sheet.name))).repeated.sortNames

/-- The minified text of a declaration block between braces. -/
def DeclarationBlock.key (block : DeclarationBlock) : Text :=
  ['{'] ++ Text.minify block.text ++ ['}']

/-- The declaration blocks that are written more than once, each with the names of the stylesheets
that hold it, in order. -/
def repeatedBlocks (sheets : List Sheet) : Uses :=
  (Uses.ofList (sheets.flatMap fun sheet =>
    sheet.rulesets.map (·.block.key, sheet.name))).repeated

/-- Whether a declaration is valid and names fonts. -/
def Declaration.namesFont (d : Declaration) : Bool :=
  d.isValid && (Text.sameName d.property "font".toList ||
    Text.sameName d.property "font-family".toList)

/-- The values that name fonts, in order of first use. -/
def fontFamilies (sheets : List Sheet) : List Text :=
  ((sheets.flatMap Sheet.declarations).filter Declaration.namesFont
    |>.map Declaration.value).eraseDups

/-- Whether a ruleset for the whole page sets the colours of both text and background. -/
def Sheet.setsPageColors (sheet : Sheet) : Bool :=
  sheet.colorRulesets.any fun r =>
    r.selectors.any (fun s => s = "body".toList || s = "html".toList) &&
      r.block.has "color".toList && r.block.has "background-color".toList

/-- The findings on a number of stylesheets. -/
structure Summary where
  repeatedSelectors : Uses
  repeatedBlocks : Uses
  fontFamilies : List Text
  pageColorsSet : Bool
deriving DecidableEq

namespace Summary

/-- The findings on `sheets`. -/
def ofSheets (sheets : List Sheet) : Summary :=
  { repeatedSelectors := CssSurvey.repeatedSelectors sheets
    repeatedBlocks := CssSurvey.repeatedBlocks sheets
    fontFamilies := CssSurvey.fontFamilies sheets
    pageColorsSet := sheets.any Sheet.setsPageColors }

/-- The entries of a number of uses, one for each key. -/
def usesEntries (uses : Uses) : List Text :=
  uses.map fun (key, names) =>
    "    ".toList ++ key ++ " (".toList ++ List.intercalate [',', ' '] names ++ [')']

/-- The summary, entry by entry. -/
def reportEntries (summary : Summary) : List Text :=
  ["summary".toList,
    "  repeated selectors: ".toList ++ Text.ofNat summary.repeatedSelectors.length] ++
  usesEntries summary.repeatedSelectors ++
  ["  repeated declaration blocks: ".toList ++ Text.ofNat summary.repeatedBlocks.length] ++
  usesEntries summary.repeatedBlocks ++
  ["  font families: ".toList ++ List.intercalate " | ".toList summary.fontFamilies,
    "  page colors set: ".toList ++ if summary.pageColorsSet then "true".toList else "false".toList]

/-- The text of the summary. -/
def report (summary : Summary) : Text := List.intercalate ['\n'] summary.reportEntries

end Summary

end CssSurvey
