/-
Trails: the notices that reading a text leaves, in order. Each trail stands beside the reading of
the same name. A ruleset's own notice comes before those of its declarations; a stylesheet tells of
its at-rules first, then of the split into rulesets and of each of these, and of itself last.
-/
import CssSurvey.Notice
import CssSurvey.Sheet

namespace CssSurvey

/-- The trail of cutting a code into fragments. -/
def fragmentsTrail (code : Text) : List Notice :=
  (Stretch.ofCode code).filterMap (·.cutBy.map Notice.unclosedRuleset) ++
    [.split (fragments code).length]

/-- The trail of reading a declaration. -/
def Declaration.trail (text : Text) : List Notice :=
  if (parse text).isValid then []
  else if text.trim.any (· = ':') then [.invalidDeclaration text.trim]
  else [.missingColon text.trim]

/-- The trail of reading a declaration block. -/
def DeclarationBlock.trail (text : Text) : List Notice :=
  (statements (bodyOf text)).flatMap Declaration.trail

/-- The trail of reading a ruleset. -/
def Ruleset.trail (text : Text) : List Notice :=
  let text := text.trim
  let rest := text.dropWhile (!isBrace ·)
  if wellBraced text then DeclarationBlock.trail rest
  else .misplacedBraces text :: DeclarationBlock.trail (rest.filter (!isBrace ·))

/-- The trail of reading the at-rule of a source. -/
def AtSource.trail (source : AtSource) : List Notice :=
  match source with
  | .statement _ => []
  | .block _ body _ =>
    let rulesets := AtRule.bodyFragments body
    fragmentsTrail body ++ rulesets.flatMap Ruleset.trail ++
      [.atRuleRead source.header rulesets.length]

/-- The trail of reading the last at-rule of a text. -/
def AtRule.trail (text : Text) : List Notice :=
  (lastBlock? text).elim [] AtSource.trail

/-- The trail of reading a stylesheet. -/
def Sheet.trail (name text : Text) : List Notice :=
  let separated := separate text
  let outline := Outline.ofCode separated.code
  let rulesets := fragments outline.plain
  outline.sources.flatMap AtSource.trail ++ fragmentsTrail outline.plain ++
    rulesets.flatMap Ruleset.trail ++
    [.sheetRead name separated.comments.length (outline.sources.countP AtRule.isBlock)
      rulesets.length]

/-- The trail of reading a text and its reprints. -/
def Sheet.reprintsTrail (name context text : Text) (rounds : Nat) : List Notice :=
  let texts := (text :: (reprints name context rounds text).map reprint).take rounds
  texts.flatMap (Sheet.trail name)

end CssSurvey
