/-
Notices: what reading a source has to tell about it besides its result. A notice is a value; its
level, topic and wording follow from its kind.
-/
import CssSurvey.Text.Quoted

namespace CssSurvey

/-- How much a notice matters. -/
inductive Level where
  | warn
  | debug
  | trace
deriving DecidableEq

/-- What a notice is about. -/
inductive Topic where
  | splitting
  | declaration
  | ruleset
  | atRule
  | sheet
deriving DecidableEq

/-- What reading a source tells. -/
inductive Notice where
  /-- A ruleset was left open in front of the rule with this head. -/
  | unclosedRuleset (next : Text)
  /-- A code was cut into so many fragments. -/
  | split (fragments : Nat)
  /-- A declaration has no colon. -/
  | missingColon (text : Text)
  /-- A declaration has a colon, and is not well formed. -/
  | invalidDeclaration (text : Text)
  /-- The braces of a ruleset are not those of a ruleset. -/
  | misplacedBraces (text : Text)
  /-- An at-rule was read. -/
  | atRuleRead (header : Text) (rulesets : Nat)
  /-- A stylesheet was read. -/
  | sheetRead (name : Text) (comments atRules rulesets : Nat)
deriving DecidableEq

namespace Notice

/-- Faults of the source are warnings; the rest is for following the reading. -/
def level : Notice → Level
  | unclosedRuleset _ | split _ => .trace
  | missingColon _ | invalidDeclaration _ | misplacedBraces _ => .warn
  | atRuleRead .. | sheetRead .. => .debug

/-- What a notice is about. -/
def topic : Notice → Topic
  | unclosedRuleset _ | split _ => .splitting
  | missingColon _ | invalidDeclaration _ => .declaration
  | misplacedBraces _ => .ruleset
  | atRuleRead .. => .atRule
  | sheetRead .. => .sheet

/-- The wording of a notice. -/
def message : Notice → Text
  | unclosedRuleset next => "unclosed ruleset before ".toList ++ next.quote
  | split fragments => "split ".toList ++ Text.ofNat fragments ++ " rule block(s)".toList
  | missingColon text => "invalid declaration, missing ':': ".toList ++ text.quote
  | invalidDeclaration text => "invalid declaration: ".toList ++ text.quote
  | misplacedBraces text => "invalid ruleset, misplaced braces: ".toList ++ text.quote
  | atRuleRead header rulesets =>
    "extracted ".toList ++ header ++ " with ".toList ++ Text.ofNat rulesets ++
      " ruleset(s)".toList
  | sheetRead name comments atRules rulesets =>
    "parsed ".toList ++ name ++ ": ".toList ++ Text.ofNat comments ++ " comment(s), ".toList ++
      Text.ofNat atRules ++ " nested at-rule(s), ".toList ++ Text.ofNat rulesets ++
      " ruleset(s)".toList

end Notice

end CssSurvey
