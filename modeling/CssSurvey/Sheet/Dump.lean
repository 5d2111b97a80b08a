/-
The dump of a stylesheet: everything that was read, as nested records. A record shows its fields in
order, a list its items; each stands on lines of its own, four spaces further in, with a comma
after it. Texts are quoted, so that a line of the dump never breaks.
-/
import CssSurvey.Sheet
import CssSurvey.Text.Quoted

namespace CssSurvey

/-- A value in a dump, line by line. -/
abbrev DumpLines := List Text

namespace DumpLines

/-- A value as one item of a record or list: moved in, with a comma. -/
def item (value : DumpLines) : DumpLines :=
  (value.dropLast ++ value.getLast?.toList.map (· ++ [','])).map ("    ".toList ++ ·)

/-- A field of a record. -/
def field (name : String) (value : DumpLines) : DumpLines :=
  item (value.modifyHead (name.toList ++ [':', ' '] ++ ·))

/-- A record with its fields. -/
def record (name : String) (fields : List DumpLines) : DumpLines :=
  [name.toList ++ [' ', '{']] ++ fields.flatten ++ [['}']]

/-- A list; an empty one stands on one line. -/
def list (values : List DumpLines) : DumpLines :=
  if values.isEmpty then [['[', ']']] else [['[']] ++ values.flatMap item ++ [[']']]

/-- A text in quotes. -/
def quoted (value : Text) : DumpLines := [value.quote]

/-- A truth value. -/
def flag (value : Bool) : DumpLines := [if value then "true".toList else "false".toList]

end DumpLines

open DumpLines

/-- A declaration as a record. -/
def Declaration.dump (d : Declaration) : DumpLines :=
  record "Declaration"
    [field "property" (quoted d.property), field "value" (quoted d.value),
      field "is_valid" (flag d.isValid)]

/-- A declaration block as a record. -/
def DeclarationBlock.dump (block : DeclarationBlock) : DumpLines :=
  record "DeclarationBlock"
    [field "declarations" (list (block.declarations.map Declaration.dump)),
      field "text" (quoted block.text)]

/-- A ruleset as a record. -/
def Ruleset.dump (r : Ruleset) : DumpLines :=
  record "Ruleset"
    [field "selector" (quoted r.selector), field "declaration_block" r.block.dump,
      field "is_valid" (flag r.isValid)]

/-- An at-rule as a record. -/
def AtRule.dump (rule : AtRule) : DumpLines :=
  record "NestedAtRule"
    [field "rule" (quoted rule.header), field "body" (quoted rule.body),
      field "body_rulesets" (list (rule.rulesets.map Ruleset.dump))]

namespace Sheet

/-- A stylesheet as a record. -/
def dumpLines (sheet : Sheet) : DumpLines :=
  record "Stylesheet"
    [field "name" (quoted sheet.name), field "context" (quoted sheet.context),
      field "comments" (list (sheet.comments.map quoted)),
      field "nested_at_rules" (list (sheet.atRules.map AtRule.dump)),
      field "at_statements" (list (sheet.atStatements.map quoted)),
      field "rulesets" (list (sheet.rulesets.map Ruleset.dump)),
      field "text" (quoted sheet.text),
      field "selectors" (list (sheet.selectors.map quoted))]

/-- The dump of a stylesheet. -/
def dump (sheet : Sheet) : Text := List.intercalate ['\n'] sheet.dumpLines

end Sheet

end CssSurvey
