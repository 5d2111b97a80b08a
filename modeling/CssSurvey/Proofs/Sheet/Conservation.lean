/-
Nothing of a text is lost when it is read, and nothing is read twice. The text is its comments and its
code in turn; the code is its at-rules and the gaps between them in turn, and each at-rule is read
into one entry of the sheet; the rule fragments of the gaps, one for each ruleset, have the ink of the
gaps. All that is left out on the way is white space.
-/
import CssSurvey.Sheet
import CssSurvey.Proofs.Fragment.Ink
import CssSurvey.Proofs.Text.Lines
import Mathlib.Data.List.Forall2

namespace CssSurvey

/-! ## At-rules -/

/-- A rule is read from a source that is a block: header, body and rulesets are those of that block. -/
def AtRule.ReadFrom (rule : AtRule) (source : AtSource) : Prop :=
  ∃ head closed, source = .block head rule.body closed ∧ rule.header = Text.collapse head ∧
    rule.rulesets = (AtRule.bodyFragments rule.body).map Ruleset.parse

/-- Every block among the sources is read into a rule of its own. -/
theorem AtRule.readFrom_blocks (sources : List AtSource) :
    List.Forall₂ ReadFrom (sources.filterMap ofSource?) (sources.filter isBlock) := by
  induction sources with
  | nil => exact .nil
  | cons source sources ih =>
    cases source with
    | statement head => exact ih
    | block head body closed => exact .cons ⟨head, closed, rfl, rfl, rfl⟩ ih

/-- Every other source is a statement, of which the header is kept. -/
theorem Sheet.statements_eq (sources : List AtSource) :
    sources.filterMap statement? = (sources.filter (!AtRule.isBlock ·)).map AtSource.header := by
  induction sources with
  | nil => rfl
  | cons source sources ih =>
    cases source with
    | statement head => exact congrArg (_ :: ·) ih
    | block head body closed => exact ih

/-! ## Reading a text -/

/-- What a sheet is read from makes up the text, and each piece is read once. -/
theorem parse_conserves (name text context : Text) :
    let separated := separate text
    let outline := Outline.ofCode separated.code
    let sheet := Sheet.parse name text context
    (separated.render = text ∧ sheet.comments = separated.comments) ∧
      (outline.render = separated.code ∧
        outline.sources.length = sheet.atRules.length + sheet.atStatements.length ∧
        List.Forall₂ AtRule.ReadFrom sheet.atRules (outline.sources.filter AtRule.isBlock) ∧
        sheet.atStatements = (outline.sources.filter (!AtRule.isBlock ·)).map AtSource.header) ∧
      ((∀ fragment ∈ fragments outline.plain, fragment.isBlank = false ∧ fragment.trim = fragment) ∧
        sheet.rulesets = (fragments outline.plain).map Ruleset.parse ∧
        Text.ink (fragments outline.plain).flatten = Text.ink outline.plain ∧
        Text.ink sheet.text = Text.ink outline.plain) := by
  intro separated outline sheet
  have hrules : List.Forall₂ AtRule.ReadFrom sheet.atRules (outline.sources.filter AtRule.isBlock) :=
    AtRule.readFrom_blocks outline.sources
  have hstatements : sheet.atStatements = (outline.sources.filter (!AtRule.isBlock ·)).map AtSource.header :=
    Sheet.statements_eq outline.sources
  refine ⟨⟨render_separate text, rfl⟩, ⟨Outline.render_ofCode _, ?count, hrules, hstatements⟩,
    fun _ h => ⟨isBlank_of_mem_fragments h, trim_of_mem_fragments h⟩, rfl, ink_flatten_fragments _,
    Text.ink_minify _⟩
  case count =>
    calc outline.sources.length
        = (outline.sources.filter AtRule.isBlock).length +
            (outline.sources.filter (!AtRule.isBlock ·)).length :=
          List.length_eq_length_filter_add _
      _ = sheet.atRules.length + sheet.atStatements.length := by
          rw [hrules.length_eq, hstatements, List.length_map]

end CssSurvey
