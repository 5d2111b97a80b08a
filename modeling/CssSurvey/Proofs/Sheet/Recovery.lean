/-
Recovery from malformed rules. Text with braces in any order may spoil rules up to the next
complete one, but nothing after that: what follows is read as if it stood alone.
-/
import CssSurvey.Proofs.Sheet.Contents

namespace CssSurvey

/-- Whatever garbage stands before a complete rule, short of an at-rule, any text after the rule
is read as it is read alone, and what was read up to the end of the rule comes before it. -/
theorem parse_append_rule_append (name context rest : Text) {garbage : Text} {rule : PlainRule}
    (hgarbage : '@' ∉ garbage) (hat : '@' ∉ rule.text) (hcomment : CommentFree (garbage ++ rule.text)) :
    let whole := Sheet.parse name (garbage ++ rule.text ++ rest) context
    let front := Sheet.parse name (garbage ++ rule.text) context
    let back := Sheet.parse name rest context
    whole.comments = back.comments ∧ whole.atRules = back.atRules ∧
      whole.atStatements = back.atStatements ∧ whole.rulesets = front.rulesets ++ back.rulesets ∧
      whole.selectors = front.selectors ++ back.selectors := by
  intro whole front back
  have hcomplete := complete_append_rule hgarbage hat hcomment
  obtain ⟨hcomments, hatRules, hatStatements, hrulesets, hselectors⟩ :=
    Sheet.parse_of_ofText_append name context (hcomplete.ofText_append rest)
  have hfront : front.rulesets = (fragments (garbage ++ rule.text)).map Ruleset.parse := by
    rw [Sheet.rulesets_parse, ofText_of_commentFree hcomment hcomplete.atFree]
  refine ⟨hcomments, hatRules, hatStatements, ?_, ?_⟩
  · rw [hfront]
    exact hrulesets
  · show _ = front.rulesets.flatMap Ruleset.selectors ++ _
    rw [hfront]
    exact hselectors

/-- A rule with its braces the wrong way round does not lose the rule after it, nor the at-rule and
the open rule that follow. -/
theorem parse_append_rule_append_reversed :
    let garbage := "p \x7b color: red;\nbody \x7d\n  background: \"';\n\x7b\n".toList
    let rule : PlainRule := ⟨"h1, h2 ".toList, " margin: 0; ".toList, by decide, by decide⟩
    let rest := "@media print \x7b a \x7b b: c; \x7d \x7d /* d */ p \x7b".toList
    let whole := Sheet.parse [] (garbage ++ rule.text ++ rest) []
    let front := Sheet.parse [] (garbage ++ rule.text) []
    let back := Sheet.parse [] rest []
    ('@' ∉ garbage ∧ '@' ∉ rule.text ∧ CommentFree (garbage ++ rule.text)) ∧
      whole.comments = back.comments ∧ whole.atRules = back.atRules ∧
      whole.atStatements = back.atStatements ∧ whole.rulesets = front.rulesets ++ back.rulesets ∧
      whole.selectors = front.selectors ++ back.selectors :=
  ⟨⟨by decide, by decide, by decide⟩,
    parse_append_rule_append [] [] _ (by decide) (by decide) (by decide)⟩

end CssSurvey
