/-
Plain rules `selector{body}`, whose braces are exactly the two that enclose the body. Reading one
gives back its two parts: a valid ruleset with the trimmed selector and with the declarations of
the body. A body with braces of its own is read as well, without them unless they are in order.
-/
import CssSurvey.Ruleset
import CssSurvey.Proofs.Brace
import CssSurvey.Proofs.Comment
import CssSurvey.Proofs.Text.Cut
import CssSurvey.Proofs.Text.Ink

namespace CssSurvey

/-- A rule as it is written, with no brace besides those around its body. -/
structure PlainRule where
  selector : Text
  body : Text
  braceFree_selector : BraceFree selector
  braceFree_body : BraceFree body

namespace PlainRule

/-- The rule written out. -/
def text (rule : PlainRule) : Text := rule.selector ++ '{' :: (rule.body ++ ['}'])

/-- The ruleset that a rule stands for. -/
def ruleset (rule : PlainRule) : Ruleset where
  selector := rule.selector.trim
  block := ⟨(DeclarationBlock.statements rule.body).map Declaration.parse, rule.body⟩
  isValid := true

end PlainRule

theorem isBrace_eq_false_of_isBlank {c : Char} (h : isBlank c) : isBrace c = false := by
  have hmarks : c ∉ ['{', '}'] := Text.not_mem_of_all_not (by decide) h
  simpa [isBrace] using hmarks

theorem BraceFree.of_isBlank {gap : Text} (h : gap.isBlank) : BraceFree gap := fun c hc =>
  isBrace_eq_false_of_isBlank (List.all_eq_true.1 h c hc)

namespace DeclarationBlock

/-- The body of a block is what stands between its first opening brace and its last closing one. -/
theorem bodyOf_append {before after : Text} (hbefore : '{' ∉ before) (hafter : '}' ∉ after) (body : Text) :
    bodyOf (before ++ '{' :: (body ++ '}' :: after)) = body := by
  have hclose : '}' ∉ after.reverse := fun hmem => hafter (List.mem_reverse.1 hmem)
  have hinner := Text.dropWhile_ne_append_cons hbefore (body ++ '}' :: after)
  have hrest := Text.dropWhile_ne_append_cons hclose body.reverse
  have hreverse : (body ++ '}' :: after).reverse = after.reverse ++ '}' :: body.reverse := by simp
  unfold bodyOf
  rw [hinner]
  dsimp only
  rw [hreverse, hrest]
  exact List.reverse_reverse body

theorem bodyOf_braces (body : Text) : bodyOf ('{' :: (body ++ ['}'])) = body :=
  @bodyOf_append [] [] List.not_mem_nil List.not_mem_nil body

theorem bodyOf_of_not_mem {text : Text} (h : '{' ∉ text) : bodyOf text = text := by
  unfold bodyOf
  rw [Text.dropWhile_ne_eq_nil h]

theorem bodyOf_of_braceFree {text : Text} (h : BraceFree text) : bodyOf text = text :=
  bodyOf_of_not_mem (h.not_mem rfl)

end DeclarationBlock

namespace Ruleset

theorem parse_trim (text : Text) : parse text.trim = parse text := by
  unfold parse
  rw [Text.trim_trim]

theorem braceFree_selector (text : Text) : BraceFree (parse text).selector := by
  have hhead : BraceFree (text.trim.takeWhile (!isBrace ·)) := fun c hc => by
    simpa using List.all_eq_true.1 List.all_takeWhile c hc
  exact hhead.of_isInfix (Text.trim_isInfix _)

theorem wellBraced_append_cons {selector : Text} (h : BraceFree selector) (rest : Text) :
    wellBraced (selector ++ '{' :: rest) = closesAll 1 rest := by
  have hopen : closesAll 0 (selector ++ '{' :: rest) = closesAll 1 rest := by
    rw [closesAll_append_of_braceFree h, closesAll, if_pos rfl]
  simp [wellBraced, bracesBalanced, hopen]

theorem trim_block (selector body : Text) :
    Text.trim (selector ++ '{' :: (body ++ ['}'])) = selector.trimStart ++ '{' :: (body ++ ['}']) := by
  rw [Text.trim_append_cons (by decide), Text.trimEnd_append_cons (by decide)]
  rfl

/-- Reading a block behind a selector: when the braces inside are not in order they are dropped, and
the rule is invalid. -/
theorem parse_block {selector : Text} (h : BraceFree selector) (body : Text) :
    let isValid := closesAll 1 (body ++ ['}'])
    let inner := if isValid then body else body.filter (!isBrace ·)
    parse (selector ++ '{' :: (body ++ ['}'])) =
      ⟨selector.trim, ⟨(DeclarationBlock.statements inner).map Declaration.parse, inner⟩, isValid⟩ := by
  have hstart : BraceFree selector.trimStart := h.of_isInfix (List.dropWhile_suffix _).isInfix
  have hnot : ∀ c ∈ selector.trimStart, (!isBrace c) = true := fun c hc => by rw [hstart c hc]; rfl
  have hrest := Text.dropWhile_append_cons hnot (c := '{') (by decide) (body ++ ['}'])
  have hhead := Text.takeWhile_append_cons hnot (c := '{') (by decide) (body ++ ['}'])
  have hfilter : ('{' :: (body ++ ['}'])).filter (!isBrace ·) = body.filter (!isBrace ·) := by
    simp [isBrace]
  unfold parse
  simp only [trim_block, hrest, hhead, Text.trim_trimStart, wellBraced_append_cons hstart, DeclarationBlock.parse]
  rcases closesAll 1 (body ++ ['}']) with _ | _
  · simp only [Bool.false_eq_true, if_false, hfilter, DeclarationBlock.bodyOf_of_braceFree (braceFree_filter body)]
  · simp only [if_true, DeclarationBlock.bodyOf_braces]

end Ruleset

theorem PlainRule.trim_text (rule : PlainRule) :
    rule.text.trim = rule.selector.trimStart ++ '{' :: (rule.body ++ ['}']) :=
  Ruleset.trim_block ..

/-- Reading a plain rule gives back its selector and its body. -/
theorem PlainRule.parse_text (rule : PlainRule) : Ruleset.parse rule.text = rule.ruleset := by
  have hclose : closesAll 1 (rule.body ++ ['}']) := by
    rw [closesAll_append_of_braceFree rule.braceFree_body]
    decide
  have hparse := Ruleset.parse_block rule.braceFree_selector rule.body
  rw [hclose] at hparse
  exact hparse

/-- A rule that has no `@` and no comment in it. -/
structure PlainRule.Unmarked (rule : PlainRule) : Prop where
  atFree_selector : '@' ∉ rule.selector
  atFree_body : '@' ∉ rule.body
  commentFree_selector : CommentFree rule.selector
  commentFree_body : CommentFree rule.body

namespace PlainRule.Unmarked

variable {rule : PlainRule}

theorem of_isInfix {code : Text} (hat : '@' ∉ code) (hcomment : CommentFree code) (h : rule.text <:+: code) :
    rule.Unmarked := by
  have hselector : rule.selector <:+: code := .trans ⟨[], '{' :: (rule.body ++ ['}']), rfl⟩ h
  have hbody : rule.body <:+: code := .trans ⟨rule.selector ++ ['{'], ['}'], by simp [text]⟩ h
  exact ⟨fun hmem => hat (hselector.subset hmem), fun hmem => hat (hbody.subset hmem),
    hcomment.of_isInfix hselector, hcomment.of_isInfix hbody⟩

theorem atFree (h : rule.Unmarked) : '@' ∉ rule.text := by
  simp [text, h.atFree_selector, h.atFree_body]

theorem commentFree (h : rule.Unmarked) : CommentFree rule.text :=
  h.commentFree_selector.append_cons (h.commentFree_body.concat (by decide) (by decide)) (by decide)
    (by decide)

end PlainRule.Unmarked

end CssSurvey
