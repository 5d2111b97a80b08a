/-
The contents of a text: its comments, its at-rules and the rule fragments between them, which is
all that a stylesheet is read from. The contents of a text put together from complete pieces are
those of the pieces in order. This is where the three cuts meet: each of them has to end a piece
in the state in which it started.
-/
import CssSurvey.Sheet
import CssSurvey.Proofs.AtRule.Outline
import CssSurvey.Proofs.Comment
import CssSurvey.Proofs.Fragment.Scan

namespace CssSurvey

/-- What a text holds: its comments, its at-rules, and the rule fragments outside of these. -/
structure Contents where
  comments : List Text
  sources : List AtSource
  fragments : List Text

namespace Contents

instance : Append Contents where
  append a b := ⟨a.comments ++ b.comments, a.sources ++ b.sources, a.fragments ++ b.fragments⟩

/-- The contents of a text. -/
def ofText (text : Text) : Contents :=
  let separated := separate text
  let outline := Outline.ofCode separated.code
  ⟨separated.comments, outline.sources, CssSurvey.fragments outline.plain⟩

end Contents

open Contents

/-! ## A stylesheet is read from the contents of its text -/

namespace Sheet

variable (name context text : Text)

theorem comments_parse : (parse name text context).comments = (ofText text).comments := rfl

theorem atRules_parse :
    (parse name text context).atRules = (ofText text).sources.filterMap AtRule.ofSource? := rfl

theorem atStatements_parse :
    (parse name text context).atStatements = (ofText text).sources.filterMap statement? := rfl

theorem rulesets_parse :
    (parse name text context).rulesets = (ofText text).fragments.map Ruleset.parse := rfl

/-- When the contents of a text are those of a piece and then those of another text, so is all that
is read from it. -/
theorem parse_of_ofText_append {whole rest : Text} {front : Contents} (h : ofText whole = front ++ ofText rest) :
    (parse name whole context).comments = front.comments ++ (parse name rest context).comments ∧
      (parse name whole context).atRules =
        front.sources.filterMap AtRule.ofSource? ++ (parse name rest context).atRules ∧
      (parse name whole context).atStatements =
        front.sources.filterMap statement? ++ (parse name rest context).atStatements ∧
      (parse name whole context).rulesets =
        front.fragments.map Ruleset.parse ++ (parse name rest context).rulesets ∧
      (parse name whole context).selectors =
        (front.fragments.map Ruleset.parse).flatMap Ruleset.selectors ++ (parse name rest context).selectors := by
  have hrulesets : (parse name whole context).rulesets =
      front.fragments.map Ruleset.parse ++ (parse name rest context).rulesets := by
    rw [rulesets_parse, h]
    exact List.map_append
  refine ⟨?comments, ?atRules, ?atStatements, hrulesets, ?selectors⟩
  case comments => rw [comments_parse, h]; rfl
  case atRules =>
    rw [atRules_parse, h]
    exact List.filterMap_append
  case atStatements =>
    rw [atStatements_parse, h]
    exact List.filterMap_append
  case selectors =>
    rw [selectors, hrulesets]
    exact List.flatMap_append

end Sheet

/-! ## Pieces without at-rules -/

theorem ofText_of_atFree {text : Text} (h : '@' ∉ (separate text).code) :
    ofText text = ⟨(separate text).comments, [], fragments (separate text).code⟩ := by
  unfold ofText
  simp only [Outline.ofCode_of_atFree h]
  show (⟨_, [], fragments (_ ++ [])⟩ : Contents) = _
  rw [List.append_nil]

/-- Plain code holds its fragments and nothing else. -/
theorem ofText_of_commentFree {text : Text} (hfree : CommentFree text) (hat : '@' ∉ text) :
    ofText text = ⟨[], [], fragments text⟩ := by
  have hcode := code_of_commentFree hfree
  rw [ofText_of_atFree (by rwa [hcode]), hcode, comments_of_commentFree hfree]

/-- A text of plain rules, good or broken, after which every cut stands where it stood before. -/
structure Complete (text : Text) : Prop where
  atFree : '@' ∉ text
  commentFree : CommentFree text
  seam : text.getLast? ≠ some '/'
  closed : Outline.inRulesetAfter false text = false
  scanned : Scan.start.after text = Scan.start

/-- A complete text adds its own fragments and nothing else. -/
theorem Complete.ofText_append {text : Text} (h : Complete text) (rest : Text) :
    ofText (text ++ rest) = ⟨[], [], fragments text⟩ ++ ofText rest := by
  have hseam : text.getLast? = some '/' → rest.head? ≠ some '*' := fun hlast => absurd hlast h.seam
  unfold ofText
  simp only [comments_append h.commentFree hseam, code_append h.commentFree hseam,
    Outline.ofCode_append_of_atFree h.atFree h.closed, Outline.sources_prepend, Outline.plain_prepend,
    fragments_append h.scanned]
  rfl

/-- Whatever stands before it, short of an at-rule, a complete rule makes it complete. -/
theorem complete_append_rule {garbage : Text} {rule : PlainRule} (hgarbage : '@' ∉ garbage)
    (hat : '@' ∉ rule.text) (hcomment : CommentFree (garbage ++ rule.text)) :
    Complete (garbage ++ rule.text) := by
  have hconcat : garbage ++ rule.text = (garbage ++ rule.selector ++ '{' :: rule.body) ++ ['}'] := by
    simp [PlainRule.text]
  refine ⟨fun hmem => (List.mem_append.1 hmem).elim hgarbage hat, hcomment, ?_, ?_, ?_⟩
  · rw [hconcat, List.getLast?_concat]
    decide
  · rw [hconcat]
    exact Outline.inRulesetAfter_concat_close ..
  · rw [Scan.after_append]
    exact Scan.after_text rule (Scan.outsideAtRules_start.after hgarbage).inAtRule

/-! ## Pieces after white space -/

section Gap

variable {gap : Text} (hgap : gap.isBlank)

include hgap

theorem atFree_of_isBlank : '@' ∉ gap := fun hmem =>
  absurd (List.all_eq_true.1 hgap '@' hmem) (by decide)

theorem seam_of_isBlank (rest : Text) : gap.getLast? = some '/' → rest.head? ≠ some '*' := fun hlast =>
  absurd (List.all_eq_true.1 hgap '/' (List.mem_of_getLast? hlast)) (by decide)

theorem comments_gap_append (rest : Text) : (separate (gap ++ rest)).comments = (separate rest).comments :=
  comments_append (.of_isBlank hgap) (seam_of_isBlank hgap rest)

theorem code_gap_append (rest : Text) : (separate (gap ++ rest)).code = gap ++ (separate rest).code :=
  code_append (.of_isBlank hgap) (seam_of_isBlank hgap rest)

theorem ofCode_gap_append (rest : Text) : Outline.ofCode (gap ++ rest) = (Outline.ofCode rest).prepend gap :=
  Outline.ofCode_append_of_atFree (atFree_of_isBlank hgap)
    (Outline.inRulesetAfter_of_braceFree (.of_isBlank hgap) false) rest

theorem ofText_of_isBlank : ofText gap = ⟨[], [], []⟩ := by
  rw [ofText_of_commentFree (.of_isBlank hgap) (atFree_of_isBlank hgap), fragments_of_isBlank hgap]

/-- A plain rule adds one fragment. -/
theorem ofText_rule_append {rule : PlainRule} (hat : '@' ∉ rule.text) (hcomment : CommentFree rule.text)
    (rest : Text) :
    ofText (gap ++ (rule.text ++ rest)) = ⟨[], [], [rule.text.trim]⟩ ++ ofText rest := by
  have hfree : CommentFree (gap ++ rule.text) :=
    CommentFree.append (.of_isBlank hgap) hcomment (seam_of_isBlank hgap _)
  have := (complete_append_rule (atFree_of_isBlank hgap) hat hfree).ofText_append rest
  rwa [List.append_assoc, fragments_rule hgap] at this

/-- A comment adds itself. -/
theorem ofText_comment_append {content : Text} (h : ¬ ['*', '/'] <:+: content) (rest : Text) :
    ofText (gap ++ (writeComment content ++ rest)) =
      ⟨[writeComment content], [], []⟩ ++ ofText (gap ++ rest) := by
  unfold ofText
  simp only [comments_gap_append hgap, code_gap_append hgap, comments_writeComment_append h,
    code_writeComment_append h]
  rfl

/-- An at-rule adds itself. -/
theorem ofText_source_append {written : Text} {source : AtSource} (hfree : CommentFree written)
    (hlast : written.getLast? ≠ some '/')
    (houtline : ∀ rest, Outline.ofCode (written ++ rest) = (Outline.ofCode rest).cons source) (rest : Text) :
    ofText (gap ++ (written ++ rest)) = ⟨[], [source], []⟩ ++ ofText (gap ++ rest) := by
  have hseam : written.getLast? = some '/' → rest.head? ≠ some '*' := fun h => absurd h hlast
  unfold ofText
  simp only [comments_gap_append hgap, code_gap_append hgap, comments_append hfree hseam,
    code_append hfree hseam, ofCode_gap_append hgap, houtline, Outline.sources_prepend,
    Outline.plain_prepend, Outline.sources_cons, Outline.plain_cons]
  rfl

theorem ofText_statement_append {head : Text} (hkey : Outline.StartsWithKeyword head)
    (hhead : ∀ c ∈ head, AtSource.endsHead c = false) (hfree : CommentFree head) (rest : Text) :
    ofText (gap ++ (head ++ ';' :: rest)) = ⟨[], [.statement head], []⟩ ++ ofText (gap ++ rest) := by
  have hlast : (head ++ [';']).getLast? ≠ some '/' := by
    rw [List.getLast?_concat]
    decide
  have := ofText_source_append hgap (hfree.concat (by decide) (by decide)) hlast
    (fun rest => by simpa using Outline.ofCode_statement_append hkey hhead rest) rest
  simpa using this

theorem ofText_block_append {head body : Text} (hkey : Outline.StartsWithKeyword head)
    (hhead : ∀ c ∈ head, AtSource.endsHead c = false) (hbody : bracesBalanced body)
    (hfree : CommentFree head) (hfreeBody : CommentFree body) (rest : Text) :
    ofText (gap ++ (head ++ '{' :: (body ++ '}' :: rest))) =
      ⟨[], [.block head body true], []⟩ ++ ofText (gap ++ rest) := by
  have hblock : CommentFree (head ++ '{' :: (body ++ ['}'])) :=
    hfree.append_cons (hfreeBody.concat (by decide) (by decide)) (by decide) (by decide)
  have hconcat : head ++ '{' :: (body ++ ['}']) = (head ++ '{' :: body) ++ ['}'] := by simp
  have hlast : (head ++ '{' :: (body ++ ['}'])).getLast? ≠ some '/' := by
    rw [hconcat, List.getLast?_concat]
    decide
  have := ofText_source_append hgap hblock hlast
    (fun rest => by simpa using Outline.ofCode_block_append hkey hhead hbody rest) rest
  simpa using this

end Gap

end CssSurvey
