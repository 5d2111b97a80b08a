/-
Plain rules in written form. A rule written out is a plain rule again, and what is read of it is what
was read of the rule: the same selector, and the same declarations when they are valid and the body
closes all it opens.
-/
import CssSurvey.Proofs.Declaration
import CssSurvey.Proofs.Ruleset.Plain

namespace CssSurvey

namespace DeclarationBlock

/-- Declarations written out, each with a semicolon. -/
def print (declarations : List Declaration) : Text := declarations.flatMap (·.render ++ [';'])

/-- The declarations in a body. -/
def declarationsOf (body : Text) : List Declaration := (statements body).map Declaration.parse

/-! ## Reading printed declarations -/

theorem statements_print {declarations : List Declaration}
    (h : ∀ d ∈ declarations, Uncut ';' .top d.render ∧ Nesting.top.after d.render = .top) :
    statements (print declarations) = declarations.map Declaration.render := by
  have hparts : ∀ part ∈ declarations.map Declaration.render,
      Uncut ';' .top part ∧ Nesting.top.after part = .top := by
    intro part hpart
    obtain ⟨d, hd, rfl⟩ := List.mem_map.1 hpart
    exact h d hd
  have hsemicolon : Nesting.isDelimiter ';' = false := by decide
  have hsplit := splitTop_flatMap hsemicolon hparts
  rw [List.flatMap_map] at hsplit
  have hink : ∀ part ∈ declarations.map Declaration.render, (!part.isBlank) = true := by
    intro part hpart
    obtain ⟨d, -, rfl⟩ := List.mem_map.1 hpart
    have hcolon : ':' ∈ d.render := by simp [Declaration.render]
    simpa [Text.isBlank] using ⟨':', hcolon, by decide⟩
  rw [statements, print, hsplit, List.filter_append, List.filter_eq_self.2 hink]
  exact List.append_nil _

/-- The valid declarations of a closed body, written out, are read again as they are. -/
theorem declarationsOf_print {body : Text} (hclosed : Nesting.top.after body = .top)
    (hvalid : ∀ d ∈ declarationsOf body, d.isValid) :
    declarationsOf (print (declarationsOf body)) = declarationsOf body := by
  have hrender : ∀ d ∈ declarationsOf body,
      (Uncut ';' .top d.render ∧ Nesting.top.after d.render = .top) ∧ Declaration.parse d.render = d := by
    intro d hd
    have hd' := hvalid d hd
    obtain ⟨statement, hstatement, rfl⟩ := List.mem_map.1 hd
    have hmem := List.mem_of_mem_filter hstatement
    exact ⟨Declaration.uncut_render_of_closed (uncut_of_mem_splitTop hmem)
      (after_of_mem_splitTop (by decide) hclosed hmem) hd', Declaration.parse_render_of_isValid hd'⟩
  rw [declarationsOf, statements_print fun d hd => (hrender d hd).1, List.map_map]
  exact (List.map_congr_left fun d hd => (hrender d hd).2).trans (List.map_id _)

/-! ## The text of printed declarations -/

/-- Both sides of a declaration stand in the body as they are. -/
theorem sides_isInfix {body : Text} {d : Declaration} (hd : d ∈ declarationsOf body) :
    d.property <:+: body ∧ d.value <:+: body := by
  obtain ⟨statement, hstatement, rfl⟩ := List.mem_map.1 hd
  have hin : statement <:+: body := isInfix_of_mem_splitTop (List.mem_of_mem_filter hstatement)
  exact ⟨(Declaration.sides_isInfix statement).1.trans hin, (Declaration.sides_isInfix statement).2.trans hin⟩

/-- What is printed besides the two sides is a colon, a space and a semicolon. -/
theorem mem_print {body : Text} {c : Char} (hc : c ∈ print (declarationsOf body)) :
    c ∈ body ∨ c ∈ [':', ' ', ';'] := by
  obtain ⟨d, hd, hc⟩ := List.mem_flatMap.1 hc
  obtain ⟨hproperty, hvalue⟩ := sides_isInfix hd
  rw [Declaration.render, List.mem_append, List.mem_append, List.mem_append] at hc
  rcases hc with ((hc | hc) | hc) | hc
  · exact .inl (hproperty.subset hc)
  · exact .inr (List.mem_append_left [';'] hc)
  · exact .inl (hvalue.subset hc)
  · exact .inr (List.mem_append_right [':', ' '] hc)

theorem commentFree_print {declarations : List Declaration}
    (h : ∀ d ∈ declarations, CommentFree d.property ∧ CommentFree d.value) :
    CommentFree (print declarations) := by
  induction declarations with
  | nil => decide
  | cons d declarations ih =>
    obtain ⟨⟨hproperty, hvalue⟩, hrest⟩ := List.forall_mem_cons.1 h
    have htext : print (d :: declarations) =
        d.property ++ ':' :: (' ' :: (d.value ++ ';' :: print declarations)) := by
      simp [print, Declaration.render]
    rw [htext]
    refine hproperty.append_cons (.cons ?_ (by decide)) (by decide) (by decide)
    exact hvalue.append_cons (ih hrest) (by decide) (by decide)

end DeclarationBlock

/-! ## Printed rules -/

namespace PlainRule

open DeclarationBlock

theorem braceFree_print (rule : PlainRule) : BraceFree (print (declarationsOf rule.body)) := by
  have hprinted : BraceFree [':', ' ', ';'] := by decide
  exact fun c hc => (mem_print hc).elim (rule.braceFree_body c) (hprinted c)

/-- The rule in written form. -/
def print (rule : PlainRule) : PlainRule where
  selector := rule.selector.trim ++ [' ']
  body := DeclarationBlock.print (declarationsOf rule.body)
  braceFree_selector := braceFree_append.2
    ⟨rule.braceFree_selector.of_isInfix (Text.trim_isInfix _), by decide⟩
  braceFree_body := rule.braceFree_print

theorem text_print (rule : PlainRule) : rule.print.text = rule.ruleset.render := by
  simp [text, print, Ruleset.render, ruleset, DeclarationBlock.print, declarationsOf]

theorem Unmarked.print {rule : PlainRule} (h : rule.Unmarked) : rule.print.Unmarked where
  atFree_selector hmem := by
    rcases List.mem_append.1 hmem with hmem | hmem
    · exact h.atFree_selector ((Text.trim_isInfix _).subset hmem)
    · revert hmem
      decide
  atFree_body hmem := by
    rcases mem_print hmem with hmem | hmem
    · exact h.atFree_body hmem
    · revert hmem
      decide
  commentFree_selector :=
    (h.commentFree_selector.of_isInfix (Text.trim_isInfix _)).concat (by decide) (by decide)
  commentFree_body := commentFree_print fun d hd =>
    ⟨h.commentFree_body.of_isInfix (sides_isInfix hd).1, h.commentFree_body.of_isInfix (sides_isInfix hd).2⟩

/-- What is read of the written form is what was read of the rule. -/
theorem ruleset_print {rule : PlainRule} (hclosed : Nesting.top.after rule.body = .top)
    (hvalid : ∀ d ∈ rule.ruleset.block.declarations, d.isValid) :
    rule.print.ruleset.selector = rule.ruleset.selector ∧
      rule.print.ruleset.block.declarations = rule.ruleset.block.declarations := by
  have hspace : Text.isBlank [' '] := by decide
  refine ⟨?_, declarationsOf_print hclosed hvalid⟩
  exact (Text.trim_append_of_isBlank_right hspace _).trans (Text.trim_trim _)

end PlainRule

end CssSurvey
