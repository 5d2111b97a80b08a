/-
Rulesets regardless of white space. Two codes with the same ink, such as a code and its minified text,
are read into as many rulesets, which agree one by one in all but white space. Each function of the
reader is shown to do to the ink of a text what it does to the text, so that both codes are compared
with their common ink.
-/
import CssSurvey.Proofs.Declaration
import CssSurvey.Proofs.Fragment.Ink
import CssSurvey.Proofs.Text.Lines

namespace CssSurvey

/-! ## Braces -/

theorem not_isBrace_of_isBlank (c : Char) (hc : isBlank c) : (!isBrace c) = true := by
  rw [isBrace_eq_false_of_isBlank hc]
  rfl

theorem closesAll_ink (depth : Nat) (text : Text) : closesAll depth (Text.ink text) = closesAll depth text := by
  induction text generalizing depth with
  | nil => rfl
  | cons c text ih =>
    rcases hc : isBlank c with _ | _
    · rw [Text.ink_cons_of_not_isBlank hc, closesAll, closesAll, ih, ih, ih]
    · obtain ⟨hopen, hclose⟩ := isBrace_eq_false.1 (isBrace_eq_false_of_isBlank hc)
      rw [Text.ink_cons_of_isBlank hc, closesAll, if_neg hopen, if_neg hclose, ih]

theorem Ruleset.wellBraced_ink (text : Text) : wellBraced (Text.ink text) = wellBraced text := by
  have hopen : (Text.ink text).any (· = '{') = text.any (· = '{') := by
    rw [Text.ink, List.any_filter]
    refine congrArg text.any (funext fun c => ?_)
    by_cases hc : c = '{'
    · subst hc
      rfl
    · simp [hc]
  rw [wellBraced, wellBraced, hopen, bracesBalanced, bracesBalanced, closesAll_ink]

/-! ## Declarations -/

namespace DeclarationBlock

theorem bodyOf_ink (text : Text) : bodyOf (Text.ink text) = Text.ink (bodyOf text) := by
  unfold bodyOf
  rw [Text.dropWhile_ink (Text.ne_of_isBlank (by decide))]
  rcases hrest : text.dropWhile (· ≠ '{') with _ | ⟨c, inner⟩
  · rfl
  · obtain rfl : c = '{' := by simpa using (Text.dropWhile_eq_cons hrest).1
    rw [Text.ink_cons_of_not_isBlank (by decide)]
    dsimp only
    rw [← Text.ink_reverse, Text.dropWhile_ink (Text.ne_of_isBlank (by decide))]
    rcases hbody : inner.reverse.dropWhile (· ≠ '}') with _ | ⟨c, body⟩
    · rfl
    · obtain rfl : c = '}' := by simpa using (Text.dropWhile_eq_cons hbody).1
      rw [Text.ink_cons_of_not_isBlank (by decide)]
      exact (Text.ink_reverse body).symm

theorem statements_ink (body : Text) : statements (Text.ink body) = (statements body).map Text.ink := by
  rw [statements, statements, splitTop_ink (by decide), List.filter_map]
  simp only [Function.comp_def, Text.isBlank_ink]

end DeclarationBlock

/-- A declaration without its white space: the two sides when it is valid, and nothing when it is not. -/
def Declaration.skeleton (d : Declaration) : Option (Text × Text) :=
  if d.isValid then some (Text.ink d.property, Text.ink d.value) else none

theorem Declaration.skeleton_parse_ink (text : Text) :
    (parse (Text.ink text)).skeleton = (parse text).skeleton := by
  by_cases hcolon : ':' ∈ text.trim
  · obtain ⟨before, after, hsplit, hbefore⟩ := List.eq_append_cons_of_mem hcolon
    have hbeforeInk : ':' ∉ Text.ink before := fun hmem => hbefore (List.mem_of_mem_filter hmem)
    have hsplitInk : (Text.ink text).trim = Text.ink before ++ ':' :: Text.ink after := by
      rw [Text.trim_ink, ← Text.ink_trim, hsplit, Text.ink_append, Text.ink_cons_of_not_isBlank (by decide)]
    have hothers : ((splitFrom ';' .top after).2.map Text.ink).all Text.isBlank =
        (splitFrom ';' .top after).2.all Text.isBlank := by
      rw [List.all_map]
      exact congrArg _ (funext Text.isBlank_ink)
    rw [parse_of_colon hsplit hbefore, parse_of_colon hsplitInk hbeforeInk,
      splitFrom_ink Nesting.proper_top (by decide)]
    simp only [skeleton, Text.trim_ink, Text.ink_ink, Text.ink_trim, Text.isEmpty_ink, Text.isEmpty_trim, hothers]
  · have hcolonInk : ':' ∉ (Text.ink text).trim := by
      rw [Text.trim_ink, ← Text.ink_trim]
      exact fun hmem => hcolon (List.mem_of_mem_filter hmem)
    rw [parse_of_colonFree hcolon, parse_of_colonFree hcolonInk]
    rfl

theorem DeclarationBlock.skeleton_parse_ink (text : Text) :
    (parse (Text.ink text)).declarations.map Declaration.skeleton =
      (parse text).declarations.map Declaration.skeleton := by
  unfold parse
  dsimp only
  rw [bodyOf_ink, statements_ink, List.map_map, List.map_map, List.map_map]
  exact List.map_congr_left fun statement _ => Declaration.skeleton_parse_ink statement

/-! ## Rulesets -/

/-- What a ruleset is without its white space. -/
structure Ruleset.Skeleton where
  isValid : Bool
  selector : Text
  selectors : List Text
  declarations : List (Option (Text × Text))
deriving DecidableEq

namespace Ruleset

/-- A ruleset without its white space. Of an invalid declaration only its place is left. -/
def skeleton (r : Ruleset) : Skeleton where
  isValid := r.isValid
  selector := Text.ink r.selector
  selectors := r.selectors.map Text.ink
  declarations := r.block.declarations.map Declaration.skeleton

theorem selectors_of_selector_eq_ink {r s : Ruleset} (h : s.selector = Text.ink r.selector) :
    s.selectors.map Text.ink = r.selectors.map Text.ink := by
  rw [selectors, selectors, h, splitTop_ink (by decide), List.map_map, List.filter_map, List.filter_map,
    List.map_map, List.map_map]
  simp only [Function.comp_def, Text.isEmpty_trim, Text.isEmpty_ink, Text.trim_ink, Text.ink_ink, Text.ink_trim]

theorem skeleton_parse_ink (text : Text) : (parse (Text.ink text)).skeleton = (parse text).skeleton := by
  have htrim : (Text.ink text).trim = Text.ink text.trim := by rw [Text.trim_ink, Text.ink_trim]
  have hvalid : (parse (Text.ink text)).isValid = (parse text).isValid := by
    show wellBraced (Text.ink text).trim = wellBraced text.trim
    rw [htrim, wellBraced_ink]
  have hselector : (parse (Text.ink text)).selector = Text.ink (parse text).selector := by
    show Text.trim ((Text.ink text).trim.takeWhile (!isBrace ·)) =
      Text.ink (Text.trim (text.trim.takeWhile (!isBrace ·)))
    rw [htrim, Text.takeWhile_ink not_isBrace_of_isBlank, Text.trim_ink, Text.ink_trim]
  have hdeclarations : (parse (Text.ink text)).block.declarations.map Declaration.skeleton =
      (parse text).block.declarations.map Declaration.skeleton := by
    unfold parse
    dsimp only
    rw [htrim, wellBraced_ink, Text.dropWhile_ink not_isBrace_of_isBlank, Text.filter_ink, ← apply_ite Text.ink]
    exact DeclarationBlock.skeleton_parse_ink _
  rw [skeleton, skeleton, hvalid, hselector, Text.ink_ink, selectors_of_selector_eq_ink hselector, hdeclarations]

end Ruleset

/-! ## Codes -/

theorem skeletons_ink (code : Text) :
    ((fragments (Text.ink code)).map Ruleset.parse).map Ruleset.skeleton =
      ((fragments code).map Ruleset.parse).map Ruleset.skeleton := by
  rw [fragments_ink, List.map_map, List.map_map, List.map_map]
  exact List.map_congr_left fun fragment _ => Ruleset.skeleton_parse_ink fragment

/-- Codes with the same ink are read into rulesets that agree, one by one, in all but white space; so
minifying a code does not change what is read of it. -/
theorem skeletons_eq_of_ink_eq (a : Text) :
    (∀ b, Text.ink a = Text.ink b →
      ((fragments a).map Ruleset.parse).map Ruleset.skeleton =
        ((fragments b).map Ruleset.parse).map Ruleset.skeleton) ∧
      ((fragments a).map Ruleset.parse).map Ruleset.skeleton =
        ((fragments a.minify).map Ruleset.parse).map Ruleset.skeleton := by
  have hsame : ∀ b, Text.ink a = Text.ink b →
      ((fragments a).map Ruleset.parse).map Ruleset.skeleton =
        ((fragments b).map Ruleset.parse).map Ruleset.skeleton := by
    intro b h
    rw [← skeletons_ink a, h, skeletons_ink b]
  exact ⟨hsame, hsame a.minify (Text.ink_minify a).symm⟩

/-- White space inside a selector, a property and a quoted value, around a rule that was left open and
inside an at-rule. -/
theorem skeletons_eq_of_ink_eq_moved :
    let a := "h1 , h2 \x7b co lor : \"r ;ed\" ; x \x7d \x7d\n p \x7b q: r ;\n @media s \x7b t \x7b u:v \x7d \x7d".toList
    let b := "h\t1,h2\x7bcolor:\" r;e d\";x\x7d\x7dp\x7bq:r;@m edia s\x7bt\x7bu: v \x7d\x7d\n".toList
    (Text.ink a = Text.ink b ∧ a ≠ b ∧ ((fragments a).map Ruleset.parse).map Ruleset.skeleton ≠ []) ∧
      ((fragments a).map Ruleset.parse).map Ruleset.skeleton =
        ((fragments b).map Ruleset.parse).map Ruleset.skeleton := by
  intro a b
  have hink : Text.ink a = Text.ink b := by decide
  exact ⟨⟨hink, by decide, by decide⟩, (skeletons_eq_of_ink_eq a).1 b hink⟩

end CssSurvey
