/-
Braces in what is read. A fragment that is no at-rule has one opening brace at most and after it one
closing brace at most, which ends the fragment. So such a fragment is a valid ruleset exactly when it
is a plain rule, and no brace is left in any part of the ruleset, valid or not.
-/
import CssSurvey.Proofs.Fragment.Shape
import CssSurvey.Proofs.Ruleset.Parts
import CssSurvey.Proofs.Ruleset.Print
import CssSurvey.Sheet

namespace CssSurvey

/-! ## Fragments -/

namespace OneBlock

variable {text before after : Text}

theorem count_open_le (h : OneBlock text) : text.count '{' ≤ 1 := by
  by_cases hmem : '{' ∈ text
  · obtain ⟨before, after, rfl⟩ := List.append_of_mem hmem
    obtain ⟨hbefore, hafter⟩ := h.of_append
    have hrest : '{' ∉ after := by
      rintro hin
      rcases hafter with hfree | ⟨body, hfree, rfl⟩
      · exact absurd (hfree _ hin) (by decide)
      · rcases List.mem_append.1 hin with hin | hin
        · exact absurd (hfree _ hin) (by decide)
        · exact absurd (List.mem_singleton.1 hin) (by decide)
    rw [List.count_append, List.count_cons_self, List.count_eq_zero_of_not_mem hbefore,
      List.count_eq_zero_of_not_mem hrest]
  · rw [List.count_eq_zero_of_not_mem hmem]
    exact Nat.zero_le 1

/-- A closing brace behind the opening one is the last character. -/
theorem closing_brace (h : OneBlock (before ++ '{' :: after)) :
    after.count '}' ≤ 1 ∧ ('}' ∈ after → (before ++ '{' :: after).getLast? = some '}') := by
  have hcount : ∀ {body : Text}, BraceFree body → body.count '}' = 0 := fun hbody =>
    List.count_eq_zero_of_not_mem (hbody.not_mem rfl)
  rcases h.of_append.2 with hfree | ⟨body, hfree, rfl⟩
  · refine ⟨by rw [hcount hfree]; exact Nat.zero_le 1, fun hmem => ?_⟩
    exact absurd hmem (hfree.not_mem rfl)
  · refine ⟨by rw [List.count_append, hcount hfree]; decide, fun _ => ?_⟩
    rw [← List.cons_append, ← List.append_assoc, List.getLast?_concat]

end OneBlock

/-! ## Rulesets -/

namespace Ruleset

/-- The braces of a valid ruleset enclose its body, and those of an invalid one are dropped. -/
theorem braceFree_text_block {text : Text} (h : OneBlock text.trim) : BraceFree (parse text).block.text := by
  rcases hvalid : (parse text).isValid with _ | _
  · obtain ⟨_, rest, -, -, -, -, hbody⟩ := exists_parts_of_not_isValid hvalid
    rw [hbody]
    exact braceFree_filter rest
  · obtain ⟨rule, hrule⟩ := h.exists_plainRule hvalid
    rw [← parse_trim, ← hrule, rule.parse_text]
    exact rule.braceFree_body

theorem braceFree_sides {text : Text} (h : BraceFree (parse text).block.text) :
    ∀ d ∈ (parse text).block.declarations, BraceFree d.property ∧ BraceFree d.value := by
  intro d hd
  have hmem : d ∈ DeclarationBlock.declarationsOf (parse text).block.text := hd
  obtain ⟨hproperty, hvalue⟩ := DeclarationBlock.sides_isInfix hmem
  exact ⟨h.of_isInfix hproperty, h.of_isInfix hvalue⟩

theorem head?_selector {text : Text} (htrim : text.trim = text) (h : text.head? = some '@') :
    (parse text).selector.head? = some '@' := by
  obtain ⟨rest, rfl⟩ := List.head?_eq_some_iff.1 h
  have hhead : ('@' :: rest).takeWhile (!isBrace ·) = [] ++ '@' :: rest.takeWhile (!isBrace ·) :=
    List.takeWhile_cons_of_pos (by decide)
  show (Text.trim ((Text.trim ('@' :: rest)).takeWhile (!isBrace ·))).head? = some '@'
  rw [htrim, hhead, Text.trim_append_cons (by decide)]
  rfl

/-- A fragment that is no at-rule is a valid ruleset exactly when it is a plain rule. -/
theorem isValid_iff_of_mem_fragments {code fragment : Text} (h : fragment ∈ fragments code)
    (hat : fragment.head? ≠ some '@') :
    (parse fragment).isValid ↔ ∃ selector body, BraceFree selector ∧ BraceFree body ∧
      fragment = selector ++ '{' :: (body ++ ['}']) := by
  constructor
  · intro hvalid
    obtain ⟨rule, rfl⟩ := exists_text_eq_of_isValid h hat hvalid
    exact ⟨rule.selector, rule.body, rule.braceFree_selector, rule.braceFree_body, rfl⟩
  · rintro ⟨selector, body, hselector, hbody, rfl⟩
    have hparse := PlainRule.parse_text ⟨selector, body, hselector, hbody⟩
    exact congrArg Ruleset.isValid hparse

end Ruleset

/-! ## Sheets -/

/-- Every ruleset of a sheet, those inside at-rules included, is read from a fragment of some code. -/
theorem Sheet.exists_fragment_of_mem_allRulesets {name text context : Text} {r : Ruleset}
    (h : r ∈ (parse name text context).allRulesets) :
    ∃ code, ∃ fragment ∈ fragments code, r = Ruleset.parse fragment := by
  rcases List.mem_append.1 h with h | h
  · obtain ⟨fragment, hfragment, rfl⟩ := List.mem_map.1 h
    exact ⟨_, fragment, hfragment, rfl⟩
  · obtain ⟨rule, hrule, h⟩ := List.mem_flatMap.1 h
    obtain ⟨source, -, hsource⟩ := List.mem_filterMap.1 hrule
    cases source with
    | statement head => cases hsource
    | block head body closed =>
      cases hsource
      obtain ⟨fragment, hfragment, rfl⟩ := List.mem_map.1 h
      exact ⟨body, fragment, List.mem_of_mem_filter hfragment, rfl⟩

/-- Fragments that are no at-rules hold the braces of one block at most, and the rulesets read from
them hold none. -/
theorem braces_of_fragments :
    (∀ code, ∀ fragment ∈ fragments code, fragment.head? ≠ some '@' →
      fragment.count '{' ≤ 1 ∧
        (∀ before after, fragment = before ++ '{' :: after →
          after.count '}' ≤ 1 ∧ ('}' ∈ after → fragment.getLast? = some '}')) ∧
        ((Ruleset.parse fragment).isValid ↔ ∃ selector body, BraceFree selector ∧ BraceFree body ∧
          fragment = selector ++ '{' :: (body ++ ['}']))) ∧
      ∀ name text context, ∀ r ∈ (Sheet.parse name text context).allRulesets,
        r.selector.head? ≠ some '@' →
          BraceFree r.selector ∧ BraceFree r.block.text ∧
            ∀ d ∈ r.block.declarations, BraceFree d.property ∧ BraceFree d.value := by
  constructor
  · intro code fragment hfragment hat
    have hblock := oneBlock_of_mem_fragments hfragment hat
    refine ⟨hblock.count_open_le, ?_, Ruleset.isValid_iff_of_mem_fragments hfragment hat⟩
    rintro before after rfl
    exact hblock.closing_brace
  · intro name text context r hr hselector
    obtain ⟨code, fragment, hfragment, rfl⟩ := Sheet.exists_fragment_of_mem_allRulesets hr
    have htrim := trim_of_mem_fragments hfragment
    have hat : fragment.head? ≠ some '@' := fun h => hselector (Ruleset.head?_selector htrim h)
    have hblock : OneBlock fragment.trim := htrim.symm ▸ oneBlock_of_mem_fragments hfragment hat
    have hbody := Ruleset.braceFree_text_block hblock
    exact ⟨Ruleset.braceFree_selector fragment, hbody, Ruleset.braceFree_sides hbody⟩

/-- A rule that was left open in front of another, inside and outside of an at-rule. -/
theorem braces_of_fragments_left_open :
    let code := "p \x7b color: red;\nh1 \x7b margin: 0; \x7d".toList
    let fragment := "p \x7b color: red;".toList
    let sheet := Sheet.parse [] ("@media print \x7b".toList ++ code ++ "\x7d\x7d a \x7d b: c \x7b".toList) []
    (fragment ∈ fragments code ∧ fragment.head? ≠ some '@' ∧
        sheet.allRulesets.map (·.selector) = [['a'], ['p'], "h1".toList] ∧
        sheet.allRulesets.map (·.isValid) = [false, false, true]) ∧
      fragment.count '{' ≤ 1 ∧
      ((Ruleset.parse fragment).isValid ↔ ∃ selector body, BraceFree selector ∧ BraceFree body ∧
        fragment = selector ++ '{' :: (body ++ ['}'])) ∧
      ∀ r ∈ sheet.allRulesets, BraceFree r.selector ∧ BraceFree r.block.text := by
  intro code fragment sheet
  have hfragment : fragment ∈ fragments code := by decide +kernel
  have hat : fragment.head? ≠ some '@' := by decide
  have hselectors : ∀ r ∈ sheet.allRulesets, r.selector.head? ≠ some '@' := by decide +kernel
  obtain ⟨hcount, -, hvalid⟩ := braces_of_fragments.1 code fragment hfragment hat
  refine ⟨⟨hfragment, hat, by decide +kernel, by decide +kernel⟩, hcount, hvalid, fun r hr => ?_⟩
  obtain ⟨hselector, hblock, -⟩ := braces_of_fragments.2 [] _ [] r hr (hselectors r hr)
  exact ⟨hselector, hblock⟩

end CssSurvey
