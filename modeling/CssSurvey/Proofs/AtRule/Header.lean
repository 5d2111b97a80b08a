/-
Headers of at-rules. The head of every at-rule that is found in a code starts with an `@` and the first
character of a keyword, and runs up to the first character that can end it. So its header, which is the
head with its white space collapsed, starts the same way, holds neither `{` nor `;`, and names a
keyword.
-/
import CssSurvey.AtRule
import CssSurvey.Proofs.AtRule.Outline
import CssSurvey.Proofs.Text.Letter
import CssSurvey.Proofs.Text.Words

namespace CssSurvey

/-! ## Heads -/

namespace AtSource

/-- The head of a source starts with a keyword and holds nothing that ends a head. -/
structure Headed (source : AtSource) : Prop where
  keyword : Outline.StartsWithKeyword source.head
  unended : ∀ c ∈ source.head, endsHead c = false

/-- The head that is read goes up to the first character that ends it. -/
theorem head_of_read? {text rest : Text} {source : AtSource} (h : read? text = some (source, rest)) :
    source.head = text.takeWhile (!endsHead ·) := by
  rcases read?_cases text with ⟨-, hread⟩ | ⟨_, -, hread⟩ | ⟨_, -, hread⟩ <;> rw [hread] at h <;> cases h <;> rfl

theorem headed_of_read? {text rest : Text} {source : AtSource} (hkey : Outline.StartsWithKeyword text)
    (h : read? text = some (source, rest)) : source.Headed := by
  obtain ⟨c, tail, rfl, hc⟩ := hkey
  have hkeyword : endsHead c = false := by
    by_contra hend
    simp only [endsHead, Bool.not_eq_false, Bool.or_eq_true, decide_eq_true_eq] at hend
    rcases hend with rfl | rfl <;> cases hc
  have hhead := head_of_read? h
  constructor
  · refine ⟨c, tail.takeWhile (!endsHead ·), ?_, hc⟩
    rw [hhead, List.takeWhile_cons_of_pos (by decide), List.takeWhile_cons_of_pos (by simp [hkeyword])]
  · intro d hd
    rw [hhead] at hd
    simpa using List.all_eq_true.1 List.all_takeWhile d hd

end AtSource

namespace Outline

theorem startsWithKeyword_of_startsAtRule {inRuleset : Bool} {seen rest : Text} (h : startsAtRule inRuleset seen rest) :
    StartsWithKeyword ('@' :: rest) := by
  rw [startsAtRule, Bool.and_eq_true] at h
  cases rest with
  | nil => cases h.1
  | cons c tail => exact ⟨c, tail, rfl, by simpa using h.1⟩

/-- Every at-rule of an outline was read where a keyword starts, and what comes after it in the outline is
what the search finds in the text after it. -/
theorem exists_read?_of_suffix {inRuleset : Bool} {seen text gap : Text} {source : AtSource}
    {back : List (Text × AtSource)} (h : (gap, source) :: back <:+ (ofCodeFrom inRuleset seen text).parts) :
    ∃ here rest, StartsWithKeyword here ∧ AtSource.read? here = some (source, rest) ∧
      ofCodeFrom false [] rest = ⟨back, (ofCodeFrom inRuleset seen text).last⟩ := by
  fun_induction ofCodeFrom inRuleset seen text with
  | case1 => simp at h
  | case2 _ _ _ ih => exact ih h
  | case3 _ _ _ _ ih => exact ih h
  | case4 => simp at h
  | case5 inRuleset seen c rest hopen hclose hat first rest' hread after ih =>
    obtain ⟨rfl, hstarts⟩ := hat
    rcases List.suffix_cons_iff.1 h with hfirst | hlater
    · cases hfirst
      exact ⟨'@' :: rest, rest', startsWithKeyword_of_startsAtRule hstarts, hread, rfl⟩
    · exact ih hlater
  | case6 _ _ _ _ _ _ _ ih => exact ih h

/-- Every at-rule of a code has such a head. -/
theorem headed_of_mem_sources {code : Text} {source : AtSource} (h : source ∈ (ofCode code).sources) :
    source.Headed := by
  obtain ⟨⟨gap, source⟩, hpart, rfl⟩ := List.mem_map.1 h
  obtain ⟨front, back, hparts⟩ := List.append_of_mem hpart
  obtain ⟨here, rest, hkey, hread, -⟩ := exists_read?_of_suffix ⟨front, hparts.symm⟩
  exact AtSource.headed_of_read? hkey hread

end Outline

/-! ## Headers -/

namespace AtSource.Headed

variable {source : AtSource} (h : source.Headed)

include h

/-- A header starts with the same keyword as its head. -/
theorem startsWithKeyword_header : Outline.StartsWithKeyword source.header := by
  obtain ⟨c, tail, hhead, hc⟩ := h.keyword
  have hink : ∀ d ∈ ['@', c], isBlank d = false := by
    have hletter : isBlank c = false := by
      by_contra hblank
      rw [Bool.not_eq_false] at hblank
      rw [isAlpha_of_isBlank hblank, Bool.false_or, decide_eq_true_eq] at hc
      subst hc
      cases hblank
    simpa [hletter] using show isBlank '@' = false by decide
  obtain ⟨after, hafter⟩ := Text.prefix_collapse hink tail
  refine ⟨c, after, ?_, hc⟩
  rw [header, hhead]
  exact hafter.symm

/-- A header holds nothing that ends a head. -/
theorem not_mem_header {c : Char} (hc : endsHead c) : c ∉ source.header := by
  have hink : isBlank c = false := by
    simp only [endsHead, Bool.or_eq_true, decide_eq_true_eq] at hc
    rcases hc with rfl | rfl <;> decide
  refine Text.not_mem_collapse hink fun hmem => ?_
  rw [h.unended c hmem] at hc
  cases hc

end AtSource.Headed

namespace AtRule

theorem isKeywordChar_of_first {c : Char} (hc : c.isAlpha || c = '-') : isKeywordChar c := by
  rw [Bool.or_eq_true] at hc
  unfold isKeywordChar
  rcases hc with hletter | hhyphen
  · rw [Unicode.isAlphanumeric_of_isAlpha hletter]
    rfl
  · rw [hhyphen, Bool.or_true, Bool.true_or]

/-- An at-rule has a name when its header starts with a keyword. -/
theorem name_ne_nil {rule : AtRule} (h : Outline.StartsWithKeyword rule.header) : rule.name ≠ [] := by
  obtain ⟨c, tail, hheader, hc⟩ := h
  have hname : rule.name = (c :: tail).takeWhile isKeywordChar := by
    unfold name
    simp only [hheader]
  rw [hname, List.takeWhile_cons_of_pos (isKeywordChar_of_first hc)]
  simp

end AtRule

end CssSurvey
