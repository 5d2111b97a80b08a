/-
The selectors of a sheet. A selector list is cut at its top-level commas, as the body of a rule is at its
top-level semicolons, and one law covers both: a separator is a cut exactly when nothing is open before it,
so a part read on its own is read as inside the whole. What a sheet lists as a selector is therefore a
selector for good: trimming it or cutting it once more leaves it as it is.
-/
import CssSurvey.Proofs.TopLevel
import CssSurvey.Sheet

namespace CssSurvey

/-- The entries of a selector list are what is left of its parts by trimming, and trimming does not touch
what a scan reacts to. -/
theorem Ruleset.whole_of_mem_selectors {r : Ruleset} {selector : Text} (h : selector ∈ r.selectors) :
    selector ≠ [] ∧ selector.trim = selector ∧ splitTop ',' selector = [selector] := by
  rw [selectors, List.mem_filter, List.mem_map] at h
  obtain ⟨⟨part, hpart, rfl⟩, hne⟩ := h
  have huncut : Uncut ',' .top part.trim :=
    (uncut_iff_of_ink_eq Nesting.proper_top (by decide) (Text.ink_trim part)).2 (uncut_of_mem_splitTop hpart)
  exact ⟨by simpa using hne, Text.trim_trim part, huncut.splitTop_eq⟩

/-- Splitting at a separator that opens and closes nothing: the parts make up the text and are split no
further; a separator is a cut exactly when all is closed before it, and there the text is split as the two
texts beside the cut are. The selectors of a sheet are not empty, trimmed, and split no further. -/
theorem splitTop_cuts {separator : Char} (hseparator : Nesting.isDelimiter separator = false) :
    (∀ text, List.intercalate [separator] (splitTop separator text) = text ∧
        ∀ part ∈ splitTop separator text, splitTop separator part = [part]) ∧
      (∀ before after, CutBetween separator before after ↔ Nesting.top.after before = .top) ∧
      (∀ a b, Nesting.top.after a = .top →
        splitTop separator (a ++ separator :: b) = splitTop separator a ++ splitTop separator b) ∧
      ∀ sheet : Sheet, ∀ selector ∈ sheet.selectors,
        selector ≠ [] ∧ selector.trim = selector ∧ splitTop ',' selector = [selector] := by
  refine ⟨fun text => ⟨?join, fun part hpart => ?whole⟩, fun before after => cutBetween_iff hseparator,
    fun a b h => splitTop_append_separator hseparator h b, fun sheet selector h => ?selectors⟩
  case join => exact intercalate_splitTop separator text
  case whole => exact (uncut_of_mem_splitTop hpart).splitTop_eq
  case selectors =>
    obtain ⟨r, -, hr⟩ := List.mem_flatMap.1 h
    exact Ruleset.whole_of_mem_selectors hr

/-- A comma inside parentheses or quotes is no cut; the one between the two members is. -/
theorem splitTop_cuts_comma :
    Nesting.isDelimiter ',' = false ∧
      ¬ CutBetween ',' "a:is(b".toList "c),d[e=\",\"]".toList ∧
      CutBetween ',' "a:is(b,c)".toList "d[e=\",\"]".toList ∧
      splitTop ',' "a:is(b,c),d[e=\",\"]".toList =
        splitTop ',' "a:is(b,c)".toList ++ splitTop ',' "d[e=\",\"]".toList := by
  have hcomma : Nesting.isDelimiter ',' = false := by decide
  obtain ⟨-, hcut, hjoin, -⟩ := splitTop_cuts hcomma
  have hopen : Nesting.top.after "a:is(b".toList ≠ .top := by decide
  have hclosed : Nesting.top.after "a:is(b,c)".toList = .top := by decide
  exact ⟨hcomma, fun h => hopen ((hcut _ _).1 h), (hcut _ _).2 hclosed, hjoin _ _ hclosed⟩

end CssSurvey
