/-
The at-rule that is read from a text alone is the last one of the sheet that the text is read into, and
there is none exactly when the sheet has none. The one search goes over the sources from the back for a
block, the other keeps from the front whatever can be read; both meet the same at-rules, and each of
these has the header of an at-rule that was found in the code.
-/
import CssSurvey.Sheet
import CssSurvey.Proofs.AtRule.Header

namespace CssSurvey

namespace AtRule

/-! ## From the back and from the front -/

/-- The first block is the first source that an at-rule can be read from. -/
theorem find?_isBlock_bind (sources : List AtSource) :
    (sources.find? isBlock).bind ofSource? = sources.findSome? ofSource? := by
  induction sources with
  | nil => rfl
  | cons source sources ih =>
    cases source with
    | statement head => exact ih
    | block head body closed => rfl

theorem lastBlock?_bind (name text context : Text) :
    (lastBlock? text).bind ofSource? = (Sheet.parse name text context).atRules.getLast? := by
  show _ = ((Outline.ofCode (separate text).code).sources.filterMap ofSource?).getLast?
  rw [lastBlock?, find?_isBlock_bind, List.getLast?_filterMap]

theorem parse_eq_error_iff (name text context : Text) :
    parse text = .error .notFound ↔ (Sheet.parse name text context).atRules.getLast? = none := by
  rw [← lastBlock?_bind, parse]
  split <;> rename_i h <;> simp [h]

theorem parse_eq_ok_iff (name text context : Text) {rule : AtRule} :
    parse text = .ok rule ↔ (Sheet.parse name text context).atRules.getLast? = some rule := by
  rw [← lastBlock?_bind, parse]
  split <;> rename_i h <;> simp [h]

/-! ## Headers of the at-rules of a sheet -/

theorem exists_source_of_mem_atRules {name text context : Text} {rule : AtRule}
    (h : rule ∈ (Sheet.parse name text context).atRules) :
    ∃ source : AtSource, source.Headed ∧ rule.header = source.header := by
  obtain ⟨source, hsource, hrule⟩ := List.mem_filterMap.1 h
  refine ⟨source, Outline.headed_of_mem_sources hsource, ?_⟩
  cases source with
  | statement head => cases hrule
  | block head body closed =>
    cases hrule
    rfl

/-- The header of an at-rule is collapsed, starts with an `@` and a keyword, and holds neither of the
characters that end a head. -/
theorem header_of_mem_atRules {name text context : Text} {rule : AtRule}
    (h : rule ∈ (Sheet.parse name text context).atRules) :
    rule.header.head? = some '@' ∧ '{' ∉ rule.header ∧ ';' ∉ rule.header ∧
      rule.header.collapse = rule.header ∧ rule.name ≠ [] := by
  obtain ⟨source, hheaded, hheader⟩ := exists_source_of_mem_atRules h
  have hkeyword : Outline.StartsWithKeyword rule.header := by
    rw [hheader]
    exact hheaded.startsWithKeyword_header
  refine ⟨?_, ?_, ?_, ?_, name_ne_nil hkeyword⟩
  · obtain ⟨c, tail, hstart, -⟩ := hkeyword
    rw [hstart]
    rfl
  · rw [hheader]
    exact hheaded.not_mem_header (by decide)
  · rw [hheader]
    exact hheaded.not_mem_header (by decide)
  · rw [hheader]
    exact Text.collapse_collapse _

/-! ## The last at-rule -/

/-- Read alone, a text gives the last at-rule of its sheet and fails only if there is none; and every
at-rule that is read has a proper header and a name. -/
theorem parse_iff_last (name text context : Text) :
    let rules := (Sheet.parse name text context).atRules
    (parse text = .error .notFound ↔ rules = []) ∧
      (∀ rule, parse text = .ok rule ↔ rules.getLast? = some rule) ∧
      ∀ rule, parse text = .ok rule ∨ rule ∈ rules →
        rule.header.head? = some '@' ∧ '{' ∉ rule.header ∧ ';' ∉ rule.header ∧
          rule.header.collapse = rule.header ∧ rule.name ≠ [] := by
  intro rules
  refine ⟨?_, fun rule => parse_eq_ok_iff name text context, ?_⟩
  · rw [parse_eq_error_iff name text context, List.getLast?_eq_none_iff]
  · rintro rule (hparse | hmem)
    · exact header_of_mem_atRules (List.mem_of_getLast? ((parse_eq_ok_iff name text context).1 hparse))
    · exact header_of_mem_atRules hmem

/-- A statement, a block with another inside, and a block that is never closed, which is the one that is
read alone. -/
theorem parse_iff_last_unclosed :
    let text := "@import url(a.css);\n@media  print\n\x7b @page \x7b b: c \x7d \x7d d \x7b e: f;\n".toList ++
      "@-x-y\u00a0z \x7b g \x7b h: i".toList
    let rules := (Sheet.parse [] text []).atRules
    let last : AtRule := ⟨"@-x-y z".toList, " g \x7b h: i".toList, [Ruleset.parse "g \x7b h: i".toList]⟩
    (rules.map AtRule.header = ["@media print".toList, "@-x-y z".toList] ∧ rules.getLast? = some last) ∧
      parse text ≠ .error .notFound ∧ parse text = .ok last ∧
      last.header.head? = some '@' ∧ '{' ∉ last.header ∧ ';' ∉ last.header ∧
        last.header.collapse = last.header ∧ last.name ≠ [] := by
  intro text rules last
  have hlast : rules.getLast? = some last := by decide +kernel
  obtain ⟨hnone, hread, hheader⟩ := parse_iff_last [] text []
  have hparse : parse text = .ok last := (hread last).2 hlast
  refine ⟨⟨by decide +kernel, hlast⟩, ?_, hparse, hheader last (.inl hparse)⟩
  intro herror
  rw [hparse] at herror
  cases herror

end AtRule

end CssSurvey
