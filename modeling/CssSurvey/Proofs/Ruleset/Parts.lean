/-
The parts that a text is read into, whatever its braces are. A ruleset is valid when the braces of the
trimmed text pair up; then the first of them opens its body and the last one closes it. Otherwise the
selector still ends at the first brace, and the rest without its braces takes the place of the body.
Either way the declarations are read from the parts of the body between its top-level semicolons.
-/
import CssSurvey.Proofs.Ruleset.Plain
import CssSurvey.Proofs.TopLevel

namespace CssSurvey

/-! ## The last brace -/

/-- A text with some character in it, cut at the last place where that character stands. -/
theorem exists_eq_append_cons_of_mem {c : Char} {text : Text} (h : c ∈ text) :
    ∃ before after, text = before ++ c :: after ∧ c ∉ after := by
  obtain ⟨front, back, hsplit, hfront⟩ := List.eq_append_cons_of_mem (List.mem_reverse.2 h)
  refine ⟨back.reverse, front.reverse, ?_, fun hmem => hfront (List.mem_reverse.1 hmem)⟩
  have := congrArg List.reverse hsplit
  simpa using this

/-- A text that closes one block more than it opens does so with its last brace. -/
theorem exists_last_close {inner : Text} (h : closesAll 1 inner) :
    ∃ body after, inner = body ++ '}' :: after ∧ BraceFree after := by
  obtain ⟨hfronts, hend⟩ := closesAll_iff.1 h
  have hmem : '}' ∈ inner := List.count_pos_iff.1 (by omega)
  obtain ⟨body, after, rfl, hclose⟩ := exists_eq_append_cons_of_mem hmem
  refine ⟨body, after, rfl, ?_⟩
  -- What the last closing brace closes is all that is open there, so nothing can be opened behind it.
  have hopen : after.count '{' = 0 := by
    have hfront := hfronts (body ++ ['}']) ⟨after, by simp⟩
    have hnone : after.count '}' = 0 := List.count_eq_zero_of_not_mem hclose
    have hbrace : ['}'].count '}' = 1 ∧ ['}'].count '{' = 0 := by decide
    rw [← List.singleton_append] at hend
    simp only [List.count_append, hbrace, hnone] at hfront hend
    omega
  exact fun c hc => isBrace_eq_false.2
    ⟨fun heq => List.count_eq_zero.1 hopen (heq ▸ hc), fun heq => hclose (heq ▸ hc)⟩

namespace Ruleset

/-! ## Validity -/

theorem wellBraced_iff {text : Text} :
    wellBraced text ↔ '{' ∈ text ∧ (∀ front, front <+: text → front.count '}' ≤ front.count '{') ∧
      text.count '{' = text.count '}' := by
  rw [wellBraced, bracesBalanced, Bool.and_eq_true, closesAll_iff, List.any_eq_true]
  simp only [Nat.zero_add, decide_eq_true_eq, exists_eq_right]

/-! ## Selector and body -/

/-- A text is what stands before its first brace, and what that brace starts. -/
theorem exists_eq_append_brace (text : Text) :
    ∃ before rest, text = before ++ rest ∧ BraceFree before ∧ (∀ c ∈ rest.head?, isBrace c) ∧
      text.takeWhile (!isBrace ·) = before ∧ text.dropWhile (!isBrace ·) = rest := by
  refine ⟨_, _, List.takeWhile_append_dropWhile.symm, fun c hc => ?_, fun c hc => ?_, rfl, rfl⟩
  · simpa using List.all_eq_true.1 List.all_takeWhile c hc
  · have := List.head?_dropWhile_not (!isBrace ·) text
    rw [hc] at this
    simpa using this

/-- The first brace of a text whose braces pair up opens a block, which the last one closes. -/
theorem exists_block_of_wellBraced {before rest : Text} (hbefore : BraceFree before)
    (hbrace : ∀ c ∈ rest.head?, isBrace c) (h : wellBraced (before ++ rest)) :
    ∃ body after, rest = '{' :: (body ++ '}' :: after) ∧ BraceFree after := by
  cases rest with
  | nil =>
    have hopen := (wellBraced_iff.1 h).1
    rw [List.append_nil] at hopen
    exact absurd hopen (hbefore.not_mem rfl)
  | cons c inner =>
    rw [wellBraced, Bool.and_eq_true, bracesBalanced, closesAll_append_of_braceFree hbefore, closesAll] at h
    by_cases hopen : c = '{'
    · subst hopen
      rw [if_pos rfl] at h
      obtain ⟨body, after, rfl, hafter⟩ := exists_last_close h.2
      exact ⟨body, after, rfl, hafter⟩
    · have hclose : c = '}' := by simpa [isBrace, hopen] using hbrace c rfl
      rw [if_neg hopen, if_pos hclose] at h
      cases h.2

theorem exists_parts_of_isValid {text : Text} (h : (parse text).isValid) :
    ∃ before after, text.trim = before ++ '{' :: ((parse text).block.text ++ '}' :: after) ∧
      BraceFree before ∧ BraceFree after ∧ (parse text).selector = before.trim := by
  obtain ⟨before, rest, htext, hbefore, hbrace, hselector, hrest⟩ := exists_eq_append_brace text.trim
  have hbraced : wellBraced text.trim := h
  obtain ⟨body, after, rfl, hafter⟩ := exists_block_of_wellBraced hbefore hbrace (htext ▸ hbraced)
  have hbody : (parse text).block.text = body := by
    unfold parse
    simp only [hbraced, if_true, hrest, DeclarationBlock.parse]
    exact @DeclarationBlock.bodyOf_append [] after List.not_mem_nil (hafter.not_mem rfl) body
  refine ⟨before, after, hbody ▸ htext, hbefore, hafter, ?_⟩
  rw [← hselector]
  rfl

theorem exists_parts_of_not_isValid {text : Text} (h : (parse text).isValid = false) :
    ∃ before rest, text.trim = before ++ rest ∧ BraceFree before ∧ (∀ c ∈ rest.head?, isBrace c) ∧
      (parse text).selector = before.trim ∧ (parse text).block.text = rest.filter (!isBrace ·) := by
  obtain ⟨before, rest, htext, hbefore, hbrace, hselector, hrest⟩ := exists_eq_append_brace text.trim
  have hbraced : wellBraced text.trim = false := h
  refine ⟨before, rest, htext, hbefore, hbrace, by rw [← hselector]; rfl, ?_⟩
  unfold parse
  simpa only [hbraced, Bool.false_eq_true, if_false, hrest, DeclarationBlock.parse] using
    DeclarationBlock.bodyOf_of_braceFree (braceFree_filter rest)

/-! ## All parts -/

/-- Reading takes every text apart in the same way: validity is a matter of counting braces, the
selector ends at the first brace, the body is what the outer braces enclose or all that is left without
braces, and the declarations are read one by one from the segments between top-level semicolons, of
which there is one list only. -/
theorem parse_parts (text : Text) :
    let r := parse text
    (r.isValid ↔ '{' ∈ text.trim ∧ (∀ front, front <+: text.trim → front.count '}' ≤ front.count '{') ∧
        text.trim.count '{' = text.trim.count '}') ∧
      (r.isValid → ∃ before after, text.trim = before ++ '{' :: (r.block.text ++ '}' :: after) ∧
        BraceFree before ∧ BraceFree after ∧ r.selector = before.trim) ∧
      (r.isValid = false → ∃ before rest, text.trim = before ++ rest ∧ BraceFree before ∧
        (∀ c ∈ rest.head?, isBrace c) ∧ r.selector = before.trim ∧
        r.block.text = rest.filter (!isBrace ·)) ∧
      ∃ segments, (∀ parts, CutInto ';' r.block.text parts ↔ parts = segments) ∧
        r.block.declarations = (segments.filter (!·.isBlank)).map Declaration.parse := by
  intro r
  refine ⟨wellBraced_iff, exists_parts_of_isValid, exists_parts_of_not_isValid, ?segments⟩
  case segments =>
    refine ⟨splitTop ';' r.block.text, fun parts => ?_, rfl⟩
    rw [← splitTop_eq_iff (by decide)]
    exact eq_comm

end Ruleset

end CssSurvey
