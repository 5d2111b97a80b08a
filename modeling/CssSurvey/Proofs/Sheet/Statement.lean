/-
Statement at-rules in front of other code. A statement ends at its first semicolon, also at one
inside quotes or parentheses. So it is taken off whole, and the rest is read as if it stood alone,
exactly when its head holds no semicolon.
-/
import CssSurvey.Proofs.Sheet.Contents

namespace CssSurvey

theorem semicolon_mem_head {c : Char} (hc : c.isAlpha) {tail : Text} :
    ';' ∈ '@' :: c :: tail ↔ ';' ∈ tail := by
  refine ⟨fun hmem => ?_, fun hmem => List.mem_cons_of_mem _ (List.mem_cons_of_mem _ hmem)⟩
  rcases List.mem_cons.1 hmem with hat | hmem
  · exact absurd hat (by decide)
  · rcases List.mem_cons.1 hmem with rfl | hmem
    · exact absurd hc (by decide)
    · exact hmem

/-- A statement whose head holds no semicolon adds itself to the contents of what follows. -/
theorem ofText_keyword_append {c : Char} {tail : Text} (hc : c.isAlpha)
    (hbrace : BraceFree ('@' :: c :: tail)) (hcomment : CommentFree ('@' :: c :: tail)) (htail : ';' ∉ tail)
    (rest : Text) :
    Contents.ofText ('@' :: c :: tail ++ ';' :: rest) =
      ⟨[], [.statement ('@' :: c :: tail)], []⟩ ++ Contents.ofText rest := by
  have hhead : ∀ d ∈ '@' :: c :: tail, AtSource.endsHead d = false := by
    intro d hd
    have hne : d ≠ ';' := by
      rintro rfl
      exact htail ((semicolon_mem_head hc).1 hd)
    simp [AtSource.endsHead, (isBrace_eq_false.1 (hbrace d hd)).1, hne]
  have hnil : Text.isBlank [] := rfl
  exact ofText_statement_append hnil ⟨c, tail, rfl, by simp [hc]⟩ hhead hcomment rest

/-- Behind the first semicolon of a head its statement has ended. -/
theorem atStatements_parse_of_semicolon (name context after rest : Text) {c : Char} {front : Text}
    (hc : c.isAlpha) (hbrace : BraceFree ('@' :: c :: front)) (hcomment : CommentFree ('@' :: c :: front))
    (hfront : ';' ∉ front) :
    (Sheet.parse name ('@' :: c :: (front ++ ';' :: after) ++ ';' :: rest) context).atStatements.head? =
      some (Text.collapse ('@' :: c :: front)) := by
  have htext : '@' :: c :: (front ++ ';' :: after) ++ ';' :: rest =
      '@' :: c :: front ++ ';' :: (after ++ ';' :: rest) := by simp
  rw [Sheet.atStatements_parse, htext, ofText_keyword_append hc hbrace hcomment hfront]
  rfl

/-- A header does not stand for a longer head, one that goes on with a semicolon. -/
theorem collapse_ne_collapse_append (head after : Text) :
    Text.collapse head ≠ Text.collapse (head ++ ';' :: after) := by
  intro h
  have hsemicolon : Text.ink (';' :: after) = ';' :: Text.ink after := by
    rw [Text.ink, List.filter_cons_of_pos (by decide)]
    rfl
  have hink := congrArg Text.ink h
  rw [Text.ink_collapse, Text.ink_collapse, Text.ink_append, hsemicolon] at hink
  have := congrArg List.length hink
  rw [List.length_append, List.length_cons] at this
  omega

/-- A statement stands apart from what follows it, with its whole head, exactly when the head holds
no semicolon. -/
theorem parse_statement_append_iff (name context rest : Text) {c : Char} {tail : Text} (hc : c.isAlpha)
    (hbrace : BraceFree ('@' :: c :: tail)) (hcomment : CommentFree ('@' :: c :: tail)) :
    let head := '@' :: c :: tail
    let whole := Sheet.parse name (head ++ ';' :: rest) context
    let back := Sheet.parse name rest context
    (whole.atStatements = Text.collapse head :: back.atStatements ∧ whole.rulesets = back.rulesets ∧
      whole.selectors = back.selectors ∧ whole.atRules = back.atRules) ↔ ';' ∉ head := by
  intro head whole back
  constructor
  · rintro ⟨hstatements, -⟩ hmem
    have htail := (semicolon_mem_head hc).1 hmem
    -- The first semicolon ends the statement, so the header that is read is too short.
    obtain ⟨d, after, hd, hsplit⟩ :=
      Text.exists_eq_takeWhile_append_cons (p := (· ≠ ';')) htail (by decide)
    obtain rfl : d = ';' := by simpa using hd
    have hfront : ';' ∉ tail.takeWhile (· ≠ ';') := fun hin => by
      simpa using List.all_eq_true.1 List.all_takeWhile _ hin
    generalize tail.takeWhile (· ≠ ';') = front at hsplit hfront
    subst hsplit
    have hprefix : '@' :: c :: front <:+: head := ⟨[], ';' :: after, rfl⟩
    have hread := atStatements_parse_of_semicolon name context after rest hc
      (hbrace.of_isInfix hprefix) (hcomment.of_isInfix hprefix) hfront
    rw [show (Sheet.parse name _ context).atStatements = _ from hstatements] at hread
    exact collapse_ne_collapse_append ('@' :: c :: front) after (Option.some.inj hread).symm
  · intro hmem
    have htail : ';' ∉ tail := fun hin => hmem ((semicolon_mem_head hc).2 hin)
    obtain ⟨-, hatRules, hatStatements, hrulesets, hselectors⟩ :=
      Sheet.parse_of_ofText_append name context (ofText_keyword_append hc hbrace hcomment htail rest)
    exact ⟨hatStatements, hrulesets, hselectors, hatRules⟩

theorem parse_statement_append_iff_import :
    let head := "@import url(base.css)  screen".toList
    let rest := "p \x7b color: red; \x7d @media print \x7b a \x7b b: c \x7d".toList
    let whole := Sheet.parse [] (head ++ ';' :: rest) []
    let back := Sheet.parse [] rest []
    ('i'.isAlpha ∧ BraceFree head ∧ CommentFree head) ∧
      ((whole.atStatements = Text.collapse head :: back.atStatements ∧ whole.rulesets = back.rulesets ∧
        whole.selectors = back.selectors ∧ whole.atRules = back.atRules) ↔ ';' ∉ head) :=
  ⟨⟨by decide, by decide, by decide⟩,
    parse_statement_append_iff [] [] _ (by decide) (by decide) (by decide)⟩

/-- Neither quotes nor parentheses protect a semicolon: the head is cut there, and what is left of it
sticks to the next selector. -/
theorem quoted_semicolon_ends_statement :
    let head := "@import url(\"f?family=X:wght@400;700\")".toList
    let rest := "body\x7bmargin:0\x7d".toList
    let whole := Sheet.parse [] (head ++ ';' :: rest) []
    let back := Sheet.parse [] rest []
    (splitTop ';' head = [head] ∧ Nesting.top.after head = .top ∧ BraceFree head ∧ CommentFree head) ∧
      whole.atStatements = ["@import url(\"f?family=X:wght@400".toList] ∧
      whole.selectors = ["700\");body".toList] ∧ back.selectors = ["body".toList] ∧
      ¬ (whole.atStatements = Text.collapse head :: back.atStatements ∧ whole.rulesets = back.rulesets ∧
        whole.selectors = back.selectors ∧ whole.atRules = back.atRules) := by
  decide +kernel

end CssSurvey
