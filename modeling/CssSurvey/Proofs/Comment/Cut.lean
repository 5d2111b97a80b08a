/-
The cut of a text at its comments, said without a scan. A comment starts with `/*`; it ends with the
first `*/` behind these two characters, or it is the last one and never ends. There is exactly one way
to write a text as such comments with code between them in which no comment opens, and that is the
cut: the scan is checked against the description step by step, once from each side.
-/
import CssSurvey.Proofs.Comment
import CssSurvey.Proofs.Text.Ink

namespace CssSurvey

/-! ## Comments -/

/-- A comment that ends: behind its opening, `*/` stands at its end and nowhere else. -/
def ClosedComment (comment : Text) : Prop :=
  ∃ content, comment = writeComment content ∧
    ∀ front back, content ++ ['*', '/'] = front ++ ['*', '/'] ++ back → back = []

/-- A comment that never ends: behind its opening there is no `*/`. -/
def OpenComment (comment : Text) : Prop :=
  ∃ content, comment = '/' :: '*' :: content ∧ ¬ ['*', '/'] <:+: content

/-- A comment ends where it should when its content does not end it: the star before the closing
characters can take no slash from them. -/
theorem closedComment_iff {comment : Text} :
    ClosedComment comment ↔ ∃ content, comment = writeComment content ∧ ¬ ['*', '/'] <:+: content := by
  constructor
  · rintro ⟨content, rfl, honce⟩
    refine ⟨content, rfl, ?_⟩
    rintro ⟨front, back, rfl⟩
    have := honce front (back ++ ['*', '/']) (by simp)
    simp at this
  · rintro ⟨content, rfl, hfree⟩
    refine ⟨content, rfl, fun front back hsplit => ?_⟩
    by_contra hback
    obtain ⟨back, c, rfl⟩ := (List.eq_nil_or_concat back).resolve_left hback
    -- The slash at the end is the last character of what follows, and so is the star before it.
    have hslash : content ++ ['*'] ++ ['/'] = front ++ ['*', '/'] ++ back ++ [c] := by simpa using hsplit
    have hstar := (List.append_inj' hslash rfl).1
    rcases List.eq_nil_or_concat back with rfl | ⟨back, d, rfl⟩
    · have hlast : content ++ ['*'] = front ++ ['*'] ++ ['/'] := by simpa using hstar
      exact absurd (List.cons.inj (List.append_inj' hlast rfl).2).1 (by decide)
    · have hlast : content ++ ['*'] = front ++ ['*', '/'] ++ back ++ [d] := by simpa using hstar
      exact hfree ⟨front, back, (List.append_inj' hlast rfl).1.symm⟩

namespace Separated

/-- Every comment ends; or it does not, and then it is the last and no code follows it. -/
def CommentsEnd : List (Text × Text) → Prop
  | [] => True
  | (comment, code) :: others =>
    ClosedComment comment ∧ CommentsEnd others ∨ OpenComment comment ∧ code = [] ∧ others = []

/-- Code in which no comment opens, with comments between that end as they should. -/
structure WellCut (s : Separated) : Prop where
  commentFree : ∀ stretch ∈ s.stretches, CommentFree stretch
  commentsEnd : CommentsEnd s.tail

/-! ## Every cut is well made -/

/-- Inside a comment the scan looks for the first `*/`. What follows it is code again; when there is
none, the comment is all that is left. -/
theorem ofComment_spec (text : Text) :
    (∃ content rest, ¬ ['*', '/'] <:+: content ∧ text = content ++ '*' :: '/' :: rest ∧
        ofComment text = (content ++ ['*', '/'], ofCode rest)) ∨
      (¬ ['*', '/'] <:+: text ∧ ofComment text = (text, ⟨[], []⟩)) := by
  induction text with
  | nil => exact .inr ⟨by simp, rfl⟩
  | cons c text ih =>
    by_cases hclose : c = '*' ∧ text.head? = some '/'
    · obtain ⟨rfl, hhead⟩ := hclose
      obtain ⟨rest, rfl⟩ := List.head?_eq_some_iff.1 hhead
      exact .inl ⟨[], rest, by simp, rfl, rfl⟩
    · have hscan : ∀ after, c = '*' → text = '/' :: after → False := by
        rintro after rfl rfl
        exact hclose ⟨rfl, rfl⟩
      have hfirst : ∀ content, content <+: text → ¬ ['*', '/'] <:+: content →
          ¬ ['*', '/'] <:+: c :: content := by
        rintro content ⟨rest, rfl⟩ hcontent hin
        rcases List.infix_cons_iff.1 hin with hpre | hin
        · obtain ⟨rfl, after, rfl⟩ := List.cons_prefix_cons.1 hpre
          exact hclose ⟨rfl, rfl⟩
        · exact hcontent hin
      rw [ofComment.eq_3 c text hscan]
      rcases ih with ⟨content, rest, hcontent, rfl, hread⟩ | ⟨hopen, hread⟩
      · rw [hread]
        exact .inl ⟨c :: content, rest, hfirst content (List.prefix_append _ _) hcontent, rfl, rfl⟩
      · rw [hread]
        exact .inr ⟨hfirst text (List.prefix_refl _) hopen, rfl⟩

theorem commentsEnd_ofCode (text : Text) : CommentsEnd (ofCode text).tail := by
  refine ofCode.induct (fun text => CommentsEnd (ofCode text).tail)
    (fun text => CommentsEnd (ofComment text).2.tail) ?_ ?_ ?_ ?_ ?_ ?_ text
  · trivial
  · intro rest comment after hafter ih
    rw [hafter] at ih
    rw [ofCode, hafter]
    rcases ofComment_spec rest with ⟨content, rest', hcontent, -, hread⟩ | ⟨hopen, hread⟩
    · obtain ⟨rfl, rfl⟩ := Prod.mk.inj (hafter.symm.trans hread)
      exact .inl ⟨closedComment_iff.2 ⟨content, by simp [writeComment], hcontent⟩, ih⟩
    · obtain ⟨rfl, rfl⟩ := Prod.mk.inj (hafter.symm.trans hread)
      exact .inr ⟨⟨_, rfl, hopen⟩, rfl, rfl⟩
  · intro c rest hopen ih
    rw [ofCode.eq_3 c rest hopen]
    exact ih
  · trivial
  · intro rest ih
    exact ih
  · intro c rest hopen comment after hafter ih
    rw [hafter] at ih
    rw [ofComment.eq_3 c rest hopen, hafter]
    exact ih

theorem wellCut_ofCode (text : Text) : (ofCode text).WellCut :=
  ⟨commentFree_of_mem_stretches text, commentsEnd_ofCode text⟩

/-! ## Every well-made cut is found -/

/-- Code is passed over up to the first comment. -/
theorem ofCode_append_comment {lead : Text} (h : CommentFree lead) (rest : Text) :
    ofCode (lead ++ '/' :: '*' :: rest) =
      ⟨lead, ('/' :: '*' :: (ofComment rest).1, (ofComment rest).2.lead) :: (ofComment rest).2.tail⟩ := by
  rw [ofCode_append h fun _ => by simp, ofCode]
  simp

theorem ofComment_of_open {content : Text} (h : ¬ ['*', '/'] <:+: content) :
    ofComment content = (content, ⟨[], []⟩) := by
  rcases ofComment_spec content with ⟨front, rest, -, hsplit, -⟩ | ⟨-, hread⟩
  · exact absurd ⟨front, rest, by simp [hsplit]⟩ h
  · exact hread

/-- Cutting what a well-made cut is made of gives it back. -/
theorem ofCode_render {lead : Text} {tail : List (Text × Text)}
    (hfree : ∀ stretch ∈ stretches ⟨lead, tail⟩, CommentFree stretch) (hend : CommentsEnd tail) :
    ofCode (render ⟨lead, tail⟩) = ⟨lead, tail⟩ := by
  induction tail generalizing lead with
  | nil =>
    have hlead := (List.forall_mem_cons.1 hfree).1
    have hnil : lead.getLast? = some '/' → ([] : Text).head? ≠ some '*' := fun _ => by simp
    simpa [render, ofCode] using ofCode_append hlead hnil
  | cons part others ih =>
    obtain ⟨comment, code⟩ := part
    obtain ⟨hlead, hothers⟩ := List.forall_mem_cons.1 hfree
    rcases hend with ⟨hclosed, hend⟩ | ⟨⟨content, rfl, hopen⟩, rfl, rfl⟩
    · obtain ⟨content, rfl, hcontent⟩ := closedComment_iff.1 hclosed
      have hrest : render ⟨lead, (writeComment content, code) :: others⟩ =
          lead ++ '/' :: '*' :: (content ++ '*' :: '/' :: render ⟨code, others⟩) := by
        simp [render, writeComment]
      rw [hrest, ofCode_append_comment hlead, ofComment_append hcontent, ih hothers hend]
      simp [writeComment]
    · have hrest : render ⟨lead, [('/' :: '*' :: content, [])]⟩ = lead ++ '/' :: '*' :: content := by
        simp [render]
      rw [hrest, ofCode_append_comment hlead, ofComment_of_open hopen]

end Separated

/-- The cut of a text is the one that is well made. -/
theorem separate_eq_iff {text : Text} {s : Separated} : separate text = s ↔ s.WellCut ∧ s.render = text := by
  constructor
  · rintro rfl
    exact ⟨Separated.wellCut_ofCode text, render_separate text⟩
  · rintro ⟨hcut, rfl⟩
    exact Separated.ofCode_render hcut.commentFree hcut.commentsEnd

/-- The trimmed stretches that are not blank are the trims of those that are not. -/
theorem Separated.codeRuns_eq (s : Separated) :
    s.codeRuns = (s.stretches.filter (!·.isBlank)).map Text.trim := by
  rw [codeRuns, List.filter_map]
  congr 2
  funext stretch
  exact congrArg _ (Text.isEmpty_trim stretch)

/-- A text can be cut into code and comments in one way only, and both readings of a text are taken
from that cut: its comments with all of its code, or with the stretches of code that are not blank. -/
theorem existsUnique_wellCut (text : Text) :
    (∃! s : Separated, s.WellCut ∧ s.render = text) ∧
      ∀ s : Separated, s.WellCut → s.render = text →
        (separate text).comments = s.tail.map Prod.fst ∧
          (separate text).code = s.lead ++ (s.tail.map Prod.snd).flatten ∧
          (separate text).codeRuns =
            ((s.lead :: s.tail.map Prod.snd).filter (!·.isBlank)).map Text.trim := by
  have hcut : ∀ {s : Separated}, s.WellCut → s.render = text → separate text = s := fun hwell hrender =>
    separate_eq_iff.2 ⟨hwell, hrender⟩
  constructor
  · exact ⟨separate text, separate_eq_iff.1 rfl, fun s h => (hcut h.1 h.2).symm⟩
  · intro s hwell hrender
    rw [hcut hwell hrender]
    exact ⟨rfl, rfl, s.codeRuns_eq⟩

-- Openings and closings that overlap: `/*/` opens only, and `/**/` is whole.
example :
    separate "a/*/b*/ /**/*//***/c/*/".toList =
      ⟨"a".toList, [("/*/b*/".toList, " ".toList), ("/**/".toList, "*/".toList),
        ("/***/".toList, "c".toList), ("/*/".toList, [])]⟩ := by
  decide

end CssSurvey
