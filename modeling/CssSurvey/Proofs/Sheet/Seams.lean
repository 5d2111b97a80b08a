/-
Comments in what is left of a text without its comments. No comment opens in a stretch of code between
two of them, but the stretches are joined, and so are the gaps between at-rules and the lines of a
minified text. Where a slash at the end of one piece meets a star at the start of what follows, a
comment opens that was none; the main statement is that this is the only way.
-/
import CssSurvey.Sheet
import CssSurvey.Proofs.Comment
import CssSurvey.Proofs.Text.Lines

namespace CssSurvey

/-! ## Joined pieces -/

theorem CommentFree.append_iff {a b : Text} :
    CommentFree (a ++ b) ↔
      CommentFree a ∧ CommentFree b ∧ ¬ (a.getLast? = some '/' ∧ b.head? = some '*') := by
  constructor
  · intro h
    refine ⟨h.of_isInfix (List.prefix_append a b).isInfix, h.of_isInfix (List.suffix_append a b).isInfix, ?_⟩
    rintro ⟨hlast, hhead⟩
    obtain ⟨front, rfl⟩ := List.getLast?_eq_some_iff.1 hlast
    obtain ⟨back, rfl⟩ := List.head?_eq_some_iff.1 hhead
    exact h ⟨front, back, by simp⟩
  · rintro ⟨ha, hb, hseam⟩
    exact ha.append hb fun hlast hhead => hseam ⟨hlast, hhead⟩

/-- Somewhere between pieces of text a slash meets a star, when the pieces are joined. -/
def OpensAcross (pieces : List Text) : Prop :=
  ∃ front back, pieces = front ++ back ∧ front.flatten.getLast? = some '/' ∧ back.flatten.head? = some '*'

theorem opensAcross_cons {piece : Text} {pieces : List Text} :
    OpensAcross (piece :: pieces) ↔
      OpensAcross pieces ∨ (piece.getLast? = some '/' ∧ pieces.flatten.head? = some '*') := by
  constructor
  · rintro ⟨front, back, hsplit, hlast, hhead⟩
    cases front with
    | nil => cases hlast
    | cons first front =>
      rw [List.cons_append] at hsplit
      obtain ⟨rfl, hpieces⟩ := List.cons.inj hsplit
      rw [List.flatten_cons, List.getLast?_append] at hlast
      -- The slash stands in a later piece, or all pieces between it and the star are empty.
      cases hfront : front.flatten.getLast? with
      | some c =>
        rw [hfront] at hlast
        exact .inl ⟨front, back, hpieces, hfront.trans hlast, hhead⟩
      | none =>
        rw [hfront] at hlast
        have hflatten := congrArg List.flatten hpieces
        rw [List.flatten_append, List.getLast?_eq_none_iff.1 hfront] at hflatten
        exact .inr ⟨hlast, by rw [hflatten]; exact hhead⟩
  · rintro (⟨front, back, rfl, hlast, hhead⟩ | ⟨hlast, hhead⟩)
    · refine ⟨piece :: front, back, rfl, ?_, hhead⟩
      rw [List.flatten_cons, List.getLast?_append, hlast]
      rfl
    · exact ⟨[piece], pieces, rfl, by simpa using hlast, hhead⟩

/-- Joined pieces are free of comments when each of them is and no comment opens across a seam. -/
theorem commentFree_flatten_iff (pieces : List Text) :
    CommentFree pieces.flatten ↔ (∀ piece ∈ pieces, CommentFree piece) ∧ ¬ OpensAcross pieces := by
  induction pieces with
  | nil =>
    have hnone : ¬ OpensAcross [] := by
      rintro ⟨front, back, hsplit, hlast, -⟩
      rw [(List.append_eq_nil_iff.1 hsplit.symm).1] at hlast
      cases hlast
    exact ⟨fun _ => ⟨nofun, hnone⟩, fun _ => by decide⟩
  | cons piece pieces ih =>
    rw [List.flatten_cons, CommentFree.append_iff, ih, List.forall_mem_cons, opensAcross_cons, not_or]
    constructor
    · rintro ⟨hpiece, ⟨hpieces, hacross⟩, hseam⟩
      exact ⟨⟨hpiece, hpieces⟩, hacross, hseam⟩
    · rintro ⟨⟨hpiece, hpieces⟩, hacross, hseam⟩
      exact ⟨hpiece, ⟨hpieces, hacross⟩, hseam⟩

/-! ## Stretches between comments -/

theorem commentFree_code_iff (text : Text) :
    CommentFree (separate text).code ↔ ¬ OpensAcross (separate text).stretches := by
  rw [Separated.code, commentFree_flatten_iff]
  exact and_iff_right (Separated.commentFree_of_mem_stretches text)

/-- There is a comment in a text exactly when one is found. -/
theorem comments_eq_nil_iff (text : Text) : (separate text).comments = [] ↔ CommentFree text := by
  refine ⟨fun h => ?_, comments_of_commentFree⟩
  rw [Separated.comments, List.map_eq_nil_iff] at h
  have hlead := Separated.commentFree_of_mem_stretches text _ (List.mem_cons_self ..)
  have htext := render_separate text
  rw [Separated.render, h, List.flatMap_nil, List.append_nil] at htext
  rwa [← htext]

/-! ## Lines of a minified text -/

/-- A slash and a star of a text have nothing between them, or white space with a line end in it. -/
def OpensOverLines (text : Text) : Prop :=
  ∃ gap : Text, gap.isBlank ∧ (gap = [] ∨ '\n' ∈ gap) ∧ '/' :: (gap ++ ['*']) <:+: text

theorem opensOverLines_of_not_commentFree {text : Text} (h : ¬ CommentFree text) : OpensOverLines text :=
  ⟨[], rfl, .inl rfl, not_not.1 h⟩

theorem opensOverLines_line {line : Text} (h : '\n' ∉ line) : OpensOverLines line ↔ ¬ CommentFree line := by
  refine ⟨?_, opensOverLines_of_not_commentFree⟩
  rintro ⟨gap, -, rfl | hend, hin⟩ hfree
  · exact hfree hin
  · exact h (hin.subset (by simp [hend]))

/-- Where a slash and a star have white space between them that is cut at a line end. -/
theorem exists_of_newline {gap left right : Text} (h : '/' :: (gap ++ ['*']) = left ++ '\n' :: right) :
    ∃ front back, left = '/' :: front ∧ right = back ++ ['*'] ∧ gap = front ++ '\n' :: back := by
  cases left with
  | nil => exact absurd (List.cons.inj h).1 (by decide)
  | cons c front =>
    rw [List.cons_append] at h
    obtain ⟨rfl, hgap⟩ := List.cons.inj h
    rcases List.eq_nil_or_concat right with rfl | ⟨back, c, rfl⟩
    · have hlast := (List.append_inj' hgap rfl).2
      exact absurd (List.cons.inj hlast).1 (by decide)
    · rw [List.concat_eq_append, ← List.cons_append, ← List.append_assoc] at hgap
      obtain ⟨rfl, hlast⟩ := List.append_inj' hgap rfl
      obtain ⟨rfl, -⟩ := List.cons.inj hlast
      exact ⟨front, back, rfl, List.concat_eq_append, rfl⟩

/-- Over the end of a line, a slash that ends it and a star that starts the text behind it meet. -/
theorem opensOverLines_line_append {line : Text} (h : '\n' ∉ line) (rest : Text) :
    OpensOverLines (line ++ '\n' :: rest) ↔
      ¬ CommentFree line ∨ OpensOverLines rest ∨
        ((Text.ink line).getLast? = some '/' ∧ (Text.ink rest).head? = some '*') := by
  rw [Text.getLast?_ink_eq_some_iff (by decide), Text.head?_ink_eq_some_iff (by decide)]
  constructor
  · rintro ⟨gap, hgap, hend, hin⟩
    rcases List.infix_append_iff.1 hin with hin | hin | ⟨left, right, hsplit, hleft, hright⟩
    · exact .inl ((opensOverLines_line h).1 ⟨gap, hgap, hend, hin⟩)
    · rcases List.infix_cons_iff.1 hin with hpre | hin
      · exact absurd (List.cons_prefix_cons.1 hpre).1 (by decide)
      · exact .inr (.inl ⟨gap, hgap, hend, hin⟩)
    · rcases List.prefix_cons_iff.1 hright with rfl | ⟨behind, rfl, hbehind⟩
      · rw [List.append_nil] at hsplit
        exact .inl ((opensOverLines_line h).1 ⟨gap, hgap, hend, hsplit ▸ hleft.isInfix⟩)
      · obtain ⟨front, back, rfl, rfl, rfl⟩ := exists_of_newline hsplit
        obtain ⟨before, rfl⟩ := hleft
        obtain ⟨after, rfl⟩ := hbehind
        have hblank : Text.isBlank front ∧ Text.isBlank back := by
          simp only [Text.isBlank, List.all_append, List.all_cons, Bool.and_eq_true] at *
          exact ⟨hgap.1, hgap.2.2⟩
        exact .inr (.inr ⟨⟨before, front, hblank.1, rfl⟩, ⟨back, after, hblank.2, by simp⟩⟩)
  · rintro (hline | ⟨gap, hgap, hend, hin⟩ | ⟨⟨before, left, hleft, rfl⟩, ⟨right, after, hright, rfl⟩⟩)
    · obtain ⟨gap, hgap, hend, hin⟩ := opensOverLines_of_not_commentFree hline
      exact ⟨gap, hgap, hend, hin.trans (List.prefix_append ..).isInfix⟩
    · exact ⟨gap, hgap, hend, (hin.trans (List.suffix_cons ..).isInfix).trans (List.suffix_append ..).isInfix⟩
    · refine ⟨left ++ '\n' :: right, ?_, .inr (by simp), before, after, by simp⟩
      simp only [Text.isBlank, List.all_append, List.all_cons, Bool.and_eq_true] at *
      exact ⟨hleft, by decide, hright⟩

theorem commentFree_trim (text : Text) : CommentFree text.trim ↔ CommentFree text := by
  obtain ⟨left, right, hleft, hright, htext⟩ := Text.exists_eq_append_trim text
  constructor
  · intro h
    have hnot : ∀ {gap : Text}, gap.isBlank → ∀ c ∈ gap, c ≠ '/' ∧ c ≠ '*' := by
      rintro gap hgap c hc
      have := List.all_eq_true.1 hgap c hc
      constructor <;> rintro rfl <;> cases this
    rw [htext]
    refine (CommentFree.append (.of_isBlank hleft) h fun hlast => ?_).append (.of_isBlank hright) fun _ hhead => ?_
    · exact absurd rfl (hnot hleft _ (List.mem_of_getLast? hlast)).1
    · exact absurd rfl (hnot hright _ (List.mem_of_head? hhead)).2
  · exact fun h => h.of_isInfix (Text.trim_isInfix text)

/-- A minified text is free of comments unless one opens over the lines of the text. -/
theorem commentFree_minify_iff (text : Text) : CommentFree text.minify ↔ ¬ OpensOverLines text := by
  induction text using Text.line_induction with
  | last line h =>
    rw [Text.minify_of_not_mem h, commentFree_trim, opensOverLines_line h, not_not]
  | cons line rest h ih =>
    rw [Text.minify_line_append h, CommentFree.append_iff, commentFree_trim, ih, Text.getLast?_trim,
      Text.head?_minify, opensOverLines_line_append h, not_or, not_or, not_not]

/-! ## The code and the text of a sheet -/

/-- The code of a text is free of comments exactly when none opens where comments were taken out, and
then it is left as it is when they are taken out again. The text of its sheet is free of comments
exactly when none opens over the lines of the gaps between at-rules, which are joined. -/
theorem commentFree_parse_iff (name text context : Text) :
    let separated := separate text
    let outline := Outline.ofCode separated.code
    (CommentFree separated.code ↔ ¬ OpensAcross separated.stretches) ∧
      (CommentFree separated.code ↔
        (separate separated.code).comments = [] ∧ (separate separated.code).code = separated.code) ∧
      (CommentFree outline.plain ↔ (∀ gap ∈ outline.gaps, CommentFree gap) ∧ ¬ OpensAcross outline.gaps) ∧
      (CommentFree (Sheet.parse name text context).text ↔ ¬ OpensOverLines outline.plain) := by
  intro separated outline
  refine ⟨commentFree_code_iff text, ?_, commentFree_flatten_iff outline.gaps, commentFree_minify_iff _⟩
  constructor
  · exact fun h => ⟨comments_of_commentFree h, code_of_commentFree h⟩
  · exact fun h => (comments_eq_nil_iff separated.code).1 h.1

/-- A slash before a comment and a star after it open a comment, which swallows the rest of the rule
when the code is read again; at a line end they do so in the text of a sheet. -/
theorem comment_opens_at_seam :
    let code := (separate ".a /deep//* all */* \x7b color: red; \x7d".toList).code
    let sheet := Sheet.parse [] ".a /deep/\n* \x7b color: red; \x7d".toList []
    code = ".a /deep/* \x7b color: red; \x7d".toList ∧ ¬ CommentFree code ∧
      (separate code).code = ".a /deep".toList ∧
      sheet.comments = [] ∧ sheet.text = ".a /deep/* \x7b color: red; \x7d".toList ∧
      ¬ CommentFree sheet.text := by
  decide +kernel

end CssSurvey
