/-
Where comments open and close. A text in which none opens is passed over as code whatever follows
it, as long as no comment opens across the seam; a comment that is written out is cut off whole.
With both laws the cut at the comments can be read off any text put together from such pieces.
-/
import CssSurvey.Comment
import Mathlib.Data.List.Infix
import Mathlib.Tactic.Common

namespace CssSurvey

/-! ## Texts without comments -/

/-- No comment opens in a text. -/
def CommentFree (text : Text) : Prop := ¬ ['/', '*'] <:+: text

instance : DecidablePred CommentFree := fun text =>
  inferInstanceAs (Decidable (¬ ['/', '*'] <:+: text))

namespace CommentFree

theorem of_isInfix {a b : Text} (h : CommentFree b) (hab : a <:+: b) : CommentFree a :=
  fun ha => h (ha.trans hab)

theorem tail {c : Char} {text : Text} (h : CommentFree (c :: text)) : CommentFree text :=
  h.of_isInfix (List.suffix_cons c text).isInfix

theorem cons {c : Char} {text : Text} (h : CommentFree text) (hslash : c ≠ '/') :
    CommentFree (c :: text) := by
  intro hin
  rcases List.infix_cons_iff.1 hin with hpre | hin
  · exact hslash (List.cons_prefix_cons.1 hpre).1.symm
  · exact h hin

theorem append {a b : Text} (ha : CommentFree a) (hb : CommentFree b)
    (hseam : a.getLast? = some '/' → b.head? ≠ some '*') : CommentFree (a ++ b) := by
  induction a with
  | nil => exact hb
  | cons x a ih =>
    intro hin
    rcases List.infix_cons_iff.1 hin with hpre | hin
    · obtain ⟨rfl, hnext⟩ := List.cons_prefix_cons.1 hpre
      cases a with
      | nil => exact hseam rfl (List.head?_eq_some_iff.2 (hnext.imp fun _ => Eq.symm))
      | cons y a =>
        obtain ⟨rfl, -⟩ := List.cons_prefix_cons.1 hnext
        exact ha (by simp [List.infix_cons_iff])
    · refine ih ha.tail (fun hlast => hseam ?_) hin
      rw [List.getLast?_cons, hlast]
      rfl

/-- Two texts with a character between them that belongs to no opening stay without comments. -/
theorem append_cons {a b : Text} {c : Char} (ha : CommentFree a) (hb : CommentFree b)
    (hslash : c ≠ '/') (hstar : c ≠ '*') : CommentFree (a ++ c :: b) :=
  ha.append (hb.cons hslash) fun _ => by simpa using hstar

theorem concat {a : Text} {c : Char} (ha : CommentFree a) (hslash : c ≠ '/') (hstar : c ≠ '*') :
    CommentFree (a ++ [c]) :=
  ha.append_cons (by decide) hslash hstar

theorem of_isBlank {gap : Text} (h : gap.isBlank) : CommentFree gap := by
  intro hgap
  have := List.all_eq_true.1 h '/' (hgap.subset (by simp))
  exact absurd this (by decide)

end CommentFree

namespace Separated

/-! ## Cutting a text put together from pieces -/

/-- Code in which no comment opens, up to a seam at which none opens either. -/
theorem ofCode_append {text rest : Text} (h : CommentFree text)
    (hseam : text.getLast? = some '/' → rest.head? ≠ some '*') :
    ofCode (text ++ rest) = ⟨text ++ (ofCode rest).lead, (ofCode rest).tail⟩ := by
  induction text with
  | nil => rfl
  | cons c text ih =>
    -- The text may end here, and then the seam has to keep a comment from opening.
    have hopen : ∀ after, c = '/' → text ++ rest = '*' :: after → False := by
      rintro after rfl hrest
      cases text with
      | nil => exact hseam rfl (by rw [List.nil_append] at hrest; rw [hrest]; rfl)
      | cons d text =>
        obtain ⟨rfl, -⟩ := List.cons.inj hrest
        exact h (by simp [List.infix_cons_iff])
    have hseam' : text.getLast? = some '/' → rest.head? ≠ some '*' := fun hlast =>
      hseam (by rw [List.getLast?_cons, hlast]; rfl)
    rw [List.cons_append, ofCode.eq_3 c (text ++ rest) hopen, ih h.tail hseam']
    rfl

theorem ofComment_append {content : Text} (h : ¬ ['*', '/'] <:+: content) (rest : Text) :
    ofComment (content ++ '*' :: '/' :: rest) = (content ++ ['*', '/'], ofCode rest) := by
  induction content with
  | nil => rfl
  | cons c content ih =>
    have hclose : ∀ after, c = '*' → content ++ '*' :: '/' :: rest = '/' :: after → False := by
      rintro after rfl hrest
      cases content with
      | nil => exact absurd (List.cons.inj hrest).1 (by decide)
      | cons d content =>
        obtain ⟨rfl, -⟩ := List.cons.inj hrest
        exact h (by simp [List.infix_cons_iff])
    have htail : ¬ ['*', '/'] <:+: content := fun hc => h (List.infix_cons hc)
    rw [List.cons_append, ofComment.eq_3 c _ hclose, ih htail]
    rfl

/-! ## Stretches between comments -/

theorem prefix_lead (text : Text) : (ofCode text).lead <+: text :=
  ⟨_, render_ofCode text⟩

/-- No comment opens in a stretch of code: the cut is made where the first one does. -/
theorem commentFree_of_mem_stretches (text : Text) : ∀ stretch ∈ (ofCode text).stretches, CommentFree stretch := by
  refine ofCode.induct (fun text => ∀ stretch ∈ (ofCode text).stretches, CommentFree stretch)
    (fun text => ∀ stretch ∈ (ofComment text).2.stretches, CommentFree stretch) ?_ ?_ ?_ ?_ ?_ ?_ text
  · simpa [ofCode, stretches] using show CommentFree [] by decide
  · intro rest comment after hafter ih
    rw [hafter] at ih
    rw [ofCode, hafter]
    have hnil : CommentFree [] := by decide
    exact List.forall_mem_cons.2 ⟨hnil, ih⟩
  · intro c rest hopen ih
    rw [ofCode.eq_3 c rest hopen]
    obtain ⟨hlead, htail⟩ := List.forall_mem_cons.1 ih
    refine List.forall_mem_cons.2 ⟨fun hin => ?_, htail⟩
    rcases List.infix_cons_iff.1 hin with hpre | hin
    · obtain ⟨rfl, hnext⟩ := List.cons_prefix_cons.1 hpre
      obtain ⟨after, hrest⟩ := hnext.trans (prefix_lead rest)
      exact hopen after rfl hrest.symm
    · exact hlead hin
  · simpa [ofComment, stretches] using show CommentFree [] by decide
  · intro rest ih
    exact ih
  · intro c rest hopen comment after hafter ih
    rw [hafter] at ih
    rw [ofComment.eq_3 c rest hopen, hafter]
    exact ih

end Separated

/-- A comment as it is written. -/
def writeComment (content : Text) : Text := ['/', '*'] ++ content ++ ['*', '/']

theorem comments_append {text rest : Text} (h : CommentFree text)
    (hseam : text.getLast? = some '/' → rest.head? ≠ some '*') :
    (separate (text ++ rest)).comments = (separate rest).comments := by
  rw [separate, Separated.ofCode_append h hseam]
  rfl

theorem code_append {text rest : Text} (h : CommentFree text)
    (hseam : text.getLast? = some '/' → rest.head? ≠ some '*') :
    (separate (text ++ rest)).code = text ++ (separate rest).code := by
  rw [separate, Separated.ofCode_append h hseam]
  simp [Separated.code, Separated.stretches, separate]

theorem comments_of_commentFree {text : Text} (h : CommentFree text) : (separate text).comments = [] := by
  have := comments_append h (show text.getLast? = some '/' → [].head? ≠ some '*' from fun _ => by simp)
  rwa [List.append_nil] at this

theorem code_of_commentFree {text : Text} (h : CommentFree text) : (separate text).code = text := by
  have := code_append h (show text.getLast? = some '/' → [].head? ≠ some '*' from fun _ => by simp)
  rw [List.append_nil] at this
  rw [this]
  exact List.append_nil text

theorem comments_writeComment_append {content : Text} (h : ¬ ['*', '/'] <:+: content) (rest : Text) :
    (separate (writeComment content ++ rest)).comments =
      writeComment content :: (separate rest).comments := by
  have := Separated.ofComment_append h rest
  simp [separate, writeComment, Separated.ofCode, this, Separated.comments]

theorem code_writeComment_append {content : Text} (h : ¬ ['*', '/'] <:+: content) (rest : Text) :
    (separate (writeComment content ++ rest)).code = (separate rest).code := by
  have := Separated.ofComment_append h rest
  simp [separate, writeComment, Separated.ofCode, this, Separated.code, Separated.stretches]

end CssSurvey
