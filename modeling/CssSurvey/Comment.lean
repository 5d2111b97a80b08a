/-
Comments. A text is code and comments in turn: a comment runs from `/*` through the next `*/` after
it, or to the end of the text. The cut keeps every character, so writing the pieces one after the
other gives the text back.
-/
import CssSurvey.Text.Blank

namespace CssSurvey

/-- A text cut at its comments: the code before the first of them, then each comment with the code
that follows it. -/
structure Separated where
  lead : Text
  tail : List (Text × Text)
deriving DecidableEq

namespace Separated

/-- The comments, delimiters included. -/
def comments (s : Separated) : List Text := s.tail.map Prod.fst

/-- The stretches of code around the comments, empty ones included. -/
def stretches (s : Separated) : List Text := s.lead :: s.tail.map Prod.snd

/-- The text without its comments. -/
def code (s : Separated) : Text := s.stretches.flatten

/-- The stretches of code that are not blank, trimmed. -/
def codeRuns (s : Separated) : List Text :=
  (s.stretches.map Text.trim).filter (!·.isEmpty)

/-- The text that was cut. -/
def render (s : Separated) : Text :=
  s.lead ++ s.tail.flatMap fun (comment, code) => comment ++ code

mutual

/-- Cuts a text that starts in code. -/
def ofCode : Text → Separated
  | [] => ⟨[], []⟩
  | '/' :: '*' :: rest =>
    let (comment, after) := ofComment rest
    ⟨[], ('/' :: '*' :: comment, after.lead) :: after.tail⟩
  | c :: rest =>
    let after := ofCode rest
    ⟨c :: after.lead, after.tail⟩

/-- Cuts a text that starts inside a comment: the rest of that comment, and what comes after it. -/
def ofComment : Text → Text × Separated
  | [] => ([], ⟨[], []⟩)
  | '*' :: '/' :: rest => (['*', '/'], ofCode rest)
  | c :: rest =>
    let (comment, after) := ofComment rest
    (c :: comment, after)

end

theorem render_ofCode (text : Text) : (ofCode text).render = text := by
  refine ofCode.induct (fun text => (ofCode text).render = text)
    (fun text => (ofComment text).1 ++ (ofComment text).2.render = text) ?_ ?_ ?_ ?_ ?_ ?_ text
  · rfl
  · intro rest comment after h ih
    simpa [ofCode, render, h] using ih
  · intro c rest h ih
    rw [ofCode.eq_3 c rest h]
    exact congrArg (c :: ·) ih
  · rfl
  · intro rest ih
    simpa [ofComment] using ih
  · intro c rest h comment after hafter ih
    rw [ofComment.eq_3 c rest h, hafter]
    simpa [hafter] using ih

end Separated

/-- Cuts a text at its comments. -/
def separate (text : Text) : Separated := Separated.ofCode text

/-- Nothing of a text is lost when it is cut at its comments. -/
theorem render_separate (text : Text) : (separate text).render = text :=
  Separated.render_ofCode text

end CssSurvey
