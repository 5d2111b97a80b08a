/-
Comparison regardless of letter case, in two strengths. Names of properties and file endings are
compared with the ASCII letters folded. Words searched for in running text are compared under
simple case folding, in which `s` is also written `ſ` (long s) and `k` also as the Kelvin sign;
these two are the only characters beyond ASCII that fold into an ASCII letter.
-/
import CssSurvey.Text.Basic

namespace CssSurvey

/-- Simple case folding, as far as its result is an ASCII letter. -/
def foldCase (c : Char) : Char :=
  if c = '\u017f' then 's' else if c = '\u212a' then 'k' else c.toLower

/-- A letter from `a` to `z`, in any of its written forms. -/
def isLatinLetter (c : Char) : Bool := (foldCase c).isLower

namespace Text

/-- `text` with its ASCII letters in lower case. -/
def lower (text : Text) : Text := text.map Char.toLower

/-- Whether two texts differ at most in the case of ASCII letters. -/
def sameName (a b : Text) : Bool := lower a == lower b

/-- What follows `word` at the start of a text, when the text starts with `word` in any case;
`word` is given in lower case. -/
def afterWord? : Text → Text → Option Text
  | [], text => some text
  | _ :: _, [] => none
  | w :: word, c :: text => if foldCase c = w then afterWord? word text else none

/-- A text that follows a non-empty word is shorter than the text that the word starts. -/
theorem length_of_afterWord? {w : Char} {word text rest : Text}
    (h : afterWord? (w :: word) text = some rest) : rest.length < text.length := by
  induction word generalizing w text with
  | nil =>
    cases text with
    | nil => simp [afterWord?] at h
    | cons c text =>
      simp only [afterWord?, Option.ite_none_right_eq_some, Option.some.injEq] at h
      simp [← h.2]
  | cons v word ih =>
    cases text with
    | nil => simp [afterWord?] at h
    | cons c text =>
      rw [afterWord?] at h
      split at h
      · exact Nat.lt_succ_of_lt (ih h)
      · cases h

end Text

end CssSurvey
