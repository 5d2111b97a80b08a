/-
Braces: the test whether they are balanced, and the text up to the brace that closes a block.
-/
import CssSurvey.Text.Basic

namespace CssSurvey

/-- An opening or a closing brace. -/
def isBrace (c : Char) : Bool := c = '{' || c = '}'

/-- Whether a text closes the `depth` braces that are open before it and every brace of its own,
and never closes one that is not open. -/
def closesAll : Nat → Text → Bool
  | depth, [] => depth = 0
  | depth, c :: rest =>
    if c = '{' then closesAll (depth + 1) rest
    else if c = '}' then 0 < depth && closesAll (depth - 1) rest
    else closesAll depth rest

/-- Whether every brace of `text` has its partner. -/
def bracesBalanced (text : Text) : Bool := closesAll 0 text

/-- The text up to the brace that closes the innermost block open before it, where `depth` more
blocks have been opened since, and the text after that brace. When the block is never closed, the
first part is the whole text. -/
def cutAtClose : Nat → Text → Text × Option Text
  | _, [] => ([], none)
  | depth, c :: rest =>
    if c = '}' ∧ depth = 0 then ([], some rest)
    else
      let depth := if c = '{' then depth + 1 else if c = '}' then depth - 1 else depth
      let (before, after) := cutAtClose depth rest
      (c :: before, after)

/-- The two parts, with the closing brace between them, make up the text. -/
theorem cutAtClose_append (depth : Nat) (text : Text) :
    (cutAtClose depth text).1 ++ (cutAtClose depth text).2.elim [] ('}' :: ·) = text := by
  induction text generalizing depth with
  | nil => rfl
  | cons c rest ih =>
    rw [cutAtClose]
    split
    · rename_i h
      simp [h.1]
    · exact congrArg (c :: ·) (ih _)

end CssSurvey
