/-
Splitting at top-level separators. A separator inside quotes, parentheses or brackets does not
count: `url(data:image/png;base64,AAA)` is never cut at its `;`. Parentheses and brackets share one
depth, which a surplus closing one leaves at zero; inside quotes only the same quote is looked for.
-/
import CssSurvey.Text.Basic

namespace CssSurvey

/-- Where a scan stands: the quote that is open, and how many parentheses and brackets are. -/
structure Nesting where
  quote : Option Char
  depth : Nat
deriving DecidableEq

namespace Nesting

/-- No quote, parenthesis or bracket is open. -/
def top : Nesting := ⟨none, 0⟩

/-- Where the scan stands after one more character. -/
def step (n : Nesting) (c : Char) : Nesting :=
  match n.quote with
  | some q => if c = q then { n with quote := none } else n
  | none =>
    if c = '"' ∨ c = '\'' then { n with quote := some c }
    else if c = '(' ∨ c = '[' then { n with depth := n.depth + 1 }
    else if c = ')' ∨ c = ']' then { n with depth := n.depth - 1 }
    else n

/-- Where the scan stands after a text. -/
def after (n : Nesting) (text : Text) : Nesting := text.foldl step n

end Nesting

/-- The parts of a text between its top-level separators, for a scan that stands at `n` before it:
the part up to the first of them, and the parts after. -/
def splitFrom (separator : Char) (n : Nesting) : Text → Text × List Text
  | [] => ([], [])
  | c :: rest =>
    if c = separator ∧ n = .top then
      let (first, others) := splitFrom separator n rest
      ([], first :: others)
    else
      let (first, others) := splitFrom separator (n.step c) rest
      (c :: first, others)

/-- The parts of `text` between its top-level separators: one more than there are separators. -/
def splitTop (separator : Char) (text : Text) : List Text :=
  let (first, others) := splitFrom separator .top text
  first :: others

theorem intercalate_splitFrom (separator : Char) (n : Nesting) (text : Text) :
    List.intercalate [separator]
      ((splitFrom separator n text).1 :: (splitFrom separator n text).2) = text := by
  fun_induction splitFrom separator n text <;> simp_all

/-- The parts of a text, joined by the separator, are the text. -/
theorem intercalate_splitTop (separator : Char) (text : Text) :
    List.intercalate [separator] (splitTop separator text) = text :=
  intercalate_splitFrom separator .top text

end CssSurvey
