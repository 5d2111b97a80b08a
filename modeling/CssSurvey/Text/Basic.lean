/-
Texts as lists of characters, with the few operations that every other module uses. A text is a
list so that a scanner recurses on it and a law about the scanner follows the recursion; `String`
appears only where the program meets its surroundings.
-/

namespace CssSurvey

/-- A text, character by character. -/
abbrev Text := List Char

namespace Text

/-- The decimal digits of `n`. -/
def ofNat (n : Nat) : Text := Nat.toDigits 10 n

/-- `text` with spaces on the right up to `width` characters; a wider text stays as it is. -/
def padEnd (width : Nat) (text : Text) : Text :=
  text ++ List.replicate (width - text.length) ' '

/-- Whether `a` comes no later than `b` in the order of code points. -/
def le (a b : Text) : Bool := !decide (b < a)

/-- Whether `word` occurs in a text. -/
def contains (word : Text) : Text → Bool
  | [] => word.isEmpty
  | c :: rest => word.isPrefixOf (c :: rest) || contains word rest

/-- `text` without the characters at its end that satisfy `p`. -/
def dropEndWhile (p : Char → Bool) (text : Text) : Text :=
  (text.reverse.dropWhile p).reverse

/-- What follows the first character that satisfies `p`. -/
def afterFirst? (p : Char → Bool) : Text → Option Text
  | [] => none
  | c :: rest => if p c then some rest else afterFirst? p rest

theorem length_of_afterFirst? {p : Char → Bool} {text rest : Text}
    (h : afterFirst? p text = some rest) : rest.length < text.length := by
  induction text with
  | nil => cases h
  | cons c text ih =>
    rw [afterFirst?] at h
    split at h
    · cases h
      exact Nat.lt_succ_self _
    · exact Nat.lt_succ_of_lt (ih h)

end Text

end CssSurvey
