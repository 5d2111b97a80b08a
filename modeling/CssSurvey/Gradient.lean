/-
Gradients in property values: whether a value calls `linear-gradient` or `radial-gradient`, whether
such a call has a vendor prefix, and the `rgb()` and `rgba()` colours in its arguments.
-/
import CssSurvey.Text.Caseless

namespace CssSurvey

/-- What the gradient calls of a text show: whether one of them has a vendor prefix, and their
colours in order of first use. -/
structure GradientUse where
  vendorPrefixed : Bool
  colors : List Text
deriving DecidableEq

namespace Gradient

/-! ## Calls -/

/-- What follows the opening parenthesis, when a text starts with the name of a gradient call. -/
def afterName? (text : Text) : Option Text :=
  (Text.afterWord? "linear-gradient(".toList text).or
    (Text.afterWord? "radial-gradient(".toList text)

/-- The same for a name that `repeating-` may stand before. -/
def afterCall? (text : Text) : Option Text :=
  ((Text.afterWord? "repeating-".toList text).bind afterName?).or (afterName? text)

/-- What follows a vendor prefix at the start of a text: a hyphen, letters, at least one of them,
and a second hyphen. -/
def afterVendor? : Text → Option Text
  | '-' :: rest =>
    match rest.takeWhile isLatinLetter, rest.dropWhile isLatinLetter with
    | _ :: _, '-' :: after => some after
    | _, _ => none
  | _ => none

/-- The gradient call at the start of a text: whether it has a vendor prefix, and what follows its
opening parenthesis. -/
def callAt? (text : Text) : Option (Bool × Text) :=
  (((afterVendor? text).bind afterCall?).map (true, ·)).or ((afterCall? text).map (false, ·))

/-- The gradient calls of a text, one for each place where one starts. A call with a prefix starts
at the prefix, and again at its name. -/
def calls : Text → List (Bool × Text)
  | [] => []
  | c :: rest => (callAt? (c :: rest)).toList ++ calls rest

/-- The arguments of a call: everything up to the parenthesis that closes it, where `depth` more
have been opened since, or up to the end of the text. -/
def arguments : Nat → Text → Text
  | _, [] => []
  | depth, c :: rest =>
    if c = ')' ∧ depth = 0 then []
    else
      c :: arguments (if c = '(' then depth + 1 else if c = ')' then depth - 1 else depth) rest

/-! ## Colours -/

/-- A parenthesis of either kind. -/
def isParen (c : Char) : Bool := c = '(' || c = ')'

/-- The colour that starts with `word`, which ends in a parenthesis, at the start of a text. Its
arguments hold no parenthesis. -/
def colorOf? (word text : Text) : Option Text :=
  (Text.afterWord? word text).bind fun rest =>
    match rest.dropWhile (!isParen ·) with
    | ')' :: _ => some (text.take word.length ++ rest.takeWhile (!isParen ·) ++ [')'])
    | _ => none

/-- The `rgb()` or `rgba()` colour at the start of a text. -/
def colorAt? (text : Text) : Option Text :=
  (colorOf? "rgb(".toList text).or (colorOf? "rgba(".toList text)

/-- The colours of a text in order. -/
def colors : Text → List Text
  | [] => []
  | c :: rest => (colorAt? (c :: rest)).toList ++ colors rest

/-! ## Use -/

/-- Whether a value holds a gradient call. -/
def isGradient (value : Text) : Bool :=
  let value := value.lower
  Text.contains "linear-gradient(".toList value || Text.contains "radial-gradient(".toList value

/-- What the gradient calls of a text show. -/
def use (text : Text) : GradientUse :=
  let calls := calls text
  ⟨calls.any Prod.fst, (calls.flatMap fun call => colors (arguments 0 call.2)).eraseDups⟩

end Gradient

end CssSurvey
