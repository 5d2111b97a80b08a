/-
Specificity: how many ids, classes and types a selector list names, found in one scan. Whatever
stands inside brackets or parentheses is skipped, and so are pseudo-elements (`::name`). The text of
a specificity is three digits, or three numbers between commas when one of them needs more digits.
-/
import CssSurvey.Text.Basic

namespace CssSurvey

/-- The ids, classes and types that a selector list names, summed over its members. -/
structure Specificity where
  ids : Nat
  classes : Nat
  types : Nat
deriving DecidableEq

namespace Specificity

instance : Zero Specificity := ⟨⟨0, 0, 0⟩⟩

instance : Add Specificity :=
  ⟨fun a b => ⟨a.ids + b.ids, a.classes + b.classes, a.types + b.types⟩⟩

/-- Ids decide first, then classes, then types. -/
def compare (a b : Specificity) : Ordering :=
  ((Ord.compare a.ids b.ids).then (Ord.compare a.classes b.classes)).then
    (Ord.compare a.types b.types)

instance : Ord Specificity := ⟨compare⟩

/-- Three digits when every count is one digit, else the counts between commas. -/
def render (s : Specificity) : Text :=
  if s.ids < 10 ∧ s.classes < 10 ∧ s.types < 10 then
    Text.ofNat s.ids ++ Text.ofNat s.classes ++ Text.ofNat s.types
  else
    List.intercalate [','] [Text.ofNat s.ids, Text.ofNat s.classes, Text.ofNat s.types]

/-! ## Scanning a selector -/

/-- The characters of a name: ASCII letters and digits, `-`, `_`, and everything beyond ASCII. -/
def isNameChar (c : Char) : Bool := c.isAlphanum || c = '-' || c = '_' || '\u0080' ≤ c

/-- Whether a name that follows `last` names a type. After a hash, a dot or a colon it names
something else, and after a name character it is no new name. -/
def startsType (last : Option Char) : Bool :=
  match last with
  | none => true
  | some c => !(c = '#' || c = '.' || c = ':' || isNameChar c)

/-- The specificity of a selector from some point on, where so many brackets and parentheses are
open and `last` is the character before. A bracket counts even inside parentheses; inside brackets
nothing else does. A name needs no branch of its own: all of its characters but the first follow one
of a name and start no type, so that it counts once, as if it were passed over in one go. -/
def scanFrom (brackets parens : Nat) (last : Option Char) : Text → Specificity
  | [] => 0
  | c :: rest =>
    if c = '[' then
      (if brackets = 0 ∧ parens = 0 then ⟨0, 1, 0⟩ else 0) +
        scanFrom (brackets + 1) parens (some c) rest
    else if c = ']' then scanFrom (brackets - 1) parens (some c) rest
    else if 0 < brackets then scanFrom brackets parens (some c) rest
    else if c = '(' then scanFrom brackets (parens + 1) (some c) rest
    else if c = ')' then scanFrom brackets (parens - 1) (some c) rest
    else if 0 < parens then scanFrom brackets parens (some c) rest
    else if c = '#' then ⟨1, 0, 0⟩ + scanFrom brackets parens (some c) rest
    else if c = '.' then
      (if rest.head?.any isNameChar then ⟨0, 1, 0⟩ else 0) +
        scanFrom brackets parens (some c) rest
    else if c = ':' then
      match rest with
      | ':' :: after => scanFrom brackets parens (some ':') after
      | after => ⟨0, 1, 0⟩ + scanFrom brackets parens (some c) after
    else
      (if c.isAlpha ∧ startsType last then ⟨0, 0, 1⟩ else 0) +
        scanFrom brackets parens (some c) rest

/-- The specificity of a selector list. -/
def ofSelector (selector : Text) : Specificity := scanFrom 0 0 none selector

end Specificity

end CssSurvey
