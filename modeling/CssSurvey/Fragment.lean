/-
Rule fragments: code cut at its top-level braces into texts of the form `selector { ... }`. A
closing brace with no partner closes no fragment, so that a malformed rule stays in one piece. Only
at-rules nest blocks; an opening brace inside the block of a plain rule means that the block was
never closed, and the next fragment starts after the last `;`, `{` or `}` before that brace. Text
after the last closed block makes a last fragment.
-/
import CssSurvey.Text.Blank

namespace CssSurvey

/-- A stretch of code that a fragment is made from. When the rule in it was left open, `cutBy` is
the head of the next rule, in front of whose block the stretch had to end. -/
structure Stretch where
  text : Text
  cutBy : Option Text := none
deriving DecidableEq

namespace Stretch

/-- The characters after which a new rule may start. -/
def isRuleEnd (c : Char) : Bool := c = ';' || c = '{' || c = '}'

/-- Whether the first character of a reversed text that is not blank is `@`. -/
def opensAtRule (seen : Text) : Bool :=
  (Text.trimStart seen.reverse).head? = some '@'

/-- The stretches of a code. The scan knows how many blocks are open, whether the outermost of them
is that of an at-rule, and the current stretch so far, in reverse. -/
def ofCodeFrom (depth : Nat) (inAtRule : Bool) (seen : Text) : Text → List Stretch
  | [] => [⟨seen.reverse, none⟩]
  | c :: rest =>
    if c = '{' then
      if depth = 0 then ofCodeFrom 1 (opensAtRule seen) (c :: seen) rest
      else if inAtRule then ofCodeFrom (depth + 1) inAtRule (c :: seen) rest
      else
        let head := seen.takeWhile (!isRuleEnd ·)
        ⟨(seen.dropWhile (!isRuleEnd ·)).reverse, some (Text.trim head.reverse)⟩ ::
          ofCodeFrom 1 inAtRule (c :: head) rest
    else if c = '}' ∧ 0 < depth then
      if depth = 1 then ⟨(c :: seen).reverse, none⟩ :: ofCodeFrom 0 false [] rest
      else ofCodeFrom (depth - 1) inAtRule (c :: seen) rest
    else ofCodeFrom depth inAtRule (c :: seen) rest

/-- The stretches of a code. -/
def ofCode (code : Text) : List Stretch := ofCodeFrom 0 false [] code

theorem flatten_ofCodeFrom (depth : Nat) (inAtRule : Bool) (seen text : Text) :
    ((ofCodeFrom depth inAtRule seen text).map Stretch.text).flatten = seen.reverse ++ text := by
  fun_induction ofCodeFrom depth inAtRule seen text with
  | case4 depth inAtRule seen rest _ _ head ih =>
    have hsplit := congrArg List.reverse
      (List.takeWhile_append_dropWhile (p := (!isRuleEnd ·)) (l := seen))
    rw [List.reverse_append] at hsplit
    simp [ih, ← hsplit, head]
  | _ => simp_all

/-- The stretches of a code, one after the other, are the code. -/
theorem flatten_ofCode (code : Text) : ((ofCode code).map Stretch.text).flatten = code :=
  flatten_ofCodeFrom 0 false [] code

end Stretch

/-- The rule fragments of a code: its stretches, trimmed, without the blank ones. -/
def fragments (code : Text) : List Text :=
  ((Stretch.ofCode code).map (Text.trim ·.text)).filter (!·.isEmpty)

end CssSurvey
