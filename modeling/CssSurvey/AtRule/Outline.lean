/-
The outline of a code: its top-level at-rules and the gaps between them. At-rules keep their own
text, so the pieces of an outline, one after the other, are the code again.
-/
import CssSurvey.Brace
import CssSurvey.Text.Blank

namespace CssSurvey

/-- An at-rule as it stands in the code: a statement that ends at its semicolon, or a block. The
head runs from the `@` up to the semicolon or the brace. A block that is never closed runs to the
end of the code. -/
inductive AtSource where
  | statement (head : Text)
  | block (head body : Text) (closed : Bool)
deriving DecidableEq

namespace AtSource

/-- The text from the `@` through the semicolon or the closing brace. -/
def render : AtSource → Text
  | statement head => head ++ [';']
  | block head body closed => head ++ ['{'] ++ body ++ if closed then ['}'] else []

/-- The text from the `@` up to the semicolon or the opening brace. -/
def head : AtSource → Text
  | statement head => head
  | block head _ _ => head

/-- The head with its white space collapsed. -/
def header (source : AtSource) : Text := Text.collapse source.head

/-- Whether a character ends the head of an at-rule. -/
def endsHead (c : Char) : Bool := c = '{' || c = ';'

/-- Reads the at-rule at the start of a text, with the text after it. There is none when neither a
semicolon nor an opening brace follows. -/
def read? (text : Text) : Option (AtSource × Text) :=
  let head := text.takeWhile (!endsHead ·)
  match text.dropWhile (!endsHead ·) with
  | [] => none
  | ';' :: rest => some (statement head, rest)
  | _ :: rest =>
    match cutAtClose 0 rest with
    | (body, none) => some (block head body false, [])
    | (body, some rest) => some (block head body true, rest)

theorem endsHead_of_dropWhile {c : Char} {rest text : Text}
    (h : text.dropWhile (!endsHead ·) = c :: rest) : endsHead c := by
  have := List.head?_dropWhile_not (!endsHead ·) text
  rw [h] at this
  simpa using this

/-- An at-rule and the text after it make up the text that it was read from. -/
theorem render_of_read? {text rest : Text} {source : AtSource}
    (h : read? text = some (source, rest)) : source.render ++ rest = text := by
  have hsplit := List.takeWhile_append_dropWhile (p := (!endsHead ·)) (l := text)
  unfold read? at h
  split at h
  · cases h
  · rename_i after hafter
    cases h
    rw [hafter] at hsplit
    simpa [render] using hsplit
  · rename_i c after hne hafter
    rw [hafter] at hsplit
    have hc : c = '{' := by
      have hend := endsHead_of_dropWhile hafter
      simp only [endsHead, Bool.or_eq_true, decide_eq_true_eq] at hend
      exact hend.resolve_right hne
    have hcut := cutAtClose_append 0 after
    split at h <;> rename_i hpair <;> cases h <;> rw [hpair] at hcut <;>
      simpa [render, hc, ← hcut] using hsplit

theorem render_ne_nil (source : AtSource) : source.render ≠ [] := by
  cases source <;> simp [render]

/-- Reading an at-rule uses up some of the text. -/
theorem length_of_read? {text rest : Text} {source : AtSource}
    (h : read? text = some (source, rest)) : rest.length < text.length := by
  have hpos := List.length_pos_iff.2 (render_ne_nil source)
  have hlen := congrArg List.length (render_of_read? h)
  rw [List.length_append] at hlen
  omega

end AtSource

/-- A code cut at its at-rules: each with the gap before it, and the gap after the last. -/
structure Outline where
  parts : List (Text × AtSource)
  last : Text
deriving DecidableEq

namespace Outline

/-- The at-rules in order. -/
def sources (o : Outline) : List AtSource := o.parts.map Prod.snd

/-- The gaps in order, the last one included. -/
def gaps (o : Outline) : List Text := o.parts.map Prod.fst ++ [o.last]

/-- The code outside of at-rules. -/
def plain (o : Outline) : Text := o.gaps.flatten

/-- The code that was cut. -/
def render (o : Outline) : Text :=
  (o.parts.flatMap fun (gap, source) => gap ++ source.render) ++ o.last

/-- Whether an `@` starts an at-rule: it stands before an ASCII letter or a hyphen, and either no
ruleset is open, or it comes right after a `;` or `}`, which is where a ruleset that was never
closed must have ended. `seen` is the gap before the `@`, in reverse. -/
def startsAtRule (inRuleset : Bool) (seen rest : Text) : Bool :=
  rest.head?.any (fun c => c.isAlpha || c = '-') &&
    (!inRuleset || (seen.dropWhile isAsciiBlank).head?.any fun c => c = ';' || c = '}')

/-- The outline from some point on, where `inRuleset` tells whether a ruleset is open and `seen` is
the gap so far, in reverse. The bodies of at-rules are skipped whole, so that every brace met here
belongs to a plain ruleset. -/
def ofCodeFrom (inRuleset : Bool) (seen : Text) : Text → Outline
  | [] => ⟨[], seen.reverse⟩
  | c :: rest =>
    if c = '{' then ofCodeFrom true (c :: seen) rest
    else if c = '}' then ofCodeFrom false (c :: seen) rest
    else if c = '@' ∧ startsAtRule inRuleset seen rest then
      match _h : AtSource.read? (c :: rest) with
      | none => ⟨[], seen.reverse ++ c :: rest⟩
      | some (source, rest') =>
        let after := ofCodeFrom false [] rest'
        ⟨(seen.reverse, source) :: after.parts, after.last⟩
    else ofCodeFrom inRuleset (c :: seen) rest
termination_by text => text.length
decreasing_by
  · simp
  · simp
  · exact AtSource.length_of_read? _h
  · simp

/-- The outline of a code without comments. -/
def ofCode (code : Text) : Outline := ofCodeFrom false [] code

theorem render_ofCodeFrom (inRuleset : Bool) (seen text : Text) :
    (ofCodeFrom inRuleset seen text).render = seen.reverse ++ text := by
  fun_induction ofCodeFrom inRuleset seen text with
  | case5 inRuleset seen c rest _ _ _ source rest' h after ih =>
    simp only [render] at ih
    simp [render, after, ih, AtSource.render_of_read? h]
  | _ => simp_all [render]

/-- Nothing of a code is lost in its outline. -/
theorem render_ofCode (code : Text) : (ofCode code).render = code := render_ofCodeFrom false [] code

end Outline

end CssSurvey
