/-
Outlines of codes put together from pieces. Text without an `@` that leaves no ruleset open only
lengthens the gap before what follows, and an at-rule that is written out becomes a part of its
own. The search for at-rules looks back over the gap, but never further than the brace that opened
the current ruleset, so what was read before a piece does not change how the piece is read.
-/
import CssSurvey.AtRule.Outline
import CssSurvey.Proofs.Brace
import CssSurvey.Proofs.Text.Cut
import Mathlib.Data.List.TakeWhile
import Mathlib.Tactic.Common

namespace CssSurvey

namespace AtSource

/-! ## Reading one at-rule -/

theorem read?_of_nil {text : Text} (h : text.dropWhile (!endsHead ·) = []) : read? text = none := by
  unfold read?
  simp only [h]

theorem read?_of_semicolon {text rest : Text} (h : text.dropWhile (!endsHead ·) = ';' :: rest) :
    read? text = some (statement (text.takeWhile (!endsHead ·)), rest) := by
  unfold read?
  simp only [h]

theorem read?_of_brace {text after : Text} (h : text.dropWhile (!endsHead ·) = '{' :: after) :
    read? text = some (block (text.takeWhile (!endsHead ·)) (cutAtClose 0 after).1 (cutAtClose 0 after).2.isSome,
      (cutAtClose 0 after).2.getD []) := by
  unfold read?
  simp only [h]
  split
  · rename_i hnil
    cases hnil
  · rename_i hsemicolon
    exact absurd (List.cons.inj hsemicolon).1 (by decide)
  · rename_i hbrace
    cases hbrace
    split <;> rename_i hcut <;> simp [hcut]

/-- An at-rule is read up to the semicolon behind its head, or with the block that is opened there. -/
theorem read?_cases (text : Text) :
    (text.dropWhile (!endsHead ·) = [] ∧ read? text = none) ∨
      (∃ rest, text.dropWhile (!endsHead ·) = ';' :: rest ∧
        read? text = some (statement (text.takeWhile (!endsHead ·)), rest)) ∨
      ∃ after, text.dropWhile (!endsHead ·) = '{' :: after ∧
        read? text = some (block (text.takeWhile (!endsHead ·)) (cutAtClose 0 after).1
          (cutAtClose 0 after).2.isSome, (cutAtClose 0 after).2.getD []) := by
  cases hdrop : text.dropWhile (!endsHead ·) with
  | nil => exact .inl ⟨rfl, read?_of_nil hdrop⟩
  | cons c after =>
    have hend := endsHead_of_dropWhile hdrop
    simp only [endsHead, Bool.or_eq_true, decide_eq_true_eq] at hend
    rcases hend with rfl | rfl
    · exact .inr (.inr ⟨after, rfl, read?_of_brace hdrop⟩)
    · exact .inr (.inl ⟨after, rfl, read?_of_semicolon hdrop⟩)

theorem read?_statement {head : Text} (h : ∀ c ∈ head, endsHead c = false) (rest : Text) :
    read? (head ++ ';' :: rest) = some (statement head, rest) := by
  have hhead : ∀ c ∈ head, (!endsHead c) = true := fun c hc => by rw [h c hc]; rfl
  rw [read?_of_semicolon (Text.dropWhile_append_cons hhead (by decide) rest),
    Text.takeWhile_append_cons hhead (by decide) rest]

theorem read?_block {head body : Text} (h : ∀ c ∈ head, endsHead c = false)
    (hbody : bracesBalanced body) (rest : Text) :
    read? (head ++ '{' :: (body ++ '}' :: rest)) = some (block head body true, rest) := by
  have hhead : ∀ c ∈ head, (!endsHead c) = true := fun c hc => by rw [h c hc]; rfl
  rw [read?_of_brace (Text.dropWhile_append_cons hhead (by decide) _),
    Text.takeWhile_append_cons hhead (by decide) _, cutAtClose_append_close hbody]
  rfl

end AtSource

namespace Outline

/-! ## Building outlines -/

/-- The same outline with more text in front of its first gap. -/
def prepend (gap : Text) (o : Outline) : Outline :=
  match o.parts with
  | [] => ⟨[], gap ++ o.last⟩
  | (first, source) :: parts => ⟨(gap ++ first, source) :: parts, o.last⟩

/-- The same outline with one more at-rule in front, and no gap before it. -/
def cons (source : AtSource) (o : Outline) : Outline := ⟨([], source) :: o.parts, o.last⟩

@[simp] theorem sources_prepend (gap : Text) (o : Outline) : (o.prepend gap).sources = o.sources := by
  unfold prepend sources
  split <;> rename_i h <;> simp [h]

@[simp] theorem plain_prepend (gap : Text) (o : Outline) : (o.prepend gap).plain = gap ++ o.plain := by
  unfold prepend plain gaps
  split <;> rename_i h <;> simp [h]

@[simp] theorem sources_cons (source : AtSource) (o : Outline) :
    (o.cons source).sources = source :: o.sources := rfl

@[simp] theorem plain_cons (source : AtSource) (o : Outline) : (o.cons source).plain = o.plain := rfl

/-- An at-rule stands in the code between what comes before it in the outline and what comes after it. -/
theorem eq_of_parts_eq {code gap : Text} {front back : List (Text × AtSource)} {source : AtSource}
    (h : (ofCode code).parts = front ++ (gap, source) :: back) :
    code = render ⟨front, gap⟩ ++ (source.render ++ render ⟨back, (ofCode code).last⟩) := by
  have hrender := render_ofCode code
  rw [render, h] at hrender
  exact hrender.symm.trans (by simp [render])

/-! ## One step of the search -/

theorem ofCodeFrom_of_read?_none {inRuleset : Bool} {seen rest : Text} (hstarts : startsAtRule inRuleset seen rest)
    (hread : AtSource.read? ('@' :: rest) = none) :
    ofCodeFrom inRuleset seen ('@' :: rest) = ⟨[], seen.reverse ++ '@' :: rest⟩ := by
  rw [ofCodeFrom, if_neg (by decide), if_neg (by decide), if_pos ⟨rfl, hstarts⟩]
  split
  · rfl
  · rename_i hsome
    rw [hread] at hsome
    cases hsome

theorem ofCodeFrom_of_read? {inRuleset : Bool} {seen rest after : Text} {source : AtSource}
    (hstarts : startsAtRule inRuleset seen rest) (hread : AtSource.read? ('@' :: rest) = some (source, after)) :
    ofCodeFrom inRuleset seen ('@' :: rest) =
      ⟨(seen.reverse, source) :: (ofCodeFrom false [] after).parts, (ofCodeFrom false [] after).last⟩ := by
  rw [ofCodeFrom, if_neg (by decide), if_neg (by decide), if_pos ⟨rfl, hstarts⟩]
  split
  · rename_i hnone
    rw [hread] at hnone
    cases hnone
  · rename_i hsome
    rw [hread] at hsome
    cases hsome
    rfl

/-! ## Looking back -/

theorem startsAtRule_append {inRuleset : Bool} {seen : Text}
    (h : inRuleset → ∃ c ∈ seen, isAsciiBlank c = false) (before rest : Text) :
    startsAtRule inRuleset (seen ++ before) rest = startsAtRule inRuleset seen rest := by
  cases inRuleset with
  | false => rfl
  | true =>
    obtain ⟨c, hmem, hc⟩ := h rfl
    obtain ⟨front, back, rfl⟩ := List.append_of_mem hmem
    have hassoc : front ++ c :: back ++ before = front ++ c :: (back ++ before) := by simp
    unfold startsAtRule
    rw [hassoc, Text.dropWhile_append_stop hc, Text.dropWhile_append_stop hc]
    cases front.dropWhile isAsciiBlank <;> rfl

/-- What stands before the current gap changes nothing, as long as the gap holds what a look back
from inside an open ruleset can meet. -/
theorem ofCodeFrom_append_seen {inRuleset : Bool} {seen : Text}
    (h : inRuleset → ∃ c ∈ seen, isAsciiBlank c = false) (before text : Text) :
    ofCodeFrom inRuleset (seen ++ before) text =
      (ofCodeFrom inRuleset seen text).prepend before.reverse := by
  -- A brace opens or ends a ruleset and stays in the gap, so the premise holds at every step.
  fun_induction ofCodeFrom inRuleset seen text with
  | case1 inRuleset seen => simp [ofCodeFrom, prepend]
  | case2 inRuleset seen rest ih =>
    rw [ofCodeFrom, if_pos rfl]
    exact ih fun _ => ⟨'{', by simp, by decide⟩
  | case3 inRuleset seen rest hne ih =>
    rw [ofCodeFrom, if_neg hne, if_pos rfl]
    exact ih fun hfalse => by cases hfalse
  | case4 inRuleset seen c rest hopen hclose hat hread =>
    obtain ⟨rfl, hstarts⟩ := hat
    rw [← startsAtRule_append h before rest] at hstarts
    rw [ofCodeFrom_of_read?_none hstarts hread]
    simp [prepend]
  | case5 inRuleset seen c rest hopen hclose hat source rest' hread after ih =>
    obtain ⟨rfl, hstarts⟩ := hat
    rw [← startsAtRule_append h before rest] at hstarts
    rw [ofCodeFrom_of_read? hstarts hread]
    simp [prepend, after]
  | case6 inRuleset seen c rest hopen hclose hat ih =>
    rw [← startsAtRule_append h before rest] at hat
    rw [ofCodeFrom, if_neg hopen, if_neg hclose, if_neg hat]
    exact ih fun hin => (h hin).imp fun d hd => ⟨List.mem_cons_of_mem c hd.1, hd.2⟩

/-! ## Text without at-rules -/

/-- Whether a ruleset is open after a text without at-rules. -/
def inRulesetAfter (inRuleset : Bool) (text : Text) : Bool :=
  text.foldl (fun open_ c => if c = '{' then true else if c = '}' then false else open_) inRuleset

theorem ofCodeFrom_append_of_atFree {text : Text} (h : '@' ∉ text) (inRuleset : Bool) (seen rest : Text) :
    ofCodeFrom inRuleset seen (text ++ rest) =
      ofCodeFrom (inRulesetAfter inRuleset text) (text.reverse ++ seen) rest := by
  induction text generalizing inRuleset seen with
  | nil => rfl
  | cons c text ih =>
    have hc := List.ne_of_not_mem_cons h
    have htext := List.not_mem_of_not_mem_cons h
    have hnat : ¬ (c = '@' ∧ startsAtRule inRuleset seen (text ++ rest)) := fun hat => hc hat.1.symm
    rw [List.cons_append, ofCodeFrom]
    rw [if_neg hnat, ih htext, ih htext, ih htext]
    simp only [inRulesetAfter, List.foldl_cons, List.reverse_cons, List.append_assoc,
      List.singleton_append]
    split <;> [rfl; split <;> rfl]

/-- Text without an `@` that leaves no ruleset open joins the gap before what follows. -/
theorem ofCode_append_of_atFree {text : Text} (h : '@' ∉ text)
    (hclosed : inRulesetAfter false text = false) (rest : Text) :
    ofCode (text ++ rest) = (ofCode rest).prepend text := by
  have hlook : (false = true) → ∃ c ∈ ([] : Text), isAsciiBlank c = false := fun hin => by cases hin
  have := ofCodeFrom_append_seen hlook text.reverse rest
  rw [List.reverse_reverse, List.nil_append] at this
  rw [ofCode, ofCodeFrom_append_of_atFree h, hclosed, List.append_nil, this, ← ofCode]

theorem ofCode_of_atFree {text : Text} (h : '@' ∉ text) : ofCode text = ⟨[], text⟩ := by
  have := ofCodeFrom_append_of_atFree h false [] []
  rw [List.append_nil, List.append_nil] at this
  rw [ofCode, this, ofCodeFrom, List.reverse_reverse]

theorem inRulesetAfter_concat_close (inRuleset : Bool) (text : Text) :
    inRulesetAfter inRuleset (text ++ ['}']) = false := by
  simp [inRulesetAfter]

theorem inRulesetAfter_of_braceFree {text : Text} (h : BraceFree text) (inRuleset : Bool) :
    inRulesetAfter inRuleset text = inRuleset := by
  induction text with
  | nil => rfl
  | cons c text ih =>
    obtain ⟨hc, htext⟩ := braceFree_cons.1 h
    obtain ⟨hopen, hclose⟩ := isBrace_eq_false.1 hc
    have := ih htext
    rwa [inRulesetAfter, List.foldl_cons, if_neg hopen, if_neg hclose]

/-! ## At-rules written out -/

/-- A text that starts with an `@` and the first character of a keyword. -/
def StartsWithKeyword (text : Text) : Prop :=
  ∃ c rest, text = '@' :: c :: rest ∧ (c.isAlpha || c = '-')

theorem ofCode_of_read? {text rest : Text} {source : AtSource} (h : StartsWithKeyword text)
    (hread : AtSource.read? text = some (source, rest)) : ofCode text = (ofCode rest).cons source := by
  obtain ⟨c, tail, rfl, hc⟩ := h
  have hstarts : startsAtRule false [] (c :: tail) := by simpa [startsAtRule] using hc
  rw [ofCode, ofCodeFrom_of_read? hstarts hread]
  rfl

theorem StartsWithKeyword.append {head : Text} (h : StartsWithKeyword head) (rest : Text) :
    StartsWithKeyword (head ++ rest) := by
  obtain ⟨c, tail, rfl, hc⟩ := h
  exact ⟨c, tail ++ rest, rfl, hc⟩

theorem ofCode_statement_append {head : Text} (hkey : StartsWithKeyword head)
    (hhead : ∀ c ∈ head, AtSource.endsHead c = false) (rest : Text) :
    ofCode (head ++ ';' :: rest) = (ofCode rest).cons (.statement head) :=
  ofCode_of_read? (hkey.append _) (AtSource.read?_statement hhead rest)

theorem ofCode_block_append {head body : Text} (hkey : StartsWithKeyword head)
    (hhead : ∀ c ∈ head, AtSource.endsHead c = false) (hbody : bracesBalanced body) (rest : Text) :
    ofCode (head ++ '{' :: (body ++ '}' :: rest)) = (ofCode rest).cons (.block head body true) :=
  ofCode_of_read? (hkey.append _) (AtSource.read?_block hhead hbody rest)

end Outline

end CssSurvey
