/-
What a fragment can look like. One that does not start with `@` has one block at most, and when it
has one that is closed, the fragment ends with it. So of the fragments that are not at-rules, those
with the braces of a ruleset are plain rules and nothing else.
-/
import CssSurvey.Proofs.Fragment.Ink
import Mathlib.Data.List.Basic

namespace CssSurvey

/-- A text with one block at most, which has no brace in it and runs to the end of the text. -/
inductive OneBlock : Text → Prop
  | noBlock {text : Text} (h : '{' ∉ text) : OneBlock text
  | opened {head body : Text} (hhead : '{' ∉ head) (hbody : BraceFree body) :
    OneBlock (head ++ '{' :: body)
  | closed {head body : Text} (hhead : '{' ∉ head) (hbody : BraceFree body) :
    OneBlock (head ++ '{' :: (body ++ ['}']))

namespace OneBlock

theorem trim {text : Text} (h : OneBlock text) : OneBlock (Text.trim text) := by
  cases h with
  | noBlock h => exact .noBlock fun hmem => h ((Text.trim_isInfix text).subset hmem)
  | @opened head body hhead hbody =>
    rw [Text.trim_append_cons (by decide)]
    exact .opened (fun hmem => hhead ((List.dropWhile_suffix _).subset hmem))
      (hbody.of_isInfix (Text.dropEndWhile_isInfix _ body))
  | @closed head body hhead hbody =>
    rw [Text.trim_append_cons (by decide), Text.trimEnd_append_cons (by decide)]
    exact .closed (fun hmem => hhead ((List.dropWhile_suffix _).subset hmem)) hbody

/-- With the braces of a ruleset, it is a plain rule. -/
theorem exists_plainRule {text : Text} (h : OneBlock text) (hbraced : Ruleset.wellBraced text) :
    ∃ rule : PlainRule, rule.text = text := by
  rw [Ruleset.wellBraced, Bool.and_eq_true, bracesBalanced] at hbraced
  obtain ⟨hany, hbalanced⟩ := hbraced
  cases h with
  | noBlock h => simp [h] at hany
  | opened hhead hbody =>
    have hfree := braceFree_of_closesAll_append hhead hbalanced
    rw [closesAll_append_of_braceFree hfree, closesAll, if_pos rfl, closesAll_of_braceFree hbody] at hbalanced
    cases hbalanced
  | closed hhead hbody =>
    exact ⟨⟨_, _, braceFree_of_closesAll_append hhead hbalanced, hbody⟩, rfl⟩

/-- What stands before and after the opening brace of a block, wherever the text is cut at one. -/
theorem of_append {before after : Text} (h : OneBlock (before ++ '{' :: after)) :
    '{' ∉ before ∧ (BraceFree after ∨ ∃ body, BraceFree body ∧ after = body ++ ['}']) := by
  have hunique : ∀ {head rest : Text}, '{' ∉ head → '{' ∉ rest →
      before ++ '{' :: after = head ++ '{' :: rest → before = head ∧ after = rest := by
    intro head rest hhead hrest heq
    obtain ⟨rfl, -, rfl⟩ := (List.append_cons_inj_of_notMem hhead hrest).1 heq.symm
    exact ⟨rfl, rfl⟩
  generalize htext : before ++ '{' :: after = text at h
  cases h with
  | noBlock h => exact absurd (htext ▸ by simp) h
  | @opened head body hhead hbody =>
    obtain ⟨rfl, rfl⟩ := hunique hhead (hbody.not_mem rfl) htext
    exact ⟨hhead, .inl hbody⟩
  | @closed head body hhead hbody =>
    have hopen : '{' ∉ body := hbody.not_mem rfl
    have hbody' : '{' ∉ body ++ ['}'] := by simp [hopen]
    obtain ⟨rfl, rfl⟩ := hunique hhead hbody' htext
    exact ⟨hhead, .inr ⟨body, hbody, rfl⟩⟩

end OneBlock

/-! ## At-rules -/

/-- The first character of a text that is not white space is `@`. -/
def StartsWithAt (text : Text) : Prop := ∃ gap rest : Text, gap.isBlank ∧ text = gap ++ '@' :: rest

namespace StartsWithAt

theorem append {text : Text} (h : StartsWithAt text) (rest : Text) : StartsWithAt (text ++ rest) := by
  obtain ⟨gap, after, hgap, rfl⟩ := h
  exact ⟨gap, after ++ rest, hgap, by simp⟩

theorem head?_trim {text : Text} (h : StartsWithAt text) : text.trim.head? = some '@' := by
  obtain ⟨gap, rest, hgap, rfl⟩ := h
  rw [Text.trim_append_of_isBlank_left hgap, ← List.nil_append ('@' :: rest), Text.trim_append_cons (by decide)]
  rfl

theorem of_opensAtRule {seen : Text} (h : Stretch.opensAtRule seen) : StartsWithAt seen.reverse := by
  rw [Stretch.opensAtRule, decide_eq_true_eq] at h
  obtain ⟨rest, hrest⟩ := List.head?_eq_some_iff.1 h
  exact ⟨_, rest, List.all_takeWhile, (Text.dropWhile_eq_cons hrest).2⟩

end StartsWithAt

/-! ## The shape of a stretch -/

namespace Scan

open Stretch

/-- What a stretch can be: an at-rule, or a text with one block at most. -/
def Shaped (text : Text) : Prop := StartsWithAt text ∨ OneBlock text

/-- Where a scan can stand: between blocks, in the block of a rule, or in that of an at-rule. -/
inductive Reachable : Scan → Prop
  | between {seen : Text} (h : '{' ∉ seen) : Reachable ⟨0, false, seen⟩
  | inRule {head body : Text} (hhead : '{' ∉ head) (hbody : BraceFree body) :
    Reachable ⟨1, false, body ++ '{' :: head⟩
  | inAtRule {depth : Nat} {seen : Text} (hdepth : 0 < depth) (hat : StartsWithAt seen.reverse) :
    Reachable ⟨depth, true, seen⟩

theorem reachable_start : Reachable start := .between List.not_mem_nil

theorem text_leftOpen (head body : Text) :
    (leftOpen (body ++ '{' :: head)).text = head.reverse ++ '{' :: (body.dropWhile (!isRuleEnd ·)).reverse := by
  rw [leftOpen, Text.dropWhile_append_stop (by decide)]
  simp

/-- A rule that was left open is cut behind its opening brace. -/
theorem oneBlock_leftOpen {head body : Text} (hhead : '{' ∉ head) (hbody : BraceFree body) :
    OneBlock (leftOpen (body ++ '{' :: head)).text := by
  rw [text_leftOpen]
  refine .opened (fun hmem => hhead (List.mem_reverse.1 hmem)) (hbody.of_isInfix ?_).reverse
  exact (List.dropWhile_suffix _).isInfix

theorem not_mem_takeWhile_ruleEnd (seen : Text) : '{' ∉ seen.takeWhile (!isRuleEnd ·) := fun hmem => by
  have := List.all_eq_true.1 List.all_takeWhile _ hmem
  revert this
  decide

theorem Reachable.step_open {s : Scan} (h : Reachable s) :
    Reachable (s.step '{').2 ∧ ∀ stretch ∈ (s.step '{').1, Shaped stretch.text := by
  rcases h with @⟨seen, h⟩ | @⟨head, body, hhead, hbody⟩ | @⟨depth, seen, hdepth, hat⟩
  · rw [Scan.step, if_pos rfl, if_pos rfl]
    refine ⟨?_, by simp⟩
    rcases hat : opensAtRule seen with _ | _
    · show Reachable ⟨1, false, [] ++ '{' :: seen⟩
      exact .inRule h braceFree_nil
    · exact .inAtRule Nat.one_pos (by simpa using (StartsWithAt.of_opensAtRule hat).append ['{'])
  -- The rule before was never closed: its stretch ends here, and its last words open a new block.
  · rw [Scan.step, if_pos rfl, if_neg Nat.one_ne_zero, if_neg Bool.false_ne_true]
    constructor
    · show Reachable ⟨1, false, [] ++ '{' :: _⟩
      exact .inRule (not_mem_takeWhile_ruleEnd _) braceFree_nil
    · rintro _ ⟨⟩
      exact .inr (oneBlock_leftOpen hhead hbody)
  · rw [Scan.step, if_pos rfl, if_neg hdepth.ne', if_pos rfl]
    exact ⟨.inAtRule (Nat.succ_pos _) (by simpa using hat.append ['{']), by simp⟩

theorem Reachable.step_close {s : Scan} (h : Reachable s) :
    Reachable (s.step '}').2 ∧ ∀ stretch ∈ (s.step '}').1, Shaped stretch.text := by
  rcases h with @⟨seen, h⟩ | @⟨head, body, hhead, hbody⟩ | @⟨depth, seen, hdepth, hat⟩
  · rw [Scan.step, if_neg (by decide), if_neg (by simp)]
    exact ⟨.between (List.not_mem_cons_of_ne_of_not_mem (by decide) h), by simp⟩
  · rw [Scan.step_close]
    refine ⟨reachable_start, ?_⟩
    rintro _ ⟨⟩
    have hclosed : OneBlock (head.reverse ++ '{' :: (body.reverse ++ ['}'])) :=
      .closed (fun hmem => hhead (List.mem_reverse.1 hmem)) hbody.reverse
    exact .inr (by simpa using hclosed)
  · rw [Scan.step, if_neg (by decide), if_pos ⟨rfl, hdepth⟩]
    split
    · refine ⟨reachable_start, ?_⟩
      rintro _ ⟨⟩
      exact .inl (by simpa using hat.append ['}'])
    · rename_i hne
      have hlt : 0 < depth - 1 := Nat.sub_pos_of_lt (lt_of_le_of_ne hdepth (Ne.symm hne))
      exact ⟨.inAtRule hlt (by simpa using hat.append ['}']), by simp⟩

/-- One character further, the scan stands where it can stand, and a stretch that ends there has one
of the shapes. -/
theorem Reachable.step {s : Scan} (h : Reachable s) (c : Char) :
    Reachable (s.step c).2 ∧ ∀ stretch ∈ (s.step c).1, Shaped stretch.text := by
  by_cases hopen : c = '{'
  · exact hopen ▸ h.step_open
  · by_cases hclose : c = '}'
    · exact hclose ▸ h.step_close
    · have hc := isBrace_eq_false.2 ⟨hopen, hclose⟩
      rw [step_of_braceFree s hc]
      refine ⟨?_, by simp⟩
      rcases h with @⟨seen, h⟩ | @⟨head, body, hhead, hbody⟩ | @⟨depth, seen, hdepth, hat⟩
      · exact .between (List.not_mem_cons_of_ne_of_not_mem (Ne.symm hopen) h)
      · show Reachable ⟨1, false, (c :: body) ++ '{' :: head⟩
        exact .inRule hhead (braceFree_cons.2 ⟨hc, hbody⟩)
      · exact .inAtRule hdepth (by simpa using hat.append [c])

/-- What is left at the end of the code has one of the shapes as well. -/
theorem Reachable.shaped {s : Scan} (h : Reachable s) : Shaped s.seen.reverse := by
  rcases h with @⟨seen, h⟩ | @⟨head, body, hhead, hbody⟩ | @⟨depth, seen, hdepth, hat⟩
  · exact .inr (.noBlock fun hmem => h (List.mem_reverse.1 hmem))
  · have hopened : OneBlock (head.reverse ++ '{' :: body.reverse) :=
      .opened (fun hmem => hhead (List.mem_reverse.1 hmem)) hbody.reverse
    exact .inr (by simpa using hopened)
  · exact .inl hat

theorem Reachable.shaped_of_mem {s : Scan} (h : Reachable s) (text : Text) :
    ∀ stretch ∈ s.stretches text, Shaped stretch.text := by
  induction text generalizing s with
  | nil =>
    intro stretch hmem
    rw [stretches_nil, List.mem_singleton] at hmem
    exact hmem ▸ h.shaped
  | cons c text ih =>
    intro stretch hmem
    obtain ⟨hnext, hended⟩ := h.step c
    rw [stretches_cons, List.mem_append, Option.mem_toList] at hmem
    rcases hmem with hmem | hmem
    · exact hended stretch hmem
    · exact ih hnext stretch hmem

end Scan

/-! ## The shape of a fragment -/

theorem Stretch.shaped_of_mem_ofCode {code : Text} {stretch : Stretch} (h : stretch ∈ ofCode code) :
    Scan.Shaped stretch.text := by
  rw [← Scan.stretches_start] at h
  exact Scan.reachable_start.shaped_of_mem code stretch h

/-- A stretch is part of the code that it was cut from. -/
theorem Stretch.isInfix_of_mem_ofCode {code : Text} {stretch : Stretch} (h : stretch ∈ ofCode code) :
    stretch.text <:+: code := by
  have := List.infix_of_mem_flatten (List.mem_map_of_mem (f := Stretch.text) h)
  rwa [flatten_ofCode] at this

/-- A fragment that does not start with `@` has one block at most. -/
theorem oneBlock_of_mem_fragments {code fragment : Text} (h : fragment ∈ fragments code)
    (hat : fragment.head? ≠ some '@') : OneBlock fragment := by
  obtain ⟨stretch, hstretch, rfl⟩ := List.mem_map.1 (List.mem_of_mem_filter h)
  rcases Stretch.shaped_of_mem_ofCode hstretch with hstart | hblock
  · exact absurd hstart.head?_trim hat
  · exact hblock.trim

theorem isInfix_of_mem_fragments {code fragment : Text} (h : fragment ∈ fragments code) : fragment <:+: code := by
  obtain ⟨stretch, hstretch, rfl⟩ := List.mem_map.1 (List.mem_of_mem_filter h)
  exact (Text.trim_isInfix _).trans (Stretch.isInfix_of_mem_ofCode hstretch)

/-- A fragment that is no at-rule and is read into a valid ruleset is a plain rule. -/
theorem exists_text_eq_of_isValid {code fragment : Text} (h : fragment ∈ fragments code)
    (hat : fragment.head? ≠ some '@') (hvalid : (Ruleset.parse fragment).isValid) :
    ∃ rule : PlainRule, rule.text = fragment := by
  have hbraced : Ruleset.wellBraced fragment := by
    rw [← trim_of_mem_fragments h]
    exact hvalid
  exact (oneBlock_of_mem_fragments h hat).exists_plainRule hbraced

/-- In a code without `@` every valid ruleset is a plain rule. -/
theorem exists_plainRule_of_isValid {code fragment : Text} (hat : '@' ∉ code)
    (hfragment : fragment ∈ fragments code) (hvalid : (Ruleset.parse fragment).isValid) :
    ∃ rule : PlainRule, rule.text <:+: code ∧ Ruleset.parse fragment = rule.ruleset := by
  have hin := isInfix_of_mem_fragments hfragment
  have hhead : fragment.head? ≠ some '@' := fun h => hat (hin.subset (List.mem_of_head? h))
  obtain ⟨rule, rfl⟩ := exists_text_eq_of_isValid hfragment hhead hvalid
  exact ⟨rule, hin, rule.parse_text⟩

end CssSurvey
