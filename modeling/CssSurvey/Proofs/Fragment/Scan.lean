/-
The cut into fragments as a state machine: where the scan stands, what one character does to it,
and that a code is cut by running it. A text is then two things to the scan: the stretches that
end within it, and where the scan stands after it. Behind any text without an `@`, however its
braces stand, a complete plain rule brings the scan back to its start: the opening brace of the
rule ends whatever was left open, and the closing one ends the rule.
-/
import CssSurvey.Fragment
import CssSurvey.Proofs.Ruleset.Plain

namespace CssSurvey

/-- Where the scan of a code stands: how many blocks are open, whether the outermost of them is
that of an at-rule, and the current stretch so far, in reverse. -/
structure Scan where
  depth : Nat
  inAtRule : Bool
  seen : Text

namespace Scan

open Stretch

/-- Where the scan of a code starts. -/
def start : Scan := ⟨0, false, []⟩

/-- The stretch of a rule that was left open, up to where the next rule may start. -/
def leftOpen (seen : Text) : Stretch :=
  ⟨(seen.dropWhile (!isRuleEnd ·)).reverse, some (Text.trim (seen.takeWhile (!isRuleEnd ·)).reverse)⟩

/-- One character further: the stretch that ends there, if one does, and where the scan stands. -/
def step (s : Scan) (c : Char) : Option Stretch × Scan :=
  if c = '{' then
    if s.depth = 0 then (none, ⟨1, opensAtRule s.seen, c :: s.seen⟩)
    else if s.inAtRule then (none, ⟨s.depth + 1, true, c :: s.seen⟩)
    else (some (leftOpen s.seen), ⟨1, false, c :: s.seen.takeWhile (!isRuleEnd ·)⟩)
  else if c = '}' ∧ 0 < s.depth then
    if s.depth = 1 then (some ⟨(c :: s.seen).reverse, none⟩, start)
    else (none, ⟨s.depth - 1, s.inAtRule, c :: s.seen⟩)
  else (none, ⟨s.depth, s.inAtRule, c :: s.seen⟩)

/-- Where the scan stands after a text. -/
def after (s : Scan) (text : Text) : Scan := text.foldl (fun s c => (s.step c).2) s

/-- The stretches that end within a text. -/
def ended (s : Scan) : Text → List Stretch
  | [] => []
  | c :: rest => (s.step c).1.toList ++ ended (s.step c).2 rest

/-- The stretches of a code from some point on. -/
def stretches (s : Scan) (text : Text) : List Stretch := ofCodeFrom s.depth s.inAtRule s.seen text

theorem stretches_start (code : Text) : start.stretches code = ofCode code := rfl

theorem stretches_nil (s : Scan) : s.stretches [] = [⟨s.seen.reverse, none⟩] := rfl

theorem stretches_cons (s : Scan) (c : Char) (rest : Text) :
    s.stretches (c :: rest) = (s.step c).1.toList ++ (s.step c).2.stretches rest := by
  obtain ⟨depth, inAtRule, seen⟩ := s
  unfold stretches step
  rw [ofCodeFrom]
  dsimp only
  split
  · split
    · rfl
    · split
      · rename_i hin
        rw [hin]
        rfl
      · rename_i hin
        rw [Bool.eq_false_iff.2 hin]
        rfl
  · split
    · split <;> rfl
    · rfl

theorem stretches_append (s : Scan) (a b : Text) :
    s.stretches (a ++ b) = s.ended a ++ (s.after a).stretches b := by
  induction a generalizing s with
  | nil => rfl
  | cons c a ih =>
    rw [List.cons_append, stretches_cons, ih, ended, List.append_assoc]
    rfl

theorem after_append (s : Scan) (a b : Text) : s.after (a ++ b) = (s.after a).after b :=
  List.foldl_append

theorem ended_append (s : Scan) (a b : Text) : s.ended (a ++ b) = s.ended a ++ (s.after a).ended b := by
  induction a generalizing s with
  | nil => rfl
  | cons c a ih =>
    rw [List.cons_append, ended, ih, ended, List.append_assoc]
    rfl

/-! ## Plain rules -/

theorem step_of_braceFree (s : Scan) {c : Char} (hc : isBrace c = false) :
    s.step c = (none, ⟨s.depth, s.inAtRule, c :: s.seen⟩) := by
  obtain ⟨hopen, hclose⟩ := isBrace_eq_false.1 hc
  rw [step, if_neg hopen, if_neg fun h => hclose h.1]

theorem after_of_braceFree {text : Text} (h : BraceFree text) (s : Scan) :
    s.after text = ⟨s.depth, s.inAtRule, text.reverse ++ s.seen⟩ := by
  induction text generalizing s with
  | nil => rfl
  | cons c text ih =>
    obtain ⟨hc, htext⟩ := braceFree_cons.1 h
    have := ih htext (s.step c).2
    rw [step_of_braceFree s hc] at this
    rw [after, List.foldl_cons, step_of_braceFree s hc]
    rw [after] at this
    rw [this]
    simp

theorem ended_of_braceFree {text : Text} (h : BraceFree text) (s : Scan) : s.ended text = [] := by
  induction text generalizing s with
  | nil => rfl
  | cons c text ih =>
    obtain ⟨hc, htext⟩ := braceFree_cons.1 h
    rw [ended, step_of_braceFree s hc, ih htext]
    rfl

/-- A block that is not nested ends at its closing brace. -/
theorem step_close (inAtRule : Bool) (seen : Text) :
    step ⟨1, inAtRule, seen⟩ '}' = (some ⟨seen.reverse ++ ['}'], none⟩, start) := by
  simp [step]

/-- A plain rule between blocks is a stretch, with the text before it. -/
theorem ended_text (rule : PlainRule) (seen : Text) :
    ended ⟨0, false, seen⟩ rule.text = [⟨seen.reverse ++ rule.text, none⟩] := by
  rw [PlainRule.text, ended_append, ended_of_braceFree rule.braceFree_selector,
    after_of_braceFree rule.braceFree_selector, ended, step, if_pos rfl, if_pos rfl]
  dsimp only
  rw [ended_append, ended_of_braceFree rule.braceFree_body, after_of_braceFree rule.braceFree_body,
    ended, step_close]
  simp [ended]

/-! ## Recovery -/

/-- The scan is not inside an at-rule, and the current stretch cannot become one. -/
structure OutsideAtRules (s : Scan) : Prop where
  inAtRule : s.inAtRule = false
  atFree : '@' ∉ s.seen

theorem outsideAtRules_start : OutsideAtRules start := ⟨rfl, List.not_mem_nil⟩

theorem opensAtRule_of_atFree {seen : Text} (h : '@' ∉ seen) : opensAtRule seen = false := by
  rw [opensAtRule, decide_eq_false_iff_not]
  intro hhead
  have hmem := List.mem_of_head? hhead
  exact h (List.mem_reverse.1 ((List.dropWhile_suffix _).subset hmem))

theorem OutsideAtRules.step {s : Scan} (h : OutsideAtRules s) {c : Char} (hc : c ≠ '@') :
    OutsideAtRules (s.step c).2 := by
  have hcons : '@' ∉ c :: s.seen := List.not_mem_cons_of_ne_of_not_mem hc.symm h.atFree
  unfold Scan.step
  split
  · split
    · exact ⟨opensAtRule_of_atFree h.atFree, hcons⟩
    · rw [h.inAtRule, if_neg (by decide)]
      have hhead : '@' ∉ s.seen.takeWhile (!isRuleEnd ·) := fun hmem =>
        h.atFree ((List.takeWhile_prefix _).subset hmem)
      exact ⟨rfl, List.not_mem_cons_of_ne_of_not_mem hc.symm hhead⟩
  · split
    · split
      · exact outsideAtRules_start
      · exact ⟨h.inAtRule, hcons⟩
    · exact ⟨h.inAtRule, hcons⟩

theorem OutsideAtRules.after {s : Scan} (h : OutsideAtRules s) {text : Text} (htext : '@' ∉ text) :
    OutsideAtRules (s.after text) := by
  induction text generalizing s with
  | nil => exact h
  | cons c text ih =>
    have hc := List.ne_of_not_mem_cons htext
    exact ih (h.step hc.symm) (List.not_mem_of_not_mem_cons htext)

/-- Outside of at-rules an opening brace leaves one block open, however many were before. -/
theorem depth_step_open {s : Scan} (h : s.inAtRule = false) : (s.step '{').2.depth = 1 := by
  unfold Scan.step
  rw [if_pos rfl, h]
  split <;> rfl

/-- From any point outside of at-rules, a complete rule brings the scan back to its start. -/
theorem after_text (rule : PlainRule) {s : Scan} (h : s.inAtRule = false) :
    s.after rule.text = start := by
  have hselector : (s.after rule.selector).inAtRule = false := by
    rw [after_of_braceFree rule.braceFree_selector]
    exact h
  -- The opening brace leaves one block open, whatever was open before it.
  have hbody : ∀ t : Scan, t.depth = 1 → t.after (rule.body ++ ['}']) = start := by
    rintro ⟨depth, inAtRule, seen⟩ rfl
    rw [after_append, after_of_braceFree rule.braceFree_body, after, List.foldl_cons, step_close]
    rfl
  rw [PlainRule.text, after_append]
  exact hbody _ (depth_step_open hselector)

end Scan

/-! ## Fragments -/

theorem fragments_append {text : Text} (h : Scan.start.after text = Scan.start) (rest : Text) :
    fragments (text ++ rest) = fragments text ++ fragments rest := by
  have hrest := Scan.stretches_append Scan.start text rest
  have hnil := Scan.stretches_append Scan.start text []
  rw [h, Scan.stretches_start, Scan.stretches_start] at hrest
  rw [h, List.append_nil, Scan.stretches_start, Scan.stretches_nil] at hnil
  have hempty : Text.trim [] = [] := rfl
  unfold fragments
  rw [hrest, hnil]
  simp [Scan.start, hempty]

theorem fragments_of_isBlank {gap : Text} (h : gap.isBlank) : fragments gap = [] := by
  have := Scan.stretches_append Scan.start gap []
  rw [List.append_nil, Scan.ended_of_braceFree (BraceFree.of_isBlank h),
    Scan.after_of_braceFree (BraceFree.of_isBlank h), Scan.stretches_start, Scan.stretches_nil] at this
  unfold fragments
  rw [this]
  simp [Scan.start, Text.trim_of_isBlank h]

/-- A plain rule after white space makes a fragment of its own. -/
theorem fragments_rule {gap : Text} (h : gap.isBlank) (rule : PlainRule) :
    fragments (gap ++ rule.text) = [rule.text.trim] := by
  have hend := Scan.stretches_append Scan.start (gap ++ rule.text) []
  rw [List.append_nil, Scan.ended_append, Scan.after_append,
    Scan.ended_of_braceFree (BraceFree.of_isBlank h), Scan.after_of_braceFree (BraceFree.of_isBlank h)] at hend
  dsimp only [Scan.start] at hend
  rw [Scan.ended_text, Scan.after_text rule rfl, Scan.stretches_nil] at hend
  have htrim : Text.trim (gap ++ rule.text) = rule.text.trim := Text.trim_append_of_isBlank_left h _
  have hne : rule.text.trim ≠ [] := by
    rw [rule.trim_text]
    simp
  have hempty : Text.trim [] = [] := rfl
  unfold fragments
  rw [← Scan.stretches_start, Scan.start, hend]
  simp [htrim, hne, hempty, Scan.start]

end CssSurvey
