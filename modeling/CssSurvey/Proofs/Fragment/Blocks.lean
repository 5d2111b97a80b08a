/-
Blocks kept whole. A stretch of code that no other rule cuts short ends at the brace that closes its
first block; one that is cut short ends inside that block. At-rules nest blocks and so are not cut
short, with one exception: what follows the cut through a rule that was left open is never taken for an
at-rule. The main statement is that the fragments of at-rules are whole exactly when no stretch that is
cut short is one of an at-rule, and that such a stretch always stands behind another cut.
-/
import CssSurvey.Proofs.Fragment.Shape

namespace CssSurvey

/-! ## Balanced blocks -/

/-- A text ends with the brace that closes its first block, and the braces in that block are balanced. -/
def EndsWithBlock (text : Text) : Prop :=
  ∃ head body : Text, text = head ++ '{' :: (body ++ ['}']) ∧ '{' ∉ head ∧ bracesBalanced body

/-- A text ends inside its first block, in which no other brace stands. -/
def EndsInBlock (text : Text) : Prop :=
  ∃ head body : Text, text = head ++ '{' :: body ∧ '{' ∉ head ∧ BraceFree body

theorem EndsWithBlock.trim {text : Text} (h : EndsWithBlock text) : EndsWithBlock text.trim := by
  obtain ⟨head, body, rfl, hhead, hbody⟩ := h
  refine ⟨head.trimStart, body, ?_, fun hmem => hhead ((List.dropWhile_suffix _).subset hmem), hbody⟩
  rw [Text.trim_append_cons (by decide), Text.trimEnd_append_cons (by decide)]
  rfl

theorem EndsInBlock.trim {text : Text} (h : EndsInBlock text) : EndsInBlock text.trim := by
  obtain ⟨head, body, rfl, hhead, hbody⟩ := h
  refine ⟨head.trimStart, body.trimEnd, Text.trim_append_cons (by decide) .., ?_, ?_⟩
  · exact fun hmem => hhead ((List.dropWhile_suffix _).subset hmem)
  · exact hbody.of_isInfix (Text.dropEndWhile_isInfix _ body)

theorem EndsInBlock.open_mem {text : Text} (h : EndsInBlock text) : '{' ∈ text := by
  obtain ⟨head, body, rfl, -, -⟩ := h
  simp

theorem EndsInBlock.not_endsWithBlock {text : Text} (h : EndsInBlock text) : ¬ EndsWithBlock text := by
  obtain ⟨head, body, rfl, -, hbody⟩ := h
  rintro ⟨otherHead, otherBody, heq, -, -⟩
  have hlast := congrArg List.getLast? heq
  rw [← List.cons_append, ← List.append_assoc, List.getLast?_concat, List.getLast?_append_cons] at hlast
  rcases List.mem_cons.1 (List.mem_of_getLast? hlast) with hopen | hmem
  · exact absurd hopen (by decide)
  · exact hbody.not_mem rfl hmem

namespace StartsWithAt

/-- What a text starts with does not depend on what follows a character of it that is not white space. -/
theorem of_append_cons {text rest : Text} {c : Char} (hc : c ≠ '@') (hink : isBlank c = false)
    (h : StartsWithAt (text ++ c :: rest)) : StartsWithAt text := by
  obtain ⟨gap, after, hgap, heq⟩ := h
  rcases List.append_eq_append_iff.1 heq with ⟨front, rfl, hrest⟩ | ⟨front, rfl, hrest⟩
  · rcases front with _ | ⟨d, front⟩
    · exact absurd (List.cons.inj hrest).1 hc
    · obtain ⟨rfl, -⟩ := List.cons.inj hrest
      have hblank := List.all_eq_true.1 hgap c (by simp)
      rw [hink] at hblank
      cases hblank
  · rcases front with _ | ⟨d, front⟩
    · exact absurd (List.cons.inj hrest).1.symm hc
    · obtain ⟨rfl, -⟩ := List.cons.inj hrest
      exact ⟨gap, front, hgap, rfl⟩

end StartsWithAt

theorem opensAtRule_iff {seen : Text} : Stretch.opensAtRule seen ↔ StartsWithAt seen.reverse := by
  refine ⟨StartsWithAt.of_opensAtRule, ?_⟩
  rintro ⟨gap, rest, hgap, heq⟩
  rw [Stretch.opensAtRule, decide_eq_true_eq, heq, Text.trimStart_append_of_isBlank hgap]
  rfl

/-! ## Where a scan stands in a block -/

namespace Stretch

/-- The stretch was cut short, since the rule in it was left open. -/
def isCut (stretch : Stretch) : Bool := stretch.cutBy.isSome

end Stretch

namespace Scan

open Stretch

/-- Where a scan stands in the block that it has open. `recovered` tells whether the current stretch
starts at a cut; only then can a stretch that is not taken for an at-rule start like one. -/
inductive Stands (recovered : Bool) (s : Scan) : Prop
  | between (hdepth : s.depth = 0) (hrule : s.inAtRule = false) (h : '{' ∉ s.seen)
  | inRule (head body : Text) (hdepth : s.depth = 1) (hrule : s.inAtRule = false)
    (hseen : s.seen = body ++ '{' :: head) (hhead : '{' ∉ head) (hbody : BraceFree body)
    (hfresh : recovered = false → ¬ StartsWithAt head.reverse)
  | inAtRule (head body : Text) (depth : Nat) (hdepth : s.depth = depth + 1) (hrule : s.inAtRule = true)
    (hseen : s.seen = body ++ '{' :: head) (hhead : '{' ∉ head)
    (hbody : ∀ rest, closesAll 0 (body.reverse ++ rest) = closesAll depth rest)

/-- What is known of a stretch that has ended before the end of the code. -/
structure Ends (recovered : Bool) (stretch : Stretch) : Prop where
  whole : stretch.isCut = false → EndsWithBlock stretch.text
  cut : stretch.isCut → EndsInBlock stretch.text
  fresh : stretch.isCut → recovered = false → ¬ StartsWithAt stretch.text

theorem ends_whole {text : Text} (h : EndsWithBlock text) (recovered : Bool) : Ends recovered ⟨text, none⟩ where
  whole _ := h
  cut hcut := absurd hcut Bool.false_ne_true
  fresh hcut := absurd hcut Bool.false_ne_true

theorem stands_start (recovered : Bool) : Stands recovered start := .between rfl rfl List.not_mem_nil

theorem Stands.step_open {recovered : Bool} {s : Scan} (h : Stands recovered s) :
    (∀ stretch ∈ (s.step '{').1, Ends recovered stretch) ∧
      Stands ((s.step '{').1.elim recovered isCut) (s.step '{').2 := by
  obtain ⟨depth, inAtRule, seen⟩ := s
  cases h with
  | between hdepth hrule h =>
    obtain rfl : depth = 0 := hdepth
    rw [Scan.step, if_pos rfl, if_pos rfl]
    refine ⟨by simp, ?_⟩
    rcases hat : opensAtRule seen with _ | _
    · refine .inRule seen [] rfl rfl rfl h braceFree_nil fun _ hstart => ?_
      rw [← opensAtRule_iff, hat] at hstart
      cases hstart
    · exact .inAtRule seen [] 0 rfl rfl rfl h fun rest => rfl
  | inRule head body hdepth hrule hseen hhead hbody hfresh =>
    obtain rfl : depth = 1 := hdepth
    obtain rfl : inAtRule = false := hrule
    obtain rfl : seen = body ++ '{' :: head := hseen
    rw [Scan.step, if_pos rfl, if_neg Nat.one_ne_zero, if_neg Bool.false_ne_true]
    constructor
    · rintro _ ⟨⟩
      have htext := text_leftOpen head body
      refine ⟨fun hwhole => absurd hwhole.symm Bool.false_ne_true, fun _ => ?_, fun _ hnot hstart => hfresh hnot ?_⟩
      · refine ⟨_, _, htext, fun hmem => hhead (List.mem_reverse.1 hmem), (hbody.of_isInfix ?_).reverse⟩
        exact (List.dropWhile_suffix _).isInfix
      · rw [htext] at hstart
        exact hstart.of_append_cons (by decide) (by decide)
    · refine .inRule _ [] rfl rfl rfl (not_mem_takeWhile_ruleEnd _) braceFree_nil fun hwhole => ?_
      exact absurd hwhole.symm Bool.false_ne_true
  | inAtRule head body nested hdepth hrule hseen hhead hbody =>
    obtain rfl : depth = nested + 1 := hdepth
    obtain rfl : inAtRule = true := hrule
    obtain rfl : seen = body ++ '{' :: head := hseen
    rw [Scan.step, if_pos rfl, if_neg (Nat.succ_ne_zero _), if_pos rfl]
    refine ⟨by simp, .inAtRule head ('{' :: body) (nested + 1) rfl rfl rfl hhead fun rest => ?_⟩
    rw [List.reverse_cons, List.append_assoc, hbody, List.singleton_append, closesAll, if_pos rfl]

theorem Stands.step_close {recovered : Bool} {s : Scan} (h : Stands recovered s) :
    (∀ stretch ∈ (s.step '}').1, Ends recovered stretch) ∧
      Stands ((s.step '}').1.elim recovered isCut) (s.step '}').2 := by
  obtain ⟨depth, inAtRule, seen⟩ := s
  cases h with
  | between hdepth hrule h =>
    obtain rfl : depth = 0 := hdepth
    rw [Scan.step, if_neg (by decide), if_neg (by simp)]
    exact ⟨by simp, .between rfl hrule (List.not_mem_cons_of_ne_of_not_mem (by decide) h)⟩
  | inRule head body hdepth hrule hseen hhead hbody hfresh =>
    obtain rfl : depth = 1 := hdepth
    obtain rfl : seen = body ++ '{' :: head := hseen
    rw [Scan.step_close]
    refine ⟨?_, stands_start _⟩
    rintro _ ⟨⟩
    refine ends_whole ⟨head.reverse, body.reverse, by simp, fun hmem => hhead (List.mem_reverse.1 hmem), ?_⟩ _
    rw [bracesBalanced, closesAll_of_braceFree hbody.reverse]
    rfl
  | inAtRule head body nested hdepth hrule hseen hhead hbody =>
    obtain rfl : depth = nested + 1 := hdepth
    obtain rfl : seen = body ++ '{' :: head := hseen
    cases nested with
    | zero =>
      rw [Scan.step_close]
      refine ⟨?_, stands_start _⟩
      rintro _ ⟨⟩
      refine ends_whole ⟨head.reverse, body.reverse, by simp, fun hmem => hhead (List.mem_reverse.1 hmem), ?_⟩ _
      have hend := hbody []
      rwa [List.append_nil] at hend
    | succ nested =>
      rw [Scan.step, if_neg (by decide), if_pos ⟨rfl, Nat.succ_pos _⟩, if_neg (by simp)]
      refine ⟨by simp, .inAtRule head ('}' :: body) nested rfl hrule rfl hhead fun rest => ?_⟩
      rw [List.reverse_cons, List.append_assoc, hbody, List.singleton_append, closesAll, if_neg (by decide),
        if_pos rfl]
      simp

/-- One character further, a stretch that ends there is as it should be, and the next one starts at a
cut when that stretch was cut short. -/
theorem Stands.step {recovered : Bool} {s : Scan} (h : Stands recovered s) (c : Char) :
    (∀ stretch ∈ (s.step c).1, Ends recovered stretch) ∧
      Stands ((s.step c).1.elim recovered isCut) (s.step c).2 := by
  by_cases hopen : c = '{'
  · exact hopen ▸ h.step_open
  · by_cases hclose : c = '}'
    · exact hclose ▸ h.step_close
    · have hc := isBrace_eq_false.2 ⟨hopen, hclose⟩
      rw [step_of_braceFree s hc]
      refine ⟨by simp, ?_⟩
      cases h with
      | between hdepth hrule h =>
        exact .between hdepth hrule (List.not_mem_cons_of_ne_of_not_mem (Ne.symm hopen) h)
      | inRule head body hdepth hrule hseen hhead hbody hfresh =>
        exact .inRule head (c :: body) hdepth hrule (congrArg (c :: ·) hseen) hhead
          (braceFree_cons.2 ⟨hc, hbody⟩) hfresh
      | inAtRule head body nested hdepth hrule hseen hhead hbody =>
        refine .inAtRule head (c :: body) nested hdepth hrule (congrArg (c :: ·) hseen) hhead fun rest => ?_
        rw [List.reverse_cons, List.append_assoc, hbody, List.singleton_append, closesAll, if_neg hopen,
          if_neg hclose]

/-- Every stretch that ends within a text is as it should be, for the cut or the block end before it. -/
theorem Stands.ends_of_append {recovered : Bool} {s : Scan} (h : Stands recovered s) {text : Text}
    {front back : List Stretch} {stretch : Stretch} (hsplit : s.ended text = front ++ stretch :: back) :
    Ends (front.getLast?.elim recovered isCut) stretch := by
  induction text generalizing recovered s front with
  | nil =>
    have := congrArg List.length hsplit
    simp [ended] at this
  | cons c text ih =>
    obtain ⟨hends, hnext⟩ := h.step c
    rw [ended] at hsplit
    cases hstep : (s.step c).1 with
    | none =>
      rw [hstep] at hsplit hnext
      exact ih hnext hsplit
    | some first =>
      rw [hstep] at hsplit hnext hends
      cases front with
      | nil =>
        obtain ⟨rfl, -⟩ := List.cons.inj hsplit
        exact hends _ rfl
      | cons other front =>
        obtain ⟨rfl, hrest⟩ := List.cons.inj hsplit
        have hread := ih hnext hrest
        rw [List.getLast?_cons]
        cases hlast : front.getLast? with
        | none => simpa [hlast] using hread
        | some last => simpa [hlast] using hread

/-! ## What follows a cut -/

theorem open_mem_seen_of_isCut {s : Scan} {c : Char} {stretch : Stretch} (h : (s.step c).1 = some stretch)
    (hcut : stretch.isCut) : '{' ∈ (s.step c).2.seen := by
  unfold step at h ⊢
  split
  · rename_i hopen
    subst hopen
    split
    · exact List.mem_cons_self ..
    · split <;> exact List.mem_cons_self ..
  · rename_i hopen
    rw [if_neg hopen] at h
    split at h
    · split at h
      · cases h
        cases hcut
      · cases h
    · cases h

/-- Behind a cut stands at least the brace that forced it. -/
theorem open_mem_of_isCut {s : Scan} {text : Text} {front back : List Stretch} {stretch : Stretch}
    (hsplit : s.stretches text = front ++ stretch :: back) (hcut : stretch.isCut) :
    '{' ∈ (back.map Stretch.text).flatten := by
  induction text generalizing s front with
  | nil =>
    rw [stretches_nil, List.singleton_eq_append_iff] at hsplit
    rcases hsplit with ⟨-, hlast⟩ | ⟨-, hnil⟩
    · obtain ⟨rfl, -⟩ := List.cons.inj hlast
      cases hcut
    · cases hnil
  | cons c text ih =>
    rw [stretches_cons] at hsplit
    cases hstep : (s.step c).1 with
    | none =>
      rw [hstep] at hsplit
      exact ih hsplit
    | some first =>
      rw [hstep] at hsplit
      cases front with
      | nil =>
        obtain ⟨rfl, -⟩ := List.cons.inj hsplit
        have hback : (s.step c).2.stretches text = back := (List.cons.inj hsplit).2
        rw [← hback, stretches, flatten_ofCodeFrom]
        exact List.mem_append_left _ (List.mem_reverse.2 (open_mem_seen_of_isCut hstep hcut))
      | cons other front => exact ih (List.cons.inj hsplit).2

end Scan

/-! ## Stretches and fragments of a code -/

/-- The stretches of a code are those that end within it, and what is left. -/
theorem Stretch.ofCode_eq (code : Text) :
    ofCode code = Scan.start.ended code ++ [⟨(Scan.start.after code).seen.reverse, none⟩] := by
  have hend := Scan.stretches_append Scan.start code []
  rwa [List.append_nil, Scan.stretches_start, Scan.stretches_nil] at hend

theorem Stretch.ended_eq_of_isCut {code : Text} {front back : List Stretch} {stretch : Stretch}
    (hsplit : ofCode code = front ++ stretch :: back) (hcut : stretch.isCut) :
    ∃ others, Scan.start.ended code = front ++ stretch :: others := by
  rw [ofCode_eq] at hsplit
  rcases List.eq_nil_or_concat back with rfl | ⟨others, last, rfl⟩
  · obtain ⟨-, hlast⟩ := List.append_inj' hsplit rfl
    obtain ⟨rfl, -⟩ := List.cons.inj hlast
    cases hcut
  · rw [List.concat_eq_append, ← List.cons_append, ← List.append_assoc] at hsplit
    exact ⟨others, (List.append_inj' hsplit rfl).1⟩

/-- A stretch that ends within the code ends with its first block unless it was cut short. -/
theorem Stretch.endsWithBlock_iff {code : Text} {stretch : Stretch} (h : stretch ∈ Scan.start.ended code) :
    EndsWithBlock stretch.text.trim ↔ stretch.isCut = false := by
  obtain ⟨front, back, hsplit⟩ := List.append_of_mem h
  have hends := (Scan.stands_start false).ends_of_append hsplit
  cases hcut : stretch.isCut with
  | false => exact iff_of_true (hends.whole hcut).trim rfl
  | true => exact iff_of_false (hends.cut hcut).trim.not_endsWithBlock Bool.noConfusion

theorem startsWithAt_of_head?_trim {text : Text} (h : text.trim.head? = some '@') : StartsWithAt text := by
  obtain ⟨rest, hrest⟩ := List.head?_eq_some_iff.1 h
  obtain ⟨left, right, hleft, -, htext⟩ := Text.exists_eq_append_trim text
  exact ⟨left, rest ++ right, hleft, by rw [htext, hrest, List.append_assoc, List.cons_append]⟩

theorem isEmpty_trim_of_open_mem {text : Text} (h : '{' ∈ text) : text.trim.isEmpty = false := by
  rw [Text.isEmpty_trim, Bool.eq_false_iff]
  intro hblank
  exact absurd (List.all_eq_true.1 hblank _ h) (by decide)

/-- All fragments but the last come from stretches that end within the code. -/
theorem exists_ended_of_mem_dropLast_fragments {code fragment : Text} (h : fragment ∈ (fragments code).dropLast) :
    ∃ stretch ∈ Scan.start.ended code, stretch.text.trim = fragment := by
  rw [fragments, Stretch.ofCode_eq, List.map_append, List.filter_append] at h
  have hmem : fragment ∈ ((Scan.start.ended code).map (Text.trim ·.text)).filter (!·.isEmpty) := by
    rw [List.map_singleton, List.filter_cons, List.filter_nil] at h
    split at h
    · rwa [List.dropLast_concat] at h
    · rw [List.append_nil] at h
      exact List.mem_of_mem_dropLast h
  obtain ⟨stretch, hstretch, heq⟩ := List.mem_map.1 (List.mem_of_mem_filter hmem)
  exact ⟨stretch, hstretch, heq⟩

/-- A stretch that is cut short makes a fragment, and not the last one. -/
theorem mem_dropLast_fragments_of_isCut {code : Text} {stretch : Stretch} (h : stretch ∈ Stretch.ofCode code)
    (hcut : stretch.isCut) (hopen : '{' ∈ stretch.text) : stretch.text.trim ∈ (fragments code).dropLast := by
  obtain ⟨front, back, hsplit⟩ := List.append_of_mem h
  obtain ⟨text, htext, hmem⟩ := List.mem_flatten.1 (Scan.open_mem_of_isCut (s := Scan.start) hsplit hcut)
  obtain ⟨next, hnext, rfl⟩ := List.mem_map.1 htext
  have hback : (back.map (Text.trim ·.text)).filter (!·.isEmpty) ≠ [] := by
    refine List.ne_nil_of_mem (a := next.text.trim) (List.mem_filter.2 ⟨List.mem_map_of_mem hnext, ?_⟩)
    rw [isEmpty_trim_of_open_mem hmem]
    rfl
  rw [fragments, hsplit, List.map_append, List.map_cons, List.filter_append, List.filter_cons,
    isEmpty_trim_of_open_mem hopen, Bool.not_false, if_pos rfl, List.dropLast_append_cons,
    List.dropLast_cons_of_ne_nil hback]
  exact List.mem_append_right _ (List.mem_cons_self ..)

/-- The fragments of at-rules before the last fragment are whole exactly when no stretch that is cut short
starts with an at-rule. A stretch that does stands right behind another one that was cut short. -/
theorem whole_fragments_iff (code : Text) :
    ((∀ fragment ∈ (fragments code).dropLast, fragment.head? = some '@' → '{' ∈ fragment →
        EndsWithBlock fragment) ↔
      ∀ stretch ∈ Stretch.ofCode code, stretch.isCut → stretch.text.trim.head? ≠ some '@') ∧
      ∀ front stretch back, Stretch.ofCode code = front ++ stretch :: back → stretch.isCut →
        stretch.text.trim.head? = some '@' → ∃ previous, front.getLast? = some previous ∧ previous.isCut := by
  refine ⟨⟨fun h stretch hstretch hcut hat => ?_, fun h fragment hfragment hat hopen => ?_⟩, ?_⟩
  · obtain ⟨front, back, hsplit⟩ := List.append_of_mem hstretch
    obtain ⟨others, hended⟩ := Stretch.ended_eq_of_isCut hsplit hcut
    have hopen := ((Scan.stands_start false).ends_of_append hended).cut hcut
    have hmem := mem_dropLast_fragments_of_isCut hstretch hcut hopen.open_mem
    exact hopen.trim.not_endsWithBlock (h _ hmem hat hopen.trim.open_mem)
  · obtain ⟨stretch, hstretch, rfl⟩ := exists_ended_of_mem_dropLast_fragments hfragment
    rw [Stretch.endsWithBlock_iff hstretch, Bool.eq_false_iff]
    intro hcut
    refine h stretch ?_ hcut hat
    rw [Stretch.ofCode_eq]
    exact List.mem_append_left _ hstretch
  · intro front stretch back hsplit hcut hat
    obtain ⟨others, hended⟩ := Stretch.ended_eq_of_isCut hsplit hcut
    have hends := (Scan.stands_start false).ends_of_append hended
    cases hlast : front.getLast? with
    | none =>
      rw [hlast] at hends
      exact absurd (startsWithAt_of_head?_trim hat) (hends.fresh hcut rfl)
    | some previous =>
      rw [hlast] at hends
      refine ⟨previous, rfl, ?_⟩
      by_contra hwhole
      exact hends.fresh hcut (Bool.eq_false_iff.2 hwhole) (startsWithAt_of_head?_trim hat)

/-- At-rules at the start, behind a closed block and in front of a cut, all of them whole; and one behind
a cut, which is cut short itself. -/
theorem whole_fragments_iff_behind_cut :
    let code := "@a \x7b b \x7b c: d \x7d \x7d e \x7b f: g \x7d @h \x7b i \x7b \x7d \x7d j \x7b k: l; m \x7b n: o \x7d"
      |>.toList
    let nested := "@a \x7b b \x7b c: d \x7d \x7d".toList
    let cutCode := "p \x7b q: r; @s \x7b t \x7b u: v \x7d \x7d".toList
    let front : List Stretch := [⟨"p \x7b q: r;".toList, some "@s".toList⟩]
    let stretch : Stretch := ⟨" @s \x7b".toList, some ['t']⟩
    let back : List Stretch := [⟨" t \x7b u: v \x7d".toList, none⟩, ⟨" \x7d".toList, none⟩]
    ((∀ stretch ∈ Stretch.ofCode code, stretch.isCut → stretch.text.trim.head? ≠ some '@') ∧
        nested ∈ (fragments code).dropLast ∧ nested.head? = some '@' ∧ '{' ∈ nested ∧
        (∃ stretch ∈ Stretch.ofCode code, stretch.isCut) ∧
        Stretch.ofCode cutCode = front ++ stretch :: back ∧ stretch.isCut ∧
        stretch.text.trim.head? = some '@') ∧
      EndsWithBlock nested ∧ ∃ previous, front.getLast? = some previous ∧ previous.isCut := by
  intro code nested cutCode front stretch back
  have huncut : ∀ stretch ∈ Stretch.ofCode code, stretch.isCut → stretch.text.trim.head? ≠ some '@' := by
    decide +kernel
  have hnested : nested ∈ (fragments code).dropLast := by decide +kernel
  have hat : nested.head? = some '@' := by decide
  have hopen : '{' ∈ nested := by decide
  have hsplit : Stretch.ofCode cutCode = front ++ stretch :: back := by decide +kernel
  have hcut : stretch.isCut := by decide
  have hstarts : stretch.text.trim.head? = some '@' := by decide +kernel
  refine ⟨⟨huncut, hnested, hat, hopen, by decide +kernel, hsplit, hcut, hstarts⟩, ?_, ?_⟩
  · exact (whole_fragments_iff code).1.2 huncut nested hnested hat hopen
  · exact (whole_fragments_iff cutCode).2 front stretch back hsplit hcut hstarts

/-- Behind a rule that was left open an at-rule is taken for a rule: it falls apart at the block inside
it, and the brace that should close it sticks to the next rule. -/
theorem at_rule_behind_cut_is_split :
    let code := "p\x7ba:b;@media x\x7bq\x7bc:d\x7d\x7dr\x7be:f\x7d".toList
    let fragment := "@media x\x7b".toList
    fragments code = ["p\x7ba:b;".toList, fragment, "q\x7bc:d\x7d".toList, "\x7dr\x7be:f\x7d".toList] ∧
      fragment ∈ (fragments code).dropLast ∧ fragment.head? = some '@' ∧ '{' ∈ fragment ∧
      ¬ EndsWithBlock fragment := by
  intro code fragment
  have hinside : EndsInBlock fragment := ⟨"@media x".toList, [], by decide, by decide, braceFree_nil⟩
  exact ⟨by decide +kernel, by decide +kernel, by decide, by decide, hinside.not_endsWithBlock⟩

end CssSurvey
