/-
What is left of a code when its at-rules are taken out: code without at-rules. A second search, over
what is left, is followed next to the first. It meets the gaps only, and wherever the first search took
a ruleset to be open, so does the second; it may take one to be open in more places, since it does not
start anew behind an at-rule. So it finds no at-rule in a gap that the first search did not find there.
The one place where something new can come up is an `@` at the end of a gap, which meets what stood
behind the at-rule.
-/
import CssSurvey.Proofs.AtRule.Header

namespace CssSurvey

/-! ## Text that ends no head -/

theorem AtSource.read?_eq_none {text : Text} (h : ∀ c ∈ text, endsHead c = false) : read? text = none := by
  refine read?_of_nil (List.dropWhile_eq_nil_iff.2 fun c hc => ?_)
  rw [h c hc]
  rfl

theorem AtSource.unended_of_read? {text : Text} (h : read? text = none) : ∀ c ∈ text, endsHead c = false := by
  rcases read?_cases text with ⟨hdrop, -⟩ | ⟨_, -, hread⟩ | ⟨_, -, hread⟩
  · intro c hc
    simpa using List.dropWhile_eq_nil_iff.1 hdrop c hc
  · rw [hread] at h
    cases h
  · rw [hread] at h
    cases h

namespace Outline

/-- Where no semicolon and no opening brace follows, there is no at-rule any more. -/
theorem ofCodeFrom_of_unended {text : Text} (h : ∀ c ∈ text, AtSource.endsHead c = false) (inRuleset : Bool)
    (seen : Text) : ofCodeFrom inRuleset seen text = ⟨[], seen.reverse ++ text⟩ := by
  induction text generalizing inRuleset seen with
  | nil => rw [ofCodeFrom, List.append_nil]
  | cons c text ih =>
    have htext := ih (List.forall_mem_cons.1 h).2
    have hopen : c ≠ '{' := by
      rintro rfl
      exact absurd (h '{' (List.mem_cons_self ..)) (by decide)
    rw [ofCodeFrom, if_neg hopen, htext, htext]
    split
    · simp
    · split
      · split
        · rfl
        · rename_i hread
          rw [AtSource.read?_eq_none h] at hread
          cases hread
      · simp

/-! ## Two searches side by side -/

/-- A look back over either gap sees the same: up to some character that is not white space, the gaps
hold the same. -/
def LookBackAlike (seen seen' : Text) : Prop :=
  ∃ near before before', seen = near ++ before ∧ seen' = near ++ before' ∧ ∃ c ∈ near, isAsciiBlank c = false

theorem LookBackAlike.cons {seen seen' : Text} (h : LookBackAlike seen seen') (c : Char) :
    LookBackAlike (c :: seen) (c :: seen') := by
  obtain ⟨near, before, before', rfl, rfl, d, hd, hink⟩ := h
  exact ⟨c :: near, before, before', rfl, rfl, d, List.mem_cons_of_mem c hd, hink⟩

/-- Right behind a brace it does not matter what stands before it. -/
theorem lookBackAlike_open (seen seen' : Text) : LookBackAlike ('{' :: seen) ('{' :: seen') :=
  ⟨['{'], seen, seen', rfl, rfl, '{', List.mem_singleton_self _, by decide⟩

/-- How a second search stands to the first at the same character of a gap: where the first is in a
ruleset, the second is too, and both see the same when they look back. -/
structure Follows (inRuleset : Bool) (seen : Text) (inRuleset' : Bool) (seen' : Text) : Prop where
  staysIn : inRuleset → inRuleset'
  lookBack : inRuleset → LookBackAlike seen seen'

namespace Follows

variable {inRuleset inRuleset' : Bool} {seen seen' : Text}

theorem outside (inRuleset' : Bool) (seen seen' : Text) : Follows false seen inRuleset' seen' :=
  ⟨nofun, nofun⟩

theorem open_ (seen seen' : Text) : Follows true ('{' :: seen) true ('{' :: seen') :=
  ⟨fun _ => rfl, fun _ => lookBackAlike_open seen seen'⟩

theorem cons (h : Follows inRuleset seen inRuleset' seen') (c : Char) :
    Follows inRuleset (c :: seen) inRuleset' (c :: seen') :=
  ⟨h.staysIn, fun hin => (h.lookBack hin).cons c⟩

/-- Where the first search finds no at-rule, the second does not either. -/
theorem startsAtRule_eq_false (h : Follows inRuleset seen inRuleset' seen') {rest rest' : Text}
    (hhead : rest'.head? = rest.head?) (hstarts : startsAtRule inRuleset seen rest = false) :
    startsAtRule inRuleset' seen' rest' = false := by
  have hkeyword : startsAtRule inRuleset' seen' rest' = startsAtRule inRuleset' seen' rest := by
    unfold startsAtRule
    rw [hhead]
  rw [hkeyword]
  cases inRuleset with
  | false =>
    -- Outside of rulesets, only the lack of a keyword keeps an `@` from starting an at-rule.
    unfold startsAtRule at hstarts ⊢
    simp only [Bool.not_false, Bool.true_or, Bool.and_true] at hstarts
    rw [hstarts]
    rfl
  | true =>
    obtain ⟨near, before, before', rfl, rfl, hink⟩ := h.lookBack rfl
    rw [h.staysIn rfl]
    rw [startsAtRule_append fun _ => hink] at hstarts ⊢
    exact hstarts

end Follows

/-- A search over what the first one leaves finds nothing, as long as no gap before an at-rule ends in
an `@`. What is left starts as the text does, unless that starts with an at-rule. -/
theorem exists_left_of_ofCodeFrom {inRuleset : Bool} {seen text : Text}
    (h : ∀ part ∈ (ofCodeFrom inRuleset seen text).parts, part.1.getLast? ≠ some '@') :
    ∃ left, (ofCodeFrom inRuleset seen text).plain = seen.reverse ++ left ∧
      (left.head? = text.head? ∨
        ∃ source others, (ofCodeFrom inRuleset seen text).parts = (seen.reverse, source) :: others) ∧
      ∀ inRuleset' seen', Follows inRuleset seen inRuleset' seen' →
        ofCodeFrom inRuleset' seen' left = ⟨[], seen'.reverse ++ left⟩ := by
  fun_induction ofCodeFrom inRuleset seen text with
  | case1 inRuleset seen =>
    refine ⟨[], by simp [plain, gaps], .inl rfl, fun inRuleset' seen' _ => ?_⟩
    rw [ofCodeFrom, List.append_nil]
  | case2 inRuleset seen rest ih =>
    obtain ⟨left, hplain, -, hsearch⟩ := ih h
    refine ⟨'{' :: left, by simpa using hplain, .inl rfl, fun inRuleset' seen' _ => ?_⟩
    rw [ofCodeFrom, if_pos rfl, hsearch true _ (.open_ seen seen')]
    simp
  | case3 inRuleset seen rest hne ih =>
    obtain ⟨left, hplain, -, hsearch⟩ := ih h
    refine ⟨'}' :: left, by simpa using hplain, .inl rfl, fun inRuleset' seen' _ => ?_⟩
    rw [ofCodeFrom, if_neg hne, if_pos rfl, hsearch false _ (.outside ..)]
    simp
  | case4 inRuleset seen c rest hopen hclose hat hread =>
    refine ⟨c :: rest, by simp [plain, gaps], .inl rfl, fun inRuleset' seen' _ => ?_⟩
    exact ofCodeFrom_of_unended (AtSource.unended_of_read? hread) inRuleset' seen'
  | case5 inRuleset seen c rest hopen hclose hat source rest' hread after ih =>
    obtain ⟨left, hplain, -, hsearch⟩ := ih (List.forall_mem_cons.1 h).2
    refine ⟨left, ?_, .inr ⟨source, after.parts, rfl⟩, fun inRuleset' seen' _ => ?_⟩
    · simpa [plain, gaps] using hplain
    · exact hsearch inRuleset' seen' (.outside ..)
  | case6 inRuleset seen c rest hopen hclose hat ih =>
    obtain ⟨left, hplain, hhead, hsearch⟩ := ih h
    refine ⟨c :: left, by simpa using hplain, .inl rfl, fun inRuleset' seen' hfollows => ?_⟩
    have hat' : ¬ (c = '@' ∧ startsAtRule inRuleset' seen' left) := by
      rintro ⟨rfl, hstarts⟩
      have hnext : left.head? = rest.head? := by
        rcases hhead with hhead | ⟨source, others, hparts⟩
        · exact hhead
        · have := h (('@' :: seen).reverse, source) (by rw [hparts]; exact List.mem_cons_self ..)
          simp at this
      have hfirst : startsAtRule inRuleset seen rest = false := by simpa using hat
      rw [hfollows.startsAtRule_eq_false hnext hfirst] at hstarts
      cases hstarts
    rw [ofCodeFrom, if_neg hopen, if_neg hclose, if_neg hat', hsearch _ _ (hfollows.cons c)]
    simp

/-! ## Taking at-rules out -/

/-- A gap and the at-rule behind it stand in the code as they are. -/
theorem isInfix_of_mem_parts {code gap : Text} {source : AtSource} (h : (gap, source) ∈ (ofCode code).parts) :
    gap ++ source.render <:+: code := by
  obtain ⟨front, back, hparts⟩ := List.append_of_mem h
  refine ⟨render ⟨front, []⟩, render ⟨back, (ofCode code).last⟩, ?_⟩
  simpa [render] using (eq_of_parts_eq hparts).symm

theorem getLast?_gap_ne {code : Text} (h : ¬ ['@', '@'] <:+: code) :
    ∀ part ∈ (ofCode code).parts, part.1.getLast? ≠ some '@' := by
  rintro ⟨gap, source⟩ hpart hlast
  obtain ⟨front, rfl⟩ := List.getLast?_eq_some_iff.1 hlast
  obtain ⟨c, tail, hhead, -⟩ := (headed_of_mem_sources (List.mem_map_of_mem hpart)).keyword
  refine h (.trans ?_ (isInfix_of_mem_parts hpart))
  cases source with
  | statement head =>
    obtain rfl : head = '@' :: c :: tail := hhead
    exact ⟨front, c :: tail ++ [';'], by simp [AtSource.render]⟩
  | block head body closed =>
    obtain rfl : head = '@' :: c :: tail := hhead
    exact ⟨front, c :: tail ++ (['{'] ++ body ++ if closed then ['}'] else []), by simp [AtSource.render]⟩

/-- Once the at-rules are taken out of a code without two `@` in a row, there are none in what is left. -/
theorem sources_plain_eq_nil {code : Text} (h : ¬ ['@', '@'] <:+: code) :
    (ofCode (ofCode code).plain).sources = [] := by
  obtain ⟨left, hplain, -, hsearch⟩ := exists_left_of_ofCodeFrom (getLast?_gap_ne h)
  rw [show (ofCode code).plain = left from hplain, ofCode, hsearch false [] (.outside ..)]
  rfl

/-- Two rulesets that are left open with an at-rule in each, and an at-rule that never ends: the second
search is in a ruleset there, and the first one is not. -/
theorem sources_plain_eq_nil_left_open :
    let code := "p\x7ba:b @c;@media x\x7by\x7b\x7d\x7dr\x7bs:t;@import u;v @w".toList
    (¬ ['@', '@'] <:+: code ∧ (ofCode code).plain = "p\x7ba:b @c;r\x7bs:t;v @w".toList) ∧
      (ofCode (ofCode code).plain).sources = [] := by
  intro code
  have hcode : ¬ ['@', '@'] <:+: code := by decide
  exact ⟨⟨hcode, by decide +kernel⟩, sources_plain_eq_nil hcode⟩

-- An `@` right in front of an at-rule meets what stood behind it.
example :
    let plain := (ofCode "@@x;media y\x7b\x7d".toList).plain
    plain = "@media y\x7b\x7d".toList ∧ (ofCode plain).sources ≠ [] := by
  decide +kernel

end Outline

end CssSurvey
