/-
Words in a text, as they are written and regardless of letter case. A text starts with a word when its
first characters, folded, are the word; so a character that the word does not hold ends the search.
Folding differs from lower case only in the letters `s` and `k`, and so not at all for other words.
-/
import CssSurvey.Text.Caseless
import Mathlib.Data.List.Infix
import Mathlib.Tactic.Common

namespace CssSurvey

/-! ## Folded characters -/

theorem isAlpha_eq_or (c : Char) : c.isAlpha = (c.isUpper || c.isLower) := rfl

theorem isUpper_iff {c : Char} : c.isUpper ↔ 'A'.val ≤ c.val ∧ c.val ≤ 'Z'.val := decide_eq_true_iff

theorem toLower_of_not_isUpper {c : Char} (h : ¬ c.isUpper) : c.toLower = c := dif_neg (mt isUpper_iff.2 h)

/-- A capital is moved up among the small letters. -/
theorem isLower_toLower_of_isUpper {c : Char} (h : c.isUpper) : c.toLower.isLower := by
  have hcapital : 65 ≤ c.val.toNat ∧ c.val.toNat ≤ 90 := isUpper_iff.1 h
  have hmoved : c.toLower.val = c.val + 32 := congrArg Char.val (dif_pos (isUpper_iff.1 h))
  have hcode : c.toLower.val.toNat = c.val.toNat + 32 := by
    rw [hmoved, UInt32.toNat_add]
    exact Nat.mod_eq_of_lt (Nat.lt_of_le_of_lt (Nat.add_le_add_right hcapital.2 32) (by decide))
  have hsmall : 'a'.val ≤ c.toLower.val ∧ c.toLower.val ≤ 'z'.val := by
    rw [UInt32.le_iff_toNat_le, UInt32.le_iff_toNat_le, hcode]
    exact ⟨Nat.add_le_add_right hcapital.1 32, Nat.add_le_add_right hcapital.2 32⟩
  exact Bool.and_eq_true_iff.2 ⟨decide_eq_true hsmall.1, decide_eq_true hsmall.2⟩

/-- The letters are those of ASCII and the two beyond it that fold into one. -/
theorem isLatinLetter_iff {c : Char} :
    isLatinLetter c = true ↔ c.isAlpha = true ∨ c = '\u017f' ∨ c = '\u212a' := by
  unfold isLatinLetter foldCase
  split
  · rename_i h
    exact iff_of_true rfl (.inr (.inl h))
  · rename_i hs
    split
    · rename_i h
      exact iff_of_true rfl (.inr (.inr h))
    · rename_i hk
      rw [or_iff_left (not_or.2 ⟨hs, hk⟩), isAlpha_eq_or]
      rcases hupper : c.isUpper with _ | _
      · rw [toLower_of_not_isUpper (by simp [hupper]), Bool.false_or]
      · exact iff_of_true (isLower_toLower_of_isUpper hupper) rfl

theorem isLatinLetter_of_isLower_toLower {c : Char} (h : c.toLower.isLower) : isLatinLetter c := by
  unfold isLatinLetter foldCase
  split
  · rfl
  · split
    · rfl
    · exact h

/-- Letters have letters for their lower case, so every other character is the lower case of itself only. -/
theorem toLower_eq_iff {c mark : Char} (h : mark.isAlpha = false) : c.toLower = mark ↔ c = mark := by
  by_cases hupper : c.isUpper
  · refine iff_of_false ?_ ?_
    · rintro rfl
      rw [isAlpha_eq_or, isLower_toLower_of_isUpper hupper, Bool.or_true] at h
      cases h
    · rintro rfl
      rw [isAlpha_eq_or, hupper, Bool.true_or] at h
      cases h
  · rw [toLower_of_not_isUpper hupper]

/-- Characters into which no other characters fold than those of which they are the lower case. -/
def plainCase (c : Char) : Bool := c ∉ ['s', 'k', '\u017f', '\u212a']

theorem foldCase_eq_iff_toLower {c letter : Char} (h : plainCase letter) :
    foldCase c = letter ↔ c.toLower = letter := by
  obtain ⟨hs, hk, hlongS, hkelvin⟩ : letter ≠ 's' ∧ letter ≠ 'k' ∧ letter ≠ '\u017f' ∧ letter ≠ '\u212a' := by
    simpa [plainCase] using h
  unfold foldCase
  split
  · rename_i hc
    subst hc
    exact iff_of_false hs.symm hlongS.symm
  · split
    · rename_i hc
      subst hc
      exact iff_of_false hk.symm hkelvin.symm
    · rfl

namespace Text

theorem map_foldCase_eq_iff {word text : Text} (h : word.all plainCase = true) :
    text.map foldCase = word ↔ text.lower = word := by
  induction text generalizing word with
  | nil => rfl
  | cons c text ih =>
    cases word with
    | nil => exact iff_of_false (List.cons_ne_nil _ _) (List.cons_ne_nil _ _)
    | cons letter word =>
      obtain ⟨hletter, hword⟩ := (Bool.and_eq_true _ _).mp (List.all_cons ▸ h)
      rw [lower, List.map_cons, List.map_cons, List.cons.injEq, List.cons.injEq,
        foldCase_eq_iff_toLower hletter, ih hword, lower]

section Mark

variable {mark : Char} (hmark : mark.isAlpha = false)
include hmark

theorem mem_lower_iff {text : Text} : mark ∈ text.lower ↔ mark ∈ text := by
  rw [lower, List.mem_map]
  constructor
  · rintro ⟨c, hmem, hc⟩
    exact (toLower_eq_iff hmark).1 hc ▸ hmem
  · exact fun hmem => ⟨mark, hmem, (toLower_eq_iff hmark).2 rfl⟩

theorem count_lower (text : Text) : text.lower.count mark = text.count mark := by
  rw [lower, List.count_eq_countP, List.count_eq_countP, List.countP_map]
  refine List.countP_congr fun c _ => ?_
  rw [Function.comp_apply, beq_iff_eq, beq_iff_eq, toLower_eq_iff hmark]

theorem lower_eq_append_singleton_iff {text word : Text} :
    text.lower = word ++ [mark] ↔ ∃ stem, text = stem ++ [mark] ∧ stem.lower = word := by
  unfold lower
  rw [List.map_eq_append_iff]
  constructor
  · rintro ⟨stem, last, rfl, hstem, hlast⟩
    obtain ⟨c, rfl, hc⟩ := List.map_eq_singleton_iff.1 hlast
    rw [(toLower_eq_iff hmark).1 hc]
    exact ⟨stem, rfl, hstem⟩
  · rintro ⟨stem, rfl, hstem⟩
    exact ⟨stem, [mark], rfl, hstem, by rw [List.map_singleton, (toLower_eq_iff hmark).2 rfl]⟩

end Mark

/-! ## Words -/

theorem contains_iff_isInfix {word text : Text} : contains word text = true ↔ word <:+: text := by
  induction text with
  | nil => rw [contains, List.isEmpty_iff, List.infix_nil]
  | cons c text ih => rw [contains, Bool.or_eq_true, List.isPrefixOf_iff_prefix, ih, List.infix_cons_iff]

theorem afterWord?_eq_some_iff {word text rest : Text} :
    afterWord? word text = some rest ↔ ∃ taken, text = taken ++ rest ∧ taken.map foldCase = word := by
  induction word generalizing text with
  | nil =>
    rw [afterWord?, Option.some.injEq]
    constructor
    · rintro rfl
      exact ⟨[], rfl, rfl⟩
    · rintro ⟨taken, rfl, htaken⟩
      rw [List.map_eq_nil_iff.1 htaken, List.nil_append]
  | cons w word ih =>
    cases text with
    | nil =>
      constructor
      · intro h
        cases h
      · rintro ⟨taken, htext, htaken⟩
        rw [(List.append_eq_nil_iff.1 htext.symm).1] at htaken
        cases htaken
    | cons c text =>
      rw [afterWord?, Option.ite_none_right_eq_some, ih]
      constructor
      · rintro ⟨hc, taken, rfl, htaken⟩
        exact ⟨c :: taken, rfl, by rw [List.map_cons, hc, htaken]⟩
      · rintro ⟨taken, htext, htaken⟩
        cases taken with
        | nil => cases htaken
        | cons d taken =>
          obtain ⟨rfl, rfl⟩ := List.cons.inj htext
          obtain ⟨hc, hword⟩ := List.cons.inj htaken
          exact ⟨hc, taken, rfl, hword⟩

theorem isPrefix_of_afterWord? {word text rest : Text} (h : afterWord? word text = some rest) :
    word <+: text.map foldCase := by
  obtain ⟨taken, rfl, rfl⟩ := afterWord?_eq_some_iff.1 h
  exact ⟨rest.map foldCase, List.map_append.symm⟩

/-- Of two words that do not begin alike a text starts with one at most. -/
theorem afterWord?_eq_none {word other text rest : Text} (h : afterWord? word text = some rest)
    (hword : ¬ word <+: other) (hother : ¬ other <+: word) : afterWord? other text = none := by
  rw [Option.eq_none_iff_forall_ne_some]
  intro after hafter
  rcases List.prefix_or_prefix_of_prefix (isPrefix_of_afterWord? h) (isPrefix_of_afterWord? hafter) with
    hstart | hstart
  · exact hword hstart
  · exact hother hstart

/-- A word does not run across a character that it does not hold. -/
theorem afterWord?_append_cons {word : Text} {mark : Char} (hmark : foldCase mark ∉ word)
    (text rest : Text) :
    afterWord? word (text ++ mark :: rest) = (afterWord? word text).map (· ++ mark :: rest) := by
  induction word generalizing text with
  | nil => rfl
  | cons w word ih =>
    obtain ⟨hw, hword⟩ := not_or.1 (mt List.mem_cons.2 hmark)
    cases text with
    | nil => exact if_neg hw
    | cons c text =>
      rw [List.cons_append, afterWord?, afterWord?]
      split
      · exact ih hword text
      · rfl

end Text

end CssSurvey
