/-
Cutting a text at the first character of a kind: what stands before it and what is left from it on,
for a text that is written as these two parts. Joining texts with a separator between.
-/
import CssSurvey.Text.Basic
import Mathlib.Data.List.TakeWhile
import Mathlib.Tactic.Common

namespace CssSurvey.Text

variable {p : Char → Bool} {before : Text} {c : Char}

theorem takeWhile_append_cons (h : ∀ d ∈ before, p d) (hc : p c = false) (after : Text) :
    (before ++ c :: after).takeWhile p = before := by
  rw [List.takeWhile_append_of_pos h, List.takeWhile_cons_of_neg (by simp [hc]), List.append_nil]

theorem dropWhile_append_cons (h : ∀ d ∈ before, p d) (hc : p c = false) (after : Text) :
    (before ++ c :: after).dropWhile p = c :: after := by
  rw [List.dropWhile_append_of_pos h, List.dropWhile_cons_of_neg (by simp [hc])]

/-- A character of a class is none of the marks that the class leaves out. -/
theorem not_mem_of_all_not {marks : Text} (hmarks : marks.all (!p ·)) (hc : p c) : c ∉ marks := fun hmem => by
  have hout := List.all_eq_true.1 hmarks c hmem
  rw [hc] at hout
  cases hout

/-! A text that is cut at the first of its characters `c`. -/

theorem ne_of_not_mem {text : Text} (h : c ∉ text) : ∀ d ∈ text, decide (d ≠ c) = true :=
  fun _ hd => decide_eq_true fun heq => h (heq ▸ hd)

theorem takeWhile_ne_append_cons (h : c ∉ before) (after : Text) :
    (before ++ c :: after).takeWhile (· ≠ c) = before :=
  takeWhile_append_cons (ne_of_not_mem h) (by simp) after

theorem dropWhile_ne_append_cons (h : c ∉ before) (after : Text) :
    (before ++ c :: after).dropWhile (· ≠ c) = c :: after :=
  dropWhile_append_cons (ne_of_not_mem h) (by simp) after

theorem dropWhile_ne_eq_nil {text : Text} (h : c ∉ text) : text.dropWhile (· ≠ c) = [] :=
  List.dropWhile_eq_nil_iff.2 (ne_of_not_mem h)

/-- The cut stops at a character of its kind, if not before it. -/
theorem dropWhile_append_stop (hc : p c = false) (before after : Text) :
    (before ++ c :: after).dropWhile p = before.dropWhile p ++ c :: after := by
  induction before with
  | nil => rw [List.nil_append, List.dropWhile_cons_of_neg (by simp [hc])]; rfl
  | cons b before ih =>
    rw [List.cons_append, List.dropWhile_cons, List.dropWhile_cons]
    split
    · exact ih
    · rfl

theorem takeWhile_append_stop (hc : p c = false) (before after : Text) :
    (before ++ c :: after).takeWhile p = before.takeWhile p := by
  induction before with
  | nil => exact List.takeWhile_cons_of_neg (by simp [hc])
  | cons b before ih =>
    rw [List.cons_append, List.takeWhile_cons, List.takeWhile_cons, ih]

/-- What is left starts with the character that stopped the cut. -/
theorem dropWhile_eq_cons {text rest : Text} (h : text.dropWhile p = c :: rest) :
    p c = false ∧ text = text.takeWhile p ++ c :: rest := by
  refine ⟨?_, by rw [← h, List.takeWhile_append_dropWhile]⟩
  have := List.head?_dropWhile_not p text
  rw [h] at this
  simpa using this

theorem afterFirst?_eq_some_iff {text rest : Text} :
    afterFirst? p text = some rest ↔
      ∃ before c, text = before ++ c :: rest ∧ (∀ d ∈ before, p d = false) ∧ p c = true := by
  induction text with
  | nil => simp [afterFirst?]
  | cons d text ih =>
    rw [afterFirst?]
    by_cases hd : p d = true
    · rw [if_pos hd, Option.some.injEq]
      constructor
      · rintro rfl
        exact ⟨[], d, rfl, List.forall_mem_nil _, hd⟩
      · rintro ⟨before, c, hsplit, hbefore, -⟩
        cases before with
        | nil => exact (List.cons.inj hsplit).2
        | cons b before =>
          obtain ⟨rfl, -⟩ := List.cons.inj hsplit
          exact absurd hd (by simp [hbefore d (List.mem_cons_self ..)])
    · rw [if_neg hd, ih]
      constructor
      · rintro ⟨before, c, rfl, hbefore, hc⟩
        exact ⟨d :: before, c, rfl, List.forall_mem_cons.2 ⟨by simpa using hd, hbefore⟩, hc⟩
      · rintro ⟨before, c, hsplit, hbefore, hc⟩
        cases before with
        | nil =>
          obtain ⟨rfl, -⟩ := List.cons.inj hsplit
          exact absurd hc hd
        | cons b before =>
          obtain ⟨-, rfl⟩ := List.cons.inj hsplit
          exact ⟨before, c, rfl, (List.forall_mem_cons.1 hbefore).2, hc⟩

/-- A word with a mark nowhere but in front does not run into a text that starts with the mark. -/
theorem prefix_of_prefix_append {mark : Char} {word front rest : Text} (hword : mark ∉ word.tail)
    (hfront : front ≠ []) (hrest : ∀ c ∈ rest.head?, c = mark) (h : word <+: front ++ rest) : word <+: front := by
  rcases List.prefix_or_prefix_of_prefix h (List.prefix_append front rest) with hstart | ⟨more, rfl⟩
  · exact hstart
  · cases more with
    | nil => simp
    | cons c more =>
      obtain ⟨d, front, rfl⟩ := List.exists_cons_of_ne_nil hfront
      obtain ⟨after, rfl⟩ := (List.prefix_append_right_inj (d :: front)).1 h
      obtain rfl : c = mark := hrest c (Option.mem_def.2 rfl)
      exact absurd (List.mem_append_right front (List.mem_cons_self ..)) hword

theorem dropEndWhile_append (p : Char → Bool) (text : Text) :
    text.dropEndWhile p ++ (text.reverse.takeWhile p).reverse = text := by
  rw [dropEndWhile, ← List.reverse_append, List.takeWhile_append_dropWhile, List.reverse_reverse]

theorem dropEndWhile_isInfix (p : Char → Bool) (text : Text) : text.dropEndWhile p <:+: text := by
  rw [dropEndWhile, ← List.reverse_infix, List.reverse_reverse]
  exact (List.dropWhile_suffix p).isInfix

theorem exists_eq_takeWhile_append_cons {text : Text} (hmem : c ∈ text) (hc : p c = false) :
    ∃ d rest, p d = false ∧ text = text.takeWhile p ++ d :: rest := by
  have hne : text.dropWhile p ≠ [] := fun hnil => by
    rw [List.dropWhile_eq_nil_iff.1 hnil c hmem] at hc
    cases hc
  obtain ⟨d, rest, hd⟩ := List.exists_cons_of_ne_nil hne
  obtain ⟨hpd, hsplit⟩ := dropWhile_eq_cons hd
  exact ⟨d, rest, hpd, hsplit⟩

/-! ## Joined texts -/

section Join

variable {separator : Text} {part : Text} {parts others : List Text}

theorem mem_intercalate (h : c ∈ List.intercalate separator parts) :
    c ∈ separator ∨ ∃ part ∈ parts, c ∈ part := by
  induction parts with
  | nil => cases h
  | cons first others ih =>
    cases others with
    | nil =>
      rw [List.intercalate_singleton] at h
      exact .inr ⟨first, List.mem_cons_self .., h⟩
    | cons second others =>
      rw [List.intercalate_cons_cons, List.append_assoc, List.mem_append, List.mem_append] at h
      rcases h with h | h | h
      · exact .inr ⟨first, List.mem_cons_self .., h⟩
      · exact .inl h
      · exact (ih h).imp_right fun ⟨part, hpart, hc⟩ => ⟨part, List.mem_cons_of_mem _ hpart, hc⟩

/-- The last of several texts end the text that all of them make up. -/
theorem intercalate_suffix (h : others ≠ []) :
    List.intercalate separator others <:+ List.intercalate separator (parts ++ others) := by
  induction parts with
  | nil => exact List.suffix_refl _
  | cons first parts ih =>
    rw [List.cons_append, List.intercalate_cons_of_ne_nil (List.append_ne_nil_of_right_ne_nil _ h)]
    exact ih.trans (List.suffix_append _ _)

theorem isInfix_intercalate (h : part ∈ parts) : part <:+: List.intercalate separator parts := by
  obtain ⟨front, back, rfl⟩ := List.append_of_mem h
  have hend := @intercalate_suffix separator front (part :: back) (List.cons_ne_nil _ _)
  refine .trans ?_ hend.isInfix
  cases back with
  | nil =>
    have hsingle : List.intercalate separator [part] = part := List.intercalate_singleton ..
    exact hsingle.symm ▸ List.infix_refl part
  | cons second back =>
    rw [List.intercalate_cons_cons, List.append_assoc]
    exact (List.prefix_append _ _).isInfix

end Join

end CssSurvey.Text
