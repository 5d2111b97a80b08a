/-
Cuts at top-level separators. What a scan does depends on the ink of a text only, so white space may
come and go around the parts; and a part that closes all it opens is cut off as it stands, whatever
follows its separator.
-/
import CssSurvey.TopLevel
import CssSurvey.Proofs.Text.Ink

namespace CssSurvey

/-! ## Where a scan stands -/

namespace Nesting

/-- The characters that open or close something. -/
def isDelimiter (c : Char) : Bool :=
  c = '"' || c = '\'' || c = '(' || c = '[' || c = ')' || c = ']'

/-- The open quote, if there is one, is a quote. -/
def Proper (n : Nesting) : Prop := ∀ q, n.quote = some q → q = '"' ∨ q = '\''

theorem proper_top : Proper top := fun _ h => by cases h

theorem Proper.step {n : Nesting} (h : n.Proper) (c : Char) : (n.step c).Proper := by
  unfold Nesting.step
  split
  · split
    · intro q hq
      cases hq
    · exact h
  · rename_i hnone
    split
    · rename_i hquote
      rintro q ⟨⟩
      exact hquote
    · have hkeep : ∀ depth, Proper { n with depth := depth } := fun depth q hq => h q hq
      split
      · exact hkeep _
      · split
        · exact hkeep _
        · exact h

theorem isDelimiter_of_isBlank {c : Char} (h : isBlank c) : isDelimiter c = false := by
  have hmarks : c ∉ ['"', '\'', '(', '[', ')', ']'] := Text.not_mem_of_all_not (by decide) h
  simpa [isDelimiter, and_assoc] using hmarks

/-- A character that neither opens nor closes anything leaves the scan where it stands. -/
theorem step_of_not_delimiter {n : Nesting} (hn : n.Proper) {c : Char} (hc : isDelimiter c = false) :
    n.step c = n := by
  simp only [isDelimiter, Bool.or_eq_false_iff, decide_eq_false_iff_not] at hc
  obtain ⟨⟨⟨⟨⟨hdouble, hsingle⟩, hparen⟩, hbracket⟩, hclose⟩, hclosing⟩ := hc
  unfold step
  split
  · rename_i q hq
    have hne : c ≠ q := by
      rintro rfl
      exact (hn c hq).elim hdouble hsingle
    rw [if_neg hne]
  · rw [if_neg (by simp [hdouble, hsingle]), if_neg (by simp [hparen, hbracket]),
      if_neg (by simp [hclose, hclosing])]

@[simp] theorem after_cons (n : Nesting) (c : Char) (text : Text) :
    n.after (c :: text) = (n.step c).after text := rfl

theorem after_append (n : Nesting) (a b : Text) : n.after (a ++ b) = (n.after a).after b :=
  List.foldl_append

theorem Proper.after {n : Nesting} (h : n.Proper) (text : Text) : (n.after text).Proper := by
  induction text generalizing n with
  | nil => exact h
  | cons c text ih => exact ih (h.step c)

theorem after_of_not_delimiter {n : Nesting} (hn : n.Proper) {text : Text}
    (h : ∀ c ∈ text, isDelimiter c = false) : n.after text = n := by
  induction text with
  | nil => rfl
  | cons c text ih =>
    obtain ⟨hc, htext⟩ := List.forall_mem_cons.1 h
    rw [after_cons, step_of_not_delimiter hn hc, ih htext]

/-- Where a scan stands depends on the ink only. -/
theorem after_ink {n : Nesting} (hn : n.Proper) (text : Text) : n.after (Text.ink text) = n.after text := by
  induction text generalizing n with
  | nil => rfl
  | cons c text ih =>
    rcases hc : isBlank c with _ | _
    · rw [Text.ink_cons_of_not_isBlank hc, after_cons, after_cons]
      exact ih (hn.step c)
    · rw [Text.ink_cons_of_isBlank hc, after_cons, step_of_not_delimiter hn (isDelimiter_of_isBlank hc)]
      exact ih hn

theorem after_eq_of_ink_eq {n : Nesting} (hn : n.Proper) {a b : Text} (h : Text.ink a = Text.ink b) :
    n.after a = n.after b := by
  rw [← after_ink hn a, h, after_ink hn]

end Nesting

/-! ## Cuts -/

open Nesting

/-- A scan that stands at `n` before a text finds no separator in it where it could cut. -/
def Uncut (separator : Char) (n : Nesting) (text : Text) : Prop := (splitFrom separator n text).2 = []

section Separator

variable {separator : Char}

theorem uncut_cons {n : Nesting} {c : Char} {text : Text} :
    Uncut separator n (c :: text) ↔ ¬ (c = separator ∧ n = .top) ∧ Uncut separator (n.step c) text := by
  unfold Uncut
  rw [splitFrom]
  split
  · rename_i hcut
    simp [hcut]
  · rename_i hcut
    simp [hcut]

/-- An uncut text is its own first part. -/
theorem Uncut.splitFrom_eq {n : Nesting} {text : Text} (h : Uncut separator n text) :
    splitFrom separator n text = (text, []) := by
  have hjoin := intercalate_splitFrom separator n text
  rw [show (splitFrom separator n text).2 = [] from h, List.intercalate_singleton] at hjoin
  exact Prod.ext hjoin h

theorem Uncut.splitTop_eq {text : Text} (h : Uncut separator .top text) : splitTop separator text = [text] := by
  rw [splitTop, h.splitFrom_eq]

/-- Behind an uncut text the scan goes on from where it stands there. -/
theorem Uncut.splitFrom_append {n : Nesting} {text : Text} (h : Uncut separator n text) (rest : Text) :
    splitFrom separator n (text ++ rest) =
      (text ++ (splitFrom separator (n.after text) rest).1, (splitFrom separator (n.after text) rest).2) := by
  induction text generalizing n with
  | nil => rfl
  | cons c text ih =>
    obtain ⟨hcut, htext⟩ := uncut_cons.1 h
    rw [List.cons_append, splitFrom, if_neg hcut, ih htext]
    rfl

theorem uncut_append {n : Nesting} {a b : Text} :
    Uncut separator n (a ++ b) ↔ Uncut separator n a ∧ Uncut separator (n.after a) b := by
  induction a generalizing n with
  | nil => exact (and_iff_right rfl).symm
  | cons c a ih => rw [List.cons_append, uncut_cons, uncut_cons, ih, and_assoc, after_cons]

/-- A separator inside something that is open is part of the text. -/
theorem uncut_separator {n : Nesting} (hne : n ≠ .top) : Uncut separator n [separator] :=
  uncut_cons.2 ⟨fun hcut => hne hcut.2, rfl⟩

theorem uncut_of_not_mem {n : Nesting} {text : Text} (h : separator ∉ text) : Uncut separator n text := by
  induction text generalizing n with
  | nil => rfl
  | cons c text ih =>
    obtain ⟨hne, htext⟩ := List.ne_and_not_mem_of_not_mem_cons h
    exact uncut_cons.2 ⟨fun hcut => hne hcut.1.symm, ih htext⟩

/-- A text is uncut when something is open before each of its separators. -/
theorem uncut_iff_forall {n : Nesting} {text : Text} :
    Uncut separator n text ↔
      ∀ before after, text = before ++ separator :: after → n.after before ≠ .top := by
  induction text generalizing n with
  | nil =>
    refine ⟨fun _ before after hsplit => ?_, fun _ => rfl⟩
    exact absurd hsplit.symm (List.append_ne_nil_of_right_ne_nil _ (List.cons_ne_nil _ _))
  | cons c text ih =>
    rw [uncut_cons, ih]
    constructor
    · rintro ⟨hcut, hrest⟩ before after hsplit htop
      cases before with
      | nil => exact hcut ⟨(List.cons.inj hsplit).1, htop⟩
      | cons b before =>
        obtain ⟨rfl, htext⟩ := List.cons.inj hsplit
        exact hrest before after htext htop
    · intro h
      refine ⟨?_, fun before after hsplit => h (c :: before) after (congrArg (c :: ·) hsplit)⟩
      rintro ⟨rfl, rfl⟩
      exact h [] text rfl rfl

/-- Where a text is cut first, all is closed. -/
theorem after_splitFrom_of_ne_nil {n : Nesting} {text : Text} (h : (splitFrom separator n text).2 ≠ []) :
    n.after (splitFrom separator n text).1 = .top := by
  induction text generalizing n with
  | nil => exact absurd rfl h
  | cons c text ih =>
    rw [splitFrom] at h ⊢
    split
    · rename_i hcut
      exact hcut.2
    · rename_i hcut
      rw [if_neg hcut] at h
      exact ih h

theorem after_of_mem_dropLast_splitFrom {n : Nesting} {text part : Text}
    (h : part ∈ (splitFrom separator n text).2.dropLast) : Nesting.top.after part = .top := by
  induction text generalizing n with
  | nil => cases h
  | cons c text ih =>
    rw [splitFrom] at h
    split at h
    · rename_i hcut
      obtain ⟨-, rfl⟩ := hcut
      change part ∈ ((splitFrom separator .top text).1 :: (splitFrom separator .top text).2).dropLast at h
      by_cases hlast : (splitFrom separator .top text).2 = []
      · rw [hlast] at h
        cases h
      · rw [List.dropLast_cons_of_ne_nil hlast] at h
        rcases List.mem_cons.1 h with rfl | h
        · exact after_splitFrom_of_ne_nil hlast
        · exact ih h
    · exact ih h

/-- Every part of a text but the last closes all it opens. -/
theorem after_of_mem_dropLast_splitTop {text part : Text} (h : part ∈ (splitTop separator text).dropLast) :
    Nesting.top.after part = .top := by
  -- The parts are those behind a separator in front of the text.
  have hparts : splitFrom separator .top (separator :: text) = ([], splitTop separator text) := by
    rw [splitFrom, if_pos ⟨rfl, rfl⟩]
    rfl
  rw [← show (splitFrom separator .top (separator :: text)).2 = splitTop separator text by rw [hparts]] at h
  exact after_of_mem_dropLast_splitFrom h

/-- The parts of the ink of a text are the ink of its parts. -/
theorem splitFrom_ink {n : Nesting} (hn : n.Proper) (hseparator : isBlank separator = false) (text : Text) :
    splitFrom separator n (Text.ink text) =
      (Text.ink (splitFrom separator n text).1, (splitFrom separator n text).2.map Text.ink) := by
  induction text generalizing n with
  | nil => rfl
  | cons c text ih =>
    rcases hc : isBlank c with _ | _
    · rw [Text.ink_cons_of_not_isBlank hc, splitFrom, splitFrom]
      split
      · rw [ih hn]
        rfl
      · rw [ih (hn.step c), Text.ink_cons_of_not_isBlank hc]
    · have hne : c ≠ separator := by simpa using Text.ne_of_isBlank hseparator c hc
      rw [Text.ink_cons_of_isBlank hc, splitFrom, if_neg fun h => hne h.1,
        step_of_not_delimiter hn (isDelimiter_of_isBlank hc), ih hn, Text.ink_cons_of_isBlank hc]

theorem splitTop_ink (hseparator : isBlank separator = false) (text : Text) :
    splitTop separator (Text.ink text) = (splitTop separator text).map Text.ink := by
  rw [splitTop, splitFrom_ink proper_top hseparator]
  rfl

/-- Whether a text is cut depends on its ink only. -/
theorem uncut_ink {n : Nesting} (hn : n.Proper) (hseparator : isBlank separator = false) (text : Text) :
    Uncut separator n (Text.ink text) ↔ Uncut separator n text := by
  rw [Uncut, splitFrom_ink hn hseparator, List.map_eq_nil_iff, Uncut]

theorem uncut_iff_of_ink_eq {n : Nesting} (hn : n.Proper) (hseparator : isBlank separator = false)
    {a b : Text} (h : Text.ink a = Text.ink b) : Uncut separator n a ↔ Uncut separator n b := by
  rw [← uncut_ink hn hseparator a, h, uncut_ink hn hseparator]

/-- The parts of a text are not cut any further. -/
theorem uncut_splitFrom (separator : Char) (n : Nesting) (text : Text) :
    Uncut separator n (splitFrom separator n text).1 ∧
      ∀ part ∈ (splitFrom separator n text).2, Uncut separator .top part := by
  induction text generalizing n with
  | nil => exact ⟨rfl, nofun⟩
  | cons c text ih =>
    rw [splitFrom]
    split
    · rename_i hcut
      obtain ⟨-, rfl⟩ := hcut
      exact ⟨rfl, List.forall_mem_cons.2 (ih .top)⟩
    · rename_i hcut
      exact ⟨uncut_cons.2 ⟨hcut, (ih _).1⟩, (ih _).2⟩

theorem uncut_of_mem_splitTop {text part : Text} (h : part ∈ splitTop separator text) :
    Uncut separator .top part := by
  obtain ⟨hfirst, hothers⟩ := uncut_splitFrom separator .top text
  rcases List.mem_cons.1 h with rfl | h
  · exact hfirst
  · exact hothers part h

theorem prefix_splitFrom (separator : Char) (n : Nesting) (text : Text) :
    (splitFrom separator n text).1 <+: text := by
  have hjoin := intercalate_splitFrom separator n text
  cases hothers : (splitFrom separator n text).2 with
  | nil =>
    rw [hothers, List.intercalate_singleton] at hjoin
    rw [hjoin]
  | cons second others =>
    rw [hothers, List.intercalate_cons_cons, List.append_assoc] at hjoin
    exact ⟨_, hjoin⟩

/-- The parts of a text stand in it one after the other. -/
theorem flatten_splitFrom_sublist (separator : Char) (n : Nesting) (text : Text) :
    ((splitFrom separator n text).1 ++ (splitFrom separator n text).2.flatten).Sublist text := by
  induction text generalizing n with
  | nil => exact List.Sublist.refl _
  | cons c text ih =>
    rw [splitFrom]
    split
    · exact (ih n).cons c
    · exact (ih (n.step c)).cons_cons c

/-- A part of a text stands in it as it is. -/
theorem isInfix_of_mem_splitTop {text part : Text} (h : part ∈ splitTop separator text) : part <:+: text := by
  have := @Text.isInfix_intercalate [separator] _ _ h
  rwa [intercalate_splitTop] at this

/-- A text is cut into parts at its top-level separators: with a separator between two of them they are
the text, all is closed behind every part but the last, and none holds a separator before which all is
closed. -/
structure CutInto (separator : Char) (text : Text) (parts : List Text) : Prop where
  ne_nil : parts ≠ []
  join : List.intercalate [separator] parts = text
  closed : ∀ part ∈ parts.dropLast, Nesting.top.after part = .top
  whole : ∀ part ∈ parts, ∀ before after, part = before ++ separator :: after →
    Nesting.top.after before ≠ .top

theorem cutInto_splitTop (separator : Char) (text : Text) :
    CutInto separator text (splitTop separator text) where
  ne_nil := List.cons_ne_nil _ _
  join := intercalate_splitTop separator text
  closed _ h := after_of_mem_dropLast_splitTop h
  whole _ h := uncut_iff_forall.1 (uncut_of_mem_splitTop h)

/-- The separator between two texts is a cut of the text that it joins them to: the parts in front of it make
up the first, and the parts behind it the second. -/
def CutBetween (separator : Char) (before after : Text) : Prop :=
  ∃ front back, splitTop separator (before ++ separator :: after) = front ++ back ∧
    (front ≠ [] ∧ List.intercalate [separator] front = before) ∧
      back ≠ [] ∧ List.intercalate [separator] back = after

/-- White space at the end of a text ends the last of its parts. -/
theorem splitFrom_append_of_isBlank (hseparator : isBlank separator = false) (n : Nesting) (text : Text)
    {gap : Text} (hgap : gap.isBlank) :
    (splitFrom separator n (text ++ gap)).1.trimEnd = (splitFrom separator n text).1.trimEnd ∧
      (splitFrom separator n (text ++ gap)).2.map Text.trimEnd =
        (splitFrom separator n text).2.map Text.trimEnd := by
  induction text generalizing n with
  | nil =>
    have hnot : separator ∉ gap := fun hmem => by
      rw [List.all_eq_true.1 hgap _ hmem] at hseparator
      cases hseparator
    rw [List.nil_append, (uncut_of_not_mem hnot).splitFrom_eq]
    exact ⟨Text.trimEnd_eq_nil_iff.2 hgap, rfl⟩
  | cons c text ih =>
    rw [List.cons_append, splitFrom, splitFrom]
    split
    · obtain ⟨hfirst, hothers⟩ := ih n
      exact ⟨rfl, by simp only [List.map_cons, hfirst, hothers]⟩
    · obtain ⟨hfirst, hothers⟩ := ih (n.step c)
      refine ⟨?_, hothers⟩
      dsimp only
      rw [← Text.trimEnd_cons_trimEnd, hfirst, Text.trimEnd_cons_trimEnd]

section NotDelimiter

variable (hseparator : isDelimiter separator = false)

include hseparator

/-- When all is closed at the end of a text, it is closed at the end of each of its parts. -/
theorem after_splitFrom {n : Nesting} {text : Text} (h : n.after text = .top) :
    n.after (splitFrom separator n text).1 = .top ∧
      ∀ part ∈ (splitFrom separator n text).2, Nesting.top.after part = .top := by
  induction text generalizing n with
  | nil => exact ⟨h, nofun⟩
  | cons c text ih =>
    rw [splitFrom]
    split
    · rename_i hcut
      obtain ⟨rfl, rfl⟩ := hcut
      rw [after_cons, step_of_not_delimiter proper_top hseparator] at h
      exact ⟨rfl, List.forall_mem_cons.2 (ih h)⟩
    · exact ih h

theorem after_of_mem_splitTop {text part : Text} (h : Nesting.top.after text = .top)
    (hmem : part ∈ splitTop separator text) : Nesting.top.after part = .top := by
  obtain ⟨hfirst, hothers⟩ := after_splitFrom hseparator h
  rcases List.mem_cons.1 hmem with rfl | hmem
  · exact hfirst
  · exact hothers part hmem

/-- Behind a text that closes all it opens, a separator is a cut, and what follows is cut as if it
stood alone. -/
theorem splitFrom_append_separator {n : Nesting} {text : Text} (h : n.after text = .top) (rest : Text) :
    splitFrom separator n (text ++ separator :: rest) =
      ((splitFrom separator n text).1, (splitFrom separator n text).2 ++ splitTop separator rest) := by
  induction text generalizing n with
  | nil =>
    obtain rfl : n = .top := h
    show splitFrom separator .top (separator :: rest) = ([], splitTop separator rest)
    rw [splitFrom, if_pos ⟨rfl, rfl⟩]
    rfl
  | cons c text ih =>
    rw [List.cons_append, splitFrom, splitFrom]
    split
    · rename_i hcut
      obtain ⟨rfl, rfl⟩ := hcut
      rw [after_cons, step_of_not_delimiter proper_top hseparator] at h
      rw [ih h]
      rfl
    · rw [ih h]

theorem splitTop_append_separator {text : Text} (h : Nesting.top.after text = .top) (rest : Text) :
    splitTop separator (text ++ separator :: rest) = splitTop separator text ++ splitTop separator rest := by
  rw [splitTop, splitFrom_append_separator hseparator h]
  rfl

/-- Texts that close all they open, joined by separators, do so together. -/
theorem after_intercalate {parts : List Text} (h : ∀ part ∈ parts, Nesting.top.after part = .top) :
    Nesting.top.after (List.intercalate [separator] parts) = .top := by
  induction parts with
  | nil => rfl
  | cons part others ih =>
    obtain ⟨hpart, hothers⟩ := List.forall_mem_cons.1 h
    cases others with
    | nil => rwa [List.intercalate_singleton]
    | cons second others =>
      rw [List.intercalate_cons_cons, List.append_assoc, List.singleton_append, after_append, hpart, after_cons,
        step_of_not_delimiter proper_top hseparator, ih hothers]

/-- A separator is a cut exactly when all is closed before it. -/
theorem cutBetween_iff {before after : Text} : CutBetween separator before after ↔ Nesting.top.after before = .top := by
  constructor
  · rintro ⟨front, back, hparts, ⟨-, rfl⟩, hback, -⟩
    -- Each of the parts in front has a part behind it, so it closes what it opens.
    refine after_intercalate hseparator fun part hpart => ?_
    have hmem : part ∈ (front ++ back).dropLast := by
      rw [List.dropLast_append_of_ne_nil hback]
      exact List.mem_append_left _ hpart
    rw [← hparts] at hmem
    exact after_of_mem_dropLast_splitTop hmem
  · intro h
    exact ⟨splitTop separator before, splitTop separator after, splitTop_append_separator hseparator h after,
      ⟨List.cons_ne_nil _ _, intercalate_splitTop separator before⟩,
      List.cons_ne_nil _ _, intercalate_splitTop separator after⟩

/-- Texts that close all they open, each with a separator after it, are cut into these texts. -/
theorem splitTop_flatMap {parts : List Text}
    (h : ∀ part ∈ parts, Uncut separator .top part ∧ Nesting.top.after part = .top) :
    splitTop separator (parts.flatMap (· ++ [separator])) = parts ++ [[]] := by
  induction parts with
  | nil => rfl
  | cons part parts ih =>
    obtain ⟨⟨huncut, hclosed⟩, hparts⟩ := List.forall_mem_cons.1 h
    rw [List.flatMap_cons, List.append_assoc, List.singleton_append,
      splitTop_append_separator hseparator hclosed, huncut.splitTop_eq, ih hparts]
    rfl

/-- Parts that are written out with separators between, each of them whole, are the parts again. -/
theorem CutInto.splitTop_eq {text : Text} {parts : List Text} (h : CutInto separator text parts) :
    splitTop separator text = parts := by
  obtain ⟨hne, rfl, hclosed, hwhole⟩ := h
  induction parts with
  | nil => exact absurd rfl hne
  | cons part others ih =>
    obtain ⟨hpart, hothers⟩ := List.forall_mem_cons.1 hwhole
    have huncut : Uncut separator .top part := uncut_iff_forall.2 hpart
    cases others with
    | nil => rw [List.intercalate_singleton, huncut.splitTop_eq]
    | cons second others =>
      obtain ⟨hend, hends⟩ := List.forall_mem_cons.1 hclosed
      rw [List.intercalate_cons_cons, List.append_assoc, List.singleton_append,
        splitTop_append_separator hseparator hend, huncut.splitTop_eq,
        ih (List.cons_ne_nil _ _) hends hothers]
      rfl

theorem splitTop_eq_iff {text : Text} {parts : List Text} :
    splitTop separator text = parts ↔ CutInto separator text parts := by
  constructor
  · rintro rfl
    exact cutInto_splitTop separator text
  · exact CutInto.splitTop_eq hseparator

end NotDelimiter

end Separator

end CssSurvey
