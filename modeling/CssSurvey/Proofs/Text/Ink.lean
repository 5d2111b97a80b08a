/-
White space around texts, and the ink of a text: its characters that are not white space.
Trimming takes a blank stretch off either end and nothing else; trimming and collapsing keep the
ink, so two texts whose ink differs stay different however their white space is written.
-/
import CssSurvey.Text.Blank
import CssSurvey.Proofs.Text.Cut
import Mathlib.Data.List.Infix

namespace CssSurvey.Text

/-! ## Trimming -/

theorem trimStart_append_of_isBlank {gap : Text} (h : gap.isBlank) (text : Text) :
    trimStart (gap ++ text) = trimStart text := by
  unfold trimStart
  rw [List.dropWhile_append_of_pos (List.all_eq_true.1 h)]

/-- Trimming at the start stops at a character that is not white space. -/
theorem trimStart_append_cons {c : Char} (hc : CssSurvey.isBlank c = false) (before after : Text) :
    trimStart (before ++ c :: after) = trimStart before ++ c :: after :=
  dropWhile_append_stop hc before after

theorem trimEnd_eq_reverse (text : Text) : trimEnd text = (trimStart text.reverse).reverse := rfl

theorem trimEnd_append_of_isBlank {gap : Text} (h : gap.isBlank) (text : Text) :
    trimEnd (text ++ gap) = trimEnd text := by
  have hrev : isBlank gap.reverse := by rwa [isBlank, List.all_reverse]
  rw [trimEnd_eq_reverse, List.reverse_append, trimStart_append_of_isBlank hrev, ← trimEnd_eq_reverse]

theorem trimEnd_append_cons {c : Char} (hc : CssSurvey.isBlank c = false) (before after : Text) :
    trimEnd (before ++ c :: after) = before ++ c :: trimEnd after := by
  have hrev : (before ++ c :: after).reverse = after.reverse ++ c :: before.reverse := by simp
  rw [trimEnd_eq_reverse, hrev, trimStart_append_cons hc, trimEnd_eq_reverse]
  simp

/-- Trimming a text that is not blank, around one of its other characters. -/
theorem trim_append_cons {c : Char} (hc : CssSurvey.isBlank c = false) (before after : Text) :
    trim (before ++ c :: after) = trimStart before ++ c :: trimEnd after := by
  rw [trim, trimStart_append_cons hc, trimEnd_append_cons hc]

theorem trim_of_isBlank {text : Text} (h : text.isBlank) : trim text = [] := by
  have hstart := trimStart_append_of_isBlank h []
  rw [List.append_nil] at hstart
  rw [trim, hstart]
  rfl

/-- A text is blank, or one of its characters is not. -/
theorem isBlank_or_exists_ink (text : Text) :
    text.isBlank ∨ ∃ before c after, text = before ++ c :: after ∧ CssSurvey.isBlank c = false := by
  rcases h : text.isBlank with _ | _
  · obtain ⟨c, hmem, hc⟩ := List.all_eq_false.1 h
    obtain ⟨before, after, rfl⟩ := List.append_of_mem hmem
    exact .inr ⟨before, c, after, rfl, by simpa using hc⟩
  · exact .inl rfl

theorem isBlank_eq_false_of_mem {c : Char} {text : Text} (h : c ∈ text) (hc : CssSurvey.isBlank c = false) :
    text.isBlank = false :=
  List.all_eq_false.2 ⟨c, h, by simp [hc]⟩

/-- The end of a text that is not blank is the same behind any other text. -/
theorem trimEnd_append {text : Text} (h : text.isBlank = false) (before : Text) :
    trimEnd (before ++ text) = before ++ trimEnd text := by
  rcases isBlank_or_exists_ink text with hb | ⟨front, c, after, rfl, hc⟩
  · rw [hb] at h
    cases h
  · rw [← List.append_assoc, trimEnd_append_cons hc, trimEnd_append_cons hc, List.append_assoc]

theorem trim_append_of_isBlank_left {gap : Text} (h : gap.isBlank) (text : Text) :
    trim (gap ++ text) = trim text := by
  rw [trim, trimStart_append_of_isBlank h, ← trim]

theorem trim_append_of_isBlank_right {gap : Text} (h : gap.isBlank) (text : Text) :
    trim (text ++ gap) = trim text := by
  rcases isBlank_or_exists_ink text with hb | ⟨before, c, after, rfl, hc⟩
  · have : isBlank (text ++ gap) := by rw [isBlank, List.all_append, Bool.and_eq_true]; exact ⟨hb, h⟩
    rw [trim_of_isBlank hb, trim_of_isBlank this]
  · rw [List.append_assoc, List.cons_append, trim_append_cons hc, trim_append_cons hc,
      trimEnd_append_of_isBlank h]

/-- The white space at the start of a text. -/
def gapBefore (text : Text) : Text := text.takeWhile CssSurvey.isBlank

/-- The white space at the end of a text. -/
def gapAfter (text : Text) : Text := (gapBefore text.reverse).reverse

theorem isBlank_gapBefore (text : Text) : (gapBefore text).isBlank := List.all_takeWhile

theorem isBlank_gapAfter (text : Text) : (gapAfter text).isBlank := by
  rw [isBlank, gapAfter, List.all_reverse]
  exact isBlank_gapBefore _

theorem gapBefore_append_trimStart (text : Text) : gapBefore text ++ trimStart text = text :=
  List.takeWhile_append_dropWhile

theorem trimEnd_append_gapAfter (text : Text) : trimEnd text ++ gapAfter text = text := by
  rw [trimEnd_eq_reverse, gapAfter, ← List.reverse_append, gapBefore_append_trimStart,
    List.reverse_reverse]

theorem trimEnd_eq_nil_iff {text : Text} : trimEnd text = [] ↔ text.isBlank := by
  constructor
  · intro h
    have hsplit := trimEnd_append_gapAfter text
    rw [h, List.nil_append] at hsplit
    rw [← hsplit]
    exact isBlank_gapAfter text
  · intro h
    exact trimEnd_append_of_isBlank h []

theorem trimEnd_cons_trimEnd (c : Char) (text : Text) : trimEnd (c :: trimEnd text) = trimEnd (c :: text) := by
  have := trimEnd_append_of_isBlank (isBlank_gapAfter text) (c :: trimEnd text)
  rwa [List.cons_append, trimEnd_append_gapAfter, eq_comm] at this

theorem isBlank_trimStart (text : Text) : (trimStart text).isBlank = text.isBlank := by
  have hsplit := congrArg isBlank (gapBefore_append_trimStart text)
  rwa [isBlank, List.all_append, ← isBlank, isBlank_gapBefore, Bool.true_and, ← isBlank] at hsplit

theorem gapAfter_append {text : Text} (h : text.isBlank = false) (before : Text) :
    gapAfter (before ++ text) = gapAfter text := by
  have hsplit := trimEnd_append_gapAfter (before ++ text)
  rw [trimEnd_append h, List.append_assoc] at hsplit
  exact List.append_cancel_left ((List.append_cancel_left hsplit).trans (trimEnd_append_gapAfter text).symm)

theorem exists_eq_trimStart (text : Text) : ∃ gap : Text, gap.isBlank ∧ text = gap ++ trimStart text :=
  ⟨gapBefore text, isBlank_gapBefore text, (gapBefore_append_trimStart text).symm⟩

theorem exists_eq_trimEnd (text : Text) : ∃ gap : Text, gap.isBlank ∧ text = trimEnd text ++ gap :=
  ⟨gapAfter text, isBlank_gapAfter text, (trimEnd_append_gapAfter text).symm⟩

/-- Trimming takes a blank stretch off either end. -/
theorem exists_eq_append_trim (text : Text) :
    ∃ left right : Text, left.isBlank ∧ right.isBlank ∧ text = left ++ trim text ++ right := by
  obtain ⟨left, hleft, hl⟩ := exists_eq_trimStart text
  obtain ⟨right, hright, hr⟩ := exists_eq_trimEnd (trimStart text)
  exact ⟨left, right, hleft, hright, by rw [List.append_assoc, trim, ← hr]; exact hl⟩

theorem trim_trimStart (text : Text) : trim (trimStart text) = trim text := by
  obtain ⟨gap, hgap, h⟩ := exists_eq_trimStart text
  have := trim_append_of_isBlank_left hgap (trimStart text)
  rwa [← h, eq_comm] at this

theorem trim_trimEnd (text : Text) : trim (trimEnd text) = trim text := by
  obtain ⟨gap, hgap, h⟩ := exists_eq_trimEnd text
  have := trim_append_of_isBlank_right hgap (trimEnd text)
  rwa [← h, eq_comm] at this

theorem trim_isInfix (text : Text) : trim text <:+: text := by
  obtain ⟨left, right, -, -, h⟩ := exists_eq_append_trim text
  exact ⟨left, right, h.symm⟩

@[simp] theorem trim_trim (text : Text) : trim (trim text) = trim text := by
  obtain ⟨left, right, hl, hr, h⟩ := exists_eq_append_trim text
  have := congrArg trim h
  rwa [trim_append_of_isBlank_right hr, trim_append_of_isBlank_left hl, eq_comm] at this

theorem trim_eq_nil_iff {text : Text} : trim text = [] ↔ text.isBlank := by
  refine ⟨fun h => ?_, trim_of_isBlank⟩
  rcases isBlank_or_exists_ink text with hb | ⟨before, c, after, rfl, hc⟩
  · exact hb
  · simp [trim_append_cons hc] at h

/-! ## Ink -/

/-- The characters of a text that are not white space. -/
def ink (text : Text) : Text := text.filter (!CssSurvey.isBlank ·)

@[simp] theorem ink_append (a b : Text) : ink (a ++ b) = ink a ++ ink b := List.filter_append ..

@[simp] theorem ink_nil : ink [] = [] := rfl

theorem ink_cons_of_isBlank {c : Char} (h : CssSurvey.isBlank c) (text : Text) :
    ink (c :: text) = ink text := by
  rw [ink, List.filter_cons_of_neg (by simp [h]), ink]

theorem ink_cons_of_not_isBlank {c : Char} (h : CssSurvey.isBlank c = false) (text : Text) :
    ink (c :: text) = c :: ink text := by
  rw [ink, List.filter_cons_of_pos (by simp [h]), ink]

@[simp] theorem ink_reverse (text : Text) : ink text.reverse = (ink text).reverse := List.filter_reverse

@[simp] theorem ink_flatten (texts : List Text) : ink texts.flatten = (texts.map ink).flatten :=
  List.filter_flatten

@[simp] theorem ink_ink (text : Text) : ink (ink text) = ink text := by
  simp [ink]

theorem isBlank_eq_false_of_mem_ink {c : Char} {text : Text} (h : c ∈ ink text) :
    CssSurvey.isBlank c = false := by
  simpa using (List.mem_filter.1 h).2

theorem ink_eq_nil_of_isBlank {text : Text} (h : text.isBlank) : ink text = [] := by
  rw [ink, List.filter_eq_nil_iff]
  intro c hc
  simpa using List.all_eq_true.1 h c hc

theorem ink_eq_nil_iff {text : Text} : ink text = [] ↔ text.isBlank := by
  refine ⟨fun h => ?_, ink_eq_nil_of_isBlank⟩
  rcases isBlank_or_exists_ink text with hb | ⟨before, c, after, rfl, hc⟩
  · exact hb
  · simp [ink_cons_of_not_isBlank hc] at h

theorem trimStart_eq_self {text : Text} (h : text.head? = (ink text).head?) : trimStart text = text := by
  cases text with
  | nil => rfl
  | cons c rest =>
    have hc : CssSurvey.isBlank c = false := isBlank_eq_false_of_mem_ink (List.mem_of_head? h.symm)
    exact List.dropWhile_cons_of_neg (by simp [hc])

/-- A text that begins and ends as its ink does is trimmed. -/
theorem trim_eq_self {text : Text} (hhead : text.head? = (ink text).head?)
    (hlast : text.getLast? = (ink text).getLast?) : trim text = text := by
  have hreverse : text.reverse.head? = (ink text.reverse).head? := by
    rw [ink_reverse, List.head?_reverse, List.head?_reverse, hlast]
  rw [trim, trimStart_eq_self hhead, trimEnd_eq_reverse, trimStart_eq_self hreverse, List.reverse_reverse]

/-- Ink has no white space at its ends. -/
@[simp] theorem trim_ink (text : Text) : trim (ink text) = ink text :=
  trim_eq_self (by rw [ink_ink]) (by rw [ink_ink])

@[simp] theorem ink_trim (text : Text) : ink (trim text) = ink text := by
  obtain ⟨left, right, hl, hr, h⟩ := exists_eq_append_trim text
  have := congrArg ink h
  rw [ink_append, ink_append, ink_eq_nil_of_isBlank hl, ink_eq_nil_of_isBlank hr] at this
  simpa using this.symm

@[simp] theorem ink_trimEnd (text : Text) : ink (trimEnd text) = ink text := by
  obtain ⟨gap, hgap, h⟩ := exists_eq_trimEnd text
  have := congrArg ink h
  rw [ink_append, ink_eq_nil_of_isBlank hgap, List.append_nil] at this
  exact this.symm

/-- The words of a text, one after the other, are its ink. -/
theorem flatten_words (text : Text) : (words text).flatten = ink text := by
  have hsplit : (text.splitOnP CssSurvey.isBlank).flatten = ink text := by
    induction text with
    | nil => rfl
    | cons c rest ih =>
      obtain ⟨word, others, hr⟩ := List.exists_cons_of_ne_nil
        (List.splitOnP_ne_nil CssSurvey.isBlank rest)
      rw [hr, List.flatten_cons] at ih
      rw [List.splitOnP_cons_eq_if_modifyHead, hr]
      cases hc : CssSurvey.isBlank c <;> simp [ink, hc, ih]
  rw [words, List.flatten_filter_not_isEmpty, hsplit]

@[simp] theorem ink_collapse (text : Text) : ink (collapse text) = ink text := by
  have hwords : ∀ ws : List Text, ink (List.intercalate [' '] ws) = ink ws.flatten := by
    intro ws
    induction ws with
    | nil => rfl
    | cons w ws ih =>
      cases ws with
      | nil => simp
      | cons v ws =>
        have hspace : ink [' '] = [] := by decide
        rw [List.intercalate_cons_cons, ink_append, ink_append, ih, hspace, List.append_nil,
          List.flatten_cons (l := w), ink_append]
  rw [collapse, hwords, flatten_words, ink, ink, List.filter_filter]
  simp

theorem isEmpty_ink (text : Text) : (ink text).isEmpty = text.isBlank := by
  rw [Bool.eq_iff_iff, List.isEmpty_iff, ink_eq_nil_iff]

theorem isEmpty_trim (text : Text) : (trim text).isEmpty = text.isBlank := by
  rw [Bool.eq_iff_iff, List.isEmpty_iff, trim_eq_nil_iff]

theorem isBlank_ink (text : Text) : (ink text).isBlank = text.isBlank := by
  rw [← isEmpty_ink, ink_ink, isEmpty_ink]

theorem isBlank_trimEnd (text : Text) : (trimEnd text).isBlank = text.isBlank := by
  rw [← isBlank_ink, ink_trimEnd, isBlank_ink]

/-- The ink of a text starts with a character when only white space stands before that character. -/
theorem head?_ink_eq_some_iff {c : Char} (hc : CssSurvey.isBlank c = false) {text : Text} :
    (ink text).head? = some c ↔ ∃ gap after : Text, gap.isBlank ∧ text = gap ++ c :: after := by
  rw [ink, List.head?_filter, List.find?_eq_some_iff_append]
  constructor
  · rintro ⟨-, gap, after, rfl, hgap⟩
    exact ⟨gap, after, List.all_eq_true.2 fun d hd => by simpa using hgap d hd, rfl⟩
  · rintro ⟨gap, after, hgap, rfl⟩
    exact ⟨by simp [hc], gap, after, rfl, fun d hd => by simpa using List.all_eq_true.1 hgap d hd⟩

theorem getLast?_ink_eq_some_iff {c : Char} (hc : CssSurvey.isBlank c = false) {text : Text} :
    (ink text).getLast? = some c ↔ ∃ before gap : Text, gap.isBlank ∧ text = before ++ c :: gap := by
  have hrev : ∀ gap : Text, isBlank gap.reverse = isBlank gap := fun gap => List.all_reverse
  rw [← List.head?_reverse, ← ink_reverse, head?_ink_eq_some_iff hc]
  constructor
  · rintro ⟨gap, after, hgap, h⟩
    refine ⟨after.reverse, gap.reverse, by rwa [hrev], ?_⟩
    have := congrArg List.reverse h
    simpa using this
  · rintro ⟨before, gap, hgap, rfl⟩
    exact ⟨gap.reverse, before.reverse, by rwa [hrev], by simp⟩

/-- A trimmed text and its ink have the same first character. -/
theorem head?_trim (text : Text) : (trim text).head? = (ink text).head? := by
  rcases h : (ink text).head? with _ | c
  · rw [List.head?_eq_none_iff, ink_eq_nil_iff] at h
    rw [trim_of_isBlank h]
    rfl
  · have hc : CssSurvey.isBlank c = false := isBlank_eq_false_of_mem_ink (List.mem_of_head? h)
    obtain ⟨gap, after, hgap, rfl⟩ := (head?_ink_eq_some_iff hc).1 h
    rw [trim_append_of_isBlank_left hgap, ← List.nil_append (c :: after), trim_append_cons hc]
    rfl

theorem getLast?_trim (text : Text) : (trim text).getLast? = (ink text).getLast? := by
  rcases h : (ink text).getLast? with _ | c
  · rw [List.getLast?_eq_none_iff, ink_eq_nil_iff] at h
    rw [trim_of_isBlank h]
    rfl
  · have hc : CssSurvey.isBlank c = false := isBlank_eq_false_of_mem_ink (List.mem_of_getLast? h)
    obtain ⟨before, gap, hgap, rfl⟩ := (getLast?_ink_eq_some_iff hc).1 h
    rw [trim_append_cons hc, trimEnd_eq_nil_iff.2 hgap, List.getLast?_concat]

/-! ## Cuts of ink -/

theorem filter_ink (p : Char → Bool) (text : Text) : (ink text).filter p = ink (text.filter p) :=
  List.filter_comm ..

theorem ne_of_isBlank {d : Char} (hd : CssSurvey.isBlank d = false) (c : Char) (hc : CssSurvey.isBlank c) :
    decide (c ≠ d) := by
  refine decide_eq_true ?_
  rintro rfl
  rw [hd] at hc
  cases hc

section Cut

variable {p : Char → Bool} (hp : ∀ c, CssSurvey.isBlank c → p c)

include hp

/-- A cut that white space does not stop is the same cut of the ink. -/
theorem takeWhile_ink (text : Text) : (ink text).takeWhile p = ink (text.takeWhile p) := by
  induction text with
  | nil => rfl
  | cons c text ih =>
    rcases hc : CssSurvey.isBlank c with _ | _
    · rw [ink_cons_of_not_isBlank hc, List.takeWhile_cons, List.takeWhile_cons]
      split
      · rw [ih, ink_cons_of_not_isBlank hc]
      · rfl
    · rw [ink_cons_of_isBlank hc, List.takeWhile_cons_of_pos (hp c hc), ink_cons_of_isBlank hc, ih]

theorem dropWhile_ink (text : Text) : (ink text).dropWhile p = ink (text.dropWhile p) := by
  induction text with
  | nil => rfl
  | cons c text ih =>
    rcases hc : CssSurvey.isBlank c with _ | _
    · rw [ink_cons_of_not_isBlank hc, List.dropWhile_cons, List.dropWhile_cons]
      split
      · exact ih
      · rw [ink_cons_of_not_isBlank hc]
    · rw [ink_cons_of_isBlank hc, List.dropWhile_cons_of_pos (hp c hc), ih]

end Cut

end CssSurvey.Text
