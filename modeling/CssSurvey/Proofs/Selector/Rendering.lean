/-
The text of a specificity tells its counts. Three digits in a row hold no comma and three numbers with
commas between them do, so the two forms are never mixed up; the counts are read off either form, one
digit each or up to the next comma. So no two specificities are written alike.
-/
import CssSurvey.Proofs.Selector.Specificity

namespace CssSurvey

namespace Text

/-- A number is read back from its digits. -/
theorem ofNat_injective : Function.Injective ofNat := by
  intro m n h
  have hread := congrArg (fun digits => Nat.ofDigitChars 10 digits 0) h
  simpa only [ofNat, Nat.ofDigitChars_ten_toDigits] using hread

theorem isDigit_of_mem_ofNat {c : Char} {n : Nat} (h : c ∈ ofNat n) : c.isDigit = true :=
  Nat.isDigit_of_mem_toDigits (by decide) (by decide) h

theorem comma_not_mem_ofNat (n : Nat) : ',' ∉ ofNat n := fun h =>
  absurd (isDigit_of_mem_ofNat h) (by decide)

theorem ofNat_of_lt_ten {n : Nat} (h : n < 10) : ofNat n = [n.digitChar] := Nat.toDigits_of_lt_base h

end Text

namespace Specificity

/-! ## The two forms -/

/-- Every count is a single digit. -/
def IsShort (s : Specificity) : Prop := s.ids < 10 ∧ s.classes < 10 ∧ s.types < 10

/-- Three digits and nothing else. -/
def ThreeDigits (text : Text) : Prop := text.length = 3 ∧ ∀ c ∈ text, c.isDigit = true

/-- Three numbers with commas between them. -/
def ThreeNumbers (text : Text) : Prop :=
  ∃ ids classes types,
    text = List.intercalate [','] [Text.ofNat ids, Text.ofNat classes, Text.ofNat types]

theorem ThreeDigits.comma_not_mem {text : Text} (h : ThreeDigits text) : ',' ∉ text := fun hmem =>
  absurd (h.2 _ hmem) (by decide)

theorem ThreeNumbers.comma_mem {text : Text} (h : ThreeNumbers text) : ',' ∈ text := by
  obtain ⟨ids, classes, types, rfl⟩ := h
  rw [List.intercalate_cons_cons]
  simp

theorem not_threeDigits_and_threeNumbers (text : Text) : ¬ (ThreeDigits text ∧ ThreeNumbers text) :=
  fun ⟨hdigits, hnumbers⟩ => hdigits.comma_not_mem hnumbers.comma_mem

variable {s : Specificity}

theorem render_of_isShort (h : s.IsShort) :
    s.render = [s.ids.digitChar, s.classes.digitChar, s.types.digitChar] := by
  obtain ⟨hids, hclasses, htypes⟩ := h
  rw [render, if_pos ⟨hids, hclasses, htypes⟩, Text.ofNat_of_lt_ten hids, Text.ofNat_of_lt_ten hclasses,
    Text.ofNat_of_lt_ten htypes]
  rfl

theorem render_of_not_isShort (h : ¬ s.IsShort) :
    s.render = List.intercalate [','] [Text.ofNat s.ids, Text.ofNat s.classes, Text.ofNat s.types] :=
  if_neg h

theorem threeDigits_render (h : s.IsShort) : ThreeDigits s.render := by
  rw [render_of_isShort h]
  obtain ⟨hids, hclasses, htypes⟩ := h
  refine ⟨rfl, fun c hc => ?_⟩
  simp only [List.mem_cons, List.not_mem_nil, or_false] at hc
  rcases hc with rfl | rfl | rfl <;> simpa [Nat.isDigit_digitChar]

theorem threeNumbers_render (h : ¬ s.IsShort) : ThreeNumbers s.render :=
  ⟨s.ids, s.classes, s.types, render_of_not_isShort h⟩

theorem threeDigits_render_iff : ThreeDigits s.render ↔ s.IsShort := by
  refine ⟨fun hdigits => ?_, threeDigits_render⟩
  by_contra h
  exact not_threeDigits_and_threeNumbers _ ⟨hdigits, threeNumbers_render h⟩

theorem threeNumbers_render_iff : ThreeNumbers s.render ↔ ¬ s.IsShort :=
  ⟨fun hnumbers h => not_threeDigits_and_threeNumbers _ ⟨threeDigits_render h, hnumbers⟩, threeNumbers_render⟩

/-! ## Reading the counts -/

/-- The numbers that a text is made of: those between its commas, or else its digits one by one. -/
def numerals (text : Text) : List Text := if ',' ∈ text then text.splitOn ',' else text.map ([·])

/-- Either form shows the counts in the same way. -/
theorem numerals_render (s : Specificity) :
    numerals s.render = [Text.ofNat s.ids, Text.ofNat s.classes, Text.ofNat s.types] := by
  unfold numerals
  by_cases h : s.IsShort
  · rw [if_neg (threeDigits_render h).comma_not_mem, render_of_isShort h, Text.ofNat_of_lt_ten h.1,
      Text.ofNat_of_lt_ten h.2.1, Text.ofNat_of_lt_ten h.2.2]
    rfl
  · have hplain : ∀ number ∈ [Text.ofNat s.ids, Text.ofNat s.classes, Text.ofNat s.types], ',' ∉ number := by
      simp [Text.comma_not_mem_ofNat]
    rw [if_pos (threeNumbers_render h).comma_mem, render_of_not_isShort h,
      List.splitOn_intercalate ',' hplain (List.cons_ne_nil _ _)]

theorem render_injective : Function.Injective render := by
  intro a b h
  have hcounts := congrArg numerals h
  rw [numerals_render, numerals_render] at hcounts
  simp only [List.cons.injEq, and_true, Text.ofNat_injective.eq_iff] at hcounts
  obtain ⟨hids, hclasses, htypes⟩ := hcounts
  exact eq_iff.2 ⟨hids, hclasses, htypes⟩

/-- The text of a specificity is unambiguous. Specificities with the same text are the same; the text is
three digits exactly when every count is one digit, and three numbers between commas exactly when one of
them is not; and no text is both. -/
theorem render_unambiguous :
    (∀ a b : Specificity, a.render = b.render ↔ a = b) ∧
      (∀ s : Specificity, (ThreeDigits s.render ↔ s.IsShort) ∧ (ThreeNumbers s.render ↔ ¬ s.IsShort)) ∧
      ∀ text : Text, ¬ (ThreeDigits text ∧ ThreeNumbers text) :=
  ⟨fun _ _ => render_injective.eq_iff, fun _ => ⟨threeDigits_render_iff, threeNumbers_render_iff⟩,
    not_threeDigits_and_threeNumbers⟩

-- The counts 1, 11 and 1 would be written as 11, 1 and 1 are, without the commas.
example : render ⟨1, 11, 1⟩ = "1,11,1".toList ∧ render ⟨11, 1, 1⟩ = "11,1,1".toList ∧
    render ⟨9, 9, 9⟩ = "999".toList := by
  decide

end Specificity

end CssSurvey
