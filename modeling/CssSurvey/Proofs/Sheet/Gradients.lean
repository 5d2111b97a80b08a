/-
The gradients of a sheet, compared with those of its values one by one. The prefix of a call is seen
in the one exactly as in the other and no colour of a value is lost, but a call that its value leaves
open gains the colours of the values behind it.
-/
import CssSurvey.Sheet
import CssSurvey.Proofs.Gradient

namespace CssSurvey

open CssSurvey.Gradient

/-- The values of all declarations that hold a gradient call, in order. -/
def Sheet.gradientValues (sheet : Sheet) : List Text :=
  (sheet.declarations.map Declaration.value).filter isGradient

/-- The gradients of a sheet are those of its values taken together: a prefix is seen exactly when one
of the values has it, every colour of a value is there, and where each value but the last closes its
calls there are no others and they stand in order of first use. No weaker condition on a value will
do, whatever gradient stands behind it. -/
theorem gradientUse_parse (name text context : Text) :
    let sheet := Sheet.parse name text context
    let values := sheet.gradientValues
    (sheet.gradientUse.vendorPrefixed = true ↔ ∃ value ∈ values, (use value).vendorPrefixed = true) ∧
      (∀ value ∈ values, (use value).colors ⊆ sheet.gradientUse.colors) ∧
      ((∀ value ∈ values.dropLast, ClosesCalls value) →
        sheet.gradientUse.colors = (values.flatMap fun value => (use value).colors).eraseDups) ∧
      ∀ value, ClosesCalls value ↔ ∀ next, isGradient next = true →
        (use (join [value, next])).colors = ([value, next].flatMap fun v => (use v).colors).eraseDups := by
  intro sheet values
  have huse : sheet.gradientUse = use (join values) := rfl
  refine ⟨?_, ?_, ?_, closesCalls_iff⟩
  · rw [huse, vendorPrefixed_join_values, List.any_eq_true]
  · intro value hvalue color hcolor
    rw [use_colors, List.mem_eraseDups] at hcolor
    rw [huse, use_colors, List.mem_eraseDups]
    exact argumentColors_subset_join_values values (List.mem_flatMap.2 ⟨value, hvalue, hcolor⟩)
  · intro hclosed
    rw [huse, use_colors, argumentColors_join_values hclosed]
    exact (eraseDups_flatMap_eraseDups argumentColors values).symm

/-- All gradients of a sheet but the last are closed; among them are nested calls, a prefix, colours
used twice and a colour outside of calls. The last one, of a rule in an at-rule, is open. -/
theorem gradientUse_parse_closed :
    let text := "a \x7b background: -o-linear-gradient(rgb(1,2,3), rgba(0,0,0,.5)), rgb(9,9,9) \x7d\n".toList ++
      "@media print \x7b b \x7b c: linear-gradient(rgb(1,2,3) rgb(4) \x7d \x7d\n".toList ++
      "d \x7b e: rgb(8) \x7d f \x7b g: RADIAL-gradient(Rgb(7) linear-gradient(rgb(1,2,3))) \x7d".toList
    let sheet := Sheet.parse [] text []
    let values := sheet.gradientValues
    values.length = 3 ∧ (∀ value ∈ values.dropLast, ClosesCalls value) ∧
      sheet.gradientUse.colors = (values.flatMap fun value => (use value).colors).eraseDups := by
  intro text sheet values
  obtain ⟨hthree, hclosed⟩ : values.length = 3 ∧ ∀ value ∈ values.dropLast, ClosesCalls value := by
    decide +kernel
  exact ⟨hthree, hclosed, (gradientUse_parse [] text []).2.2.1 hclosed⟩

/-- A call that is not closed takes a colour of the next value for one of its arguments, though no
gradient of either value has a colour. -/
theorem open_call_takes_next_colors :
    let text := "a\x7bbackground:linear-gradient(red\x7d".toList ++
      "b\x7bbackground:rgb(1,2,3) linear-gradient(blue)\x7d".toList
    let sheet := Sheet.parse [] text []
    let values := sheet.gradientValues
    values = ["linear-gradient(red".toList, "rgb(1,2,3) linear-gradient(blue)".toList] ∧
      (∀ value ∈ values, (use value).colors = []) ∧
      sheet.gradientUse.colors = ["rgb(1,2,3)".toList] ∧
      sheet.gradientUse.colors ≠ (values.flatMap fun value => (use value).colors).eraseDups := by
  decide +kernel

end CssSurvey
