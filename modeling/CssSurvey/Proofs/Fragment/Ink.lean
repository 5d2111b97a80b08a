/-
The ink of rule fragments. A fragment is trimmed and not blank; the fragments of a code, one after the
other, have its ink, so that the cut drops nothing but white space. Nor does the cut depend on white
space: the scan of a code and the scan of its ink stand at the same point after every character.
-/
import CssSurvey.Proofs.Fragment.Scan

namespace CssSurvey

theorem trim_of_mem_fragments {code fragment : Text} (h : fragment ∈ fragments code) :
    fragment.trim = fragment := by
  obtain ⟨stretch, -, rfl⟩ := List.mem_map.1 (List.mem_of_mem_filter h)
  exact Text.trim_trim _

theorem isBlank_of_mem_fragments {code fragment : Text} (h : fragment ∈ fragments code) :
    fragment.isBlank = false := by
  rw [Bool.eq_false_iff]
  intro hblank
  have hnil := Text.trim_of_isBlank hblank
  rw [trim_of_mem_fragments h] at hnil
  simpa [hnil] using List.of_mem_filter h

/-- The fragments of a code, one after the other, have its ink. -/
theorem ink_flatten_fragments (code : Text) : Text.ink (fragments code).flatten = Text.ink code := by
  have htrim : Text.ink ∘ (fun stretch : Stretch => Text.trim stretch.text) = Text.ink ∘ Stretch.text :=
    funext fun stretch => Text.ink_trim stretch.text
  have hcode := congrArg Text.ink (Stretch.flatten_ofCode code)
  rw [Text.ink_flatten, List.map_map] at hcode
  rw [fragments, List.flatten_filter_not_isEmpty, Text.ink_flatten, List.map_map, htrim, hcode]

/-! ## Scanning ink -/

namespace Scan

open Stretch

/-- The same point of a scan, with the white space taken out of the current stretch. -/
def squeeze (s : Scan) : Scan := ⟨s.depth, s.inAtRule, Text.ink s.seen⟩

theorem isRuleEnd_of_isBlank (c : Char) (h : isBlank c) : (!isRuleEnd c) = true := by
  have hmarks : c ∉ [';', '{', '}'] := Text.not_mem_of_all_not (by decide) h
  simpa [isRuleEnd, and_assoc] using hmarks

/-- What an at-rule is known by is ink. -/
theorem opensAtRule_ink (seen : Text) : opensAtRule (Text.ink seen) = opensAtRule seen := by
  have hstart : Text.trimStart (Text.ink seen.reverse) = Text.ink (Text.trimStart seen.reverse) :=
    Text.dropWhile_ink (fun _ h => h) _
  rw [opensAtRule, opensAtRule, ← Text.ink_reverse, hstart]
  -- Behind the white space at its start a text has ended, or goes on with a character that is ink.
  rcases h : Text.trimStart seen.reverse with _ | ⟨c, rest⟩
  · rfl
  · rw [Text.ink_cons_of_not_isBlank (Text.dropWhile_eq_cons h).1]
    rfl

theorem squeeze_step_of_isBlank (s : Scan) {c : Char} (hc : isBlank c) :
    (s.step c).1 = none ∧ (s.step c).2.squeeze = s.squeeze := by
  rw [step_of_braceFree s (isBrace_eq_false_of_isBlank hc)]
  exact ⟨rfl, by rw [squeeze, squeeze, Text.ink_cons_of_isBlank hc]⟩

/-- A character that is ink does the same to a scan with and without the white space: a stretch that
ends there has the same ink, and the scan goes on from the same point. -/
theorem step_squeeze (s : Scan) {c : Char} (hc : isBlank c = false) :
    (s.squeeze.step c).1.map Stretch.text = (s.step c).1.map (Text.ink ·.text) ∧
      (s.squeeze.step c).2 = (s.step c).2.squeeze := by
  have hcons : c :: Text.ink s.seen = Text.ink (c :: s.seen) := (Text.ink_cons_of_not_isBlank hc _).symm
  have htake := Text.takeWhile_ink isRuleEnd_of_isBlank s.seen
  have hdrop := Text.dropWhile_ink isRuleEnd_of_isBlank s.seen
  unfold step squeeze
  dsimp only
  split
  · split
    · exact ⟨rfl, by rw [opensAtRule_ink, hcons]⟩
    · split
      · exact ⟨rfl, by rw [hcons]⟩
      · refine ⟨?_, ?_⟩
        · simp [leftOpen, hdrop]
        · rw [htake, ← Text.ink_cons_of_not_isBlank hc]
  · split
    · split
      · exact ⟨by simp [Text.ink_cons_of_not_isBlank hc], rfl⟩
      · exact ⟨rfl, by rw [hcons]⟩
    · exact ⟨rfl, by rw [hcons]⟩

theorem stretches_ink (s : Scan) (text : Text) :
    (s.squeeze.stretches (Text.ink text)).map Stretch.text = (s.stretches text).map (Text.ink ·.text) := by
  induction text generalizing s with
  | nil => simp [stretches_nil, squeeze]
  | cons c text ih =>
    rcases hc : isBlank c with _ | _
    · obtain ⟨hended, hnext⟩ := s.step_squeeze hc
      rw [Text.ink_cons_of_not_isBlank hc, stretches_cons, stretches_cons, hnext, List.map_append,
        List.map_append, ih, ← Option.toList_map, hended, Option.toList_map]
    · obtain ⟨hended, hnext⟩ := s.squeeze_step_of_isBlank hc
      rw [Text.ink_cons_of_isBlank hc, stretches_cons, hended, ← hnext, ih]
      rfl

end Scan

/-- The fragments of the ink of a code are the ink of its fragments. -/
theorem fragments_ink (code : Text) : fragments (Text.ink code) = (fragments code).map Text.ink := by
  have htexts : (Stretch.ofCode (Text.ink code)).map Stretch.text =
      (Stretch.ofCode code).map (Text.ink ·.text) := Scan.stretches_ink Scan.start code
  calc fragments (Text.ink code)
      = (((Stretch.ofCode (Text.ink code)).map Stretch.text).map Text.trim).filter (!·.isEmpty) := by
        rw [fragments, List.map_map]
        rfl
    _ = ((Stretch.ofCode code).map (Text.ink ·.text)).filter (!·.isEmpty) := by
        rw [htexts, List.map_map]
        exact congrArg _ (List.map_congr_left fun stretch _ => Text.trim_ink stretch.text)
    _ = (fragments code).map Text.ink := by
        rw [fragments, List.filter_map, List.filter_map, List.map_map]
        simp only [Function.comp_def, Text.isEmpty_ink, Text.isEmpty_trim, Text.ink_trim]

end CssSurvey
