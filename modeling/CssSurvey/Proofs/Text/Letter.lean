/-
The ASCII letters among all characters: where they stand in the order of code points, that none of
them is white space, and that each of them is a letter in the Unicode tables. White space stands in
none of the tables that make up the characters of a word.
-/
import CssSurvey.Text.Blank
import CssSurvey.Unicode.Class
import Mathlib.Tactic.Common

namespace CssSurvey

theorem isAlpha_ranges {c : Char} (h : c.isAlpha) : ('A' ≤ c ∧ c ≤ 'Z') ∨ ('a' ≤ c ∧ c ≤ 'z') := by
  change (decide ('A'.val ≤ c.val ∧ c.val ≤ 'Z'.val) ||
    decide ('a'.val ≤ c.val) && decide (c.val ≤ 'z'.val)) = true at h
  simp only [Bool.or_eq_true, Bool.and_eq_true, decide_eq_true_eq] at h
  exact h

theorem isAlpha_bounds {c : Char} (h : c.isAlpha) : 'A' ≤ c ∧ c ≤ 'z' := by
  obtain ⟨hlow, hhigh⟩ | ⟨hlow, hhigh⟩ := isAlpha_ranges h
  · exact ⟨hlow, Char.le_trans hhigh (by decide)⟩
  · exact ⟨Char.le_trans (by decide) hlow, hhigh⟩

theorem isAlpha_of_isBlank {c : Char} (h : isBlank c) : c.isAlpha = false := by
  by_contra hc
  obtain ⟨hlow, hhigh⟩ := isAlpha_bounds (by simpa using hc)
  have hcontrol : ¬ c ≤ '\r' := fun hle => absurd (Char.le_trans hlow hle) (by decide)
  have hwide : ¬ '\u2000' ≤ c := fun hle => absurd (Char.le_trans hle hhigh) (by decide)
  simp only [isBlank, Bool.or_eq_true, Bool.and_eq_true, decide_eq_true_eq, hcontrol, hwide, and_false,
    false_and, or_false] at h
  rcases h with (((((((rfl | rfl) | rfl) | rfl) | rfl) | rfl) | rfl) | rfl) | rfl <;> exact hc rfl

namespace Unicode

theorem Ranges.contains_of_first_two {a b c d n : Nat} (others : Ranges)
    (h : (a ≤ n ∧ n ≤ b) ∨ (c ≤ n ∧ n ≤ d)) (hac : a ≤ c) :
    Ranges.contains ((a, b) :: (c, d) :: others) n := by
  rw [Ranges.contains, Ranges.contains]
  simp only [Bool.and_eq_true, Bool.or_eq_true, decide_eq_true_eq]
  omega

/-- The table of alphabetic characters starts with the ASCII letters. -/
theorem isAlphanumeric_of_isAlpha {c : Char} (h : c.isAlpha) : isAlphanumeric c := by
  have hletter : alphabetic.contains c.toNat :=
    Ranges.contains_of_first_two _ (isAlpha_ranges h) (by decide)
  rw [isAlphanumeric, hletter]
  rfl

/-! ## White space -/

/-- White space as stretches of code points, first and last of each. -/
def blankStretches : List (Nat × Nat) :=
  [(0x20, 0x20), (0x9, 0xd), (0x85, 0x85), (0xa0, 0xa0), (0x1680, 0x1680), (0x2000, 0x200a), (0x2028, 0x2029),
    (0x202f, 0x202f), (0x205f, 0x205f), (0x3000, 0x3000)]

theorem exists_stretch_of_isBlank {c : Char} (h : isBlank c) :
    ∃ stretch ∈ blankStretches, stretch.1 ≤ c.toNat ∧ c.toNat ≤ stretch.2 := by
  simp only [isBlank, Bool.or_eq_true, Bool.and_eq_true, decide_eq_true_eq] at h
  rcases h with (((((((((rfl | hcontrol) | rfl) | rfl) | rfl) | hwidth) | rfl) | rfl) | rfl) | rfl) | rfl
  · decide
  · exact ⟨(0x9, 0xd), by decide, hcontrol⟩
  · decide
  · decide
  · decide
  · exact ⟨(0x2000, 0x200a), by decide, hwidth⟩
  · decide
  · decide
  · decide
  · decide
  · decide

/-- Whether every range of a table passes a stretch of code points by. -/
def Ranges.avoids (ranges : Ranges) (stretch : Nat × Nat) : Bool :=
  ranges.all fun range => range.2 < stretch.1 || stretch.2 < range.1

theorem Ranges.contains_eq_false {ranges : Ranges} {stretch : Nat × Nat} {n : Nat} (h : ranges.avoids stretch)
    (hn : stretch.1 ≤ n ∧ n ≤ stretch.2) : ranges.contains n = false := by
  induction ranges with
  | nil => rfl
  | cons range others ih =>
    rw [avoids, List.all_cons, Bool.and_eq_true, Bool.or_eq_true, decide_eq_true_eq, decide_eq_true_eq] at h
    rw [Ranges.contains, ih h.2, Bool.or_false, Bool.and_eq_false_iff, decide_eq_false_iff_not,
      decide_eq_false_iff_not]
    omega

/-- The tables of the characters of a word. -/
def wordTables : List Ranges := [alphabetic, mark, decimalNumber, connectorPunctuation, joinControl]

theorem isWordChar_of_isBlank {c : Char} (h : isBlank c) : isWordChar c = false := by
  obtain ⟨stretch, hstretch, hc⟩ := exists_stretch_of_isBlank h
  have havoids : ∀ stretch ∈ blankStretches, ∀ ranges ∈ wordTables, ranges.avoids stretch := by decide +kernel
  have hnone : ∀ ranges ∈ wordTables, ranges.contains c.toNat = false := fun ranges hranges =>
    Ranges.contains_eq_false (havoids stretch hstretch ranges hranges) hc
  simp only [wordTables, List.forall_mem_cons] at hnone
  obtain ⟨halphabetic, hmark, hdigit, hconnector, hjoiner, -⟩ := hnone
  rw [isWordChar, halphabetic, hmark, hdigit, hconnector, hjoiner]
  rfl

end Unicode

end CssSurvey
