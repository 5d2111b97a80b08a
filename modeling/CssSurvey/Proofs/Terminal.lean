/-
Reports on a terminal whose width is known. They are written line by line: a line that fits stays as it
is, and of a longer one as much is kept as leaves room for the mark behind it. Where the terminal is
narrower than the mark, nothing is kept and the mark alone is too wide. So what is written fits exactly
when there is room for the mark or no line needs it.
-/
import CssSurvey.Proofs.Text.Lines
import CssSurvey.Terminal
import Mathlib.Data.List.Forall2

namespace CssSurvey.Terminal

/-! ## One line -/

section Line

variable {width : Nat} {line : Text}

theorem cutLine_of_length_le (h : line.length ≤ width) : cutLine width line = line := if_pos h

theorem cutLine_of_lt_length (h : width < line.length) :
    cutLine width line = line.take (width - 3) ++ cutMark :=
  if_neg (Nat.not_le.2 h)

/-- A line that is cut is as long as the terminal is wide, but never shorter than the mark. -/
theorem length_cutLine_of_lt_length (h : width < line.length) :
    (cutLine width line).length = max width 3 := by
  have hmark : cutMark.length = 3 := rfl
  rw [cutLine_of_lt_length h, List.length_append, List.length_take, hmark]
  omega

theorem length_cutLine_le_iff : (cutLine width line).length ≤ width ↔ 3 ≤ width ∨ line.length ≤ width := by
  rcases Nat.lt_or_ge width line.length with h | h
  · rw [length_cutLine_of_lt_length h]
    omega
  · rw [cutLine_of_length_le h]
    exact (or_iff_right_of_imp fun _ => h).symm

theorem newline_not_mem_cutLine (h : '\n' ∉ line) : '\n' ∉ cutLine width line := by
  unfold cutLine
  split
  · exact h
  · rw [List.mem_append, not_or]
    exact ⟨fun hmem => h (List.mem_of_mem_take hmem), by decide⟩

end Line

/-! ## A report -/

/-- How a line is written on a terminal of some width: as it is when it fits, else a prefix of it with the
mark behind. -/
structure WrittenAs (width : Nat) (line written : Text) : Prop where
  whole : line.length ≤ width → written = line
  cut : width < line.length → ∃ kept, kept <+: line ∧ kept.length = width - 3 ∧ written = kept ++ cutMark

theorem writtenAs_cutLine (width : Nat) (line : Text) : WrittenAs width line (cutLine width line) where
  whole := cutLine_of_length_le
  cut h := by
    refine ⟨line.take (width - 3), List.take_prefix _ _, ?_, cutLine_of_lt_length h⟩
    rw [List.length_take]
    omega

/-- Lines with an end behind each are the lines that the line ends part. -/
theorem splitOn_newline_flatMap {written : List Text} (h : ∀ line ∈ written, '\n' ∉ line) :
    (written.flatMap (· ++ ['\n'])).splitOn '\n' = written ++ [[]] := by
  induction written with
  | nil => rfl
  | cons line others ih =>
    obtain ⟨hline, hothers⟩ := List.forall_mem_cons.1 h
    rw [List.flatMap_cons, List.append_assoc, List.singleton_append,
      List.splitOn_append_cons_self_of_not_mem hline, ih hothers, List.cons_append]

theorem display_of_width {verbosity : Verbosity} (h : verbosity ≠ .verbose) (width : Nat) (report : Text) :
    display (some width) verbosity report =
      ((Text.lines report).map (cutLine width)).flatMap (· ++ ['\n']) := by
  rw [List.flatMap_map]
  cases verbosity with
  | verbose => exact absurd rfl h
  | _ => rfl

/-- A report is written line by line on a terminal of a known width, unless everything is asked for. A
line that fits is written as it is, and a longer one as a prefix of it and the mark. All lines written fit
exactly when the width leaves room for the mark or every line of the report fits. -/
theorem display_fits_iff {verbosity : Verbosity} (h : verbosity ≠ .verbose) (width : Nat) (report : Text) :
    ∃ written : List Text,
      (display (some width) verbosity report).splitOn '\n' = written ++ [[]] ∧
        List.Forall₂ (WrittenAs width) (Text.lines report) written ∧
        ((∀ line ∈ written, line.length ≤ width) ↔
          3 ≤ width ∨ ∀ line ∈ Text.lines report, line.length ≤ width) := by
  refine ⟨(Text.lines report).map (cutLine width), ?_, ?_, ?_⟩
  · rw [display_of_width h, splitOn_newline_flatMap]
    rw [List.forall_mem_map]
    exact fun line hline => newline_not_mem_cutLine (Text.newline_not_mem_of_mem_lines hline)
  · rw [List.forall₂_map_right_iff, List.forall₂_same]
    exact fun line _ => writtenAs_cutLine width line
  · simp only [List.forall_mem_map, length_cutLine_le_iff, forall_or_left]

theorem display_fits_iff_six :
    Verbosity.quiet ≠ .verbose ∧
      ∃ written : List Text,
        (display (some 6) .quiet "summary\r\n  é→日\n".toList).splitOn '\n' = written ++ [[]] ∧
          List.Forall₂ (WrittenAs 6) (Text.lines "summary\r\n  é→日\n".toList) written ∧
          ((∀ line ∈ written, line.length ≤ 6) ↔
            3 ≤ 6 ∨ ∀ line ∈ Text.lines "summary\r\n  é→日\n".toList, line.length ≤ 6) :=
  ⟨by decide, display_fits_iff (by decide) 6 "summary\r\n  é→日\n".toList⟩

example : display (some 6) .quiet "summary\r\n  é→日\n".toList = "sum...\n  é→日\n".toList := by
  decide

/-- On a terminal of two columns a line of four characters is written as the mark, which is wider. -/
theorem mark_exceeds_narrow_width :
    ¬ ∀ (width : Nat) (verbosity : Verbosity) (report : Text), 1 ≤ width → verbosity ≠ .verbose →
      ∀ line ∈ (display (some width) verbosity report).splitOn '\n', line.length ≤ width := by
  intro h
  have hmark : cutMark ∈ (display (some 2) .quiet "body".toList).splitOn '\n' := by decide
  exact absurd (h 2 .quiet "body".toList (by decide) (by decide) cutMark hmark) (by decide)

end CssSurvey.Terminal
