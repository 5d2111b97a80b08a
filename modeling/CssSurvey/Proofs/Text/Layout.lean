/-
Layouts: texts written line by line, each line with white space around what it says and an end of one
of two kinds. Every text has a layout, and minifying leaves of it what the lines say and nothing of how
they are laid out.
-/
import CssSurvey.Proofs.Text.Lines

namespace CssSurvey.Text

/-- A line: what it says and the white space around that. What a line says has no white space at its
ends; a blank line says nothing. -/
structure LaidLine where
  indent : Text
  content : Text
  trailing : Text
  blank_indent : indent.isBlank
  trim_content : content.trim = content
  blank_trailing : trailing.isBlank
  one_line : '\n' ∉ indent ++ content ++ trailing

namespace LaidLine

/-- The written line, without its end. -/
def text (line : LaidLine) : Text := line.indent ++ line.content ++ line.trailing

theorem trim_text (line : LaidLine) : trim line.text = line.content := by
  rw [text, trim_append_of_isBlank_right line.blank_trailing, trim_append_of_isBlank_left line.blank_indent,
    line.trim_content]

theorem newline_not_mem_text (line : LaidLine) : '\n' ∉ line.text := line.one_line

theorem exists_text_eq {line : Text} (h : '\n' ∉ line) : ∃ laid : LaidLine, laid.text = line := by
  obtain ⟨indent, trailing, hindent, htrailing, hline⟩ := exists_eq_append_trim line
  exact ⟨⟨indent, trim line, trailing, hindent, trim_trim line, htrailing, hline ▸ h⟩, hline.symm⟩

end LaidLine

/-- The end of a line: a line feed, or a carriage return and a line feed. -/
inductive LineEnd where
  | feed
  | returnFeed

/-- The written end. -/
def LineEnd.text : LineEnd → Text
  | feed => ['\n']
  | returnFeed => ['\r', '\n']

/-- A text line by line: lines with their ends, and what stands behind the last end. -/
structure Layout where
  ended : List (LaidLine × LineEnd)
  last : LaidLine

namespace Layout

/-- The written text. -/
def text (layout : Layout) : Text :=
  (layout.ended.flatMap fun (line, ending) => line.text ++ ending.text) ++ layout.last.text

/-- What the lines say, in order, the blank ones left out. -/
def contents (layout : Layout) : List Text :=
  (layout.ended.map (·.1.content) ++ [layout.last.content]).filter (!·.isEmpty)

theorem exists_text_eq (text : Text) : ∃ layout : Layout, layout.text = text := by
  induction text using line_induction with
  | last line h =>
    obtain ⟨laid, rfl⟩ := LaidLine.exists_text_eq h
    exact ⟨⟨[], laid⟩, rfl⟩
  | cons line rest h ih =>
    obtain ⟨laid, rfl⟩ := LaidLine.exists_text_eq h
    obtain ⟨⟨ended, last⟩, rfl⟩ := ih
    exact ⟨⟨(laid, .feed) :: ended, last⟩, by simp [text, LineEnd.text]⟩

end Layout

/-- A carriage return before the line feed is white space at the end of the line. -/
theorem minify_laidLine_append (line : LaidLine) (ending : LineEnd) (rest : Text) :
    minify (line.text ++ ending.text ++ rest) = line.content ++ minify rest := by
  cases ending with
  | feed =>
    rw [LineEnd.text, List.append_assoc, List.singleton_append,
      minify_line_append line.newline_not_mem_text, line.trim_text]
  | returnFeed =>
    have hline : '\n' ∉ line.text ++ ['\r'] := by
      rw [List.mem_append, not_or]
      exact ⟨line.newline_not_mem_text, by decide⟩
    have hsplit : line.text ++ LineEnd.returnFeed.text ++ rest = (line.text ++ ['\r']) ++ '\n' :: rest := by
      simp [LineEnd.text]
    rw [hsplit, minify_line_append hline, trim_append_of_isBlank_right (by decide), line.trim_text]

theorem minify_layout (layout : Layout) : minify layout.text = layout.contents.flatten := by
  obtain ⟨ended, last⟩ := layout
  rw [Layout.contents, List.flatten_filter_not_isEmpty, Layout.text]
  induction ended with
  | nil =>
    rw [List.flatMap_nil, List.nil_append, minify_of_not_mem last.newline_not_mem_text, last.trim_text]
    exact (List.append_nil _).symm
  | cons first ended ih =>
    rw [List.flatMap_cons, List.append_assoc, minify_laidLine_append, ih]
    rfl

theorem trim_minify (text : Text) : trim (minify text) = minify text := by
  refine trim_eq_self ?_ ?_
  · rw [ink_minify, head?_minify]
  · rw [ink_minify, getLast?_minify]

/-- Minifying takes away line structure and nothing else: a minified text is one trimmed line with the
ink of the text, texts with a line end between them are minified one by one, and of a layout there
remains what its lines say. So layouts that say the same are the same when minified. -/
theorem minify_removes_layout :
    (∀ text : Text, minify (minify text) = minify text ∧ '\n' ∉ minify text ∧
        (∀ c, (minify text).head? = some c ∨ (minify text).getLast? = some c → CssSurvey.isBlank c = false) ∧
        ink (minify text) = ink text) ∧
      (∀ a b : Text, minify (a ++ '\n' :: b) = minify a ++ minify b) ∧
      (∀ text : Text, ∃ layout : Layout, layout.text = text) ∧
      (∀ layout : Layout, minify layout.text = layout.contents.flatten) ∧
      ∀ a b : Layout, a.contents = b.contents → minify a.text = minify b.text := by
  refine ⟨fun text => ⟨?again, newline_not_mem_minify text, ?ends, ink_minify text⟩,
    minify_append_newline, Layout.exists_text_eq, minify_layout, ?same⟩
  case again => rw [minify_of_not_mem (newline_not_mem_minify text), trim_minify]
  case ends =>
    intro c hc
    rw [head?_minify, getLast?_minify] at hc
    rcases hc with hc | hc
    · exact isBlank_eq_false_of_mem_ink (List.mem_of_head? hc)
    · exact isBlank_eq_false_of_mem_ink (List.mem_of_getLast? hc)
  case same =>
    intro a b h
    rw [minify_layout, minify_layout, h]

/-- Tabs for spaces, a blank line, a carriage return at an end and a trailing no-break space; the vertical
tab and the lone carriage return inside a line stay. -/
theorem minify_removes_layout_tabs :
    let rule : LaidLine := ⟨"  ".toList, "margin:\x0b0\rauto;".toList, [], by decide, by decide, by decide, by decide⟩
    let indented : LaidLine :=
      ⟨"\t".toList, "margin:\x0b0\rauto;".toList, "\u00a0".toList, by decide, by decide, by decide, by decide⟩
    let brace : LaidLine := ⟨[], "\x7d".toList, [], by decide, by decide, by decide, by decide⟩
    let blank : LaidLine := ⟨" ".toList, [], [], by decide, by decide, by decide, by decide⟩
    let a : Layout := ⟨[(rule, .feed)], brace⟩
    let b : Layout := ⟨[(indented, .returnFeed), (blank, .feed), (brace, .feed)], blank⟩
    a.contents = b.contents ∧ a.text ≠ b.text ∧ minify a.text = minify b.text := by
  intro rule indented brace blank a b
  have hcontents : a.contents = b.contents := by decide
  exact ⟨hcontents, by decide, minify_removes_layout.2.2.2.2 a b hcontents⟩

end CssSurvey.Text
