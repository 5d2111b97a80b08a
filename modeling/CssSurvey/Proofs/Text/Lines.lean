/-
Minified texts. The ends of lines and the indentation that go are white space, so minifying keeps the
ink of a text; and a text is minified line by line, so that two texts with a line end between them are
minified as each of them alone.
-/
import CssSurvey.Proofs.Text.Ink
import CssSurvey.Text.Lines

namespace CssSurvey.Text

/-- The end of a line is white space, and nothing besides the ends of lines is left out. -/
theorem ink_flatten_lines (text : Text) : ink (lines text).flatten = ink text := by
  fun_induction lines text with
  | case1 => rfl
  | case2 rest ih => rw [List.flatten_cons, List.nil_append, ih]; rfl
  | case3 rest ih => rw [List.flatten_cons, List.nil_append, ih]; rfl
  | case4 c rest _ _ hnil ih =>
    rw [hnil] at ih
    have hsplit : [[c]].flatten = [c] ++ ([] : List Text).flatten := rfl
    rw [hsplit, ink_append, ih, ← ink_append, List.singleton_append]
  | case5 c rest _ _ line others hcons ih =>
    rw [hcons] at ih
    have hsplit : ((c :: line) :: others).flatten = [c] ++ (line :: others).flatten := rfl
    rw [hsplit, ink_append, ih, ← ink_append, List.singleton_append]

/-- Minifying takes away white space and nothing else. -/
@[simp] theorem ink_minify (text : Text) : ink (minify text) = ink text := by
  have htrim : ink ∘ trim = ink := funext ink_trim
  rw [minify, List.flatMap_def, ink_flatten, List.map_map, htrim, ← ink_flatten, ink_flatten_lines]

/-! ## Line by line -/

/-- A law of all texts holds when it holds of a line and is kept by one more line in front. -/
@[elab_as_elim]
theorem line_induction {motive : Text → Prop} (last : ∀ line, '\n' ∉ line → motive line)
    (cons : ∀ line rest, '\n' ∉ line → motive rest → motive (line ++ '\n' :: rest)) (text : Text) :
    motive text := by
  by_cases h : '\n' ∈ text
  · obtain ⟨line, rest, hsplit, hline⟩ := List.eq_append_cons_of_mem h
    have hshorter : rest.length < text.length := by
      rw [hsplit, List.length_append, List.length_cons]
      omega
    rw [hsplit]
    exact cons line rest hline (line_induction last cons rest)
  · exact last text h
termination_by text.length

/-- A line without the carriage return that belongs to its end. -/
def dropReturn (line : Text) : Text := if line.getLast? = some '\r' then line.dropLast else line

theorem trim_dropReturn (line : Text) : trim (dropReturn line) = trim line := by
  unfold dropReturn
  split
  · rename_i h
    obtain ⟨front, rfl⟩ := List.getLast?_eq_some_iff.1 h
    rw [List.dropLast_concat, trim_append_of_isBlank_right (by decide)]
  · rfl

theorem dropReturn_sublist (line : Text) : (dropReturn line).Sublist line := by
  unfold dropReturn
  split
  · exact List.dropLast_sublist line
  · exact List.Sublist.refl line

theorem dropReturn_cons {c : Char} {line : Text} (h : c ≠ '\r' ∨ line ≠ []) :
    dropReturn (c :: line) = c :: dropReturn line := by
  cases line with
  | nil =>
    have hc : c ≠ '\r' := by simpa using h
    simp [dropReturn, hc]
  | cons d line =>
    unfold dropReturn
    rw [List.getLast?_cons_cons, List.dropLast_cons_cons]
    split <;> rfl

theorem lines_append_newline {line : Text} (h : '\n' ∉ line) (rest : Text) :
    lines (line ++ '\n' :: rest) = dropReturn line :: lines rest := by
  induction line with
  | nil => rfl
  | cons c line ih =>
    obtain ⟨hc, hline⟩ := List.ne_and_not_mem_of_not_mem_cons h
    by_cases hend : c = '\r' ∧ line = []
    · obtain ⟨rfl, rfl⟩ := hend
      rfl
    · have hreturn : ∀ after, c = '\r' → line ++ '\n' :: rest = '\n' :: after → False := by
        rintro after rfl hnext
        cases line with
        | nil => exact hend ⟨rfl, rfl⟩
        | cons d line =>
          obtain ⟨rfl, -⟩ := List.cons.inj hnext
          exact hline (List.mem_cons_self ..)
      rw [List.cons_append, lines.eq_4 c _ (fun heq => hc heq.symm) hreturn, ih hline, dropReturn_cons]
      rwa [not_and_or] at hend

theorem lines_of_not_mem {line : Text} (hne : line ≠ []) (h : '\n' ∉ line) : lines line = [line] := by
  induction line with
  | nil => exact absurd rfl hne
  | cons c line ih =>
    obtain ⟨hc, hline⟩ := List.ne_and_not_mem_of_not_mem_cons h
    have hreturn : ∀ after, c = '\r' → line = '\n' :: after → False := by
      rintro after - rfl
      exact hline (List.mem_cons_self ..)
    rw [lines.eq_4 c line (fun heq => hc heq.symm) hreturn]
    cases line with
    | nil => rfl
    | cons d line => rw [ih (List.cons_ne_nil d line) hline]

theorem newline_not_mem_of_mem_lines {line text : Text} (h : line ∈ lines text) : '\n' ∉ line := by
  induction text using line_induction with
  | last only honly =>
    rcases eq_or_ne only [] with rfl | hne
    · cases h
    · rw [lines_of_not_mem hne honly, List.mem_singleton] at h
      exact h ▸ honly
  | cons first rest hfirst ih =>
    rw [lines_append_newline hfirst] at h
    rcases List.mem_cons.1 h with rfl | h
    · exact fun hmem => hfirst ((dropReturn_sublist first).subset hmem)
    · exact ih h

theorem minify_of_not_mem {line : Text} (h : '\n' ∉ line) : minify line = trim line := by
  rcases eq_or_ne line [] with rfl | hne
  · rfl
  · rw [minify, lines_of_not_mem hne h, List.flatMap_singleton]

theorem minify_line_append {line : Text} (h : '\n' ∉ line) (rest : Text) :
    minify (line ++ '\n' :: rest) = trim line ++ minify rest := by
  rw [minify, lines_append_newline h, List.flatMap_cons, trim_dropReturn, minify]

/-- Two texts with a line end between them are minified one by one. -/
theorem minify_append_newline (a b : Text) : minify (a ++ '\n' :: b) = minify a ++ minify b := by
  induction a using line_induction with
  | last line h => rw [minify_line_append h, minify_of_not_mem h]
  | cons line rest h ih =>
    rw [List.append_assoc, List.cons_append, minify_line_append h, ih, minify_line_append h, List.append_assoc]

theorem newline_not_mem_minify (text : Text) : '\n' ∉ minify text := by
  induction text using line_induction with
  | last line h =>
    rw [minify_of_not_mem h]
    exact fun hmem => h ((trim_isInfix line).subset hmem)
  | cons line rest h ih =>
    rw [minify_line_append h, List.mem_append, not_or]
    exact ⟨fun hmem => h ((trim_isInfix line).subset hmem), ih⟩

/-- What is left first when a text is minified is its first character that is not white space. -/
theorem head?_minify (text : Text) : (minify text).head? = (ink text).head? := by
  induction text using line_induction with
  | last line h => rw [minify_of_not_mem h, head?_trim]
  | cons line rest h ih =>
    rw [minify_line_append h, List.head?_append, head?_trim, ih, ink_append,
      ink_cons_of_isBlank (by decide), List.head?_append]

theorem getLast?_minify (text : Text) : (minify text).getLast? = (ink text).getLast? := by
  induction text using line_induction with
  | last line h => rw [minify_of_not_mem h, getLast?_trim]
  | cons line rest h ih =>
    rw [minify_line_append h, List.getLast?_append, getLast?_trim, ih, ink_append,
      ink_cons_of_isBlank (by decide), List.getLast?_append]

end CssSurvey.Text
